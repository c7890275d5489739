import BoundedFormat.Selftest.Suites.All

/-!
# Sessions

A session is a sequence of operations on one host: configuring the log and the console, logging,
printing, formatting, and running tests. Each operation has a reply and causes events; `runSession`
starts from the host that nothing has touched yet.
-/

namespace BoundedFormat

/-- One operation of a session. -/
inductive Operation where
  /-- Put the log back to the level of a fresh host. -/
  | initLog
  | setLevel (level : Level)
  | getLevel
  | isEnabled (level : Level)
  | registerBackend (backend : Backend)
  | clearBackend
  | log (level : Level) (text : String)
  | registerSink (sink : Sink)
  | unregisterSink
  | consoleWrite (bytes : Bytes)
  | printf (template : Bytes) (arguments : List Argument) (counters : Counters)
  | printHex (n : UInt64)
  | format (cells : Array UInt8) (template : Bytes) (arguments : List Argument)
      (counters : Counters)
  /-- Put a command line in force. -/
  | boot (line : Option String)
  /-- Run one test and tell how it ended. -/
  | runTest (config : TestConfig) (test : Test)
  /-- Run a row of assertions. -/
  | runTrial (trial : Trial Unit)
  | runSuites (config : TestConfig) (suites : List Suite)
  | runFromCommandLine (line : Option String)

/-- What an operation answers. -/
inductive Reply where
  | done
  | level (level : Level)
  | enabled (enabled : Bool)
  | formatted (formatted : Formatted)
  | booted (config : BootConfig)
  | verdict (verdict : Verdict)
  | ran (result : RunResult)
  | code (code : Int)

/-- Carry out an operation. -/
def Operation.perform : Operation → HostM Reply
  | initLog => do
    HostM.modifyHost fun host => { host with level := .info }
    return .done
  | setLevel level => do
    HostM.modifyHost fun host => { host with level := level }
    return .done
  | getLevel => return .level (← HostM.host).level
  | isEnabled level => return .enabled ((← HostM.host).isEnabled level)
  | registerBackend backend => do
    HostM.modifyHost fun host => { host with backend := some backend }
    return .done
  | clearBackend => do
    HostM.modifyHost fun host => { host with backend := none }
    return .done
  | log level text => do
    HostM.ofReport (Report.log level text)
    return .done
  | registerSink sink => do
    HostM.modifyHost fun host => { host with sink := some sink }
    return .done
  | unregisterSink => do
    HostM.modifyHost fun host => { host with sink := none }
    return .done
  | consoleWrite bytes => do
    HostM.ofReport (Report.consoleWrite bytes)
    return .done
  | printf template arguments counters =>
    return .formatted (← HostM.ofReport (Report.printf template arguments counters))
  | printHex n => do
    HostM.ofReport (Report.printHex n)
    return .done
  | format cells template arguments counters =>
    return .formatted (← HostM.ofReport (Report.formatInto cells template arguments counters))
  | boot line => do
    let config := BootConfig.ofCommandLine line
    config.apply
    return .booted config
  | runTest config test => return .verdict (← test.runReporting config)
  | runTrial trial => return .verdict (← HostM.ofReport trial.verdict)
  | runSuites config suites => return .ran (← runAll config suites {})
  | runFromCommandLine line => return .code (← BoundedFormat.runFromCommandLine line)

/-- Carry out operations in order from a given host; one step each. -/
def runOperations : List Operation → Host → List (Step Reply)
  | [], _ => []
  | operation :: rest, host =>
    let step := operation.perform host
    step :: runOperations rest step.host

/-- A session from the beginning. -/
def runSession (operations : List Operation) : List (Step Reply) := runOperations operations {}

end BoundedFormat
