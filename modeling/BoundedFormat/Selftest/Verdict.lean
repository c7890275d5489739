import BoundedFormat.Boot.Config

/-!
# Tests and their verdicts

A test is a host action with a verdict. Running one tells its outcome in the log: a failure always,
a skipped test unless the run is quiet, a passed one only if the run is verbose.
-/

namespace BoundedFormat

/-- How a test ended. -/
inductive Verdict where
  | pass
  | fail
  | skipped
  deriving DecidableEq, Repr

namespace Verdict

/-- Did the test pass? -/
def isPass : Verdict → Bool
  | pass => true
  | fail | skipped => false

/-- Did the test fail? A skipped test did not. -/
def isFailure : Verdict → Bool
  | fail => true
  | pass | skipped => false

/-- The exit code of the verdict. -/
def code : Verdict → Int
  | pass | skipped => 0
  | fail => -1

end Verdict

/-- A named test. -/
structure Test where
  name : String
  run : HostM Verdict

namespace Test

/-- The line that tells how a test ended, if the run is talkative enough for it. -/
def outcomeLine? (verbosity : Verbosity) (name : String) : Verdict → Option String
  | .pass => if verbosity = .verbose then some ("TEST PASS: " ++ name) else none
  | .skipped => if verbosity = .quiet then none else some ("TEST SKIP: " ++ name)
  | .fail => some ("TEST FAIL: " ++ name)

/-- Run a test and tell how it ended. -/
def runReporting (config : TestConfig) (test : Test) : HostM Verdict := do
  let verdict ← test.run
  match outcomeLine? config.verbosity test.name verdict with
  | some line => HostM.ofReport (Report.log .info line)
  | none => pure ()
  return verdict

end Test

end BoundedFormat
