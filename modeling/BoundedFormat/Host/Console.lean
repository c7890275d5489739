import BoundedFormat.Argument.Promotion
import BoundedFormat.Check.Basic
import BoundedFormat.Host.Action

/-!
# Formatting on a host

On a host the diagnostics of a formatting call become log lines of level `debug`. Console output is
formatted into a line of fixed size and goes to the sink in one piece; a line that does not fit is
cut, and the cut is logged as a warning once the line is out.
-/

namespace BoundedFormat

namespace Report

/-- Log what formatting had to report. -/
def logDiagnostics : List Diagnostic → Report Unit
  | [] => pure ()
  | first :: rest => do
    log .debug first.message
    logDiagnostics rest

/-- Format into cells. -/
def formatInto (cells : Array UInt8) (template : Bytes) (arguments : List Argument)
    (counters : Counters) : Report Formatted := do
  let formatted := BoundedFormat.formatInto cells template arguments counters
  logDiagnostics formatted.diagnostics
  return formatted

/-- Check arguments against a template, which logs nothing. -/
def checkArguments (template : Bytes) (arguments : List Argument) :
    Report (Except CheckError Nat) :=
  return BoundedFormat.checkArguments template arguments

/-- Format into cells only if the arguments fit the template. -/
def formatChecked (cells : Array UInt8) (template : Bytes) (arguments : List Argument)
    (counters : Counters) : Report (Except Refusal Formatted) := do
  match ← checkArguments template arguments with
  | .error error => return .error ⟨error, cells, counters⟩
  | .ok _ => return .ok (← formatInto cells template arguments counters)

/-- Format into a buffer of the right size; both passes log. -/
def formatOwned (template : Bytes) (arguments : List Argument) (counters : Counters) :
    Report Owned := do
  let owned := BoundedFormat.formatOwned template arguments counters
  logDiagnostics owned.diagnostics
  return owned

/-- The warning about a line that was cut. -/
def truncationWarning (outcome : Outcome) : String :=
  "console: line truncated, " ++ toString outcome.written ++ " of " ++
    toString outcome.required ++ " bytes written"

/-- Format a line for the console and write what fits. The outcome tells the length of the whole
line. -/
def printf (template : Bytes) (arguments : List Argument) (counters : Counters) :
    Report Formatted := do
  let formatted ← formatInto (Array.replicate consoleLineMax 0) template arguments counters
  consoleWrite formatted.stored
  if formatted.outcome.isTruncated then log .warn (truncationWarning formatted.outcome)
  return formatted

/-- The line for a number that fits in 32 bits: eight digits. -/
def shortHexTemplate : Bytes := utf8 "0x%08x\n"

/-- The line for any other number: sixteen digits. -/
def longHexTemplate : Bytes := utf8 "0x%016llx\n"

/-- Print a number in hexadecimal on a line of its own. -/
def printHex (n : UInt64) : Report Unit := do
  if n.toNat < UInt32.size then
    let _ ← printf shortHexTemplate [toArgument n.toUInt32] #[]
  else
    let _ ← printf longHexTemplate [toArgument n] #[]

end Report

end BoundedFormat
