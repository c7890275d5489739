import BoundedFormat.Format

/-!
# Checking arguments ahead of time

`checkArguments` goes through a template as formatting does and stops at the first argument that
formatting would miss or skip; arguments left over at the end are an error too. A call that checks
first therefore either hands back the cells and counters that it was given or uses every argument.
-/

namespace BoundedFormat

/-- Why arguments do not fit a template. -/
inductive CheckError where
  /-- The list ended before argument `index`. -/
  | missingArgument (index : Nat) (conversion : UInt8)
  /-- Argument `index` is of a kind that its reader cannot take. -/
  | typeMismatch (index : Nat) (conversion : UInt8) (found : ArgumentKind)
  /-- The template reads fewer arguments than there are. -/
  | extraArguments (consumed supplied : Nat)
  deriving DecidableEq, Repr

/-- The text of the error. -/
def CheckError.message : CheckError → String
  | missingArgument index conversion =>
    "argument " ++ toString index ++ " missing for " ++ Diagnostic.shownByte conversion
  | typeMismatch index conversion found =>
    "argument " ++ toString index ++ " is " ++ found.name ++ ", which " ++
      Diagnostic.shownByte conversion ++ " cannot take"
  | extraArguments consumed supplied =>
    "template reads " ++ toString consumed ++ " arguments but " ++ toString supplied ++
      " were supplied"

/-- Results of a check can be compared. -/
instance decidableEqChecked : DecidableEq (Except CheckError Nat)
  | .ok m, .ok n => if h : m = n then isTrue (congrArg _ h) else isFalse (h <| Except.ok.inj ·)
  | .error d, .error e =>
    if h : d = e then isTrue (congrArg _ h) else isFalse (h <| Except.error.inj ·)
  | .ok _, .error _ => isFalse nofun
  | .error _, .ok _ => isFalse nofun

/-- Take one argument and require that `accepts` holds of it. -/
def expectArgument (conversion : UInt8) (accepts : Argument → Bool) (arguments : ArgumentCursor) :
    Except CheckError ArgumentCursor :=
  match arguments.next with
  | (none, _) => .error (.missingArgument arguments.consumed conversion)
  | (some argument, rest) =>
    if accepts argument then .ok rest
    else .error (.typeMismatch arguments.consumed conversion argument.kind)

/-- Can the argument be read as an integer? -/
def Argument.isInteger (argument : Argument) : Bool := argument.integerBits?.isSome

/-- Check what a width reads. -/
def Width.check (width : Width) (arguments : ArgumentCursor) : Except CheckError ArgumentCursor :=
  match width with
  | fixed _ => .ok arguments
  | fromArgument => expectArgument Ascii.star Argument.isInteger arguments

/-- Check what a precision reads. -/
def Precision.check (precision : Precision) (arguments : ArgumentCursor) :
    Except CheckError ArgumentCursor :=
  match precision with
  | unspecified | fixed _ => .ok arguments
  | fromArgument => expectArgument Ascii.star Argument.isInteger arguments

/-- Check what a conversion reads. -/
def Conversion.check (conversion : Conversion) (arguments : ArgumentCursor) :
    Except CheckError ArgumentCursor :=
  match conversion with
  | signedDecimal | unsignedDecimal | hexadecimal | character =>
    expectArgument conversion.byte Argument.isInteger arguments
  | text => expectArgument conversion.byte (·.text?.isSome) arguments
  | pointer => expectArgument conversion.byte (·.address?.isSome) arguments
  | writeCount => expectArgument conversion.byte (·.counter?.isSome) arguments
  | fixedPoint => expectArgument conversion.byte (·.float?.isSome) arguments
  | errorNumber | percent | unknown _ | truncated => .ok arguments

/-- Check what a segment reads. -/
def Segment.check (segment : Segment) (arguments : ArgumentCursor) :
    Except CheckError ArgumentCursor :=
  match segment with
  | literal _ => .ok arguments
  | directive spelling => do
    let directive := spelling.directive
    let arguments ← directive.width.check arguments
    let arguments ← directive.precision.check arguments
    directive.conversion.check arguments

/-- Check segments one after the other. -/
def checkSegments : List Segment → ArgumentCursor → Except CheckError ArgumentCursor
  | [], arguments => .ok arguments
  | segment :: rest, arguments => do
    let arguments ← segment.check arguments
    checkSegments rest arguments

/-- Check arguments against a template. The result is how many the template reads. -/
def checkArguments (template : Bytes) (arguments : List Argument) : Except CheckError Nat := do
  let cursor ← checkSegments (segments template) (.ofList arguments)
  if cursor.consumed < cursor.supplied then
    .error (.extraArguments cursor.consumed cursor.supplied)
  else .ok cursor.consumed

/-- A call that was refused: why, and the cells and counters that it hands back. -/
structure Refusal where
  error : CheckError
  cells : Array UInt8
  counters : Counters
  deriving DecidableEq, Repr

/-- A refusal can stand for its reason. -/
instance : Coe Refusal CheckError := ⟨Refusal.error⟩

/-- Format only if the arguments fit the template. -/
def formatChecked (cells : Array UInt8) (template : Bytes) (arguments : List Argument)
    (counters : Counters) : Except Refusal Formatted :=
  match checkArguments template arguments with
  | .error error => .error ⟨error, cells, counters⟩
  | .ok _ => .ok (formatInto cells template arguments counters)

end BoundedFormat
