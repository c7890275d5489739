import BoundedFormat.Host.Console
import BoundedFormat.Selftest.Verdict
import BoundedFormat.Text.Quoted

/-!
# Assertions

A trial is a test written as a row of assertions: the first that does not hold logs what was
expected and ends the trial as a failure, and a trial that comes to its end passes. A trial formats
and logs, but leaves the host as it is.
-/

namespace BoundedFormat

/-- Values that assertions can show. -/
class Shown (α : Type) where
  /-- The text of the value in a message. -/
  shown : α → String

export Shown (shown)

instance : Shown Int := ⟨toString⟩
instance : Shown Nat := ⟨toString⟩
instance : Shown Int32 := ⟨fun n => toString n.toInt⟩
instance : Shown UInt8 := ⟨fun n => toString n.toNat⟩

/-- A record is shown by its name and its fields. -/
def shownRecord (name : String) (fields : List (String × String)) : String :=
  let texts := fields.map fun (field, text) => field ++ ": " ++ text
  name ++ " \x7b " ++ ", ".intercalate texts ++ " \x7d"

instance : Shown Outcome where
  shown outcome := shownRecord "FormatOutcome"
    [("required", shown outcome.required), ("written", shown outcome.written)]

/-- A kind of argument is shown by a short name, which is not that of messages to the caller. -/
instance : Shown ArgumentKind where
  shown
    | .int32 => "I32"
    | .int64 => "I64"
    | .uint32 => "U32"
    | .uint64 => "U64"
    | .character => "Char"
    | .text => "Str"
    | .float => "F64"
    | .pointer => "Ptr"
    | .counter => "Count"

instance : Shown CheckError where
  shown
    | .missingArgument index conversion =>
      shownRecord "MissingArgument" [("index", shown index), ("conversion", shown conversion)]
    | .typeMismatch index conversion found =>
      shownRecord "TypeMismatch"
        [("index", shown index), ("conversion", shown conversion), ("found", shown found)]
    | .extraArguments consumed supplied =>
      shownRecord "ExtraArguments" [("consumed", shown consumed), ("supplied", shown supplied)]

/-- A refusal is shown by its reason. -/
instance : Shown Refusal := ⟨fun refusal => shown (refusal : CheckError)⟩

instance {ε α : Type} [Shown ε] [Shown α] : Shown (Except ε α) where
  shown
    | .ok value => "Ok(" ++ shown value ++ ")"
    | .error error => "Err(" ++ shown error ++ ")"

example : shown (Except.error (.missingArgument 1 0x64) : Except CheckError Nat) =
    "Err(MissingArgument \x7b index: 1, conversion: 100 \x7d)" := by decide

/-- A row of assertions. -/
abbrev Trial (α : Type) : Type := ExceptT Verdict Report α

namespace Trial

/-- End the trial as a failure, with a line in the log. -/
def failWith {α : Type} (line : String) : Trial α := do
  Report.log .info line
  throw .fail

/-- End the trial as a failure. -/
def fail (message : Option String) : Trial Unit :=
  match message with
  | none => throw .fail
  | some message => failWith ("TEST FAIL: " ++ message)

/-- The label of an assertion, with the message of the caller if there is one. -/
def label (name : String) (message : Option String) : String :=
  match message with
  | none => name ++ ": "
  | some message => name ++ ": " ++ message ++ " - "

/-- The two values must be equal. -/
def assertEq {α : Type} [DecidableEq α] [Shown α] (actual expected : α)
    (message : Option String) : Trial Unit :=
  if actual = expected then pure ()
  else failWith (label "ASSERT_EQ" message ++ "expected " ++ shown expected ++ ", got " ++
    shown actual)

/-- The two values must differ. -/
def assertNe {α : Type} [DecidableEq α] [Shown α] (left right : α)
    (message : Option String) : Trial Unit :=
  if left = right then
    match message with
    | none => failWith ("ASSERT_NE: values should differ, both are " ++ shown left)
    | some _ => failWith (label "ASSERT_NE" message ++ "both are " ++ shown left)
  else pure ()

/-- The two byte strings must be equal; a failure shows them as text. -/
def assertBytesEq (actual expected : Bytes) (message : Option String) : Trial Unit :=
  if actual = expected then pure ()
  else failWith (label "ASSERT_BYTES_EQ" message ++ "expected " ++ quoted (decodeText expected) ++
    ", got " ++ quoted (decodeText actual))

/-- The condition must hold. -/
def assertTrue (condition : Bool) (message : Option String) : Trial Unit :=
  if condition then pure ()
  else failWith ("ASSERT: " ++ message.getD "condition failed")

/-- The result must be a value, which the trial goes on with. -/
def assertOk {ε α : Type} [Shown ε] (result : Except ε α) (message : Option String) : Trial α :=
  match result with
  | .ok value => pure value
  | .error error => failWith (label "ASSERT_OK" message ++ "got Err(" ++ shown error ++ ")")

/-- How the trial ends. -/
def verdict (trial : Trial Unit) : Report Verdict := do
  match ← trial.run with
  | .ok () => return .pass
  | .error verdict => return verdict

/-- The trial as a test. -/
def test (trial : Trial Unit) (name : String) : Test where
  name := name
  run := HostM.ofReport trial.verdict

end Trial

end BoundedFormat
