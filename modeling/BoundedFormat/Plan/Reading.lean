import BoundedFormat.Argument.Cursor

/-!
# Reading arguments for directives

A directive that finds its argument missing or of the wrong kind writes nothing and leaves a
diagnostic; the call goes on. A `Reading` is what came of looking at the arguments: a value, the
place in the list behind it, and the diagnostics on the way. An argument of the wrong kind is
consumed all the same, so the directives that follow stay aligned with theirs.
-/

namespace BoundedFormat

/-- Something worth a line in the log while a template is worked through. -/
inductive Diagnostic where
  /-- A `*` found the list exhausted. -/
  | starMissing
  /-- A `*` found an argument that is no integer. -/
  | starKind (found : ArgumentKind)
  /-- A conversion found the list exhausted. -/
  | missing (conversion : UInt8)
  /-- A conversion found an argument that it cannot take. -/
  | wrongKind (conversion : UInt8) (found : ArgumentKind)
  /-- A byte that stands for no conversion. -/
  | unknownConversion (b : UInt8)
  deriving DecidableEq, Repr

namespace Diagnostic

/-- Does the diagnostic report an argument that could not be read? -/
def isSkip : Diagnostic → Bool
  | unknownConversion _ => false
  | _ => true

/-- A conversion byte as a message shows it. -/
def shownByte (b : UInt8) : String := "%" ++ String.singleton (charOfByte b)

/-- The line in the log. -/
def message : Diagnostic → String
  | starMissing => "printf: '*' with no argument left"
  | starKind found => "printf: '*' expects int, got " ++ found.name
  | missing conversion => "printf: no argument left for " ++ shownByte conversion
  | wrongKind conversion found =>
    "printf: " ++ shownByte conversion ++ " cannot take " ++ found.name ++ ", skipped"
  | unknownConversion b => "printf: unknown conversion " ++ shownByte b ++ " discarded"

end Diagnostic

/-- What came of reading arguments. -/
structure Reading (α : Type) where
  value : α
  /-- The place behind the arguments that were taken. -/
  arguments : ArgumentCursor
  /-- What there was to report, in order. -/
  diagnostics : List Diagnostic
  deriving Repr

/-- Take the argument of a `*` as a 32-bit integer; one that is missing or no integer counts as
zero. -/
def readStar (arguments : ArgumentCursor) : Reading Int32 :=
  match arguments.next with
  | (none, arguments) => ⟨0, arguments, [.starMissing]⟩
  | (some argument, arguments) =>
    match argument.signed? .native with
    | none => ⟨0, arguments, [.starKind argument.kind]⟩
    | some n => ⟨n.toInt32, arguments, []⟩

/-- Take the argument of a conversion and make of it what `use` says, or `fallback` when there is
none or `use` has no use for it. -/
def readValue {α : Type} (conversion : UInt8) (fallback : α) (use : Argument → Option α)
    (arguments : ArgumentCursor) : Reading α :=
  match arguments.next with
  | (none, arguments) => ⟨fallback, arguments, [.missing conversion]⟩
  | (some argument, arguments) =>
    match use argument with
    | none => ⟨fallback, arguments, [.wrongKind conversion argument.kind]⟩
    | some value => ⟨value, arguments, []⟩

end BoundedFormat
