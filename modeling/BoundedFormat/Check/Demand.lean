import BoundedFormat.Argument.Basic
import BoundedFormat.Template.Segment

/-!
# The demands of a template

A template determines, without any argument, the list of what it reads: an integer for every `*`,
and for every conversion that takes an argument a value of the right kind. The demand at place `i`
is made of argument `i`.
-/

namespace BoundedFormat

/-- What an argument has to be. -/
inductive Requirement where
  /-- An integer, a character or an address. -/
  | integer
  | text
  /-- A pointer, or an unsigned integer that holds an address. -/
  | address
  | counter
  | float
  deriving DecidableEq, Repr

namespace Requirement

/-- The kinds that meet the requirement. -/
def kinds : Requirement → List ArgumentKind
  | integer => [.int32, .int64, .uint32, .uint64, .character, .pointer]
  | text => [.text]
  | address => [.pointer, .uint32, .uint64]
  | counter => [.counter]
  | float => [.float]

/-- Does the argument meet the requirement? -/
def accepts (requirement : Requirement) (argument : Argument) : Bool :=
  requirement.kinds.contains argument.kind

end Requirement

/-- One argument that a template reads. -/
structure Demand where
  /-- The byte that names the reader: `*`, or the conversion's. -/
  byte : UInt8
  requirement : Requirement
  deriving DecidableEq, Repr

/-- The demand of a star. -/
def Demand.star : Demand := ⟨Ascii.star, .integer⟩

/-- What a width reads. -/
def Width.demands : Width → List Demand
  | fixed _ => []
  | fromArgument => [.star]

/-- What a precision reads. -/
def Precision.demands : Precision → List Demand
  | unspecified | fixed _ => []
  | fromArgument => [.star]

/-- What a conversion reads. -/
def Conversion.demands (conversion : Conversion) : List Demand :=
  match conversion with
  | signedDecimal | unsignedDecimal | hexadecimal | character => [⟨conversion.byte, .integer⟩]
  | text => [⟨conversion.byte, .text⟩]
  | pointer => [⟨conversion.byte, .address⟩]
  | writeCount => [⟨conversion.byte, .counter⟩]
  | fixedPoint => [⟨conversion.byte, .float⟩]
  | errorNumber | percent | unknown _ | truncated => []

/-- What a directive reads, in order. -/
def Directive.demands (directive : Directive) : List Demand :=
  directive.width.demands ++ directive.precision.demands ++ directive.conversion.demands

/-- What a segment reads. -/
def Segment.demands : Segment → List Demand
  | literal _ => []
  | directive spelling => spelling.directive.demands

/-- What a template reads, in order. -/
def demands (template : Bytes) : List Demand := (segments template).flatMap Segment.demands

end BoundedFormat
