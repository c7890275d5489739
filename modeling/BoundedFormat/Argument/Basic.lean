import BoundedFormat.Template.Directive

/-!
# Arguments

The caller hands over a list of typed values, so a directive always knows what it reads. An argument
that is an integer, a character or an address carries a 64-bit pattern (`Argument.integerBits?`),
which a directive reads again at the width of its length modifier; every other argument feeds only
the conversion made for it.
-/

namespace BoundedFormat

/-- An argument of a formatting call. -/
inductive Argument where
  | int32 (n : Int32)
  | int64 (n : Int64)
  | uint32 (n : UInt32)
  | uint64 (n : UInt64)
  | character (b : UInt8)
  | text (bytes : Bytes)
  | float (x : Float)
  | pointer (address : UInt64)
  /-- The number of the counter that a `%n` stores into. -/
  | counter (index : Nat)
  deriving DecidableEq, Repr

/-- The kind of an argument, for messages. -/
inductive ArgumentKind where
  | int32
  | int64
  | uint32
  | uint64
  | character
  | text
  | float
  | pointer
  | counter
  deriving DecidableEq, Repr

/-- The name of a kind in messages. -/
def ArgumentKind.name : ArgumentKind → String
  | int32 => "int"
  | int64 => "long long"
  | uint32 => "unsigned int"
  | uint64 => "unsigned long long"
  | character => "char"
  | text => "string"
  | float => "double"
  | pointer => "pointer"
  | counter => "int *"

namespace Argument

/-- The kind of the argument. -/
def kind : Argument → ArgumentKind
  | int32 _ => .int32
  | int64 _ => .int64
  | uint32 _ => .uint32
  | uint64 _ => .uint64
  | character _ => .character
  | text _ => .text
  | float _ => .float
  | pointer _ => .pointer
  | counter _ => .counter

/-! ## Reading an argument -/

/-- The 64-bit pattern of an integer-like argument: signed values are extended by their sign,
unsigned ones by zeros. -/
def integerBits? : Argument → Option UInt64
  | int32 n => some n.toInt64.toUInt64
  | int64 n => some n.toUInt64
  | uint32 n => some n.toUInt64
  | uint64 n => some n
  | character b => some b.toUInt64
  | pointer address => some address
  | text _ | float _ | counter _ => none

/-- The argument as a signed integer of the width that `length` selects. -/
def signed? (length : Length) (argument : Argument) : Option Int64 :=
  argument.integerBits?.map fun bits =>
    match length with
    | .native => bits.toUInt32.toInt32.toInt64
    | .long | .longLong => bits.toInt64

/-- The argument as an unsigned integer of the width that `length` selects. -/
def unsigned? (length : Length) (argument : Argument) : Option UInt64 :=
  argument.integerBits?.map fun bits =>
    match length with
    | .native => bits.toUInt32.toUInt64
    | .long | .longLong => bits

/-- The address in a pointer, or in an unsigned integer that holds one. -/
def address? : Argument → Option UInt64
  | pointer address => some address
  | uint32 n => some n.toUInt64
  | uint64 n => some n
  | _ => none

/-- The bytes of a text. -/
def text? : Argument → Option Bytes
  | text bytes => some bytes
  | _ => none

/-- The value of a floating-point argument. -/
def float? : Argument → Option Float
  | float x => some x
  | _ => none

/-- The counter to store into. -/
def counter? : Argument → Option Nat
  | counter index => some index
  | _ => none

end Argument

/-- The counters that `%n` stores into, by number. -/
abbrev Counters := Array Int32

end BoundedFormat
