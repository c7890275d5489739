import BoundedFormat.Argument.Basic

/-!
# Arguments from host values

Host values become arguments by the default promotions: a narrow signed integer widens to 32 bits,
a narrow unsigned one too unless it is a byte, which is a character, and a single-precision value
widens to double precision. Words of address size are 64 bits wide here.
-/

namespace BoundedFormat

/-- Values that can be handed over as an argument. -/
class ToArgument (α : Type) where
  /-- The argument that stands for the value. -/
  toArgument : α → Argument

export ToArgument (toArgument)

/-- The number of a counter, to be handed over to a `%n`. -/
structure CounterRef where
  index : Nat
  deriving DecidableEq, Repr

/-- An address in memory. -/
structure Address where
  value : UInt64
  deriving DecidableEq, Repr

instance : ToArgument Int8 := ⟨fun n => .int32 n.toInt32⟩
instance : ToArgument Int16 := ⟨fun n => .int32 n.toInt32⟩
instance : ToArgument Int32 := ⟨.int32⟩
instance : ToArgument Int64 := ⟨.int64⟩
instance : ToArgument ISize := ⟨fun n => .int64 n.toInt64⟩

instance : ToArgument UInt8 := ⟨.character⟩
instance : ToArgument UInt16 := ⟨fun n => .uint32 n.toUInt32⟩
instance : ToArgument UInt32 := ⟨.uint32⟩
instance : ToArgument UInt64 := ⟨.uint64⟩
instance : ToArgument USize := ⟨fun n => .uint64 n.toUInt64⟩

/-- Of a character only the low byte of its code point is kept. -/
instance : ToArgument Char := ⟨fun c => .character (UInt8.ofNat c.toNat)⟩

instance : ToArgument Float := ⟨.float⟩
instance : ToArgument Float32 := ⟨fun x => .float x.toFloat⟩

instance : ToArgument String := ⟨fun s => .text (utf8 s)⟩
instance : ToArgument Bytes := ⟨.text⟩

instance : ToArgument CounterRef := ⟨fun c => .counter c.index⟩
instance : ToArgument Address := ⟨fun a => .pointer a.value⟩

end BoundedFormat
