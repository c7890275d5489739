import BoundedFormat.Output.Field

/-!
# What is written

An emission is one thing that a buffer can be asked to write. `Emission.emit` writes it part by part
through `Buffer.put`; `Emission.bytes` is what it says, without any buffer.
-/

namespace BoundedFormat

/-- Something to write. -/
inductive Emission where
  | byte (b : UInt8)
  | repeated (b : UInt8) (count : Nat)
  | run (bytes : Bytes)
  /-- A run of digits, least significant first, to be written in reading order. -/
  | reversed (digits : Bytes)
  /-- A text, in UTF-8. -/
  | text (s : String)
  /-- A numeric field; its digits are least significant first. -/
  | field (shape : Field) (digits : Bytes)
  /-- A text padded with spaces. -/
  | padded (flags : Flags) (width : Nat) (bytes : Bytes)
  deriving DecidableEq, Repr

namespace Emission

/-- Write the emission into a buffer. -/
def emit (emission : Emission) (buffer : Buffer) : Buffer :=
  match emission with
  | byte b => buffer.put b
  | repeated b count => buffer.putRepeat b count
  | run bytes => buffer.putAll bytes
  | reversed digits => buffer.putReversed digits
  | text s => buffer.putAll (utf8 s)
  | field shape digits => buffer.putField shape digits
  | padded flags width bytes => buffer.putPadded flags width bytes

/-- The bytes of the emission. -/
def bytes : Emission → Bytes
  | byte b => [b]
  | repeated b count => List.replicate count b
  | run bytes => bytes
  | reversed digits => digits.reverse
  | text s => utf8 s
  | field shape digits => shape.layout digits
  | padded flags width bytes => paddedLayout flags width bytes

/-- Writing an emission offers its bytes. -/
theorem emit_eq_putAll (emission : Emission) (buffer : Buffer) :
    emission.emit buffer = buffer.putAll emission.bytes := by
  cases emission with
  | byte b => rfl
  | repeated b count => exact buffer.putRepeat_eq_putAll b count
  | run bytes => rfl
  | reversed digits => exact buffer.putReversed_eq_putAll digits
  | text s => rfl
  | field shape digits => exact buffer.putField_eq_putAll shape digits
  | padded flags width bytes => exact buffer.putPadded_eq_putAll flags width bytes

end Emission

end BoundedFormat
