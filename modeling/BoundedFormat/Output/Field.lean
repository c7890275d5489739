import BoundedFormat.Output.Buffer
import BoundedFormat.Template.Flags

/-!
# Field layout

A numeric field is made of spaces, a sign, padding zeros and digits. For a field of width `w`, with
`s` bytes of sign, `n` digits and `z` zeros that bring the digits up to the precision, let `r` be
what is missing to `w`; then the layouts are

    left:             [sign] [0 * z] [digits] [' ' * r]
    right, zero flag: [sign] [0 * (r + z)] [digits]
    right:            [' ' * r] [sign] [0 * z] [digits]

The zero flag counts only where no precision was given, and a zero with an explicit precision of
zero has no digits at all. A text field is padded with spaces only.

`Buffer.putField` and `Buffer.putPadded` write a field into a buffer part by part; `Field.layout`
and `paddedLayout` are the bytes of the whole field.
-/

namespace BoundedFormat

/-- A numeric field, apart from its digits. -/
structure Field where
  flags : Flags
  /-- The least number of bytes. -/
  width : Nat
  /-- The least number of digits. -/
  precision : Nat
  /-- Was a precision given? -/
  precisionGiven : Bool
  /-- The sign, if one is written. -/
  sign : Option UInt8
  /-- Is the number zero? -/
  isZero : Bool
  deriving DecidableEq, Repr

namespace Field

/-- Are the digits left out? -/
def isSuppressed (field : Field) : Bool :=
  field.precisionGiven && field.precision == 0 && field.isZero

end Field

/-! ## Writing a field -/

namespace Buffer

/-- Offer the sign, if there is one. -/
def putSign (buffer : Buffer) : Option UInt8 → Buffer
  | none => buffer
  | some sign => buffer.put sign

/-- Write a numeric field. The digits are least significant first. -/
def putField (buffer : Buffer) (field : Field) (digits : Bytes) : Buffer :=
  let suppressed := field.isSuppressed
  let count := if suppressed then 0 else digits.length
  let zeros := if suppressed then 0 else field.precision - count
  let signs := if field.sign.isSome then 1 else 0
  let rest := field.width - (signs + (count + zeros))
  let putDigits (buffer : Buffer) : Buffer :=
    if suppressed then buffer else (buffer.putRepeat Ascii.zero zeros).putReversed digits
  if field.flags.leftJustify then
    (putDigits (buffer.putSign field.sign)).putRepeat Ascii.space rest
  else if field.flags.zeroPad && !field.precisionGiven then
    ((buffer.putSign field.sign).putRepeat Ascii.zero (rest + zeros)).putReversed digits
  else
    putDigits ((buffer.putRepeat Ascii.space rest).putSign field.sign)

/-- Write a text padded with spaces to `width`. -/
def putPadded (buffer : Buffer) (flags : Flags) (width : Nat) (text : Bytes) : Buffer :=
  let rest := width - text.length
  if flags.leftJustify then (buffer.putAll text).putRepeat Ascii.space rest
  else (buffer.putRepeat Ascii.space rest).putAll text

end Buffer

/-! ## The bytes of a field -/

/-- A run of spaces. -/
def spaces (n : Nat) : Bytes := List.replicate n Ascii.space

/-- A run of zeros. -/
def zeros (n : Nat) : Bytes := List.replicate n Ascii.zero

namespace Field

/-- The digits in reading order behind the zeros that the precision asks for. -/
def body (field : Field) (digits : Bytes) : Bytes :=
  if field.isSuppressed then [] else zeros (field.precision - digits.length) ++ digits.reverse

/-- How far sign and body fall short of the width. -/
def shortfall (field : Field) (digits : Bytes) : Nat :=
  field.width - (field.sign.toList ++ field.body digits).length

/-- The bytes of the field. -/
def layout (field : Field) (digits : Bytes) : Bytes :=
  let sign := field.sign.toList
  let body := field.body digits
  let rest := field.shortfall digits
  if field.flags.leftJustify then sign ++ body ++ spaces rest
  else if field.flags.zeroPad && !field.precisionGiven then sign ++ zeros rest ++ body
  else spaces rest ++ sign ++ body

end Field

/-- The bytes of a text padded to `width`. -/
def paddedLayout (flags : Flags) (width : Nat) (text : Bytes) : Bytes :=
  let rest := spaces (width - text.length)
  if flags.leftJustify then text ++ rest else rest ++ text

/-! ## Writing a field offers its bytes -/

namespace Buffer

theorem putSign_eq_putAll (buffer : Buffer) (sign : Option UInt8) :
    buffer.putSign sign = buffer.putAll sign.toList := by
  cases sign <;> rfl

/-- What `putField` works out part by part is the shortfall of the layout. -/
private theorem rest_eq_shortfall (field : Field) (digits : Bytes) :
    field.width - ((if field.sign.isSome = true then 1 else 0) +
      ((if field.isSuppressed = true then 0 else digits.length) +
        (if field.isSuppressed = true then 0
          else field.precision - if field.isSuppressed = true then 0 else digits.length))) =
      field.shortfall digits := by
  have hsign : (if field.sign.isSome = true then 1 else 0) = field.sign.toList.length := by
    cases field.sign <;> rfl
  rw [hsign, Field.shortfall, Field.body]
  split
  · simp
  · simp [zeros]; omega

/-- Writing a numeric field offers the bytes of its layout. -/
theorem putField_eq_putAll (buffer : Buffer) (field : Field) (digits : Bytes) :
    buffer.putField field digits = buffer.putAll (field.layout digits) := by
  unfold putField Field.layout
  simp only [rest_eq_shortfall]
  by_cases hs : field.isSuppressed = true
  · have hgiven : field.precisionGiven = true := by
      simp only [Field.isSuppressed, Bool.and_eq_true] at hs
      exact hs.1.1
    simp only [hs, hgiven, Field.body, putSign_eq_putAll, putRepeat_eq_putAll, spaces, if_true,
      Bool.not_true, Bool.and_false, Bool.false_eq_true, if_false, List.append_nil]
    split <;> rw [putAll_append]
  · simp only [hs, Field.body, putSign_eq_putAll, putRepeat_eq_putAll, putReversed_eq_putAll,
      spaces, zeros, ← List.replicate_append_replicate, if_false, Bool.false_eq_true]
    split
    · simp only [putAll_append]
    · split <;> simp only [putAll_append]

/-- Writing a text field offers the bytes of its layout. -/
theorem putPadded_eq_putAll (buffer : Buffer) (flags : Flags) (width : Nat) (text : Bytes) :
    buffer.putPadded flags width text = buffer.putAll (paddedLayout flags width text) := by
  simp only [putPadded, paddedLayout, putRepeat_eq_putAll, spaces]
  split <;> rw [putAll_append]

end Buffer

end BoundedFormat
