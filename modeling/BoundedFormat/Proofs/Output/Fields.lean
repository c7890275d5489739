import Mathlib.Algebra.Group.Nat.Defs
import BoundedFormat.Proofs.Output.Layout

/-!
# What a field offers to a buffer

`Field.LaysOut` says which bytes a numeric field is made of, from the lengths of its parts alone:
how long its sign and body are, how many zeros the body has and what is missing to the width. A text
field has a text and spaces only (`LaysOutText`). `fields_are_laid_out` shows that writing a field
offers just these bytes to a buffer in any state, one after the other (`Buffer.Offers`).

Lengths are natural numbers here and machine words in the code. `Buffer.putFieldInWords?` writes a
field with every sum checked against the size of a word, and gives up where one does not fit; for a
width and a precision below `2 ^ 32` it never does (`putFieldInWords?_eq`).
-/

namespace BoundedFormat

/-! ## Offering a run of bytes -/

/-- The buffer `after` is `before` with `bytes` offered to it, one after the other. -/
structure Buffer.Offers (before : Buffer) (bytes : Bytes) (after : Buffer) : Prop where
  after_eq : after = bytes.foldl Buffer.put before
  /-- Every byte counts, stored or not. -/
  offered_eq : after.offered = before.offered + bytes.length
  /-- The bytes are stored as far as there is room, one cell kept back. -/
  stored_eq : after.stored =
    before.stored ++ bytes.take (before.cells.size - 1 - before.written)

namespace Buffer

/-- A run of bytes is stored as far as there is room, whatever state the buffer is in. -/
theorem stored_putAll (buffer : Buffer) (bytes : Bytes) :
    (buffer.putAll bytes).stored =
      buffer.stored ++ bytes.take (buffer.cells.size - 1 - buffer.written) := by
  induction bytes generalizing buffer with
  | nil => simp
  | cons b rest ih =>
    rw [putAll_cons, ih, size_cells_put]
    by_cases hroom : buffer.written + 1 < buffer.cells.size
    · have hwritten : (buffer.put b).written = buffer.written + 1 := by simp [put, hroom]
      have hcount : buffer.cells.size - 1 - buffer.written =
          buffer.cells.size - 1 - (buffer.written + 1) + 1 := by omega
      rw [stored_put b hroom, hwritten, hcount, List.take_succ_cons, List.append_assoc,
        List.singleton_append]
    · have hwritten : (buffer.put b).written = buffer.written := by simp [put, hroom]
      have hcount : buffer.cells.size - 1 - buffer.written = 0 := by omega
      rw [stored_put_of_full b (by omega), hwritten, hcount, List.take_zero, List.take_zero]

theorem offers_putAll (buffer : Buffer) (bytes : Bytes) :
    buffer.Offers bytes (buffer.putAll bytes) where
  after_eq := rfl
  offered_eq := buffer.offered_putAll bytes
  stored_eq := buffer.stored_putAll bytes

end Buffer

/-! ## The parts of a numeric field -/

namespace Field

variable (field : Field) (digits : Bytes)

/-- How many digits are written. -/
def digitCount : Nat := if field.isSuppressed then 0 else digits.length

/-- How long the zeros and digits behind the sign are, apart from a filling with zeros. -/
def bodyLength : Nat :=
  if field.isSuppressed then 0 else max field.precision (field.digitCount digits)

/-- How long the sign is. -/
def signLength : Nat := if field.sign.isSome then 1 else 0

/-- What is missing to the width, if anything is. -/
def missing : Nat := field.width - field.signLength - field.bodyLength digits

/-- How many zeros the precision asks for. -/
def bodyZeros : Nat := field.bodyLength digits - field.digitCount digits

/-- The digits that are written, in reading order. -/
def shownDigits : Bytes := if field.isSuppressed then [] else digits.reverse

/-- The bytes that a field is made of, in each of its three layouts. -/
structure LaysOut (bytes : Bytes) : Prop where
  length_eq : bytes.length = max field.width (field.signLength + field.bodyLength digits)
  left : field.flags.leftJustify = true →
    bytes = field.sign.toList ++ zeros (field.bodyZeros digits) ++ field.shownDigits digits ++
      spaces (field.missing digits)
  zeroFilled : field.flags.leftJustify = false → field.flags.zeroPad = true →
    field.precisionGiven = false →
    bytes = field.sign.toList ++ zeros (field.missing digits + field.bodyZeros digits) ++
      field.shownDigits digits
  right : field.flags.leftJustify = false →
    (field.flags.zeroPad = true → field.precisionGiven = true) →
    bytes = spaces (field.missing digits) ++ field.sign.toList ++
      zeros (field.bodyZeros digits) ++ field.shownDigits digits

theorem length_sign : field.sign.toList.length = field.signLength := by
  rw [signLength]
  cases field.sign <;> rfl

theorem body_eq : field.body digits =
    zeros (field.bodyZeros digits) ++ field.shownDigits digits := by
  rw [body, shownDigits, bodyZeros, bodyLength, digitCount]
  split
  · rfl
  · rw [Nat.sub_eq_max_sub]

theorem length_body : (field.body digits).length = field.bodyLength digits := by
  rw [body, bodyLength, digitCount]
  split
  · rfl
  · rw [List.length_append, length_zeros, List.length_reverse]
    omega

theorem shortfall_eq : field.shortfall digits = field.missing digits := by
  rw [shortfall, missing, List.length_append, length_sign, length_body, Nat.sub_add_eq]

/-- The layout of a field has the parts of the field in their places. -/
theorem laysOut_layout : field.LaysOut digits (field.layout digits) where
  length_eq := by rw [length_layout, length_sign, length_body]
  left := by
    intro hleft
    rw [layout, if_pos hleft, shortfall_eq, body_eq]
    simp only [List.append_assoc]
  zeroFilled := by
    intro hleft hzero hgiven
    have hfill : (field.flags.zeroPad && !field.precisionGiven) = true := by
      rw [hzero, hgiven]
      rfl
    rw [layout, if_neg (by rw [hleft]; exact Bool.false_ne_true), if_pos hfill, shortfall_eq,
      body_eq]
    simp only [zeros, ← List.replicate_append_replicate, List.append_assoc]
  right := by
    intro hleft hgiven
    have hfill : ¬(field.flags.zeroPad && !field.precisionGiven) = true := by
      rw [Bool.and_eq_true, Bool.not_eq_true']
      rintro ⟨hzero, hnot⟩
      exact Bool.false_ne_true (hnot.symm.trans (hgiven hzero))
    rw [layout, if_neg (by rw [hleft]; exact Bool.false_ne_true), if_neg hfill, shortfall_eq,
      body_eq]
    simp only [List.append_assoc]

end Field

/-! ## The parts of a text field -/

/-- The bytes that a text field is made of. -/
structure LaysOutText (flags : Flags) (width : Nat) (text bytes : Bytes) : Prop where
  length_eq : bytes.length = max width text.length
  left : flags.leftJustify = true → bytes = text ++ spaces (width - text.length)
  right : flags.leftJustify = false → bytes = spaces (width - text.length) ++ text

theorem laysOutText_paddedLayout (flags : Flags) (width : Nat) (text : Bytes) :
    LaysOutText flags width text (paddedLayout flags width text) where
  length_eq := by
    rw [paddedLayout]
    split <;> rw [List.length_append, length_spaces] <;> omega
  left := by
    intro hleft
    rw [paddedLayout, if_pos hleft]
  right := by
    intro hleft
    rw [paddedLayout, if_neg (by rw [hleft]; exact Bool.false_ne_true)]

/-! ## Sums in machine words -/

/-- The sum of two lengths, if a machine word of 64 bits holds it. -/
def wordSum? (a b : Nat) : Option Nat := if a + b < 2 ^ 64 then some (a + b) else none

theorem wordSum?_eq_some {a b : Nat} (h : a + b < 2 ^ 64) : wordSum? a b = some (a + b) := if_pos h

namespace Buffer

/-- Write a numeric field, unless a sum that this takes does not fit into a machine word. -/
def putFieldInWords? (buffer : Buffer) (field : Field) (digits : Bytes) : Option Buffer := do
  let suppressed := field.isSuppressed
  let count := if suppressed then 0 else digits.length
  let zeros := if suppressed then 0 else field.precision - count
  let signs := if field.sign.isSome then 1 else 0
  let body ← wordSum? count zeros
  let taken ← wordSum? signs body
  let rest := field.width - taken
  let putDigits (buffer : Buffer) : Buffer :=
    if suppressed then buffer else (buffer.putRepeat Ascii.zero zeros).putReversed digits
  if field.flags.leftJustify then
    pure ((putDigits (buffer.putSign field.sign)).putRepeat Ascii.space rest)
  else if field.flags.zeroPad && !field.precisionGiven then do
    let fill ← wordSum? rest zeros
    pure (((buffer.putSign field.sign).putRepeat Ascii.zero fill).putReversed digits)
  else
    pure (putDigits ((buffer.putRepeat Ascii.space rest).putSign field.sign))

/-- With a width and a precision of 32 bits every sum fits: a run of bytes in memory is shorter than
`2 ^ 63`, and behind such a run the precision adds nothing. -/
theorem putFieldInWords?_eq (buffer : Buffer) {field : Field} {digits : Bytes}
    (hwidth : field.width < 2 ^ 32) (hprecision : field.precision < 2 ^ 32)
    (hdigits : digits.length < 2 ^ 63) :
    buffer.putFieldInWords? field digits = some (buffer.putField field digits) := by
  rw [putFieldInWords?, putField]
  generalize hcount : (if field.isSuppressed = true then 0 else digits.length) = count
  generalize hzeros : (if field.isSuppressed = true then 0 else field.precision - count) = zeros
  generalize hsigns : (if field.sign.isSome = true then 1 else 0) = signs
  have hsignsLe : signs ≤ 1 := by
    rw [← hsigns]
    split <;> omega
  have hcountLe : count ≤ digits.length := by
    rw [← hcount]
    split <;> omega
  have hzerosLe : zeros ≤ field.precision - count := by
    rw [← hzeros]
    split <;> omega
  have hbody : wordSum? count zeros = some (count + zeros) := wordSum?_eq_some (by omega)
  have htaken : wordSum? signs (count + zeros) = some (signs + (count + zeros)) :=
    wordSum?_eq_some (by omega)
  have hfill : wordSum? (field.width - (signs + (count + zeros))) zeros =
      some (field.width - (signs + (count + zeros)) + zeros) := wordSum?_eq_some (by omega)
  simp only [hbody, htaken, hfill, Option.bind_eq_bind, Option.bind_some, Option.pure_def]
  split
  · rfl
  · split <;> rfl

end Buffer

/-! ## Both kinds of fields -/

/-- Writing a field offers the bytes of its layout to the buffer, exactly as many as its width or
its parts ask for, and no sum on the way leaves a machine word. Writing a text takes no sum. -/
theorem fields_are_laid_out :
    (∀ (field : Field) (digits : Bytes), ∃ bytes, field.LaysOut digits bytes ∧
      (∀ buffer : Buffer, buffer.Offers bytes (buffer.putField field digits)) ∧
      (field.width < 2 ^ 32 → field.precision < 2 ^ 32 → digits.length < 2 ^ 63 →
        ∀ buffer : Buffer,
          buffer.putFieldInWords? field digits = some (buffer.putField field digits))) ∧
    (∀ (flags : Flags) (width : Nat) (text : Bytes), ∃ bytes,
      LaysOutText flags width text bytes ∧
      ∀ buffer : Buffer, buffer.Offers bytes (buffer.putPadded flags width text)) := by
  constructor
  · intro field digits
    refine ⟨field.layout digits, field.laysOut_layout digits, fun buffer => ?_, ?_⟩
    · rw [buffer.putField_eq_putAll]
      exact buffer.offers_putAll _
    · intro hwidth hprecision hdigits buffer
      exact buffer.putFieldInWords?_eq hwidth hprecision hdigits
  · intro flags width text
    refine ⟨paddedLayout flags width text, laysOutText_paddedLayout flags width text,
      fun buffer => ?_⟩
    rw [buffer.putPadded_eq_putAll]
    exact buffer.offers_putAll _

end BoundedFormat
