import BoundedFormat.Output.Field

/-!
# One form for every layout

The three layouts of a numeric field differ only in where they put what is missing to the width:
spaces in front, zeros behind the sign, or spaces at the end. `layout_eq` writes them as one row of
parts, of which the other two are empty, so a fact about numeric fields has one case.
-/

namespace BoundedFormat

/-- Other flags fill a field as these do: on the same side and, where the zero flag counts, with
zeros if these do. -/
structure Flags.FillsAlike (counts : Prop) (flags other : Flags) : Prop where
  leftJustify_eq : other.leftJustify = flags.leftJustify
  /-- A field that is left-justified has no zeros in front. -/
  zeroPad_eq : counts → flags.leftJustify = true ∨ other.zeroPad = flags.zeroPad

/-- The zero flag need not count where it counted before. -/
theorem Flags.FillsAlike.imp {former latter : Prop} {flags other : Flags}
    (h : flags.FillsAlike former other) (hcounts : latter → former) :
    flags.FillsAlike latter other :=
  ⟨h.leftJustify_eq, fun hlatter => h.zeroPad_eq (hcounts hlatter)⟩

@[simp]
theorem length_spaces (n : Nat) : (spaces n).length = n := List.length_replicate

@[simp]
theorem length_zeros (n : Nat) : (zeros n).length = n := List.length_replicate

namespace Field

/-- Are zeros written up to the width? -/
def fillsWithZeros (field : Field) : Bool :=
  !field.flags.leftJustify && (field.flags.zeroPad && !field.precisionGiven)

/-- How many spaces stand in front. -/
def leftSpaces (field : Field) (digits : Bytes) : Nat :=
  if field.flags.leftJustify || field.fillsWithZeros then 0 else field.shortfall digits

/-- How many zeros fill the field up to the width. -/
def zeroFill (field : Field) (digits : Bytes) : Nat :=
  if field.fillsWithZeros then field.shortfall digits else 0

/-- How many spaces stand at the end. -/
def rightSpaces (field : Field) (digits : Bytes) : Nat :=
  if field.flags.leftJustify then field.shortfall digits else 0

/-- Every layout is spaces, the sign, zeros, the body and spaces. -/
theorem layout_eq (field : Field) (digits : Bytes) :
    field.layout digits = spaces (field.leftSpaces digits) ++ field.sign.toList ++
      (zeros (field.zeroFill digits) ++ field.body digits) ++
        spaces (field.rightSpaces digits) := by
  rw [layout, leftSpaces, zeroFill, rightSpaces, fillsWithZeros]
  rcases field.flags.leftJustify with _ | _
  · rcases field.flags.zeroPad && !field.precisionGiven with _ | _ <;> simp [spaces, zeros]
  · simp [spaces, zeros]

/-- What is missing to the width goes to one of the three places. -/
theorem leftSpaces_add_zeroFill_add_rightSpaces (field : Field) (digits : Bytes) :
    field.leftSpaces digits + field.zeroFill digits + field.rightSpaces digits =
      field.shortfall digits := by
  rw [leftSpaces, zeroFill, rightSpaces, fillsWithZeros]
  rcases field.flags.leftJustify with _ | _
  · rcases field.flags.zeroPad && !field.precisionGiven with _ | _ <;> simp
  · simp

/-- A field is as long as its width, or as its sign and body where these are longer. -/
theorem length_layout (field : Field) (digits : Bytes) :
    (field.layout digits).length =
      max field.width (field.sign.toList.length + (field.body digits).length) := by
  have hparts := field.leftSpaces_add_zeroFill_add_rightSpaces digits
  have hshortfall : field.shortfall digits =
      field.width - (field.sign.toList.length + (field.body digits).length) := by
    rw [shortfall, List.length_append]
  rw [layout_eq]
  simp only [List.length_append, length_spaces, length_zeros]
  omega

/-- A field that is left-justified has no spaces in front. -/
theorem leftSpaces_of_leftJustify {field : Field} (digits : Bytes)
    (h : field.flags.leftJustify = true) : field.leftSpaces digits = 0 := by
  rw [leftSpaces, h, Bool.true_or, if_pos rfl]

/-- A field that is not left-justified has no spaces at the end. -/
theorem rightSpaces_of_not_leftJustify {field : Field} (digits : Bytes)
    (h : field.flags.leftJustify = false) : field.rightSpaces digits = 0 := by
  rw [rightSpaces, h]
  rfl

/-- The digits are left out exactly for a zero with an explicit precision of zero. -/
theorem isSuppressed_eq_true_iff (field : Field) :
    field.isSuppressed = true ↔
      field.precisionGiven = true ∧ field.precision = 0 ∧ field.isZero = true := by
  simp only [isSuppressed, Bool.and_eq_true, beq_iff_eq, and_assoc]

/-- Behind the sign stand zeros and the digits, or nothing where the digits are left out: such a
field has an explicit precision, so no zeros fill it. -/
theorem zeros_append_body (field : Field) (digits : Bytes) :
    zeros (field.zeroFill digits) ++ field.body digits =
      if field.isSuppressed then []
      else zeros (field.zeroFill digits + (field.precision - digits.length)) ++
        digits.reverse := by
  rw [body]
  split
  · next h =>
    obtain ⟨hgiven, -, -⟩ := field.isSuppressed_eq_true_iff.1 h
    rw [zeroFill, fillsWithZeros, hgiven, Bool.not_true, Bool.and_false, Bool.and_false]
    rfl
  · rw [zeros, zeros, zeros, ← List.append_assoc, List.replicate_append_replicate]

/-- A field whose sign and body reach the width is not filled. -/
theorem layout_of_width_le {field : Field} {digits : Bytes}
    (h : field.width ≤ (field.sign.toList ++ field.body digits).length) :
    field.layout digits = field.sign.toList ++ field.body digits := by
  have hshortfall : field.shortfall digits = 0 := Nat.sub_eq_zero_of_le h
  have hspaces : spaces 0 = [] := rfl
  have hzeros : zeros 0 = [] := rfl
  rw [layout]
  simp only [hshortfall, hspaces, hzeros, List.append_nil, List.nil_append, ite_self]

/-- Other flags make no difference to a field that is not filled, nor if they fill it alike. -/
theorem layout_withFlags {field : Field} {digits : Bytes} {flags : Flags}
    (h : field.width ≤ (field.sign.toList ++ field.body digits).length ∨
      field.flags.FillsAlike (field.precisionGiven = false) flags) :
    { field with flags := flags }.layout digits = field.layout digits := by
  obtain hfull | ⟨hleft, hzero⟩ := h
  · rw [layout_of_width_le hfull]
    exact layout_of_width_le hfull
  · have hfills : { field with flags := flags }.fillsWithZeros = field.fillsWithZeros := by
      rw [fillsWithZeros, fillsWithZeros, hleft]
      rcases hgiven : field.precisionGiven with _ | _
      · obtain hjustify | hzero := hzero hgiven
        · rw [hjustify]
          rfl
        · rw [hzero]
      · simp only [Bool.not_true, Bool.and_false]
    simp only [layout_eq, leftSpaces, zeroFill, rightSpaces, hfills, hleft]
    rfl

/-- Without a precision the body is the digits. -/
theorem body_of_no_precision {field : Field}
    (h : field.precisionGiven = false ∧ field.precision = 0) (digits : Bytes) :
    field.body digits = digits.reverse := by
  rw [body, isSuppressed, h.1, h.2, Nat.zero_sub]
  rfl

/-- A field without sign, precision and filling is laid out as a text is. -/
theorem layout_eq_paddedLayout {field : Field} (hsign : field.sign = none)
    (hprecision : field.precisionGiven = false ∧ field.precision = 0)
    (hfill : field.flags.zeroPad = false) (digits : Bytes) :
    field.layout digits = paddedLayout field.flags field.width digits.reverse := by
  have hbody := body_of_no_precision hprecision digits
  have hshortfall : field.shortfall digits = field.width - digits.reverse.length := by
    rw [shortfall, hsign, hbody]
    rfl
  simp only [layout, paddedLayout, hsign, hbody, hshortfall, hfill, Option.toList_none,
    List.nil_append, List.append_nil, Bool.false_and, Bool.false_eq_true, if_false]

end Field

/-- Other flags make no difference to a text that reaches the width, nor if they pad it on the same
side. -/
theorem paddedLayout_withFlags {flags other : Flags} {width : Nat} {text : Bytes}
    (h : width ≤ text.length ∨ other.leftJustify = flags.leftJustify) :
    paddedLayout other width text = paddedLayout flags width text := by
  obtain hfull | hleft := h
  · have hrest : spaces (width - text.length) = [] := by
      rw [Nat.sub_eq_zero_of_le hfull]
      rfl
    simp only [paddedLayout, hrest, List.append_nil, List.nil_append, ite_self]
  · rw [paddedLayout, paddedLayout, hleft]

end BoundedFormat
