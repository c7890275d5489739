import BoundedFormat.Proofs.Numeral.Digits
import BoundedFormat.Proofs.Output.Layout
import BoundedFormat.Proofs.Plan.Stars
import BoundedFormat.Proofs.Template.Cutting

/-!
# Written integers read back

Whatever flags, width, precision and length modifier an integer conversion has, it writes spaces, at
most one byte of sign, digits and spaces again; the digits and the sign tell the number that the
conversion read from its argument. Which number this is and how it is written is a matter of the
letter (`IntegerLetter`). `WrittenInteger.Shows` says this of a field in parts,
`IntegerLetter.effect?_shows` says it of a letter and its argument, and
`integer_conversion_shows_argument` of every directive in every template.
-/

namespace BoundedFormat

/-! ## What is to be written -/

/-- A written integer, in parts. -/
structure WrittenInteger where
  /-- How many spaces stand in front. -/
  left : Nat
  sign : Option UInt8
  /-- The digits in reading order, zeros in front of the number included. -/
  digits : Bytes
  /-- How many spaces stand behind. -/
  right : Nat

/-- The bytes of a written integer. -/
def WrittenInteger.bytes (written : WrittenInteger) : Bytes :=
  spaces written.left ++ written.sign.toList ++ written.digits ++ spaces written.right

/-- How the letter of an integer conversion has a number written: as signed or not, and in which
radix. -/
inductive IntegerLetter : (letter : UInt8) → (signed : Bool) → (radix : Radix) → Prop
  /-- `d` -/
  | d : IntegerLetter 0x64 true .decimal
  /-- `i` -/
  | i : IntegerLetter 0x69 true .decimal
  /-- `u` -/
  | u : IntegerLetter 0x75 false .decimal
  /-- `x` -/
  | x : IntegerLetter 0x78 false .hexadecimal

/-- The number that is read from an integer at a width. -/
def Length.reads (length : Length) (signed : Bool) (x : Int) : Int :=
  if signed then length.readSigned x else length.readUnsigned x

/-- The sign of a number: minus when it is negative, and where it is written as signed and is not
negative, what the flags ask for. -/
def signOf? (signed : Bool) (flags : Flags) (v : Int) : Option UInt8 :=
  if v < 0 then some Ascii.minus
  else if signed = true ∧ flags.forceSign = true then some Ascii.plus
  else if signed = true ∧ flags.spaceSign = true then some Ascii.space
  else none

/-- A written integer shows the number `v` in the place that it is written to. -/
structure WrittenInteger.Shows (written : WrittenInteger) (signed : Bool) (radix : Radix)
    (place : Placement) (v : Int) : Prop where
  /-- Spaces stand on one side only. -/
  one_sided : written.left = 0 ∨ written.right = 0
  /-- They stand behind the number only where it is left-justified. -/
  right_eq_zero : place.flags.leftJustify = false → written.right = 0
  /-- The field is as wide as it has to be. -/
  width_le : place.width ≤ written.bytes.length
  /-- It is no wider where there are spaces. -/
  length_eq : 0 < written.left + written.right → written.bytes.length = place.width
  /-- The sign tells whether the number is negative. -/
  sign_eq : written.sign = signOf? signed place.flags v
  /-- The digits are digits of the radix. -/
  mem_alphabet : ∀ b ∈ written.digits, b ∈ radix.alphabet
  /-- They read as the number without its sign. -/
  value_eq : radix.value written.digits.reverse = v.natAbs
  /-- They are left out only for a zero with an explicit precision of zero. -/
  digits_eq_nil_iff : written.digits = [] ↔ v = 0 ∧ place.precision = some 0

/-! ## Numbers in a field -/

/-- The scratch cells have room for every word, so an integer has all digits of its value. -/
theorem integerDigits_eq (length : Length) (radix : Radix) (n : UInt64) :
    integerDigits length radix n = radix.digits (n.toNat % 2 ^ length.bits) := by
  have hpower : 2 ^ 64 ≤ radix.base ^ integerScratch := by cases radix <;> decide
  have hroom : ∀ m, m < 2 ^ 64 → (radix.digits m).length ≤ integerScratch := fun m hm =>
    radix.length_digits_le (by decide) (Nat.lt_of_lt_of_le hm hpower)
  have hlt := n.toNat_lt
  cases length with
  | native =>
    have hnarrow := n.toUInt32.toNat_lt
    rw [integerDigits, DigitRun.writeWord32_ofCapacity,
      DigitRun.digits_pushAll_ofCapacity (hroom _ (by omega)), UInt64.toNat_toUInt32]
    rfl
  | long | longLong =>
    rw [integerDigits, DigitRun.writeWord64_ofCapacity,
      DigitRun.digits_pushAll_ofCapacity (hroom _ hlt)]
    exact congrArg radix.digits (Nat.mod_eq_of_lt hlt).symm

namespace Placement

/-- The parts of an integer with magnitude `m` that is written to a place. -/
def written (place : Placement) (sign : Option UInt8) (radix : Radix) (m : Nat) :
    WrittenInteger :=
  let field := place.field sign (m == 0)
  let digits := radix.digits m
  { left := field.leftSpaces digits
    sign := sign
    digits := zeros (field.zeroFill digits) ++ field.body digits
    right := field.rightSpaces digits }

variable (place : Placement) (sign : Option UInt8) (radix : Radix) (m : Nat)

/-- The parts together are the field. -/
theorem bytes_written :
    (place.written sign radix m).bytes =
      (place.field sign (m == 0)).layout (radix.digits m) :=
  (Field.layout_eq _ _).symm

/-- The digits are left out for a zero with an explicit precision of zero. -/
theorem isSuppressed_field_iff :
    (place.field sign (m == 0)).isSuppressed = true ↔ m = 0 ∧ place.precision = some 0 := by
  rw [Field.isSuppressed_eq_true_iff]
  rcases hprecision : place.precision with _ | n
  · simp [field, hprecision]
  · simp [field, hprecision, and_comm]

/-- The digits of a written integer. -/
theorem digits_written :
    (place.written sign radix m).digits =
      if (place.field sign (m == 0)).isSuppressed then []
      else zeros ((place.field sign (m == 0)).zeroFill (radix.digits m) +
        (place.precision.getD 0 - (radix.digits m).length)) ++ (radix.digits m).reverse :=
  Field.zeros_append_body _ _

/-- Digits are written in the alphabet of their radix. -/
theorem mem_alphabet_of_mem_written {b : UInt8} (h : b ∈ (place.written sign radix m).digits) :
    b ∈ radix.alphabet := by
  rw [digits_written] at h
  split at h
  · exact absurd h List.not_mem_nil
  · obtain hzero | hdigit := List.mem_append.1 h
    · rw [List.eq_of_mem_replicate hzero]
      cases radix <;> decide
    · exact Radix.mem_alphabet_of_mem_digits (List.mem_reverse.1 hdigit)

/-- Digits read as the magnitude they were written for. -/
theorem value_reverse_written :
    radix.value (place.written sign radix m).digits.reverse = m := by
  rw [digits_written]
  split
  · next h =>
    obtain ⟨rfl, -⟩ := (place.isSuppressed_field_iff sign m).1 h
    rfl
  · rw [zeros, Radix.value_reverse_zeros_append, Radix.value_digits]

/-- There are no digits exactly for a zero with an explicit precision of zero. -/
theorem digits_written_eq_nil_iff :
    (place.written sign radix m).digits = [] ↔ m = 0 ∧ place.precision = some 0 := by
  rw [digits_written, ← place.isSuppressed_field_iff sign m]
  split
  · next h => exact ⟨fun _ => h, fun _ => rfl⟩
  · next h =>
    refine ⟨fun hnil => ?_, fun hsuppressed => absurd hsuppressed h⟩
    have hreverse := (List.append_eq_nil_iff.1 hnil).2
    exact absurd (List.reverse_eq_nil_iff.1 hreverse) (radix.digits_ne_nil m)

/-- An integer that is written to a place shows there. -/
theorem written_shows {signed : Bool} {v : Int} (hm : v.natAbs = m)
    (hsign : sign = signOf? signed place.flags v) :
    (place.written sign radix m).Shows signed radix place v := by
  have hlength := (place.field sign (m == 0)).length_layout (radix.digits m)
  rw [← bytes_written] at hlength
  refine ⟨?_, fun hflag => Field.rightSpaces_of_not_leftJustify _ hflag, ?_, fun hspaces => ?_,
    hsign, fun b => place.mem_alphabet_of_mem_written sign radix m, ?_, ?_⟩
  · -- The flag says on which side the spaces stand.
    by_cases hflag : place.flags.leftJustify = true
    · exact .inl (Field.leftSpaces_of_leftJustify _ hflag)
    · exact .inr (Field.rightSpaces_of_not_leftJustify _ (eq_false_of_ne_true hflag))
  · rw [hlength]
    exact Nat.le_max_left ..
  · -- Spaces come from the shortfall only, which there is only below the width.
    have hparts := (place.field sign (m == 0)).leftSpaces_add_zeroFill_add_rightSpaces
      (radix.digits m)
    rw [Field.shortfall, List.length_append] at hparts
    have hshort : 0 < (place.field sign (m == 0)).leftSpaces (radix.digits m) +
      (place.field sign (m == 0)).rightSpaces (radix.digits m) := hspaces
    show _ = (place.field sign (m == 0)).width
    omega
  · rw [value_reverse_written, hm]
  · rw [digits_written_eq_nil_iff, ← hm, Int.natAbs_eq_zero]

/-- A signed decimal is written with its sign and its magnitude. -/
theorem bytes_signedDecimal (length : Length) {n : Int64}
    (h : n.toInt.natAbs < 2 ^ length.bits) :
    (place.signedDecimal length n).bytes =
      (place.written (signByte? (n < 0) place.flags) .decimal n.toInt.natAbs).bytes := by
  have hbits : 2 ^ length.bits ≤ 2 ^ 64 := by cases length <;> decide
  -- The magnitude of the least number has no signed word of its width, but an unsigned one.
  have hmagnitude : (UInt64.ofNat n.toInt.natAbs).toNat = n.toInt.natAbs :=
    UInt64.toNat_ofNat_of_lt' (Nat.lt_of_lt_of_le h hbits)
  have hzero : (UInt64.ofNat n.toInt.natAbs == 0) = (n.toInt.natAbs == 0) := by
    rw [Bool.eq_iff_iff, beq_iff_eq, beq_iff_eq, ← UInt64.toNat_inj, hmagnitude]
    rfl
  rw [bytes_written, signedDecimal, Emission.bytes, hzero, integerDigits_eq, hmagnitude,
    Nat.mod_eq_of_lt h]

/-- An unsigned number is written without a sign. -/
theorem bytes_unsigned (length : Length) {n : UInt64} (h : n.toNat < 2 ^ length.bits) :
    (place.unsigned length radix n).bytes = (place.written none radix n.toNat).bytes := by
  have hzero : (n == 0) = (n.toNat == 0) := by
    rw [Bool.eq_iff_iff, beq_iff_eq, beq_iff_eq, ← UInt64.toNat_inj]
    rfl
  rw [bytes_written, unsigned, Emission.bytes, hzero, integerDigits_eq, Nat.mod_eq_of_lt h]

end Placement

/-! ## Letters and their arguments -/

/-- A number without a sign that is not written as signed has none. -/
theorem signOf?_false (flags : Flags) {v : Int} (hv : 0 ≤ v) : signOf? false flags v = none := by
  have hunsigned (flag : Prop) : ¬(false = true ∧ flag) := fun h => nomatch h.1
  rw [signOf?, if_neg (Int.not_lt.2 hv), if_neg (hunsigned _), if_neg (hunsigned _)]

/-- The sign of a number that is written as signed. -/
theorem signOf?_true (flags : Flags) (n : Int64) :
    signOf? true flags n.toInt = signByte? (n < 0) flags := by
  rw [signOf?, signByte?]
  simp only [Int64.lt_iff_toInt_lt, Int64.toInt_zero, decide_eq_true_eq, true_and]

section

variable (place : Placement) (length : Length) {argument : Argument} {x : Int}
  (hinteger : argument.integer? = some x)
include hinteger

/-- What a signed decimal writes shows the number that it reads as signed. -/
theorem Conversion.effect?_signedDecimal_shows :
    ∃ effect written, signedDecimal.effect? place length argument = some effect ∧
      effect.bytes = WrittenInteger.bytes written ∧
      written.Shows true .decimal place (length.reads true x) := by
  obtain ⟨n, hn, hvalue⟩ := Argument.signed?_of_integer? length hinteger
  have hfits : n.toInt.natAbs < 2 ^ length.bits := hvalue ▸ length.natAbs_readSigned_lt x
  refine ⟨.write (place.signedDecimal length n), _, ?_, place.bytes_signedDecimal length hfits, ?_⟩
  · rw [effect?, hn]
    rfl
  · rw [Length.reads, if_pos rfl, ← hvalue]
    exact place.written_shows _ _ _ rfl (signOf?_true _ _).symm

/-- What a conversion writes of a number without a sign shows the number that it reads as such. -/
theorem Conversion.effect?_unsigned_shows {conversion : Conversion} {radix : Radix}
    (hunsigned : conversion.effect? place length argument =
      (argument.unsigned? length).map fun n => .write (place.unsigned length radix n)) :
    ∃ effect written, conversion.effect? place length argument = some effect ∧
      effect.bytes = WrittenInteger.bytes written ∧
      written.Shows false radix place (length.reads false x) := by
  obtain ⟨n, hn, hvalue⟩ := Argument.unsigned?_of_integer? length hinteger
  have hfits : n.toNat < 2 ^ length.bits := by
    have hread := length.natAbs_readUnsigned_lt x
    rwa [← hvalue, Int.natAbs_natCast] at hread
  refine ⟨.write (place.unsigned length radix n), _, ?_,
    place.bytes_unsigned radix length hfits, ?_⟩
  · rw [hunsigned, hn]
    rfl
  · rw [Length.reads, if_neg Bool.false_ne_true, ← hvalue]
    exact place.written_shows _ _ _ rfl (signOf?_false _ (Int.natCast_nonneg _)).symm

/-- A letter of an integer conversion takes every integer-like argument, and what it writes shows
the number that it reads. -/
theorem IntegerLetter.effect?_shows {letter : UInt8} {signed : Bool} {radix : Radix}
    (hletter : IntegerLetter letter signed radix) :
    ∃ effect written, (Conversion.ofByte letter).effect? place length argument = some effect ∧
      effect.bytes = WrittenInteger.bytes written ∧
      written.Shows signed radix place (length.reads signed x) := by
  cases hletter with
  | d | i =>
    rw [Conversion.ofByte_of_mem_letters (show _ ∈ Conversion.signedDecimal.letters by decide)]
    exact Conversion.effect?_signedDecimal_shows place length hinteger
  | u =>
    rw [Conversion.ofByte_of_mem_letters (show _ ∈ Conversion.unsignedDecimal.letters by decide)]
    exact Conversion.effect?_unsigned_shows place length hinteger rfl
  | x =>
    rw [Conversion.ofByte_of_mem_letters (show _ ∈ Conversion.hexadecimal.letters by decide)]
    exact Conversion.effect?_unsigned_shows place length hinteger rfl

end

/-! ## Integers in the output -/

/-- An integer conversion anywhere in a template, with an argument in its slot that stands for an
integer, writes a field that shows the number it reads from that integer: as a signed decimal if its
letter is `d` or `i`, without a sign in decimal if it is `u`, and in hexadecimal if it is `x`. The
place of the field is that of the directive, with the numbers that its stars find in the slots in
front. -/
theorem integer_conversion_shows_argument (template : Bytes) (arguments : List Argument) {i : Nat}
    {spelling : Spelling} {letter : UInt8} {signed : Bool} {radix : Radix} {argument : Argument}
    {x : Int} (hsegment : (segments template)[i]? = some (.directive spelling))
    (hspelled : spelling.letter = some letter) (hletter : IntegerLetter letter signed radix)
    (hargument : arguments[firstSlot (segments template) i + spelling.directive.stars]? =
      some argument)
    (hcarries : Carries argument x) :
    let directive := spelling.directive
    let effects := (plan template arguments).value
    ∃ written : WrittenInteger,
      output template arguments =
          (effects.take i).flatMap Effect.bytes ++ written.bytes ++
            (effects.drop (i + 1)).flatMap Effect.bytes ∧
        written.Shows signed radix
          (directive.place (arguments.drop (firstSlot (segments template) i)))
          (if signed then directive.length.readSigned x else directive.length.readUnsigned x) := by
  intro directive effects
  have hconversion : directive.conversion = Conversion.ofByte letter := by
    show spelling.letter.elim _ _ = _
    rw [hspelled]
    rfl
  obtain ⟨effect, written, htake, hbytes, hshows⟩ := hletter.effect?_shows
    (directive.place (arguments.drop (firstSlot (segments template) i))) directive.length
    hcarries.integer?_eq
  refine ⟨written, ?_, hshows⟩
  rw [← hbytes]
  rw [← hconversion] at htake
  exact output_eq_of_effect? template arguments hsegment hargument htake

/-- The least number of 64 bits behind a text, by each of the four letters, in a field whose width
and precision come from the arguments: `%s%+0*.*ld` and its likes, with the width -24 and the
precision 21. The letters `u` and `x` read it as `2 ^ 63`, and write no sign. -/
theorem integer_conversion_shows_least_number :
    let template (letter : UInt8) := utf8 "%s%+0*.*l" ++ [letter]
    let spelling (letter : UInt8) : Spelling :=
      ⟨[Ascii.plus, Ascii.zero], .star, some .star, .long, some letter⟩
    let least : HostInteger := .int64 Int64.minValue
    let arguments : List Argument := [.text (utf8 "x"), .int32 (-24), .uint64 21, least.argument]
    let place : Placement :=
      ⟨{ zeroPad := true, leftJustify := true, forceSign := true }, 24, some 21⟩
    let shows (letter : UInt8) (signed : Bool) (radix : Radix) (v : Int) : Prop :=
      (segments (template letter))[1]? = some (.directive (spelling letter)) ∧
        IntegerLetter letter signed radix ∧
        ∃ written : WrittenInteger,
          output (template letter) arguments = utf8 "x" ++ written.bytes ∧
            written.Shows signed radix place v
    arguments[3]? = some least.argument ∧ Carries least.argument (-9223372036854775808) ∧
      shows 0x64 true .decimal (-9223372036854775808) ∧
      shows 0x69 true .decimal (-9223372036854775808) ∧
      shows 0x75 false .decimal 9223372036854775808 ∧
      shows 0x78 false .hexadecimal 9223372036854775808 := by
  intro template spelling least arguments place shows
  have hcarries : Carries least.argument (-9223372036854775808) := .host least
  have hread {letter : UInt8} {signed : Bool} {radix : Radix}
      (hletter : IntegerLetter letter signed radix) :
      shows letter signed radix
        (if signed then -9223372036854775808 else 9223372036854775808) := by
    have hsegments : segments (template letter) =
        [.directive ⟨[], .digits [], none, .native, some 0x73⟩, .directive (spelling letter)] := by
      rw [segments_eq_cutWithin]
      cases hletter <;> rfl
    have hsegment : (segments (template letter))[1]? = some (.directive (spelling letter)) := by
      rw [hsegments]
      rfl
    have hslot : firstSlot (segments (template letter)) 1 = 1 := by
      rw [hsegments]
      rfl
    have hargument : arguments[firstSlot (segments (template letter)) 1 +
        (spelling letter).directive.stars]? = some least.argument := by
      rw [hslot]
      rfl
    obtain ⟨written, houtput, hshows⟩ := integer_conversion_shows_argument (template letter)
      arguments hsegment rfl hletter hargument hcarries
    have hplace : (spelling letter).directive.place (arguments.drop 1) = place := rfl
    have hnumber : (if signed then Length.long.readSigned (-9223372036854775808)
        else Length.long.readUnsigned (-9223372036854775808)) =
          if signed then -9223372036854775808 else 9223372036854775808 := by
      cases signed <;> decide
    have hfront : ((plan (template letter) arguments).value.take 1).flatMap Effect.bytes =
        utf8 "x" := by
      rw [plan, hsegments]
      rfl
    have hback : (plan (template letter) arguments).value.drop 2 = [] := by
      rw [plan, hsegments]
      rfl
    rw [hslot, hplace] at hshows
    refine ⟨hsegment, hletter, written, ?_, hnumber ▸ hshows⟩
    rw [houtput, hfront, hback, List.flatMap_nil, List.append_nil]
  exact ⟨rfl, hcarries, hread .d, hread .i, hread .u, hread .x⟩

end BoundedFormat
