import BoundedFormat.Proofs.Numeral.Canonical
import BoundedFormat.Proofs.Numeral.FixedPoint
import BoundedFormat.Proofs.Output.Layout
import BoundedFormat.Proofs.Plan.Stars
import BoundedFormat.Proofs.Template.Cutting

/-!
# The shape of written fixed-point numbers

Every floating-point value, not-a-number and the infinities among them, is written as spaces, at
most one byte of sign, zeros that fill the field, the integer part, the fraction and spaces again.
The integer part is the canonical numeral of the value cut off at the point, whatever the precision;
the fraction is the point and as many digits as the precision asks for, up to `maxPlaces`.
`WrittenFixedPoint.Shows` says this of a field in parts, `Placement.written_shows_fixedPoint` of
what a value is written as, and `fixedPoint_conversion_shows_argument` of every directive in every
template.
-/

namespace BoundedFormat

/-! ## What is to be written -/

/-- The value without its sign. Negative zero and not-a-number are not below zero, and stay. -/
def magnitude (x : Float) : Float := if x < 0 then -x else x

/-- How many places are asked for behind the point. -/
def Placement.places (place : Placement) : Nat := place.precision.getD 6

/-- A written fixed-point number, in parts. -/
structure WrittenFixedPoint where
  /-- How many spaces stand in front. -/
  left : Nat
  sign : Option UInt8
  /-- How many zeros fill the field up to its width. -/
  fill : Nat
  /-- The integer part in reading order. -/
  whole : Bytes
  /-- The point and the digits behind it. -/
  fraction : Bytes
  /-- How many spaces stand behind. -/
  right : Nat

namespace WrittenFixedPoint

/-- The bytes of a written fixed-point number. -/
def bytes (written : WrittenFixedPoint) : Bytes :=
  spaces written.left ++ written.sign.toList ++ zeros written.fill ++
    (written.whole ++ written.fraction) ++ spaces written.right

/-- A written fixed-point number shows the value `x` in the place that it is written to. -/
structure Shows (written : WrittenFixedPoint) (place : Placement) (x : Float) : Prop where
  /-- Spaces stand in front only of a number that is neither left-justified nor filled up. -/
  left_eq_zero : place.flags.leftJustify = true ∨ place.flags.zeroPad = true → written.left = 0
  /-- They stand behind it only where it is left-justified. -/
  right_eq_zero : place.flags.leftJustify = false → written.right = 0
  /-- Only the zero flag fills a field, and only where it is not left-justified. -/
  fill_eq_zero : place.flags.zeroPad = false ∨ place.flags.leftJustify = true → written.fill = 0
  /-- The field is as wide as it has to be, and no wider. -/
  length_eq : written.bytes.length = max place.width
    (written.sign.toList.length + (written.whole ++ written.fraction).length)
  /-- A minus sign stands in front of a value below zero only. -/
  sign_eq_minus_iff : written.sign = some Ascii.minus ↔ x < 0
  /-- The sign of any other value is what the flags ask for. -/
  sign_eq : ¬ x < 0 → written.sign =
    if place.flags.forceSign then some Ascii.plus
    else if place.flags.spaceSign then some Ascii.space
    else none
  /-- The integer part is the numeral of the value cut off at the point. -/
  whole_isNumeral : Radix.decimal.IsNumeral written.whole (magnitude x).toUInt64.toNat
  /-- Without places there is no fraction. -/
  fraction_eq_nil : place.places = 0 → written.fraction = []
  /-- With places there are the point and as many decimal digits, but no more than nineteen. -/
  fraction_eq : place.places ≠ 0 → ∃ digits, written.fraction = Ascii.point :: digits ∧
    digits.length = min place.places 19 ∧ ∀ b ∈ digits, b ∈ Radix.decimal.alphabet

end WrittenFixedPoint

/-! ## Values in a field -/

/-- The scratch cells hold every value whole. -/
theorem digits_writeFloat_fixedPointScratch (value : Float) (precision : Nat) :
    ((DigitRun.ofCapacity fixedPointScratch).writeFloat value precision).digits =
      floatRun value precision :=
  DigitRun.digits_writeFloat (by decide) value precision

namespace Placement

variable (place : Placement) (x : Float)

/-- The field that a value is written to; it leaves the precision to the digits. -/
def fixedPointField : Field :=
  { place with precision := none }.field (signByte? (x < 0) place.flags) false

/-- The parts of a value that is written to a place. -/
def writtenFixedPoint : WrittenFixedPoint :=
  let run := floatRun (magnitude x) place.places
  let whole := (magnitude x).toUInt64
  { left := (place.fixedPointField x).leftSpaces run
    sign := signByte? (x < 0) place.flags
    fill := (place.fixedPointField x).zeroFill run
    whole := (Radix.decimal.digits whole.toNat).reverse
    fraction := (fractionRun (magnitude x - whole.toFloat) place.places).reverse
    right := (place.fixedPointField x).rightSpaces run }

/-- Integer part and fraction together are the run read backwards. -/
theorem whole_append_fraction_writtenFixedPoint :
    (place.writtenFixedPoint x).whole ++ (place.writtenFixedPoint x).fraction =
      (floatRun (magnitude x) place.places).reverse := by
  rw [floatRun, List.reverse_append]
  rfl

/-- A value is laid out in its field as its whole run. -/
theorem bytes_fixedPoint_eq_layout :
    (place.fixedPoint x).bytes =
      (place.fixedPointField x).layout (floatRun (magnitude x) place.places) := by
  have hmagnitude : (if decide (x < 0) = true then -x else x) = magnitude x := by
    rw [magnitude]
    simp only [decide_eq_true_eq]
  rw [← digits_writeFloat_fixedPointScratch, ← hmagnitude]
  rfl

/-- What stands behind the sign is the filling and the run; digits are never left out. -/
theorem zeros_append_body_fixedPointField (digits : Bytes) :
    zeros ((place.fixedPointField x).zeroFill digits) ++ (place.fixedPointField x).body digits =
      zeros ((place.fixedPointField x).zeroFill digits) ++ digits.reverse := by
  have hbody : (place.fixedPointField x).body digits =
      zeros (0 - digits.length) ++ digits.reverse := rfl
  rw [hbody, Nat.zero_sub]
  rfl

/-- The parts together are what is written. -/
theorem bytes_fixedPoint :
    (place.fixedPoint x).bytes = (place.writtenFixedPoint x).bytes := by
  rw [bytes_fixedPoint_eq_layout, Field.layout_eq, zeros_append_body_fixedPointField,
    WrittenFixedPoint.bytes, whole_append_fraction_writtenFixedPoint, ← List.append_assoc]
  rfl

/-- The places behind the point, without and with any. -/
theorem fraction_writtenFixedPoint :
    (place.writtenFixedPoint x).fraction =
      if place.places = 0 then []
      else Ascii.point ::
        fractionDigits (magnitude x - (magnitude x).toUInt64.toFloat) place.places := by
  rw [writtenFixedPoint]
  split
  · next h => rw [h, fractionRun_zero, List.reverse_nil]
  · next h => rw [reverse_fractionRun _ h]

/-- What a value is written as shows it. -/
theorem writtenFixedPoint_shows : (place.writtenFixedPoint x).Shows place x := by
  have hfraction := place.fraction_writtenFixedPoint x
  have hlength := (place.fixedPointField x).length_layout (floatRun (magnitude x) place.places)
  rw [← bytes_fixedPoint_eq_layout, bytes_fixedPoint] at hlength
  refine ⟨fun hflag => ?_, fun hflag => Field.rightSpaces_of_not_leftJustify _ hflag,
    fun hflag => ?_, ?_, ?_, fun hneg => ?_, Radix.isNumeral_iff.2 rfl, fun h => ?_, fun h => ?_⟩
  · show (place.fixedPointField x).leftSpaces _ = 0
    rw [Field.leftSpaces, Field.fillsWithZeros]
    rcases hflag with h | h <;> simp [fixedPointField, field, h]
  · show (place.fixedPointField x).zeroFill _ = 0
    rw [Field.zeroFill, Field.fillsWithZeros]
    rcases hflag with h | h <;> simp [fixedPointField, field, h]
  · rw [hlength, whole_append_fraction_writtenFixedPoint]
    simp [fixedPointField, field, Field.body, Field.isSuppressed, writtenFixedPoint, zeros]
  · show signByte? (x < 0) place.flags = some Ascii.minus ↔ x < 0
    rw [signByte?]
    by_cases hneg : x < 0
    · simp [hneg]
    · simp only [hneg, decide_false, Bool.false_eq_true, if_false, iff_false]
      repeat' split
      all_goals decide
  · show signByte? (x < 0) place.flags = _
    rw [signByte?, if_neg (by simpa using hneg)]
  · rw [hfraction, if_pos h]
  · rw [if_neg h] at hfraction
    exact ⟨_, hfraction, length_fractionDigits _ h,
      fun b => mem_alphabet_of_mem_fractionDigits _⟩

/-- More places than are worked out change nothing in what is written. -/
theorem writtenFixedPoint_of_maxPlaces_le {other : Placement} (hflags : other.flags = place.flags)
    (hwidth : other.width = place.width) (h : maxPlaces ≤ place.places)
    (hother : maxPlaces ≤ other.places) :
    other.writtenFixedPoint x = place.writtenFixedPoint x := by
  simp only [writtenFixedPoint, fixedPointField, field, floatRun, hflags, hwidth,
    fractionRun_of_maxPlaces_le _ h, fractionRun_of_maxPlaces_le _ hother]

end Placement

/-! ## Fixed-point numbers in the output -/

/-- A fixed-point conversion anywhere in a template, with a floating-point value in its slot, writes
a field that shows the value, none of it lost in the scratch cells. With another precision, given in
the template or in the arguments, it shows the same integer part, and from nineteen places on it
writes the same bytes. -/
theorem fixedPoint_conversion_shows_argument (template : Bytes) (arguments : List Argument)
    {i : Nat} {spelling : Spelling} {x : Float}
    (hsegment : (segments template)[i]? = some (.directive spelling))
    (hconversion : spelling.directive.conversion = .fixedPoint)
    (hargument : arguments[firstSlot (segments template) i + spelling.directive.stars]? =
      some (.float x)) :
    let effects := (plan template arguments).value
    let place := spelling.directive.place (arguments.drop (firstSlot (segments template) i))
    ∃ written : WrittenFixedPoint,
      output template arguments =
          (effects.take i).flatMap Effect.bytes ++ written.bytes ++
            (effects.drop (i + 1)).flatMap Effect.bytes ∧
        written.Shows place x ∧
        ((DigitRun.ofCapacity fixedPointScratch).writeFloat (magnitude x) place.places).reading =
          written.whole ++ written.fraction ∧
        ∀ precision : Option Nat,
          let other := { place with precision := precision }
          ∃ rewritten : WrittenFixedPoint,
            (other.fixedPoint x).bytes = rewritten.bytes ∧ rewritten.Shows other x ∧
              rewritten.whole = written.whole ∧
              (19 ≤ place.places → 19 ≤ other.places → rewritten = written) := by
  intro effects place
  have heffect : spelling.directive.conversion.effect? place spelling.directive.length (.float x) =
      some (.write (place.fixedPoint x)) := by
    rw [hconversion]
    rfl
  have houtput := output_eq_of_effect? template arguments hsegment hargument heffect
  refine ⟨place.writtenFixedPoint x, ?_, place.writtenFixedPoint_shows x, ?_,
    fun precision => ⟨_, Placement.bytes_fixedPoint _ x, Placement.writtenFixedPoint_shows _ x, rfl,
      fun h hother => place.writtenFixedPoint_of_maxPlaces_le x rfl rfl h hother⟩⟩
  · rw [houtput, Effect.bytes, Placement.bytes_fixedPoint]
  · rw [DigitRun.reading, digits_writeFloat_fixedPointScratch,
      Placement.whole_append_fraction_writtenFixedPoint]

/-- The law where a carry is held back and the zero flag fills the field: `%s%+0*.*f` with the width
12, the precision 3 and the value 9.9996. -/
theorem fixedPoint_conversion_shows_held_carry :
    let template := utf8 "%s%+0*.*f"
    let spelling : Spelling := ⟨[Ascii.plus, Ascii.zero], .star, some .star, .native, some 0x66⟩
    let arguments : List Argument := [.text (utf8 "x"), .int32 12, .int32 3, .float 9.9996]
    (segments template)[1]? = some (.directive spelling) ∧
      spelling.directive.conversion = .fixedPoint ∧
      arguments[3]? = some (.float 9.9996) ∧
      output template arguments = utf8 "x+0000009.999" := by
  intro template spelling arguments
  have hsegments : segments template =
      [.directive ⟨[], .digits [], none, .native, some 0x73⟩, .directive spelling] := by
    rw [segments_eq_cutWithin]
    rfl
  have hsegment : (segments template)[1]? = some (.directive spelling) := by
    rw [hsegments]
    rfl
  have hslot : firstSlot (segments template) 1 = 1 := by
    rw [hsegments]
    rfl
  have hargument : arguments[firstSlot (segments template) 1 + spelling.directive.stars]? =
      some (.float 9.9996) := by
    rw [hslot]
    rfl
  obtain ⟨written, houtput, hshows, hscratch, -⟩ :=
    fixedPoint_conversion_shows_argument template arguments hsegment rfl hargument
  have hplace : spelling.directive.place (arguments.drop 1) =
      ⟨{ zeroPad := true, forceSign := true }, 12, some 3⟩ := by decide
  rw [hslot, hplace] at hshows hscratch
  have hfront : ((plan template arguments).value.take 1).flatMap Effect.bytes = utf8 "x" := by
    rw [plan, hsegments]
    rfl
  have hback : (plan template arguments).value.drop 2 = [] := by
    rw [plan, hsegments]
    rfl
  have hrun : floatRun (magnitude 9.9996) 3 = (utf8 "9.999").reverse := by decide +kernel
  have hnumber : written.whole ++ written.fraction = utf8 "9.999" := by
    rw [← hscratch, DigitRun.reading, digits_writeFloat_fixedPointScratch]
    exact congrArg List.reverse hrun
  -- The zero flag leaves no spaces, and zeros make up for what is missing to the width.
  obtain ⟨left, sign, fill, whole, fraction, right⟩ := written
  obtain rfl : left = 0 := hshows.left_eq_zero (.inr rfl)
  obtain rfl : right = 0 := hshows.right_eq_zero rfl
  obtain rfl : sign = some Ascii.plus := hshows.sign_eq (by decide)
  have hlength := hshows.length_eq
  simp only [WrittenFixedPoint.bytes, hnumber, List.length_append, length_spaces, length_zeros]
    at hlength houtput
  obtain rfl : fill = 6 := by
    have hsix : 0 + 1 + fill + 5 + 0 = 12 := hlength
    omega
  refine ⟨hsegment, rfl, rfl, ?_⟩
  rw [houtput, hfront, hback, List.flatMap_nil, List.append_nil]
  rfl

end BoundedFormat
