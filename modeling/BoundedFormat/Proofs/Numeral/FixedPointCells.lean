import BoundedFormat.Proofs.Numeral.Canonical
import BoundedFormat.Proofs.Numeral.CheckedStores
import BoundedFormat.Proofs.Numeral.FixedPoint
import BoundedFormat.Proofs.Numeral.Overwriting

/-!
# Fixed-point values in cells

For each value there is one run of bytes, the fraction in front of the integer part (`IsFractionRun`,
`IsFloatRun`). Cells take as much of it as fits, wherever it is cut, and no store misses them
(`fixedPoint_fills_cells`).
-/

namespace BoundedFormat

/-- The text stands for the number in so many digits, in reading order, with zeros in front of it
where it has less. -/
structure Radix.IsPaddedNumeral (radix : Radix) (text : Bytes) (width n : Nat) : Prop where
  length_eq : text.length = width
  mem_alphabet : ∀ b ∈ text, b ∈ radix.alphabet
  value_eq : radix.value text.reverse = n

/-- The bytes are the run of the fraction: its places and the point, read backwards. -/
inductive IsFractionRun (fraction : Float) : (precision : Nat) → (bytes : Bytes) → Prop
  /-- Without places there is no point either. -/
  | none : IsFractionRun fraction 0 []
  /-- The fraction is scaled by as many tens as there are places, cut off to `w`, and rounded half
  up by `r` on the next digit. A number that would carry gives way to all nines. -/
  | places {precision places w r : Nat} {scaled : Float} {text : Bytes}
      (hprecision : precision ≠ 0) (hplaces : places = min precision 19)
      (hscaled : scaled = fraction * (UInt64.ofNat (10 ^ places)).toFloat)
      (hw : w = scaled.toUInt64.toNat)
      (hr : r = if 5 ≤ ((scaled - scaled.toUInt64.toFloat) * 10).toUInt64.toNat then 1 else 0)
      (htext : Radix.decimal.IsPaddedNumeral text places (min (w + r) (10 ^ places - 1))) :
      IsFractionRun fraction precision (text.reverse ++ utf8 ".")

/-- The bytes are the run of the value: that of its fraction and behind it the integer part, read
backwards. -/
inductive IsFloatRun (value : Float) (precision : Nat) : (bytes : Bytes) → Prop
  | intro {whole : UInt64} {fraction integer : Bytes} (hwhole : whole = value.toUInt64)
      (hfraction : IsFractionRun (value - whole.toFloat) precision fraction)
      (hinteger : Radix.decimal.IsNumeral integer whole.toNat) :
      IsFloatRun value precision (fraction ++ integer.reverse)

/-- The digits of a fraction are its rounded integer, padded with zeros. -/
theorem isPaddedNumeral_fractionDigits (fraction : Float) {precision : Nat} (h : precision ≠ 0) :
    Radix.decimal.IsPaddedNumeral (fractionDigits fraction precision) (min precision maxPlaces)
      (roundedFraction fraction (min precision maxPlaces)).toNat where
  length_eq := length_fractionDigits fraction h
  mem_alphabet _ hb := mem_alphabet_of_mem_fractionDigits fraction hb
  value_eq := by
    rw [fractionDigits, Radix.value_reverse_zeros_append, Radix.value_digits]

/-- The whole run of a fraction. -/
theorem isFractionRun_fractionRun (fraction : Float) (precision : Nat) :
    IsFractionRun fraction precision (fractionRun fraction precision) := by
  by_cases h : precision = 0
  · rw [h, fractionRun_zero]
    exact .none
  · have hrun : fractionRun fraction precision =
        (fractionDigits fraction precision).reverse ++ utf8 "." := by
      rw [← List.reverse_reverse (fractionRun fraction precision), reverse_fractionRun fraction h,
        List.reverse_cons]
      rfl
    have hdigits := isPaddedNumeral_fractionDigits fraction h
    rw [toNat_roundedFraction fraction (Nat.min_le_right precision maxPlaces)] at hdigits
    rw [hrun]
    exact .places h rfl rfl rfl rfl hdigits

/-- The whole run of a value. -/
theorem isFloatRun_floatRun (value : Float) (precision : Nat) :
    IsFloatRun value precision (floatRun value precision) := by
  have hinteger : Radix.decimal.IsNumeral (Radix.decimal.digits value.toUInt64.toNat).reverse
      value.toUInt64.toNat := Radix.isNumeral_iff.2 rfl
  have hrun := IsFloatRun.intro rfl
    (isFractionRun_fractionRun (value - value.toUInt64.toFloat) precision) hinteger
  rwa [List.reverse_reverse] at hrun

namespace DigitRun

/-- A fraction written over cells overwrites them with its run. -/
theorem overwrites_writeFraction (run : DigitRun) (fraction : Float) (precision : Nat) :
    (run.writeFraction fraction precision).Overwrites run.cells
      (fractionRun fraction precision) := by
  rw [writeFraction_eq_pushAll]
  exact overwrites_pushAll run (fractionRun fraction precision)

/-- A value written over cells overwrites them with its run. -/
theorem overwrites_writeFloat (run : DigitRun) (value : Float) (precision : Nat) :
    (run.writeFloat value precision).Overwrites run.cells (floatRun value precision) := by
  rw [writeFloat_eq_pushAll]
  exact overwrites_pushAll run (floatRun value precision)

end DigitRun

/-- For every value and precision there is one run of the fraction and one of the whole value, and
any cells, few or many, take as much of it as fits, from the front; the cells behind it are left
alone. Storing it byte by byte never misses the cells. -/
theorem fixedPoint_fills_cells (value : Float) (precision : Nat) :
    ∃ fraction float : Bytes, IsFractionRun value precision fraction ∧
      IsFloatRun value precision float ∧
      ∀ run : DigitRun,
        (run.writeFraction value precision).Overwrites run.cells fraction ∧
          DigitRun.storeFraction? run.cells value precision =
            some (run.writeFraction value precision) ∧
          (run.writeFloat value precision).Overwrites run.cells float ∧
          DigitRun.storeFloat? run.cells value precision =
            some (run.writeFloat value precision) := by
  refine ⟨fractionRun value precision, floatRun value precision,
    isFractionRun_fractionRun value precision, isFloatRun_floatRun value precision, fun run => ?_⟩
  refine ⟨?_, ?_, ?_, ?_⟩
  · exact run.overwrites_writeFraction value precision
  · exact DigitRun.storeFraction?_eq run.cells value precision
  · exact run.overwrites_writeFloat value precision
  · exact DigitRun.storeFloat?_eq run.cells value precision

end BoundedFormat
