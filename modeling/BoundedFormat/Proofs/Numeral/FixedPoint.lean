import BoundedFormat.Numeral.FixedPoint
import BoundedFormat.Proofs.Numeral.Digits

/-!
# The shape of a written fraction

Whatever the value (not-a-number and the infinities included), its fraction is written as the point
and exactly as many digits as there are places: the fraction is rounded half up and held below a
carry (`toNat_roundedFraction`), so it has no digit more, and zeros make up for those that it lacks
(`reverse_fractionRun`, `length_fractionDigits`). More places than `maxPlaces` change nothing
(`fractionRun_of_maxPlaces_le`).
-/

namespace BoundedFormat

/-! ## Rounding -/

variable (fraction : Float)

/-- The fractions that so many places can tell apart fit a word. -/
theorem toNat_fractionLimit {places : Nat} (h : places ≤ maxPlaces) :
    (fractionLimit places).toNat = 10 ^ places := by
  have hfits : 10 ^ maxPlaces < 2 ^ 64 := by decide
  exact UInt64.toNat_ofNat_of_lt' (Nat.lt_of_le_of_lt (Nat.pow_le_pow_right (by decide) h) hfits)

/-- The word behind another one, or the largest word. -/
theorem toNat_saturatingSucc (n : UInt64) :
    (saturatingSucc n).toNat = min (n.toNat + 1) (UInt64.size - 1) := by
  have hsize : UInt64.size = 2 ^ 64 := rfl
  have hlt : n.toNat < 2 ^ 64 := n.toNat_lt
  have hsucc : (n + 1).toNat = (n.toNat + 1) % 2 ^ 64 := UInt64.toNat_add n 1
  unfold saturatingSucc
  split
  · next h =>
    rw [h, UInt64.toNat_zero] at hsucc
    omega
  · next h =>
    have hne : (n + 1).toNat ≠ 0 := fun hzero => h (UInt64.toNat_inj.1 hzero)
    omega

/-- A word is rounded up by one if the digit behind it is five or more. -/
theorem toNat_roundUp (whole next : UInt64) :
    (if 5 ≤ next then saturatingSucc whole else whole).toNat =
      min (whole.toNat + if 5 ≤ next.toNat then 1 else 0) (UInt64.size - 1) := by
  have hnext : 5 ≤ next ↔ 5 ≤ next.toNat := UInt64.le_iff_toNat_le
  split
  · next h =>
    rw [if_pos (hnext.1 h)]
    exact toNat_saturatingSucc whole
  · next h =>
    have hsize : UInt64.size = 2 ^ 64 := rfl
    have hlt := whole.toNat_lt
    rw [if_neg fun hfive => h (hnext.2 hfive)]
    omega

/-- A word is held below a limit. -/
theorem toNat_holdBelow {limit : UInt64} (hpos : 0 < limit.toNat) (n : UInt64) :
    (if limit ≤ n then limit - 1 else n).toNat = min n.toNat (limit.toNat - 1) := by
  have hle : limit ≤ n ↔ limit.toNat ≤ n.toNat := UInt64.le_iff_toNat_le
  split
  · next h =>
    have hone : 1 ≤ limit := UInt64.le_iff_toNat_le.2 hpos
    have hlimit := hle.1 h
    rw [UInt64.toNat_sub_of_le _ _ hone, UInt64.toNat_one]
    omega
  · next h =>
    have hlt : ¬limit.toNat ≤ n.toNat := fun hlimit => h (hle.2 hlimit)
    omega

/-- A fraction is scaled by a power of ten, cut off, rounded half up on its next digit and held
below a carry. -/
theorem toNat_roundedFraction {places : Nat} (h : places ≤ maxPlaces) :
    let scaled := fraction * (UInt64.ofNat (10 ^ places)).toFloat
    let next := ((scaled - scaled.toUInt64.toFloat) * 10).toUInt64.toNat
    (roundedFraction fraction places).toNat =
      min (scaled.toUInt64.toNat + if 5 ≤ next then 1 else 0) (10 ^ places - 1) := by
  intro scaled next
  have hscaled : scaledFraction fraction places = scaled := rfl
  have hnext : ((scaled - scaled.toUInt64.toFloat) * 10).toUInt64.toNat = next := rfl
  have hlimit := toNat_fractionLimit h
  have hpos : 0 < (fractionLimit places).toNat := hlimit ▸ Nat.pow_pos (by decide)
  -- The limit fits a word, so what is lost of a word that has no successor is above it.
  have hfits : 10 ^ places < UInt64.size := hlimit ▸ (fractionLimit places).toNat_lt
  rw [roundedFraction, toNat_holdBelow hpos, toNat_roundUp, hlimit, hscaled, hnext]
  omega

/-- A rounded fraction never carries into the integer part. -/
theorem roundedFraction_lt {places : Nat} (h : places ≤ maxPlaces) :
    (roundedFraction fraction places).toNat < 10 ^ places := by
  have hpos : 0 < 10 ^ places := Nat.pow_pos (by decide)
  have hrounded := toNat_roundedFraction fraction h
  omega

/-! ## The run of a fraction -/

/-- The digits behind the point, in reading order. -/
def fractionDigits (precision : Nat) : Bytes :=
  let places := min precision maxPlaces
  let digits := Radix.decimal.digits (roundedFraction fraction places).toNat
  List.replicate (places - digits.length) Ascii.zero ++ digits.reverse

/-- A rounded fraction has no more digits than there are places. -/
theorem length_digits_roundedFraction_le {precision : Nat} (h : precision ≠ 0) :
    (Radix.decimal.digits (roundedFraction fraction (min precision maxPlaces)).toNat).length ≤
      min precision maxPlaces := by
  have hpos : 0 < min precision maxPlaces := Nat.lt_min.2 ⟨Nat.pos_of_ne_zero h, by decide⟩
  exact Radix.decimal.length_digits_le hpos (roundedFraction_lt fraction (Nat.min_le_right _ _))

/-- Read backwards, a fraction is the point and its digits. -/
theorem reverse_fractionRun {precision : Nat} (h : precision ≠ 0) :
    (fractionRun fraction precision).reverse =
      Ascii.point :: fractionDigits fraction precision := by
  have hplaces : min precision maxPlaces ≠ 0 := by
    have : maxPlaces = 19 := rfl
    omega
  simp only [fractionRun, if_neg hplaces, fractionDigits, List.reverse_append,
    List.reverse_replicate, List.reverse_singleton, List.singleton_append]

/-- Without places there is no point either. -/
theorem fractionRun_zero : fractionRun fraction 0 = [] := rfl

/-- There are as many digits as places. -/
theorem length_fractionDigits {precision : Nat} (h : precision ≠ 0) :
    (fractionDigits fraction precision).length = min precision maxPlaces := by
  have hle := length_digits_roundedFraction_le fraction h
  simp only [fractionDigits, List.length_append, List.length_replicate, List.length_reverse]
  omega

/-- The digits are decimal. -/
theorem mem_alphabet_of_mem_fractionDigits {precision : Nat} {b : UInt8}
    (h : b ∈ fractionDigits fraction precision) : b ∈ Radix.decimal.alphabet := by
  obtain hzero | hdigit := List.mem_append.1 h
  · rw [List.eq_of_mem_replicate hzero]
    decide
  · exact Radix.mem_alphabet_of_mem_digits (List.mem_reverse.1 hdigit)

/-- More places than are worked out change nothing. -/
theorem fractionRun_of_maxPlaces_le {precision : Nat} (h : maxPlaces ≤ precision) :
    fractionRun fraction precision = fractionRun fraction maxPlaces := by
  rw [fractionRun, fractionRun, Nat.min_eq_right h, Nat.min_self]

/-- A fraction takes a cell for every place, and one for the point. -/
theorem length_fractionRun_le (precision : Nat) :
    (fractionRun fraction precision).length ≤ maxPlaces + 1 := by
  by_cases h : precision = 0
  · rw [h, fractionRun_zero]
    exact Nat.zero_le _
  · rw [← List.length_reverse, reverse_fractionRun fraction h, List.length_cons,
      length_fractionDigits fraction h]
    exact Nat.succ_le_succ (Nat.min_le_right _ _)

/-- The longest value takes twenty digits in front of its fraction. -/
theorem length_floatRun_le (value : Float) (precision : Nat) :
    (floatRun value precision).length ≤ 20 + 1 + maxPlaces := by
  have hword : value.toUInt64.toNat < Radix.decimal.base ^ 20 :=
    Nat.lt_trans value.toUInt64.toNat_lt (by decide)
  have hwhole := Radix.decimal.length_digits_le (by decide) hword
  have hfraction := length_fractionRun_le (value - value.toUInt64.toFloat) precision
  rw [floatRun, List.length_append]
  omega

/-- Cells that have room for the longest value hold every value whole. -/
theorem DigitRun.digits_writeFloat {capacity : Nat} (h : 20 + 1 + maxPlaces ≤ capacity)
    (value : Float) (precision : Nat) :
    ((ofCapacity capacity).writeFloat value precision).digits = floatRun value precision := by
  rw [writeFloat_eq_pushAll]
  exact digits_pushAll_ofCapacity (Nat.le_trans (length_floatRun_le value precision) h)

end BoundedFormat
