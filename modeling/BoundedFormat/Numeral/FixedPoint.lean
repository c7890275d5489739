import BoundedFormat.Numeral.Integer

/-!
# Writing floating-point values with a fixed number of places

The fraction comes first in the run, least significant digit first and closed by the point, the
integer part after it; read backwards that is `integer.fraction`. The fraction is scaled to an
integer in floating-point arithmetic and rounded half up on the next digit. A carry never reaches
the integer part: the fraction stays at all nines instead. Not-a-number and the infinities take no
path of their own, since the conversion to an integer truncates and saturates.

`fractionRun` and `floatRun` are the whole runs; `writeFraction_eq_pushAll` and
`writeFloat_eq_pushAll` say that what is written into cells is as much of them as fits.
-/

namespace BoundedFormat

/-- The most places that are worked out; more are not asked of a 64-bit word. -/
def maxPlaces : Nat := 19

/-- The word plus one, or the largest word. -/
def saturatingSucc (n : UInt64) : UInt64 := if n + 1 = 0 then n else n + 1

/-- How many fractions `places` decimal places can tell apart, as a word. -/
def fractionLimit (places : Nat) : UInt64 := UInt64.ofNat (Nat.pow 10 places)

/-- The fraction times its limit, the product rounded as floating-point values are. -/
def scaledFraction (fraction : Float) (places : Nat) : Float :=
  fraction * (fractionLimit places).toFloat

/-- The digits of a fraction, as one integer: scaled, rounded half up on the next digit, and held
below the carry. -/
def roundedFraction (fraction : Float) (places : Nat) : UInt64 :=
  let limit := fractionLimit places
  let scaled := scaledFraction fraction places
  let whole := scaled.toUInt64
  let next := ((scaled - whole.toFloat) * 10).toUInt64
  let rounded := if 5 ≤ next then saturatingSucc whole else whole
  if limit ≤ rounded then limit - 1 else rounded

namespace DigitRun

/-- Write the places of a fraction and the point over the run; no place, no point. -/
def writeFraction (run : DigitRun) (fraction : Float) (precision : Nat) : DigitRun :=
  let places := min precision maxPlaces
  if places = 0 then run.clear
  else
    let digits := run.writeWord64 .decimal (roundedFraction fraction places)
    (digits.pushAll (List.replicate (places - digits.length) Ascii.zero)).push Ascii.point

/-- Write a value that is not negative over the run, with `precision` places. -/
def writeFloat (run : DigitRun) (value : Float) (precision : Nat) : DigitRun :=
  let whole := value.toUInt64
  (run.writeFraction (value - whole.toFloat) precision).pushWord64 .decimal whole

end DigitRun

/-! ## The whole runs -/

/-- The places of a fraction and the point, as into cells without end. -/
def fractionRun (fraction : Float) (precision : Nat) : Bytes :=
  let places := min precision maxPlaces
  if places = 0 then []
  else
    let digits := Radix.decimal.digits (roundedFraction fraction places).toNat
    digits ++ List.replicate (places - digits.length) Ascii.zero ++ [Ascii.point]

/-- A value that is not negative, with `precision` places, as into cells without end. -/
def floatRun (value : Float) (precision : Nat) : Bytes :=
  let whole := value.toUInt64
  fractionRun (value - whole.toFloat) precision ++ Radix.decimal.digits whole.toNat

namespace DigitRun

/-- Of a fraction as much is written as fits. -/
theorem writeFraction_eq_pushAll (run : DigitRun) (fraction : Float) (precision : Nat) :
    run.writeFraction fraction precision = run.clear.pushAll (fractionRun fraction precision) := by
  unfold writeFraction fractionRun
  by_cases hplaces : min precision maxPlaces = 0
  · simp [hplaces]
  · simp only [if_neg hplaces, writeWord64, pushWord64_eq_pushAll, pushAll_append]
    generalize roundedFraction fraction (min precision maxPlaces) = rounded
    generalize hdigits : Radix.decimal.digits rounded.toNat = digits
    -- Either the digits fit, or the run is full and nothing after them is stored.
    by_cases hfit : digits.length ≤ run.clear.cells.size
    · have hlength : (run.clear.pushAll digits).length = digits.length := by
        rw [length_pushAll]
        simp only [clear, ofCells] at hfit ⊢
        omega
      rw [hlength]
      rfl
    · have hfull : (run.clear.pushAll digits).cells.size ≤ (run.clear.pushAll digits).length := by
        rw [length_pushAll, size_cells_pushAll]
        simp only [clear, ofCells] at hfit ⊢
        omega
      rw [pushAll_of_full _ hfull, pushAll_of_full _ hfull, pushAll_of_full _ hfull,
        push_of_full _ hfull]

/-- Of a value as much is written as fits. -/
theorem writeFloat_eq_pushAll (run : DigitRun) (value : Float) (precision : Nat) :
    run.writeFloat value precision = run.clear.pushAll (floatRun value precision) := by
  rw [writeFloat, writeFraction_eq_pushAll, pushWord64_eq_pushAll, floatRun, pushAll_append]

end DigitRun

end BoundedFormat
