import Mathlib.Data.Nat.Digits.Defs
import BoundedFormat.Proofs.Numeral.Canonical
import BoundedFormat.Proofs.Numeral.Overwriting

/-!
# Words in cells, place by place

A word that is written over cells puts the digit for each power of the radix in the cell with that
index, up to its last digit or the last cell, and nothing behind (`Radix.IsWritten`). A run that is
cut short holds the word modulo a power of the radix; one that is not reads back as the word, and
as no other (`words_are_written_place_by_place`).
-/

namespace BoundedFormat

namespace Radix

/-! ## The digits of a number, place by place -/

/-- How many digits a number has; zero has one. -/
def digitCount (radix : Radix) (n : Nat) : Nat := max 1 (Nat.digits radix.base n).length

/-- A number is written with as many digits as it has. -/
theorem length_digits (radix : Radix) (n : Nat) : (radix.digits n).length = radix.digitCount n := by
  have hbase := radix.one_lt_base
  fun_induction digits radix n with
  | case1 n hn =>
    rw [digitCount]
    by_cases hzero : n = 0
    · rw [hzero, Nat.digits_zero]
      rfl
    · rw [Nat.digits_of_lt _ _ hzero hn]
      rfl
  | case2 n hn ih =>
    have hpos : 0 < n := by omega
    have hquotient : n / radix.base ≠ 0 := (Nat.div_pos (by omega) (by omega)).ne'
    have hlength : 0 < (Nat.digits radix.base (n / radix.base)).length :=
      List.length_pos_iff.2 (Nat.digits_ne_nil_iff_ne_zero.2 hquotient)
    rw [List.length_cons, ih, digitCount, digitCount, Nat.digits_def' hbase hpos,
      List.length_cons, Nat.max_eq_right hlength, Nat.max_eq_right (Nat.le_add_left 1 _)]

/-- The digit at a place is the one for the power of the radix. -/
theorem getElem?_digits (radix : Radix) {n j : Nat} (h : j < (radix.digits n).length) :
    (radix.digits n)[j]? = some (digitByte (n / radix.base ^ j % radix.base)) := by
  fun_induction digits radix n generalizing j with
  | case1 n hn =>
    obtain rfl : j = 0 := by
      rw [List.length_singleton] at h
      omega
    rw [Nat.pow_zero, Nat.div_one, Nat.mod_eq_of_lt hn]
    rfl
  | case2 n hn ih =>
    rcases j with _ | j
    · rw [Nat.pow_zero, Nat.div_one]
      rfl
    · rw [List.length_cons] at h
      rw [List.getElem?_cons_succ, ih (by omega), Nat.div_div_eq_div_mul, Nat.pow_succ']

/-- Of a number that is cut short what is left is the number modulo a power of the radix. -/
theorem value_take_digits (radix : Radix) (n k : Nat) :
    radix.value ((radix.digits n).take k) = n % radix.base ^ k := by
  have hbase := radix.one_lt_base
  have hle := radix.base_le
  fun_induction digits radix n generalizing k with
  | case1 n hn =>
    rcases k with _ | k
    · rw [List.take_zero, Nat.pow_zero, Nat.mod_one]
      rfl
    · have hlt : n < radix.base ^ (k + 1) := by
        rw [Nat.pow_succ']
        exact Nat.lt_of_lt_of_le hn (Nat.le_mul_of_pos_right _ (Nat.pow_pos (by omega)))
      rw [Nat.mod_eq_of_lt hlt, List.take_succ_cons, List.take_nil, value_cons,
        digitOfByte_digitByte (by omega)]
      rfl
  | case2 n hn ih =>
    rcases k with _ | k
    · rw [List.take_zero, Nat.pow_zero, Nat.mod_one]
      rfl
    · have hdigit : n % radix.base < 16 := by
        have := Nat.mod_lt n (show 0 < radix.base by omega)
        omega
      rw [List.take_succ_cons, value_cons, digitOfByte_digitByte hdigit, ih, Nat.pow_succ',
        Nat.mod_mul]

/-- The digit of a place in the alphabet. -/
theorem getElem?_alphabet (radix : Radix) {d : Nat} (h : d < radix.base) :
    radix.alphabet[d]? = some (digitByte d) := by
  have hall : ∀ d : Fin radix.base, radix.alphabet[d.val]? = some (digitByte d) := by
    cases radix <;> decide
  exact hall ⟨d, h⟩

end Radix

/-! ## Words over cells -/

namespace DigitRun

/-- The run holds the number as far as the cells `before` have room for its digits: each digit
stands in the cell with the index of its power of the radix, and the cells behind hold what they
held. -/
structure HoldsNumber (run : DigitRun) (radix : Radix) (n : Nat) (before : Array UInt8) : Prop where
  size_eq : run.cells.size = before.size
  length_eq : run.length = min before.size (radix.digitCount n)
  digit_eq : ∀ j < run.length, run.cells[j]? = radix.alphabet[n / radix.base ^ j % radix.base]?
  rest_eq : ∀ j, run.length ≤ j → run.cells[j]? = before[j]?

/-- A word written over cells overwrites them with its digits. -/
theorem overwrites_writeWord64 (run : DigitRun) (radix : Radix) (n : UInt64) :
    (run.writeWord64 radix n).Overwrites run.cells (radix.digits n.toNat) := by
  rw [writeWord64, pushWord64_eq_pushAll]
  exact overwrites_pushAll run (radix.digits n.toNat)

/-- So does a narrow word. -/
theorem overwrites_writeWord32 (run : DigitRun) (radix : Radix) (n : UInt32) :
    (run.writeWord32 radix n).Overwrites run.cells (radix.digits n.toNat) := by
  rw [writeWord32, pushWord32_eq_pushAll]
  exact overwrites_pushAll run (radix.digits n.toNat)

/-- A narrow word is written as the wide word with the same value. -/
theorem writeWord32_eq_writeWord64 (run : DigitRun) (radix : Radix) {narrow : UInt32} {n : UInt64}
    (h : narrow.toNat = n.toNat) : run.writeWord32 radix narrow = run.writeWord64 radix n := by
  rw [writeWord32, writeWord64, pushWord32_eq_pushAll, pushWord64_eq_pushAll, h]

/-- What overwrites cells with the digits of a number holds the number. -/
theorem Overwrites.holdsNumber {run : DigitRun} {before : Array UInt8} {radix : Radix} {n : Nat}
    (h : run.Overwrites before (radix.digits n)) : run.HoldsNumber radix n before where
  size_eq := h.size_eq
  length_eq := by rw [h.length_eq, radix.length_digits]
  digit_eq j hj := by
    have hlength := h.length_eq
    have hbase := radix.one_lt_base
    rw [← run.getElem?_digits hj, h.digits_eq, List.getElem?_take_of_lt (by omega),
      radix.getElem?_digits (by omega), radix.getElem?_alphabet (Nat.mod_lt _ (by omega))]
  rest_eq := h.rest_eq

/-- A run with room for the whole word is its digits. -/
theorem digits_writeWord64 {run : DigitRun} {radix : Radix} {n : UInt64}
    (h : radix.digitCount n.toNat ≤ run.cells.size) :
    (run.writeWord64 radix n).digits = radix.digits n.toNat := by
  rw [← radix.length_digits] at h
  rw [(run.overwrites_writeWord64 radix n).digits_eq, List.take_of_length_le h]

end DigitRun

/-- A word written over cells stands there digit by digit, the least significant one first, for as
long as there is room, and the cells behind it are untouched; it reads back modulo a power of the
radix. If it is not cut short it reads, the other way round, as the word without a zero in front,
and another word makes another run. In fewer cells there is the beginning of what there is in more.
A narrow word leaves just what the wide word with the same value does. -/
theorem words_are_written_place_by_place (run : DigitRun) (radix : Radix) (n : UInt64) :
    let written := run.writeWord64 radix n
    written.HoldsNumber radix n.toNat run.cells ∧
      radix.value written.digits = n.toNat % radix.base ^ written.length ∧
      (radix.digitCount n.toNat ≤ run.cells.size →
        radix.IsNumeral written.reading n.toNat ∧
          ∀ (other : DigitRun) (m : UInt64), radix.digitCount m.toNat ≤ other.cells.size →
            (other.writeWord64 radix m).digits = written.digits → m = n) ∧
      (∀ longer : DigitRun, run.cells.size ≤ longer.cells.size →
        written.digits <+: (longer.writeWord64 radix n).digits) ∧
      ∀ narrow : UInt32, narrow.toNat = n.toNat → run.writeWord32 radix narrow = written := by
  intro written
  have hover : written.Overwrites run.cells (radix.digits n.toNat) :=
    run.overwrites_writeWord64 radix n
  refine ⟨hover.holdsNumber, ?_, fun hfits => ⟨?_, fun other m hm hsame => ?_⟩,
    fun longer hlonger => ?_, fun narrow hnarrow => run.writeWord32_eq_writeWord64 radix hnarrow⟩
  · have hcut : written.digits = (radix.digits n.toNat).take written.length := by
      rw [hover.digits_eq, hover.length_eq, List.take_eq_take_min]
    rw [hcut, radix.value_take_digits]
  · rw [Radix.isNumeral_iff, DigitRun.reading, DigitRun.digits_writeWord64 hfits]
  · rw [DigitRun.digits_writeWord64 hm, DigitRun.digits_writeWord64 hfits] at hsame
    have hvalue := congrArg radix.value hsame
    rw [radix.value_digits, radix.value_digits] at hvalue
    exact UInt64.toNat_inj.1 hvalue
  · rw [hover.digits_eq, (longer.overwrites_writeWord64 radix n).digits_eq]
    exact List.take_prefix_take_left hlonger

/-- A word with eight digits in eight cells, and what three cells and nine cells make of it. -/
theorem words_are_written_place_by_place_in_eight_cells :
    let wide := DigitRun.ofCapacity 8
    let short := DigitRun.ofCells #[0x23, 0x23, 0x23]
    let longer := DigitRun.ofCapacity 9
    let n : UInt64 := 0xdeadbeef
    Radix.hexadecimal.digitCount n.toNat ≤ wide.cells.size ∧
      Radix.hexadecimal.IsNumeral (wide.writeWord64 .hexadecimal n).reading n.toNat ∧
      (longer.writeWord64 .hexadecimal 0xdeadbee).digits ≠
        (wide.writeWord64 .hexadecimal n).digits ∧
      (short.writeWord64 .hexadecimal n).digits <+: (wide.writeWord64 .hexadecimal n).digits ∧
      wide.writeWord32 .hexadecimal 0xdeadbeef = wide.writeWord64 .hexadecimal n := by
  intro wide short longer n
  have hcount (m : UInt64) (h : m.toNat < 16 ^ 8) :
      Radix.hexadecimal.digitCount m.toNat ≤ wide.cells.size := by
    rw [← Radix.length_digits]
    exact Radix.hexadecimal.length_digits_le (by decide) h
  have hfits := hcount n (by decide)
  have hlonger : wide.cells.size ≤ longer.cells.size := by decide
  obtain ⟨-, -, hwhole, -, hnarrow⟩ := words_are_written_place_by_place wide .hexadecimal n
  obtain ⟨-, -, -, hcut, -⟩ := words_are_written_place_by_place short .hexadecimal n
  obtain ⟨hnumeral, hother⟩ := hwhole hfits
  refine ⟨hfits, hnumeral, fun hsame => ?_, hcut wide (by decide), hnarrow 0xdeadbeef (by decide)⟩
  have hm := Nat.le_trans (hcount 0xdeadbee (by decide)) hlonger
  exact absurd (hother longer 0xdeadbee hm hsame) (by decide)

end BoundedFormat
