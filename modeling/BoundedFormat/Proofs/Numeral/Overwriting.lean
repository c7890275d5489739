import BoundedFormat.Numeral.DigitRun

/-!
# Runs over cells that are in use

A run that is written over cells takes as many bytes as fit, from the front, and leaves the cells
behind it as they are. `Overwrites` says this of the cells before and after, and
`overwrites_pushAll` that it is what a row of pushes into a cleared run comes to.
-/

namespace BoundedFormat

namespace DigitRun

/-- The run is as much of the bytes as the cells `before` have room for; the cells behind it hold
what they held. -/
structure Overwrites (run : DigitRun) (before : Array UInt8) (bytes : Bytes) : Prop where
  size_eq : run.cells.size = before.size
  length_eq : run.length = min before.size bytes.length
  digits_eq : run.digits = bytes.take before.size
  rest_eq : ∀ j, run.length ≤ j → run.cells[j]? = before[j]?

/-- The digits of a run are the cells up to its length. -/
theorem getElem?_digits (run : DigitRun) {j : Nat} (h : j < run.length) :
    run.digits[j]? = run.cells[j]? := by
  rw [digits, List.getElem?_take_of_lt h, Array.getElem?_toList]

/-- A push leaves the cells behind it alone. -/
theorem getElem?_cells_push (run : DigitRun) (b : UInt8) {j : Nat} (h : (run.push b).length ≤ j) :
    (run.push b).cells[j]? = run.cells[j]? := by
  by_cases hroom : run.length < run.cells.size
  · rw [length_push, if_pos hroom] at h
    simp only [push, push?, dif_pos hroom, Option.getD_some]
    exact Array.getElem?_set_ne hroom (by omega)
  · rw [push_of_full b (by omega)]

/-- So does a row of pushes. -/
theorem getElem?_cells_pushAll (run : DigitRun) (bytes : Bytes) {j : Nat}
    (h : (run.pushAll bytes).length ≤ j) : (run.pushAll bytes).cells[j]? = run.cells[j]? := by
  induction bytes generalizing run with
  | nil => rfl
  | cons b rest ih =>
    rw [pushAll_cons] at h ⊢
    have hpush : (run.push b).length ≤ j := by
      rw [length_pushAll] at h
      omega
    rw [ih (run.push b) h, getElem?_cells_push run b hpush]

/-- Bytes pushed into a cleared run overwrite the cells. -/
theorem overwrites_pushAll (run : DigitRun) (bytes : Bytes) :
    (run.clear.pushAll bytes).Overwrites run.cells bytes where
  size_eq := size_cells_pushAll run.clear bytes
  length_eq := by
    rw [length_pushAll, Nat.min_comm]
    exact Nat.zero_add _
  digits_eq := digits_pushAll run.clear bytes
  rest_eq _ h := getElem?_cells_pushAll run.clear bytes h

end DigitRun

end BoundedFormat
