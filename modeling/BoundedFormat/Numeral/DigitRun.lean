import BoundedFormat.Text.Bytes

/-!
# Digit runs in fixed scratch

A digit run grows in an array of cells that never changes its size. `DigitRun.digits` is the view:
the bytes pushed since the run was last cleared. Cells beyond the run may still hold digits of an
earlier, longer run; they are never part of the view.
-/

namespace BoundedFormat

/-- A run of digits, least significant first, at the start of a fixed array of cells. -/
structure DigitRun where
  /-- The scratch cells; their number is the capacity of the run. -/
  cells : Array UInt8
  /-- How many cells, from the start, belong to the run. -/
  length : Nat
  deriving DecidableEq, Repr

namespace DigitRun

/-- The empty run with room for `capacity` digits. -/
def ofCapacity (capacity : Nat) : DigitRun := ⟨Array.replicate capacity 0, 0⟩

/-- The empty run over given cells, which keep what they hold. -/
def ofCells (cells : Array UInt8) : DigitRun := ⟨cells, 0⟩

/-- The run emptied; its cells keep what they hold. -/
def clear (run : DigitRun) : DigitRun := ofCells run.cells

/-- The run as stored, least significant digit first. -/
def digits (run : DigitRun) : Bytes := run.cells.toList.take run.length

/-- The run in reading order. -/
def reading (run : DigitRun) : Bytes := run.digits.reverse

/-- Does the run hold no digit? -/
def isEmpty (run : DigitRun) : Bool := run.length == 0

/-- Add a byte after the run, where it reads as a byte in front; `none` when the cells are full. -/
def push? (run : DigitRun) (b : UInt8) : Option DigitRun :=
  if h : run.length < run.cells.size then
    some ⟨run.cells.set run.length b, run.length + 1⟩
  else none

/-- Add a byte after the run, or leave a full run as it is. -/
def push (run : DigitRun) (b : UInt8) : DigitRun := (run.push? b).getD run

/-- Add bytes in order for as long as there is room. -/
def pushAll (run : DigitRun) (bytes : Bytes) : DigitRun := bytes.foldl push run

/-! ## The view of a push -/

/-- A push keeps the capacity. -/
@[simp]
theorem size_cells_push (run : DigitRun) (b : UInt8) :
    (run.push b).cells.size = run.cells.size := by
  unfold push push?
  split <;> simp

/-- A push never makes a run longer than its cells. -/
theorem length_push_le {run : DigitRun} (b : UInt8) (h : run.length ≤ run.cells.size) :
    (run.push b).length ≤ run.cells.size := by
  unfold push push?
  split <;> simp <;> omega

/-- A push appends the byte to the view when there is room for it. -/
theorem digits_push {run : DigitRun} (b : UInt8) (h : run.length < run.cells.size) :
    (run.push b).digits = run.digits ++ [b] := by
  simp only [push, push?, h, dif_pos, Option.getD_some, digits, Array.toList_set]
  rw [List.take_add_one, List.take_set_of_le (by omega)]
  simp [h]

/-- A push on a full run changes nothing. -/
theorem push_of_full {run : DigitRun} (b : UInt8) (h : run.cells.size ≤ run.length) :
    run.push b = run := by
  simp [push, push?, Nat.not_lt.2 h]

/-- The length after a push. -/
theorem length_push (run : DigitRun) (b : UInt8) :
    (run.push b).length = if run.length < run.cells.size then run.length + 1 else run.length := by
  unfold push push?
  split <;> simp

/-! ## The view of a row of pushes -/

@[simp]
theorem pushAll_nil (run : DigitRun) : run.pushAll [] = run := rfl

theorem pushAll_cons (run : DigitRun) (b : UInt8) (bytes : Bytes) :
    run.pushAll (b :: bytes) = (run.push b).pushAll bytes := rfl

theorem pushAll_append (run : DigitRun) (a b : Bytes) :
    run.pushAll (a ++ b) = (run.pushAll a).pushAll b := by
  simp [pushAll]

/-- Pushing onto a full run changes nothing. -/
theorem pushAll_of_full {run : DigitRun} (bytes : Bytes) (h : run.cells.size ≤ run.length) :
    run.pushAll bytes = run := by
  induction bytes with
  | nil => rfl
  | cons b rest ih => rw [pushAll_cons, push_of_full b h, ih]

/-- Pushing keeps the capacity. -/
@[simp]
theorem size_cells_pushAll (run : DigitRun) (bytes : Bytes) :
    (run.pushAll bytes).cells.size = run.cells.size := by
  induction bytes generalizing run with
  | nil => rfl
  | cons b rest ih => rw [pushAll_cons, ih, size_cells_push]

/-- The length after a row of pushes: whatever there is room for is added. -/
theorem length_pushAll (run : DigitRun) (bytes : Bytes) :
    (run.pushAll bytes).length =
      run.length + min bytes.length (run.cells.size - run.length) := by
  induction bytes generalizing run with
  | nil => simp
  | cons b rest ih =>
    rw [pushAll_cons, ih, size_cells_push, length_push, List.length_cons]
    split <;> omega

/-- Bytes are appended to the view for as long as there is room. -/
theorem digits_pushAll (run : DigitRun) (bytes : Bytes) :
    (run.pushAll bytes).digits = run.digits ++ bytes.take (run.cells.size - run.length) := by
  induction bytes generalizing run with
  | nil => simp
  | cons b rest ih =>
    rw [pushAll_cons]
    by_cases h : run.length < run.cells.size
    · rw [ih, digits_push b h, size_cells_push, length_push, if_pos h, List.append_assoc]
      congr 1
      rw [show run.cells.size - run.length = run.cells.size - (run.length + 1) + 1 by omega]
      rfl
    · rw [push_of_full b (by omega), ih, show run.cells.size - run.length = 0 by omega]
      simp

end DigitRun

end BoundedFormat
