import BoundedFormat.Proofs.Numeral.FixedPointCells
import BoundedFormat.Proofs.Numeral.WordCells

/-!
# Digit runs as bounded lists

Seen from outside a digit run is a list with at most as many bytes as the run has cells. A push adds
a byte to the list if there is room, and tells whether it did; a number that is written replaces the
list by as much of its own run as fits (`Operation.performOnList`). `DigitRun.Shows` relates a run
to its list. It leaves the cells behind the run open, so what an earlier, longer run has left there
never comes to light, whatever is done next (`digitRuns_show_bounded_lists`).
-/

namespace BoundedFormat

namespace DigitRun

/-! ## Operations -/

/-- A number to be written. -/
inductive Number where
  | word32 (radix : Radix) (n : UInt32)
  | word64 (radix : Radix) (n : UInt64)
  | fixedPoint (value : Float) (precision : Nat)

namespace Number

/-- Write the number over a run. -/
def writeOver (number : Number) (run : DigitRun) : DigitRun :=
  match number with
  | word32 radix n => run.writeWord32 radix n
  | word64 radix n => run.writeWord64 radix n
  | fixedPoint value precision => run.writeFloat value precision

/-- The run of the number, as into cells without end. -/
def wholeRun : Number → Bytes
  | word32 radix n => radix.digits n.toNat
  | word64 radix n => radix.digits n.toNat
  | fixedPoint value precision => floatRun value precision

end Number

/-- What can be done to a run. -/
inductive Operation where
  | push (b : UInt8)
  | write (number : Number)

/-- What an operation answers. -/
inductive Reply where
  /-- Was there room for the byte? -/
  | pushed (done : Bool)
  /-- The length of the run that was written. -/
  | wrote (length : Nat)
  deriving DecidableEq

namespace Operation

/-- Carry out an operation on a run. -/
def perform (operation : Operation) (run : DigitRun) : Reply × DigitRun :=
  match operation with
  | push b =>
    match run.push? b with
    | some longer => (.pushed true, longer)
    | none => (.pushed false, run)
  | write number =>
    let written := number.writeOver run
    (.wrote written.length, written)

/-- Carry out an operation on a list of at most `capacity` bytes. -/
def performOnList (capacity : Nat) (operation : Operation) (bytes : Bytes) : Reply × Bytes :=
  match operation with
  | push b =>
    if bytes.length < capacity then (.pushed true, bytes ++ [b]) else (.pushed false, bytes)
  | write number =>
    let written := number.wholeRun.take capacity
    (.wrote written.length, written)

/-- What a row of operations answers, and what there is after it. -/
structure Course (σ : Type) where
  replies : List Reply
  last : σ

/-- Carry out operations one after the other. -/
def performAll {σ : Type} (step : Operation → σ → Reply × σ) : List Operation → σ → Course σ
  | [], state => ⟨[], state⟩
  | operation :: rest, state =>
    let (reply, next) := step operation state
    let course := performAll step rest next
    ⟨reply :: course.replies, course.last⟩

end Operation

/-! ## The list that a run shows -/

/-- All that can be seen of the run, which has `capacity` cells, is the list. -/
structure Shows (run : DigitRun) (capacity : Nat) (bytes : Bytes) : Prop where
  size_eq : run.cells.size = capacity
  length_le : run.length ≤ capacity
  length_eq : run.length = bytes.length
  digits_eq : run.digits = bytes
  reading_eq : run.reading = bytes.reverse
  isEmpty_iff : run.isEmpty = true ↔ run.length = 0

/-- A run that is no longer than its cells shows its digits. -/
theorem shows_digits {run : DigitRun} (h : run.length ≤ run.cells.size) :
    run.Shows run.cells.size run.digits where
  size_eq := rfl
  length_le := h
  length_eq := (List.length_take_of_le h).symm
  digits_eq := rfl
  reading_eq := rfl
  isEmpty_iff := beq_iff_eq

/-- A new run shows the empty list. -/
theorem shows_ofCapacity (capacity : Nat) : (ofCapacity capacity).Shows capacity [] := by
  have h := (ofCapacity capacity).shows_digits (Nat.zero_le _)
  rwa [ofCapacity, Array.size_replicate] at h

/-- A run written over cells shows as much as they have room for. -/
theorem Overwrites.shows {run : DigitRun} {before : Array UInt8} {bytes : Bytes}
    (h : run.Overwrites before bytes) : run.Shows before.size (bytes.take before.size) := by
  have hle : run.length ≤ run.cells.size := by
    rw [h.length_eq, h.size_eq]
    exact Nat.min_le_left _ _
  have hshows := run.shows_digits hle
  rwa [h.size_eq, h.digits_eq] at hshows

/-- A number is written over the cells with its whole run. -/
theorem Number.overwrites_writeOver (number : Number) (run : DigitRun) :
    (number.writeOver run).Overwrites run.cells number.wholeRun := by
  cases number with
  | word32 radix n => exact run.overwrites_writeWord32 radix n
  | word64 radix n => exact run.overwrites_writeWord64 radix n
  | fixedPoint value precision => exact run.overwrites_writeFloat value precision

/-! ## Operations on a run are operations on its list -/

section

variable {run : DigitRun} {capacity : Nat} {bytes : Bytes}

/-- A push adds a byte to the list if there is room. -/
theorem Shows.perform_push (h : run.Shows capacity bytes) (b : UInt8) :
    let onRun := (Operation.push b).perform run
    let onList := (Operation.push b).performOnList capacity bytes
    onRun.1 = onList.1 ∧ onRun.2.Shows capacity onList.2 := by
  -- The run looks at its cells and the list at its length, with the same result.
  by_cases hlt : bytes.length < capacity
  · have hroom : run.length < run.cells.size := by
      rwa [h.size_eq, h.length_eq]
    have hshows := (run.push b).shows_digits
      ((length_push_le b (Nat.le_of_lt hroom)).trans_eq (size_cells_push run b).symm)
    rw [size_cells_push, digits_push b hroom, h.size_eq, h.digits_eq] at hshows
    simp only [Operation.perform, push?_eq_some b hroom, Operation.performOnList, if_pos hlt]
    exact ⟨trivial, hshows⟩
  · have hfull : run.push? b = none := by
      rw [push?, dif_neg (by rwa [h.size_eq, h.length_eq])]
    simp only [Operation.perform, hfull, Operation.performOnList, if_neg hlt]
    exact ⟨trivial, h⟩

/-- Whatever is done, run and list answer the same, and the run shows what becomes of the list. -/
theorem Shows.perform (h : run.Shows capacity bytes) (operation : Operation) :
    let onRun := operation.perform run
    let onList := operation.performOnList capacity bytes
    onRun.1 = onList.1 ∧ onRun.2.Shows capacity onList.2 := by
  cases operation with
  | push b => exact h.perform_push b
  | write number =>
    have hshows := (number.overwrites_writeOver run).shows
    rw [h.size_eq] at hshows
    exact ⟨congrArg Reply.wrote hshows.length_eq, hshows⟩

/-- So it is for a row of operations. -/
theorem Shows.performAll (h : run.Shows capacity bytes) (operations : List Operation) :
    let onRun := Operation.performAll Operation.perform operations run
    let onList := Operation.performAll (Operation.performOnList capacity) operations bytes
    onRun.replies = onList.replies ∧ onRun.last.Shows capacity onList.last := by
  induction operations generalizing run bytes with
  | nil => exact ⟨rfl, h⟩
  | cons operation rest ih =>
    obtain ⟨hreply, hnext⟩ := h.perform operation
    obtain ⟨hreplies, hlast⟩ := ih hnext
    exact ⟨congrArg₂ List.cons hreply hreplies, hlast⟩

end

end DigitRun

/-- After any row of operations, thus after each step of a longer one, a new run shows the list that
these make of the empty one, and it has answered the same. Any other run that shows this list,
whatever stands in the cells behind it, answers the same and shows the same after any further
operations. The list takes the whole run of a number from what is written where there is room. -/
theorem digitRuns_show_bounded_lists (capacity : Nat)
    (operations later : List DigitRun.Operation) :
    let onRun := DigitRun.Operation.performAll DigitRun.Operation.perform
    let onList := DigitRun.Operation.performAll (DigitRun.Operation.performOnList capacity)
    let run := onRun operations (DigitRun.ofCapacity capacity)
    let list := onList operations []
    run.replies = list.replies ∧ run.last.Shows capacity list.last ∧
      (∀ other : DigitRun, other.Shows capacity list.last →
        (onRun later other).replies = (onRun later run.last).replies ∧
          (onRun later other).last.length = (onRun later run.last).last.length ∧
          (onRun later other).last.digits = (onRun later run.last).last.digits ∧
          (onRun later other).last.reading = (onRun later run.last).last.reading) ∧
      ∀ (number : DigitRun.Number) (roomy : DigitRun),
        number.wholeRun.length ≤ roomy.cells.size →
        (number.writeOver roomy).digits = number.wholeRun := by
  intro onRun onList run list
  obtain ⟨hreplies, hshows⟩ := (DigitRun.shows_ofCapacity capacity).performAll operations
  refine ⟨hreplies, hshows, fun other hother => ?_, fun number roomy hroom => ?_⟩
  · obtain ⟨hrunReplies, hrun⟩ := hshows.performAll later
    obtain ⟨hotherReplies, hotherShows⟩ := hother.performAll later
    exact ⟨hotherReplies.trans hrunReplies.symm, hotherShows.length_eq.trans hrun.length_eq.symm,
      hotherShows.digits_eq.trans hrun.digits_eq.symm,
      hotherShows.reading_eq.trans hrun.reading_eq.symm⟩
  · rw [(number.overwrites_writeOver roomy).digits_eq, List.take_of_length_le hroom]

/-- Of a number with four digits there is room for three, and then a single digit is written over
them; a push puts the next byte behind this one, just as over cells that held no other digits. -/
theorem digitRuns_show_bounded_lists_over_longer_run :
    let onRun := DigitRun.Operation.performAll DigitRun.Operation.perform
    let operations : List DigitRun.Operation :=
      [.write (.word32 .hexadecimal 0xbeef), .push 0x78, .write (.word64 .decimal 7)]
    let run := onRun operations (DigitRun.ofCapacity 3)
    let other : DigitRun := ⟨#[0x37, 0x00, 0x00], 1⟩
    run.replies = [.wrote 3, .pushed false, .wrote 1] ∧ run.last.Shows 3 [0x37] ∧
      run.last.cells = #[0x37, 0x65, 0x65] ∧ other.Shows 3 [0x37] ∧
      (onRun [.push 0x2d] run.last).last.reading = [0x2d, 0x37] := by
  intro onRun operations run other
  let onList := DigitRun.Operation.performAll (DigitRun.Operation.performOnList 3)
  have hanswers : (onList operations []).replies = [.wrote 3, .pushed false, .wrote 1] := by
    decide +kernel
  have hlist : (onList operations []).last = [0x37] := by decide +kernel
  have hother : other.Shows 3 (onList operations []).last := by
    rw [hlist]
    exact DigitRun.shows_digits (by decide)
  have hstale : run.last.cells = #[0x37, 0x65, 0x65] := by decide +kernel
  obtain ⟨hreplies, hshows, hsame, -⟩ := digitRuns_show_bounded_lists 3 operations [.push 0x2d]
  obtain ⟨-, -, -, hreading⟩ := hsame other hother
  exact ⟨hreplies.trans hanswers, hlist ▸ hshows, hstale, hlist ▸ hother, hreading.symm⟩

end BoundedFormat
