import BoundedFormat.Output.Emission

/-!
# What a buffer holds

`Buffer.Holds` relates a buffer to the cells it began with and to the bytes offered to it since. It
fixes all three parts of the buffer: the count of the bytes offered, the count of the bytes stored,
and every cell. It holds of a new buffer with no bytes (`holds_ofCells`), one byte more keeps it
(`Holds.put`), and so does a whole run of bytes (`Holds.putAll`).

The capacity enters in one place only, the number of bytes stored: one less than there are cells,
and none for a buffer without cells, where `initial.size - 1` is zero.

`Buffer.IsFilledWith` says the same cell by cell, and `Buffer.ClosesTo` which of them the terminator
changes.
-/

namespace BoundedFormat

namespace Buffer

/-- The buffer began with the cells `initial` and was offered `bytes` since. -/
structure Holds (initial : Array UInt8) (bytes : Bytes) (buffer : Buffer) : Prop where
  /-- Every byte offered is counted. -/
  offered_eq : buffer.offered = bytes.length
  /-- The last cell is kept back for the terminator. -/
  written_eq : buffer.written = min bytes.length (initial.size - 1)
  /-- The stored bytes come first, and behind them the cells are as they were. -/
  toList_cells : buffer.cells.toList =
    bytes.take buffer.written ++ initial.toList.drop buffer.written

/-- The buffer began with the cells `initial` and was offered `bytes` since, cell by cell. -/
structure IsFilledWith (buffer : Buffer) (initial : Array UInt8) (bytes : Bytes) : Prop where
  /-- Every byte counts. -/
  offered_eq : buffer.offered = bytes.length
  /-- One cell is kept back, and without any cell nothing is stored. -/
  written_eq : buffer.written =
    if 0 < initial.size then min bytes.length (initial.size - 1) else 0
  remaining_eq : buffer.remaining = initial.size - buffer.written
  /-- The cell kept back is always left. -/
  remaining_pos : 0 < initial.size → 0 < buffer.remaining
  size_eq : buffer.cells.size = initial.size
  /-- While a cell is left the next store goes to one. -/
  written_lt : 0 < buffer.remaining → buffer.written < buffer.cells.size
  /-- The first cells hold the first bytes. -/
  stored : ∀ i < buffer.written, buffer.cells[i]? = bytes[i]?
  /-- The other cells are as they were. -/
  untouched : ∀ i, buffer.written ≤ i → buffer.cells[i]? = initial[i]?

/-- The cells `closed` are those of the buffer with the terminator behind the stored bytes; where
there is no cell there is no terminator. -/
structure ClosesTo (buffer : Buffer) (closed : Array UInt8) : Prop where
  size_eq : closed.size = buffer.cells.size
  terminated : 0 < buffer.cells.size → closed[buffer.written]? = some Ascii.nul
  unchanged : ∀ i, (0 < buffer.cells.size → i ≠ buffer.written) → closed[i]? = buffer.cells[i]?

/-- A new buffer holds nothing. -/
theorem holds_ofCells (initial : Array UInt8) : Holds initial [] (ofCells initial) where
  offered_eq := rfl
  written_eq := by simp [ofCells]
  toList_cells := by simp [ofCells]

/-- Setting the place behind the first `n` bytes keeps those, and what comes after it. -/
private theorem set_take_append_drop {bytes cells : Bytes} {n : Nat} (b : UInt8)
    (hn : n ≤ bytes.length) (hlt : n < cells.length) :
    (bytes.take n ++ cells.drop n).set n b = bytes.take n ++ b :: cells.drop (n + 1) := by
  have hlength : (bytes.take n).length = n := List.length_take_of_le hn
  rw [List.set_append_right _ _ (by omega), hlength, Nat.sub_self,
    List.drop_eq_getElem_cons hlt, List.set_cons_zero]

namespace Holds

variable {initial : Array UInt8} {bytes : Bytes} {buffer : Buffer}

/-- No more is stored than was offered. -/
theorem written_le_length (h : Holds initial bytes buffer) : buffer.written ≤ bytes.length := by
  rw [h.written_eq]
  exact Nat.min_le_left _ _

/-- No more is stored than there are cells. -/
theorem written_le_size (h : Holds initial bytes buffer) : buffer.written ≤ initial.size := by
  rw [h.written_eq]
  omega

/-- The stored bytes leave room for the terminator, if the buffer has any cell. -/
theorem written_lt_size (h : Holds initial bytes buffer) (hpos : 0 < initial.size) :
    buffer.written < initial.size := by
  have := h.written_eq
  omega

/-- The number of cells is the one it began with. -/
theorem size_cells (h : Holds initial bytes buffer) : buffer.cells.size = initial.size := by
  have hwritten := h.written_le_size
  have hlength := congrArg List.length h.toList_cells
  rw [List.length_append, List.length_take_of_le h.written_le_length, List.length_drop] at hlength
  simp only [Array.length_toList] at hlength
  omega

/-- The stored bytes are the first ones offered. -/
theorem stored_eq (h : Holds initial bytes buffer) : buffer.stored = bytes.take buffer.written := by
  have hlength := List.length_take_of_le h.written_le_length
  rw [stored, h.toList_cells, List.take_append_of_le_length (Nat.le_of_eq hlength.symm),
    List.take_of_length_le (Nat.le_of_eq hlength)]

/-- One byte more is counted, and stored while more than one cell is left. -/
theorem put (h : Holds initial bytes buffer) (b : UInt8) :
    Holds initial (bytes ++ [b]) (buffer.put b) := by
  have hsize := h.size_cells
  obtain ⟨hoffered, hwritten, hcells⟩ := h
  rcases buffer with ⟨cells, written, offered⟩
  simp only at hsize hoffered hwritten hcells
  simp only [Buffer.put]
  split
  · next hroom =>
    -- There is room, so all bytes so far were stored and `b` goes behind the last of them.
    have hall : written = bytes.length := by omega
    refine ⟨by simp [hoffered], by simp; omega, ?_⟩
    have htake : (bytes ++ [b]).take (written + 1) = bytes.take written ++ [b] := by
      rw [hall, List.take_length]
      exact List.take_of_length_le (by simp)
    rw [Array.toList_set, hcells, set_take_append_drop b (by omega) (by simp; omega), htake,
      List.append_assoc, List.singleton_append]
  · next hfull =>
    -- One cell is left or none: the byte is counted only.
    refine ⟨by simp [hoffered], by simp; omega, ?_⟩
    have hle : written ≤ bytes.length := by omega
    rw [hcells, List.take_append_of_le_length hle]

/-- A run of bytes is counted, and stored as far as there is room. -/
theorem putAll (h : Holds initial bytes buffer) (more : Bytes) :
    Holds initial (bytes ++ more) (buffer.putAll more) := by
  induction more generalizing bytes buffer with
  | nil => simpa using h
  | cons b rest ih =>
    rw [putAll_cons, List.append_cons]
    exact ih (h.put b)

/-- Any emission is counted and stored the same way. -/
theorem emit (h : Holds initial bytes buffer) (emission : Emission) :
    Holds initial (bytes ++ emission.bytes) (emission.emit buffer) := by
  rw [emission.emit_eq_putAll]
  exact h.putAll _

/-- What a buffer holds, cell by cell. -/
theorem isFilledWith (h : Holds initial bytes buffer) : buffer.IsFilledWith initial bytes where
  offered_eq := h.offered_eq
  written_eq := by
    rw [h.written_eq]
    split <;> omega
  remaining_eq := by rw [remaining, h.size_cells]
  remaining_pos hpos := by
    rw [remaining, h.size_cells]
    exact Nat.sub_pos_of_lt (h.written_lt_size hpos)
  size_eq := h.size_cells
  written_lt := Nat.lt_of_sub_pos
  stored i hi := by
    have hlength := List.length_take_of_le h.written_le_length
    rw [← Array.getElem?_toList, h.toList_cells, List.getElem?_append_left (by omega),
      List.getElem?_take_of_lt hi]
  untouched i hi := by
    have hlength := List.length_take_of_le h.written_le_length
    rw [← Array.getElem?_toList, h.toList_cells, List.getElem?_append_right (by omega), hlength,
      List.getElem?_drop, Nat.add_sub_cancel' hi, Array.getElem?_toList]

/-- The terminator goes into the cell behind the stored bytes, if there is any cell. -/
theorem closesTo_terminate (h : Holds initial bytes buffer) :
    buffer.ClosesTo buffer.terminate := by
  by_cases hremaining : 0 < buffer.remaining
  · have hcell : buffer.written < buffer.cells.size := h.isFilledWith.written_lt hremaining
    rw [terminate, if_pos hremaining]
    refine ⟨Array.size_setIfInBounds, fun _ => ?_, fun i hi => ?_⟩
    · exact Array.getElem?_setIfInBounds_self_of_lt hcell
    · exact Array.getElem?_setIfInBounds_ne (hi (Nat.zero_lt_of_lt hcell)).symm
  · -- The cell kept back is never used up, so there was none from the beginning.
    have hsize : buffer.cells.size = 0 := by
      rw [h.size_cells]
      exact Nat.eq_zero_of_not_pos fun hpos => hremaining (h.isFilledWith.remaining_pos hpos)
    rw [terminate, if_neg hremaining]
    exact ⟨rfl, fun hpos => absurd hsize (Nat.ne_of_gt hpos), fun _ _ => rfl⟩

end Holds

end Buffer

end BoundedFormat
