import BoundedFormat.Text.Bytes

/-!
# Bounded output

All output of a call goes through `Buffer.put`, the one place that stores a byte. It keeps the last
cell back for the terminator and counts every byte it is offered, stored or not, so at the end the
count is the length that an unbounded buffer would have needed. `Buffer.stored` is the view.
-/

namespace BoundedFormat

/-- What a formatting call reports. -/
structure Outcome where
  /-- The length of the whole output, without the terminator. -/
  required : Nat
  /-- How many bytes of it were stored. -/
  written : Nat
  deriving DecidableEq, Repr

/-- Was some of the output not stored? -/
def Outcome.isTruncated (outcome : Outcome) : Bool := outcome.written < outcome.required

/-- A buffer being filled. -/
structure Buffer where
  /-- The cells of the buffer; their number is its capacity. -/
  cells : Array UInt8
  /-- How many bytes are stored. -/
  written : Nat
  /-- How many bytes were offered. -/
  offered : Nat
  deriving DecidableEq, Repr

namespace Buffer

/-- Nothing offered yet; the cells keep what they hold. -/
def ofCells (cells : Array UInt8) : Buffer := ⟨cells, 0, 0⟩

/-- How many cells are left, the one for the terminator included. -/
def remaining (buffer : Buffer) : Nat := buffer.cells.size - buffer.written

/-- The bytes stored so far. -/
def stored (buffer : Buffer) : Bytes := buffer.cells.toList.take buffer.written

/-- Offer a byte: it is stored if more than one cell is left, and counted in any case. -/
def put : Buffer → UInt8 → Buffer
  | ⟨cells, written, offered⟩, b =>
    if h : written + 1 < cells.size then ⟨cells.set written b, written + 1, offered + 1⟩
    else ⟨cells, written, offered + 1⟩

/-- Offer the same byte `count` times. -/
def putRepeat (buffer : Buffer) (b : UInt8) : Nat → Buffer
  | 0 => buffer
  | count + 1 => (buffer.put b).putRepeat b count

/-- Offer bytes in order. -/
def putAll (buffer : Buffer) (bytes : Bytes) : Buffer := bytes.foldl put buffer

/-- Offer a run of digits, stored least significant first, in reading order. -/
def putReversed (buffer : Buffer) (digits : Bytes) : Buffer :=
  digits.foldr (fun b buffer => buffer.put b) buffer

/-- Put the terminator behind the stored bytes, if the buffer has any cell. -/
def terminate (buffer : Buffer) : Array UInt8 :=
  if 0 < buffer.remaining then buffer.cells.setIfInBounds buffer.written Ascii.nul
  else buffer.cells

/-- The report on the buffer. -/
def outcome (buffer : Buffer) : Outcome := ⟨buffer.offered, buffer.written⟩

/-! ## Offering is bounded appending -/

/-- The number of cells never changes. -/
@[simp]
theorem size_cells_put (buffer : Buffer) (b : UInt8) :
    (buffer.put b).cells.size = buffer.cells.size := by
  rcases buffer with ⟨cells, written, offered⟩
  simp only [put]
  split <;> simp

/-- Every byte offered counts. -/
@[simp]
theorem offered_put (buffer : Buffer) (b : UInt8) :
    (buffer.put b).offered = buffer.offered + 1 := by
  rcases buffer with ⟨cells, written, offered⟩
  simp only [put]
  split <;> rfl

/-- A byte is appended to the stored ones while more than one cell is left. -/
theorem stored_put {buffer : Buffer} (b : UInt8) (h : buffer.written + 1 < buffer.cells.size) :
    (buffer.put b).stored = buffer.stored ++ [b] := by
  rcases buffer with ⟨cells, written, offered⟩
  simp only at h
  simp only [put, h, dif_pos, stored, Array.toList_set]
  rw [List.take_add_one, List.take_set_of_le (by omega)]
  simp [show written < cells.size by omega]

/-- With one cell left, or none, nothing more is stored. -/
theorem stored_put_of_full {buffer : Buffer} (b : UInt8)
    (h : buffer.cells.size ≤ buffer.written + 1) : (buffer.put b).stored = buffer.stored := by
  rcases buffer with ⟨cells, written, offered⟩
  simp only at h
  simp [put, stored, Nat.not_lt.2 h]

@[simp]
theorem putAll_nil (buffer : Buffer) : buffer.putAll [] = buffer := rfl

theorem putAll_cons (buffer : Buffer) (b : UInt8) (bytes : Bytes) :
    buffer.putAll (b :: bytes) = (buffer.put b).putAll bytes := rfl

/-- Every byte of a run counts. -/
@[simp]
theorem offered_putAll (buffer : Buffer) (bytes : Bytes) :
    (buffer.putAll bytes).offered = buffer.offered + bytes.length := by
  induction bytes generalizing buffer with
  | nil => rfl
  | cons b rest ih =>
    rw [putAll_cons, ih, offered_put, List.length_cons]
    omega

/-- Offering the same byte again and again is offering a run of it. -/
theorem putRepeat_eq_putAll (buffer : Buffer) (b : UInt8) (count : Nat) :
    buffer.putRepeat b count = buffer.putAll (List.replicate count b) := by
  induction count generalizing buffer with
  | zero => rfl
  | succ count ih => rw [putRepeat, ih, List.replicate_succ, putAll, putAll, List.foldl_cons]

/-- Offering a run of digits in reading order is offering its reverse. -/
theorem putReversed_eq_putAll (buffer : Buffer) (digits : Bytes) :
    buffer.putReversed digits = buffer.putAll digits.reverse := by
  rw [putReversed, putAll, List.foldl_reverse]

/-- Offering two runs one after the other is offering them joined. -/
theorem putAll_append (buffer : Buffer) (a b : Bytes) :
    buffer.putAll (a ++ b) = (buffer.putAll a).putAll b := by
  simp [putAll]

end Buffer

end BoundedFormat
