import BoundedFormat.Output.Emission
import BoundedFormat.Proofs.Output.Fields

/-!
# Offering with every store and every count checked

The same offering once more, by a buffer that keeps its counters side by side: where the next byte
goes, how many cells are left, how many bytes were offered. There is no result if a byte is to go
where there is no cell (`storeAt?`), nor if a length or a count does not fit a machine word
(`wordSum?`). As long as a word can count the bytes nothing fails, and the three counters stay those
that a buffer works out from its cells (`emit?_counted`, `finish?_counted`).
-/

namespace BoundedFormat

/-- A buffer with its counters side by side. -/
structure CountedBuffer where
  cells : Array UInt8
  /-- The index of the cell for the next byte. -/
  position : Nat
  /-- How many cells are left, the one for the terminator included. -/
  remaining : Nat
  /-- How many bytes were offered. -/
  offered : Nat
  deriving DecidableEq, Repr

/-- Store a byte in the cell with the index, if there is one. -/
def storeAt? (cells : Array UInt8) (i : Nat) (b : UInt8) : Option (Array UInt8) :=
  if h : i < cells.size then some (cells.set i b) else none

theorem storeAt?_eq_some {cells : Array UInt8} {i : Nat} (b : UInt8) (h : i < cells.size) :
    storeAt? cells i b = some (cells.set i b) :=
  dif_pos h

/-- The counters that a buffer works out from its cells. -/
def Buffer.counted (buffer : Buffer) : CountedBuffer :=
  ⟨buffer.cells, buffer.written, buffer.remaining, buffer.offered⟩

namespace CountedBuffer

/-- Nothing offered yet, and all cells left. -/
def ofCells (cells : Array UInt8) : CountedBuffer := ⟨cells, 0, cells.size, 0⟩

/-- Store a byte in the next cell. -/
def store? (buffer : CountedBuffer) (b : UInt8) : Option CountedBuffer :=
  -- A position behind a cell is at most the number of cells, so it needs no check of its own.
  (storeAt? buffer.cells buffer.position b).map fun cells =>
    ⟨cells, buffer.position + 1, buffer.remaining - 1, buffer.offered⟩

/-- Offer a byte: store it if more than one cell is left, and count it. -/
def put? (buffer : CountedBuffer) (b : UInt8) : Option CountedBuffer := do
  let stored ← if 1 < buffer.remaining then buffer.store? b else some buffer
  let offered ← wordSum? stored.offered 1
  some { stored with offered }

/-- Offer the same byte `count` times. -/
def putRepeat? (buffer : CountedBuffer) (b : UInt8) : Nat → Option CountedBuffer
  | 0 => some buffer
  | count + 1 => (buffer.put? b).bind fun longer => longer.putRepeat? b count

/-- Offer bytes in order. -/
def putAll? (buffer : CountedBuffer) (bytes : Bytes) : Option CountedBuffer :=
  bytes.foldlM put? buffer

/-- Offer a run of digits, stored least significant first, in reading order. -/
def putReversed? (buffer : CountedBuffer) (digits : Bytes) : Option CountedBuffer :=
  digits.foldrM (fun b buffer => buffer.put? b) buffer

/-- Offer the sign, if there is one. -/
def putSign? (buffer : CountedBuffer) : Option UInt8 → Option CountedBuffer
  | none => some buffer
  | some sign => buffer.put? sign

/-- Write a numeric field. The digits are least significant first. -/
def putField? (buffer : CountedBuffer) (field : Field) (digits : Bytes) : Option CountedBuffer := do
  let suppressed := field.isSuppressed
  let count := if suppressed then 0 else digits.length
  let zeros := if suppressed then 0 else field.precision - count
  let signs := if field.sign.isSome then 1 else 0
  let body ← wordSum? count zeros
  let taken ← wordSum? signs body
  let rest := field.width - taken
  let putDigits? (buffer : CountedBuffer) : Option CountedBuffer :=
    if suppressed then some buffer
    else do (← buffer.putRepeat? Ascii.zero zeros).putReversed? digits
  if field.flags.leftJustify then do
    let signed ← buffer.putSign? field.sign
    let written ← putDigits? signed
    written.putRepeat? Ascii.space rest
  else if field.flags.zeroPad && !field.precisionGiven then do
    let fill ← wordSum? rest zeros
    let signed ← buffer.putSign? field.sign
    let filled ← signed.putRepeat? Ascii.zero fill
    filled.putReversed? digits
  else do
    let indented ← buffer.putRepeat? Ascii.space rest
    let signed ← indented.putSign? field.sign
    putDigits? signed

/-- Write a text padded with spaces to `width`. -/
def putPadded? (buffer : CountedBuffer) (flags : Flags) (width : Nat) (text : Bytes) :
    Option CountedBuffer :=
  let rest := width - text.length
  if flags.leftJustify then do (← buffer.putAll? text).putRepeat? Ascii.space rest
  else do (← buffer.putRepeat? Ascii.space rest).putAll? text

/-- Write an emission. -/
def emit? (buffer : CountedBuffer) : Emission → Option CountedBuffer
  | .byte b => buffer.put? b
  | .repeated b count => buffer.putRepeat? b count
  | .run bytes => buffer.putAll? bytes
  | .reversed digits => buffer.putReversed? digits
  | .text s => buffer.putAll? (utf8 s)
  | .field shape digits => buffer.putField? shape digits
  | .padded flags width bytes => buffer.putPadded? flags width bytes

/-- Put the terminator in the next cell, if any is left, and report. -/
def finish? (buffer : CountedBuffer) : Option (Array UInt8 × Outcome) :=
  let closed :=
    if 0 < buffer.remaining then storeAt? buffer.cells buffer.position Ascii.nul
    else some buffer.cells
  closed.map fun cells => (cells, ⟨buffer.offered, buffer.position⟩)

/-! ## Everything offered is a row of bytes -/

theorem putAll?_append (buffer : CountedBuffer) (a b : Bytes) :
    buffer.putAll? (a ++ b) = (buffer.putAll? a).bind fun longer => longer.putAll? b :=
  List.foldlM_append

theorem putRepeat?_eq_putAll? (buffer : CountedBuffer) (b : UInt8) (count : Nat) :
    buffer.putRepeat? b count = buffer.putAll? (List.replicate count b) := by
  induction count generalizing buffer with
  | zero => rfl
  | succ count ih =>
    simp only [putRepeat?, ih]
    rfl

theorem putReversed?_eq_putAll? (buffer : CountedBuffer) (digits : Bytes) :
    buffer.putReversed? digits = buffer.putAll? digits.reverse :=
  List.foldlM_reverse.symm

theorem putSign?_eq_putAll? (buffer : CountedBuffer) (sign : Option UInt8) :
    buffer.putSign? sign = buffer.putAll? sign.toList := by
  cases sign with
  | none => rfl
  | some sign => exact (Option.bind_fun_some (buffer.put? sign)).symm

/-- The sums for a field are lengths of its parts, so they fit a word if the field does. -/
theorem putField?_eq_putAll? (buffer : CountedBuffer) {field : Field} {digits : Bytes}
    (h : (field.layout digits).length < 2 ^ 64) :
    buffer.putField? field digits = buffer.putAll? (field.layout digits) := by
  rw [(field.laysOut_layout digits).length_eq] at h
  unfold putField?
  extract_lets suppressed count zeros signs putDigits?
  -- Each sum is the length of a part of the field.
  have hcount : count + zeros = field.bodyLength digits := by
    simp only [zeros, count, suppressed, Field.bodyLength, Field.digitCount]
    split <;> omega
  have hrest : field.width - (signs + (count + zeros)) = field.missing digits := by
    rw [hcount, Field.missing, Nat.sub_add_eq]
    rfl
  have hsigns : signs = field.signLength := rfl
  have hfill : field.missing digits + zeros < 2 ^ 64 := by
    rw [Field.missing]
    omega
  have hbody (hshown : ¬field.isSuppressed = true) :
      field.body digits = BoundedFormat.zeros zeros ++ digits.reverse := by
    simp only [Field.body, zeros, count, suppressed, if_neg hshown]
  have hdigits (buffer : CountedBuffer) :
      putDigits? buffer = buffer.putAll? (field.body digits) := by
    by_cases hshown : field.isSuppressed = true
    · simp only [putDigits?, suppressed, Field.body, if_pos hshown]
      rfl
    · rw [hbody hshown, putAll?_append]
      simp only [putDigits?, suppressed, if_neg hshown, putRepeat?_eq_putAll?,
        putReversed?_eq_putAll?]
      rfl
  rw [wordSum?_eq_some (by omega), Option.bind_eq_bind, Option.bind_some,
    wordSum?_eq_some (by omega), Option.bind_some, hrest, Field.layout, field.shortfall_eq]
  simp only [wordSum?_eq_some hfill, Option.bind_some, putSign?_eq_putAll?, putRepeat?_eq_putAll?,
    putReversed?_eq_putAll?, hdigits, Option.bind_eq_bind]
  split
  · simp only [spaces, putAll?_append, Option.bind_assoc]
  · split
    · next hfilled =>
      -- Digits are left out for a precision only, and with a precision nothing is filled.
      have hshown : ¬field.isSuppressed = true := by
        simp only [Field.isSuppressed, Bool.and_eq_true, Bool.not_eq_true'] at hfilled ⊢
        exact fun hs => Bool.false_ne_true (hfilled.2.symm.trans hs.1.1)
      simp only [hbody hshown, BoundedFormat.zeros, ← List.replicate_append_replicate,
        putAll?_append, Option.bind_assoc]
    · simp only [spaces, putAll?_append, Option.bind_assoc]

/-- Writing a text field offers the bytes of its layout. -/
theorem putPadded?_eq_putAll? (buffer : CountedBuffer) (flags : Flags) (width : Nat)
    (text : Bytes) :
    buffer.putPadded? flags width text = buffer.putAll? (paddedLayout flags width text) := by
  simp only [putPadded?, paddedLayout, putRepeat?_eq_putAll?, spaces, Option.bind_eq_bind]
  split <;> rw [putAll?_append]

/-- Writing an emission offers its bytes. -/
theorem emit?_eq_putAll? (buffer : CountedBuffer) {emission : Emission}
    (h : emission.bytes.length < 2 ^ 64) :
    buffer.emit? emission = buffer.putAll? emission.bytes := by
  cases emission with
  | byte b => exact (Option.bind_fun_some (buffer.put? b)).symm
  | repeated b count => exact buffer.putRepeat?_eq_putAll? b count
  | run bytes => rfl
  | reversed digits => exact buffer.putReversed?_eq_putAll? digits
  | text s => rfl
  | field shape digits => exact buffer.putField?_eq_putAll? h
  | padded flags width bytes => exact buffer.putPadded?_eq_putAll? flags width bytes

/-! ## No store misses the cells -/

/-- A byte is stored or not just as a buffer does it, and the counters follow. -/
theorem put?_counted {buffer : Buffer} (b : UInt8) (h : buffer.offered + 1 < 2 ^ 64) :
    buffer.counted.put? b = some (buffer.put b).counted := by
  rcases buffer with ⟨cells, written, offered⟩
  have hcount : wordSum? offered 1 = some (offered + 1) := wordSum?_eq_some h
  by_cases hroom : written + 1 < cells.size
  · have hremaining : 1 < cells.size - written := by omega
    simp only [put?, store?, Buffer.counted, Buffer.remaining, Buffer.put, if_pos hremaining,
      storeAt?_eq_some b (show written < cells.size by omega), dif_pos hroom, Option.map_some,
      Option.bind_eq_bind, Option.bind_some, hcount, Array.size_set, Nat.sub_sub]
  · have hremaining : ¬1 < cells.size - written := by omega
    simp only [put?, Buffer.counted, Buffer.remaining, Buffer.put, if_neg hremaining,
      dif_neg hroom, Option.bind_eq_bind, Option.bind_some, hcount]

/-- So is a row of bytes. -/
theorem putAll?_counted {buffer : Buffer} {bytes : Bytes}
    (h : buffer.offered + bytes.length < 2 ^ 64) :
    buffer.counted.putAll? bytes = some (buffer.putAll bytes).counted := by
  induction bytes generalizing buffer with
  | nil => rfl
  | cons b rest ih =>
    rw [List.length_cons] at h
    have hnext : (buffer.put b).offered + rest.length < 2 ^ 64 := by
      rw [Buffer.offered_put]
      omega
    rw [putAll?, List.foldlM_cons, put?_counted b (by omega)]
    exact ih hnext

/-- So is an emission. -/
theorem emit?_counted {buffer : Buffer} {emission : Emission}
    (h : buffer.offered + emission.bytes.length < 2 ^ 64) :
    buffer.counted.emit? emission = some (emission.emit buffer).counted := by
  rw [emit?_eq_putAll? _ (by omega), putAll?_counted h, emission.emit_eq_putAll]

/-- The terminator goes where a buffer puts it, and the report is the same. -/
theorem finish?_counted (buffer : Buffer) :
    buffer.counted.finish? = some (buffer.terminate, buffer.outcome) := by
  by_cases hremaining : 0 < buffer.remaining
  · have hcell : buffer.written < buffer.cells.size := Nat.lt_of_sub_pos hremaining
    have hstore : storeAt? buffer.cells buffer.written Ascii.nul = some buffer.terminate := by
      rw [storeAt?_eq_some _ hcell, Buffer.terminate, if_pos hremaining, Array.setIfInBounds,
        dif_pos hcell]
    have hcounted : 0 < buffer.counted.remaining := hremaining
    simp only [finish?, if_pos hcounted]
    exact congrArg _ hstore
  · have hcounted : ¬0 < buffer.counted.remaining := hremaining
    simp only [finish?, if_neg hcounted, Buffer.terminate, if_neg hremaining]
    rfl

end CountedBuffer

end BoundedFormat
