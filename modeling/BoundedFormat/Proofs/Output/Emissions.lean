import BoundedFormat.Proofs.Output.Capacity
import BoundedFormat.Proofs.Output.Counters

/-!
# Rows of emissions

However many emissions are written into a buffer, and whichever they are, it holds as much as fits
of the bytes that they say, joined. One emission more keeps the invariant (`Buffer.Holds.emit`), so
every row of them does (`emissions_fill_cells`); with all stores and counts checked the same comes of
it (`CountedBuffer.emitAll?_counted`).
-/

namespace BoundedFormat

namespace Buffer

/-- Write emissions one after the other. -/
def emitAll (buffer : Buffer) (emissions : List Emission) : Buffer :=
  emissions.foldl (fun buffer emission => emission.emit buffer) buffer

/-- A row of emissions offers its bytes. -/
theorem Holds.emitAll {initial : Array UInt8} {bytes : Bytes} {buffer : Buffer}
    (h : Holds initial bytes buffer) (emissions : List Emission) :
    Holds initial (bytes ++ emissions.flatMap Emission.bytes) (buffer.emitAll emissions) := by
  induction emissions generalizing bytes buffer with
  | nil =>
    rw [List.flatMap_nil, List.append_nil]
    exact h
  | cons emission rest ih =>
    rw [List.flatMap_cons, ← List.append_assoc]
    exact ih (h.emit emission)

end Buffer

namespace CountedBuffer

/-- Write emissions one after the other. -/
def emitAll? (buffer : CountedBuffer) (emissions : List Emission) : Option CountedBuffer :=
  emissions.foldlM emit? buffer

/-- A row of emissions is written just as a buffer does it. -/
theorem emitAll?_counted {buffer : Buffer} {emissions : List Emission}
    (h : buffer.offered + (emissions.flatMap Emission.bytes).length < 2 ^ 64) :
    buffer.counted.emitAll? emissions = some (buffer.emitAll emissions).counted := by
  induction emissions generalizing buffer with
  | nil => rfl
  | cons emission rest ih =>
    rw [List.flatMap_cons, List.length_append] at h
    have hnext :
        (emission.emit buffer).offered + (rest.flatMap Emission.bytes).length < 2 ^ 64 := by
      rw [emission.emit_eq_putAll, Buffer.offered_putAll]
      omega
    rw [emitAll?, List.foldlM_cons, emit?_counted (by omega)]
    exact ih hnext

end CountedBuffer

/-- After any row of emissions, thus after each step of a longer one, the count of the bytes offered
is the length of their bytes, joined; the stored ones are as many of the first of these as leave a
cell for the terminator, and every other cell is as it was. The terminator changes the cell behind
them and no other one. A buffer that keeps its counters side by side has the same counters then and
ends the same way, if a machine word can count the bytes: no store on the way misses the cells, and
no sum is too large for a word. -/
theorem emissions_fill_cells (initial : Array UInt8) (emissions : List Emission) :
    let bytes := emissions.flatMap Emission.bytes
    let buffer := (Buffer.ofCells initial).emitAll emissions
    buffer.IsFilledWith initial bytes ∧ buffer.ClosesTo buffer.terminate ∧
      (bytes.length < 2 ^ 64 →
        (CountedBuffer.ofCells initial).emitAll? emissions = some buffer.counted ∧
          buffer.counted.finish? = some (buffer.terminate, buffer.outcome)) := by
  intro bytes buffer
  have hholds : Buffer.Holds initial bytes buffer :=
    (Buffer.holds_ofCells initial).emitAll emissions
  refine ⟨hholds.isFilledWith, hholds.closesTo_terminate, fun hfits => ⟨?_, ?_⟩⟩
  · have hstart : (Buffer.ofCells initial).offered + bytes.length < 2 ^ 64 := by
      rw [Buffer.ofCells, Nat.zero_add]
      exact hfits
    exact CountedBuffer.emitAll?_counted hstart
  · exact CountedBuffer.finish?_counted buffer

/-- A field and a run of digits in four cells: six bytes are counted and three of them stored. -/
theorem emissions_fill_four_cells :
    let initial : Array UInt8 := #[0xaa, 0xaa, 0xaa, 0xaa]
    let emissions : List Emission :=
      [.field { flags := {}, width := 4, precision := 2, precisionGiven := true,
                sign := some Ascii.minus, isZero := false } [0x37], .reversed [0x32, 0x34]]
    let full : CountedBuffer := ⟨#[0x20, 0x2d, 0x30, 0xaa], 3, 1, 6⟩
    (emissions.flatMap Emission.bytes).length < 2 ^ 64 ∧
      (CountedBuffer.ofCells initial).emitAll? emissions = some full ∧
      full.finish? = some (#[0x20, 0x2d, 0x30, Ascii.nul], ⟨6, 3⟩) := by
  intro initial emissions full
  have hfits : (emissions.flatMap Emission.bytes).length < 2 ^ 64 := by decide
  have hbuffer : (Buffer.ofCells initial).emitAll emissions =
      ⟨#[0x20, 0x2d, 0x30, 0xaa], 3, 6⟩ := by decide
  obtain ⟨-, -, hcounted⟩ := emissions_fill_cells initial emissions
  obtain ⟨hall, hclosed⟩ := hcounted hfits
  rw [hbuffer] at hall hclosed
  exact ⟨hfits, hall, hclosed⟩

end BoundedFormat
