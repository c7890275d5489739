import BoundedFormat.Text.Bytes

/-!
# Texts that end at a NUL

A text held in a byte string ends before its first NUL byte, or with the byte string when it has
none. A limit narrows the view first: bytes beyond it are not looked at.
-/

namespace BoundedFormat

/-- The bytes before the first NUL, or all of them when there is none. -/
def beforeNul (bytes : Bytes) : Bytes := bytes.takeWhile (· != Ascii.nul)

/-- The text of a byte string of which at most `limit` bytes are looked at. -/
def boundedText (bytes : Bytes) (limit : Option Nat) : Bytes :=
  match limit with
  | none => beforeNul bytes
  | some n => beforeNul (bytes.take n)

/-- The length of the text, of which at most `limit` bytes are looked at. -/
def textLength (bytes : Bytes) (limit : Option Nat) : Nat := (boundedText bytes limit).length

/-- What stands for a text that is not valid UTF-8. -/
def invalidText : String := "<invalid>"

/-- The text read as UTF-8, or `invalidText` when it is not. -/
def decodeText (bytes : Bytes) : String :=
  (String.fromUTF8? ⟨(beforeNul bytes).toArray⟩).getD invalidText

/-! ## Where the text ends -/

/-- No byte of the text is NUL. -/
theorem ne_nul_of_mem_beforeNul {bytes : Bytes} {b : UInt8} (h : b ∈ beforeNul bytes) :
    b ≠ Ascii.nul := by
  have := List.all_takeWhile (p := (· != Ascii.nul)) (l := bytes)
  simpa using List.all_eq_true.1 this b h

/-- The text is an initial part of the byte string. -/
theorem beforeNul_isPrefix (bytes : Bytes) : beforeNul bytes <+: bytes :=
  List.takeWhile_prefix _

/-- Bytes without a NUL belong to the text. -/
theorem beforeNul_append {front : Bytes} (h : Ascii.nul ∉ front) (tail : Bytes) :
    beforeNul (front ++ tail) = front ++ beforeNul tail := by
  refine List.takeWhile_append_of_pos fun b hb => ?_
  rw [bne_iff_ne]
  rintro rfl
  exact h hb

/-- Bytes without a NUL are the whole text. -/
theorem beforeNul_eq_self {bytes : Bytes} (h : Ascii.nul ∉ bytes) : beforeNul bytes = bytes := by
  simpa [beforeNul] using beforeNul_append h []

/-- What stands behind a NUL does not belong to the text. -/
theorem beforeNul_append_nul (front tail : Bytes) :
    beforeNul (front ++ Ascii.nul :: tail) = beforeNul front := by
  induction front with
  | nil => rfl
  | cons b rest ih =>
    simp only [beforeNul, List.cons_append, List.takeWhile_cons] at ih ⊢
    rw [ih]

end BoundedFormat
