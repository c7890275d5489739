import Mathlib.Data.List.TakeWhile
import BoundedFormat.Proofs.Template.Cutting

/-!
# Cutting templates that are joined

A directive is read greedily, so a template that ends in the middle of one may go on in the next
template. Where it does not, reading stops before the end of the template and sees nothing of what
follows (`IsLocal`, `Spelling.read_append`). Joined templates are then cut where each of them is
cut, except that a literal run at the end of the first and one at the start of the second become one
segment; `joinSegments` does this to lists of segments, and `cut_append` is the law.
-/

namespace BoundedFormat

/-! ## Readers that do not see what follows -/

/-- A reader that stops before the end of its input reads the same when more bytes follow. -/
def IsLocal {α : Type} (read : Bytes → α × Bytes) : Prop :=
  ∀ a b : Bytes, (read a).2 ≠ [] → read (a ++ b) = ((read a).1, (read a).2 ++ b)

/-- A run of bytes of one class that ends before the end of the input. -/
theorem isLocal_span (p : UInt8 → Bool) :
    IsLocal fun bytes => (bytes.takeWhile p, bytes.dropWhile p) := by
  intro a b h
  induction a with
  | nil => exact absurd rfl h
  | cons c rest ih =>
    by_cases hc : p c = true
    · simp only [List.dropWhile_cons_of_pos hc] at h
      have hread := ih h
      simp only [Prod.mk.injEq] at hread
      simp only [List.cons_append, List.takeWhile_cons_of_pos hc, List.dropWhile_cons_of_pos hc,
        hread.1, hread.2]
    · simp only [List.cons_append, List.takeWhile_cons_of_neg hc, List.dropWhile_cons_of_neg hc]

/-- An amount that ends before the end of the input. -/
theorem Amount.read_isLocal : IsLocal Amount.read := by
  intro a b h
  rcases a with _ | ⟨c, rest⟩
  · exact absurd rfl h
  · simp only [Amount.read, List.cons_append] at h ⊢
    split
    · rfl
    · next hc =>
      rw [if_neg hc] at h
      have hspan := isLocal_span Ascii.isDigit (c :: rest) b h
      simp only [List.cons_append, Prod.mk.injEq] at hspan
      rw [hspan.1, hspan.2]

/-- A precision that ends before the end of the input. -/
theorem Spelling.readPrecision_isLocal : IsLocal Spelling.readPrecision := by
  intro a b h
  rcases a with _ | ⟨c, rest⟩
  · exact absurd rfl h
  · simp only [Spelling.readPrecision, List.cons_append] at h ⊢
    split
    · next hc =>
      rw [if_pos hc] at h
      rw [Amount.read_isLocal rest b h]
    · rfl

/-- A length modifier that ends before the end of the input. -/
theorem Length.read_isLocal : IsLocal Length.read := by
  intro a b h
  rcases a with _ | ⟨c, _ | ⟨d, rest⟩⟩
  · exact absurd rfl h
  · by_cases hc : c = Ascii.letterL
    · simp [Length.read, hc] at h
    · rcases b with _ | ⟨d, rest⟩ <;> simp [Length.read, hc]
  · by_cases hc : c = Ascii.letterL
    · by_cases hd : d = Ascii.letterL <;> simp [Length.read, hc, hd]
    · simp [Length.read, hc]

/-- A directive that has its conversion byte does not go on in what follows. -/
theorem Spelling.read_append {a : Bytes} (b : Bytes) (h : (Spelling.read a).1.letter ≠ none) :
    Spelling.read (a ++ b) = ((Spelling.read a).1, (Spelling.read a).2 ++ b) := by
  simp only [Spelling.read] at h ⊢
  -- The conversion byte stands behind each part, so each part ends before the end of the input.
  have hlength : (Length.read
      (readPrecision (Amount.read (a.dropWhile Flags.isFlag)).2).2).2 ≠ [] := by
    intro hnil
    rw [hnil] at h
    exact h rfl
  have hprecision : (readPrecision (Amount.read (a.dropWhile Flags.isFlag)).2).2 ≠ [] := by
    intro hnil
    rw [hnil] at hlength
    exact hlength rfl
  have hwidth : (Amount.read (a.dropWhile Flags.isFlag)).2 ≠ [] := by
    intro hnil
    rw [hnil] at hprecision
    exact hprecision rfl
  have hflags : a.dropWhile Flags.isFlag ≠ [] := by
    intro hnil
    rw [hnil] at hwidth
    exact hwidth rfl
  have hspan := isLocal_span Flags.isFlag a b hflags
  simp only [Prod.mk.injEq] at hspan
  rw [hspan.1, hspan.2, Amount.read_isLocal _ b hwidth, readPrecision_isLocal _ b hprecision,
    Length.read_isLocal _ b hlength]
  generalize Length.read
    (readPrecision (Amount.read (a.dropWhile Flags.isFlag)).2).2 = last at hlength
  rcases last with ⟨length, _ | ⟨c, rest⟩⟩
  · exact absurd rfl hlength
  · rfl

/-! ## Segments of joined templates -/

/-- Does the template end in the middle of this segment? -/
def Segment.isCutOff : Segment → Bool
  | literal _ => false
  | directive spelling => spelling.directive.conversion == .truncated

/-- A segment is whole unless it is a directive that was read as truncated. -/
theorem isCutOff_eq_false {segment : Segment}
    (h : ∀ spelling, segment = .directive spelling →
      spelling.directive.conversion ≠ .truncated) : segment.isCutOff = false := by
  cases segment with
  | literal run => rfl
  | directive spelling => exact beq_eq_false_iff_ne.2 (h spelling rfl)

/-- A directive that is not cut off has its conversion byte. -/
theorem letter_ne_none_of_isCutOff {spelling : Spelling}
    (h : (Segment.directive spelling).isCutOff = false) : spelling.letter ≠ none := by
  intro hnone
  rw [Segment.isCutOff, Spelling.directive, hnone] at h
  exact nomatch h

/-- Two lists of segments, one after the other; literal runs that meet become one. -/
def joinSegments : List Segment → List Segment → List Segment
  | [], second => second
  | [.literal run], .literal next :: rest => .literal (run ++ next) :: rest
  | segment :: rest, second => segment :: joinSegments rest second

/-- Only the last segment of the first list can be joined to the second list. -/
theorem joinSegments_cons {rest : List Segment} (segment : Segment) (second : List Segment)
    (h : rest ≠ []) :
    joinSegments (segment :: rest) second = segment :: joinSegments rest second := by
  rcases rest with _ | ⟨next, others⟩
  · exact absurd rfl h
  · rw [joinSegments]
    exact nofun

/-- A literal run in front of bytes is joined to the segments of these bytes. -/
theorem cut_literal_append (c : UInt8) (run b : Bytes) (hc : c ≠ Ascii.percent)
    (hrun : ∀ x ∈ run, x ≠ Ascii.percent) :
    cut (c :: run ++ b) = joinSegments [.literal (c :: run)] (cut b) := by
  have hall : ∀ x ∈ run, (x != Ascii.percent) = true := fun x hx => by simpa using hrun x hx
  rw [List.cons_append, cut_of_ne_percent _ hc, List.takeWhile_append_of_pos hall,
    List.dropWhile_append_of_pos hall]
  rcases b with _ | ⟨d, rest⟩
  · simp [cut, joinSegments]
  · by_cases hd : d = Ascii.percent
    · subst hd
      rw [List.takeWhile_cons_of_neg (by simp), List.dropWhile_cons_of_neg (by simp),
        List.append_nil, cut_percent]
      rfl
    · rw [List.takeWhile_cons_of_pos (by simpa using hd),
        List.dropWhile_cons_of_pos (by simpa using hd), cut_of_ne_percent rest hd]
      rfl

/-- Joined bytes are cut where both parts are cut, unless the first part ends in the middle of a
directive. -/
theorem cut_append {a : Bytes} (b : Bytes) (h : ∀ segment ∈ cut a, segment.isCutOff = false) :
    cut (a ++ b) = joinSegments (cut a) (cut b) := by
  fun_induction cut a with
  | case1 => rfl
  | case2 rest ih =>
    have hletter := letter_ne_none_of_isCutOff (h _ List.mem_cons_self)
    have hrest := ih fun segment hmem => h segment (List.mem_cons_of_mem _ hmem)
    rw [List.cons_append, cut_percent, Spelling.read_append b hletter, hrest]
    rfl
  | case3 c rest hc ih =>
    by_cases hend : rest.dropWhile (· != Ascii.percent) = []
    · -- The first part ends in this literal run, which goes on in the second part.
      have hall := List.dropWhile_eq_nil_iff.1 hend
      rw [hend, List.takeWhile_eq_self_iff.2 hall, cut_literal_append c rest b hc
        fun x hx => by simpa using hall x hx]
      simp [cut]
    · have hrest := ih fun segment hmem => h segment (List.mem_cons_of_mem _ hmem)
      have hspan := isLocal_span (· != Ascii.percent) rest b hend
      simp only [Prod.mk.injEq] at hspan
      rw [List.cons_append, cut_of_ne_percent _ hc, hspan.1, hspan.2, hrest,
        joinSegments_cons _ _ (cut_ne_nil hend)]

end BoundedFormat
