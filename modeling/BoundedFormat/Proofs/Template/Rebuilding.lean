import BoundedFormat.Proofs.Template.Cutting
import BoundedFormat.Proofs.Template.Grammar

/-!
# Segments put together again

A template is the sources of its segments, one after the other, but not every row of segments comes
back when its sources are cut again: two literal runs would become one, and a directive could go on
in what stands behind it. `IsCut` says what a row of segments must be like, and `IsCut.cut_source`
that cutting then gives it back.

A directive with a conversion that is known needs nothing of what stands behind it. Its parts are
`Spelling.IsPlain`, a property of the spelling alone, and plain parts are greedy wherever they stand
(`Spelling.IsPlain.isGreedy`).
-/

namespace BoundedFormat

/-! ## Rows of segments that a cut can produce -/

/-- Segments as they come out of a cut. -/
inductive IsCut : List Segment → Prop
  | nil : IsCut []
  /-- A literal run is not empty, has no percent sign and no other literal run behind it. -/
  | literal {run : Bytes} {rest : List Segment} (hne : run ≠ [])
      (hrun : ∀ b ∈ run, b ≠ Ascii.percent) (hnext : ∀ next, rest.head? ≠ some (.literal next))
      (hrest : IsCut rest) : IsCut (.literal run :: rest)
  /-- A directive does not go on in the sources behind it. -/
  | directive {s : Spelling} {rest : List Segment}
      (hs : s.IsGreedy (rest.flatMap Segment.source)) (hrest : IsCut rest) :
      IsCut (.directive s :: rest)

/-- The source of a cut begins with a percent sign, unless a literal run comes first. -/
theorem head?_source_of_ne_literal {all : List Segment}
    (h : ∀ run, all.head? ≠ some (.literal run)) :
    ∀ b ∈ (all.flatMap Segment.source).head?, b = Ascii.percent := by
  intro b hb
  rcases all with _ | ⟨run | s, rest⟩
  · cases hb
  · exact absurd rfl (h run)
  · exact (Option.some.inj hb).symm

/-- A literal run in front of a percent sign, or of nothing, is cut off as it is. -/
theorem cut_literal {run behind : Bytes} (hne : run ≠ []) (hrun : ∀ b ∈ run, b ≠ Ascii.percent)
    (hbehind : ∀ b ∈ behind.head?, b = Ascii.percent) :
    cut (run ++ behind) = .literal run :: cut behind := by
  rcases run with _ | ⟨b, run⟩
  · exact absurd rfl hne
  · have hlongest : IsLongestRun (· != Ascii.percent) run behind :=
      ⟨fun c hc => by simpa using hrun c (List.mem_cons_of_mem b hc),
        fun c hc => by simpa using hbehind c hc⟩
    rw [List.cons_append, cut_of_ne_percent _ (hrun b List.mem_cons_self), hlongest.takeWhile_eq,
      hlongest.dropWhile_eq]

/-- Cutting the sources of such segments gives them back. -/
theorem IsCut.cut_source {all : List Segment} (h : IsCut all) :
    cut (all.flatMap Segment.source) = all := by
  induction h with
  | nil => rw [List.flatMap_nil, cut]
  | literal hne hrun hnext hrest ih =>
    rw [List.flatMap_cons, Segment.source,
      cut_literal hne hrun (head?_source_of_ne_literal hnext), ih]
  | directive hs hrest ih =>
    rw [List.flatMap_cons, Segment.source, List.cons_append, cut_percent,
      Spelling.read_text_append hs, ih]

/-- Bytes that begin with a percent sign, or none, are cut without a literal run in front. -/
theorem head?_cut_ne_literal {bytes : Bytes} (h : ∀ b ∈ bytes.head?, b = Ascii.percent)
    (run : Bytes) : (cut bytes).head? ≠ some (.literal run) := by
  intro hhead
  rcases bytes with _ | ⟨b, rest⟩
  · rw [cut] at hhead
    cases hhead
  · obtain rfl := h b rfl
    rw [cut_percent] at hhead
    cases hhead

/-- Whatever is cut comes out as such segments. -/
theorem isCut_cut (bytes : Bytes) : IsCut (cut bytes) := by
  fun_induction cut bytes with
  | case1 => exact .nil
  | case2 rest ih =>
    refine .directive ?_ ih
    rw [flatMap_source_cut]
    exact Spelling.isGreedy_read rest
  | case3 b rest hb ih =>
    have hlongest := isLongestRun_span (· != Ascii.percent) rest
    refine .literal (List.cons_ne_nil _ _) ?_ (head?_cut_ne_literal ?_) ih
    · intro c hc
      obtain rfl | hc := List.mem_cons.1 hc
      · exact hb
      · simpa using hlongest.all c hc
    · exact fun c hc => by simpa using hlongest.ends c hc

/-- A directive in such a row does not go on in what stands behind it. -/
theorem IsCut.isGreedy_of_mem {all : List Segment} (h : IsCut all) {s : Spelling}
    (hmem : .directive s ∈ all) : ∃ rest, s.IsGreedy rest := by
  induction h with
  | nil => cases hmem
  | literal _ _ _ _ ih =>
    obtain heq | hmem := List.mem_cons.1 hmem
    · cases heq
    · exact ih hmem
  | directive hs _ ih =>
    obtain heq | hmem := List.mem_cons.1 hmem
    · obtain rfl := Segment.directive.inj heq
      exact ⟨_, hs⟩
    · exact ih hmem

/-- Segments without a source are none. -/
theorem IsCut.eq_nil_of_source {all : List Segment} (h : IsCut all)
    (hsource : all.flatMap Segment.source = []) : all = [] := by
  rw [← h.cut_source, hsource, cut]

/-- Such segments in front of what stands at the first NUL of a template and behind it are the
segments of the result, if there is no NUL in their sources. -/
theorem IsCut.segments_source_append {all : List Segment} (h : IsCut all)
    (hnul : ∀ segment ∈ all, Ascii.nul ∉ segment.source) (template : Bytes) :
    segments (all.flatMap Segment.source ++ template.dropWhile (· != Ascii.nul)) = all := by
  have hsource : Ascii.nul ∉ all.flatMap Segment.source := fun hmem =>
    have ⟨segment, hsegment, hin⟩ := List.mem_flatMap.1 hmem
    hnul segment hsegment hin
  have hbehind : beforeNul (template.dropWhile (· != Ascii.nul)) = [] :=
    (isLongestRun_span (· != Ascii.nul) template).takeWhile_behind
  rw [segments, beforeNul_append hsource, hbehind, List.append_nil, h.cut_source]

/-! ## One directive in place of another -/

/-- Whether an amount is all there is of it depends on the byte behind it only. -/
theorem Amount.IsLongest.of_head? {amount : Amount} {behind other : Bytes}
    (h : amount.IsLongest behind) (hhead : other.head? = behind.head?) :
    amount.IsLongest other := by
  cases amount with
  | star => trivial
  | digits run =>
    refine ⟨⟨h.1.all, hhead ▸ h.1.ends⟩, ?_⟩
    rw [List.head?_append, hhead, ← List.head?_append]
    exact h.2

/-- Whether the parts of a directive are greedy depends on the byte behind it only. -/
theorem Spelling.IsGreedy.of_head? {s : Spelling} {rest other : Bytes} (h : s.IsGreedy rest)
    (hhead : other.head? = rest.head?) : s.IsGreedy other := by
  have happend : ∀ front : Bytes, (front ++ other).head? = (front ++ rest).head? := by
    intro front
    rw [List.head?_append, List.head?_append, hhead]
  refine ⟨⟨h.flags.all, ?_⟩, h.width.of_head? (happend _), ?_, ?_, fun hletter => ?_⟩
  · rw [happend]
    exact h.flags.ends
  · have hprecision := h.precision
    rcases hspelled : s.precision with _ | amount <;> rw [hspelled] at hprecision
    · rw [PrecisionIsLongest, happend]
      exact hprecision
    · exact Amount.IsLongest.of_head? hprecision (happend _)
  · rw [Length.IsLongest, happend]
    exact h.length
  · rw [← List.head?_eq_none_iff, hhead, h.letter hletter]
    rfl

/-- A directive in place of another one does not change the first byte of the sources. -/
theorem head?_source_set {all : List Segment} {i : Nat} {s : Spelling}
    (hget : all[i]? = some (.directive s)) (other : Spelling) :
    ((all.set i (.directive other)).flatMap Segment.source).head? =
      (all.flatMap Segment.source).head? := by
  induction all generalizing i with
  | nil => rfl
  | cons segment rest ih =>
    cases i with
    | zero =>
      obtain rfl := Option.some.inj hget
      rfl
    | succ i =>
      rw [List.set_cons_succ, List.flatMap_cons, List.flatMap_cons, List.head?_append,
        List.head?_append, ih hget]

/-- A directive can stand in place of another one if its parts are greedy wherever those of the
other one are. -/
theorem IsCut.set {all : List Segment} (h : IsCut all) {i : Nat} {s other : Spelling}
    (hget : all[i]? = some (.directive s)) (hother : ∀ rest, s.IsGreedy rest → other.IsGreedy rest) :
    IsCut (all.set i (.directive other)) := by
  induction h generalizing i with
  | nil => exact .nil
  | @literal run rest hne hrun hnext hrest ih =>
    cases i with
    | zero => cases hget
    | succ i =>
      refine .literal hne hrun (fun next hhead => ?_) (ih hget)
      rcases rest with _ | ⟨segment, rest⟩
      · cases hget
      · cases i with
        | zero => cases hhead
        | succ i => exact hnext next hhead
  | @directive first rest hs hrest ih =>
    cases i with
    | zero =>
      obtain rfl := Segment.directive.inj (Option.some.inj hget)
      exact .directive (hother _ hs) hrest
    | succ i =>
      rw [List.getElem?_cons_succ] at hget
      exact .directive (hs.of_head? (head?_source_set hget other)) (ih hget)

/-! ## Plain parts -/

/-- The byte stands for a conversion that is known. -/
def IsConversionByte (b : UInt8) : Prop := Conversion.ofByte b ≠ .unknown b

/-- A byte that can stand behind the number of a width. -/
def EndsNumber (b : UInt8) : Prop := b = Ascii.point ∨ b = Ascii.letterL ∨ IsConversionByte b

/-- A conversion byte that is known is nothing else in a directive. -/
theorem IsConversionByte.not_part {b : UInt8} (h : IsConversionByte b) :
    b ∉ flagBytes ∧ Ascii.isDigit b = false ∧ b ≠ Ascii.star ∧ b ≠ Ascii.point ∧
      b ≠ Ascii.letterL ∧ b ≠ Ascii.nul := by
  obtain ⟨conversion, hletter⟩ : ∃ conversion : Conversion, b ∈ conversion.letters := by
    by_contra hnone
    exact h ((Conversion.ofByte_eq_unknown_iff b).2 (not_exists.1 hnone))
  have hrow : ∀ letter ∈ conversion.letters, letter ∉ flagBytes ∧ Ascii.isDigit letter = false ∧
      letter ≠ Ascii.star ∧ letter ≠ Ascii.point ∧ letter ≠ Ascii.letterL ∧
        letter ≠ Ascii.nul := by
    cases conversion with
    | unknown _ | truncated => exact List.forall_mem_nil _
    | _ => decide +kernel
  exact hrow b hletter

/-- A byte behind a number is none of the number, and none that could stand before it. -/
theorem EndsNumber.not_part {b : UInt8} (h : EndsNumber b) :
    b ∉ flagBytes ∧ Ascii.isDigit b = false ∧ b ≠ Ascii.star := by
  obtain rfl | rfl | h := h
  · decide
  · decide
  · exact ⟨h.not_part.1, h.not_part.2.1, h.not_part.2.2.1⟩

/-- A digit other than zero is no flag. -/
theorem not_mem_flagBytes_of_isDigit {b : UInt8} (h : Ascii.isDigit b = true)
    (hzero : b ≠ Ascii.zero) : b ∉ flagBytes := by
  have hall : ∀ i : Fin flagBytes.length, Ascii.isDigit flagBytes[i] = true →
      flagBytes[i] = Ascii.zero := by decide
  intro hmem
  obtain ⟨i, hi, rfl⟩ := List.mem_iff_getElem.1 hmem
  exact hzero (hall ⟨i, hi⟩ h)

/-- A run of digits is all there is of an amount where a byte stands behind it that is neither a
digit nor a star. -/
theorem Amount.isLongest_digits {run behind : Bytes} (hrun : ∀ b ∈ run, Ascii.isDigit b = true)
    (hbehind : ∀ b ∈ behind.head?, Ascii.isDigit b = false ∧ b ≠ Ascii.star) :
    (digits run).IsLongest behind := by
  refine ⟨⟨hrun, fun b hb => (hbehind b hb).1⟩, fun hhead => ?_⟩
  rcases run with _ | ⟨b, run⟩
  · exact (hbehind _ hhead).2 rfl
  · obtain rfl : b = Ascii.star := Option.some.inj hhead
    exact absurd (hrun _ List.mem_cons_self) (by decide)

namespace Spelling

/-- Parts that can be told apart wherever the directive stands. -/
structure IsPlain (s : Spelling) : Prop where
  flags : ∀ b ∈ s.flags, b ∈ flagBytes
  /-- A width does not begin with the zero of a flag. -/
  width : ∀ run, s.width = .digits run →
    (∀ b ∈ run, Ascii.isDigit b = true) ∧ run.head? ≠ some Ascii.zero
  precision : ∀ run, s.precision = some (.digits run) → ∀ b ∈ run, Ascii.isDigit b = true
  letter : ∀ b, s.letter = some b → IsConversionByte b

/-- A directive that was read has plain parts if its conversion is known. -/
theorem IsGreedy.isPlain {s : Spelling} {rest : Bytes} (h : s.IsGreedy rest)
    (hknown : ∀ b, s.directive.conversion ≠ .unknown b) : s.IsPlain where
  flags b hb := List.contains_iff_mem.1 (h.flags.all b hb)
  width run hrun := by
    have hlongest := h.width
    rw [hrun] at hlongest
    refine ⟨hlongest.1.all, fun hhead => ?_⟩
    -- The flags would have taken the zero.
    have hends := h.flags.ends
    rcases run with _ | ⟨b, run⟩
    · cases hhead
    · rw [hrun] at hends
      obtain rfl : b = Ascii.zero := Option.some.inj hhead
      exact absurd (hends _ rfl) (by decide)
  precision run hrun := by
    have hlongest := h.precision
    rw [hrun] at hlongest
    exact hlongest.1.all
  letter b hb hunknown := by
    refine hknown b ?_
    rw [directive, hb]
    exact hunknown

namespace IsPlain

variable {s : Spelling} (h : s.IsPlain) {rest : Bytes} (hrest : s.letter = none → rest = [])
include h hrest

/-- Behind the modifier stands a conversion byte that is known, or nothing. -/
theorem head?_letter : ∀ b ∈ (s.letter.toList ++ rest).head?, IsConversionByte b := by
  intro b hb
  rcases hletter : s.letter with _ | c
  · rw [hletter, hrest hletter] at hb
    cases hb
  · rw [hletter] at hb
    obtain rfl : c = b := Option.some.inj hb
    exact h.letter c hletter

/-- Behind the precision stands the modifier or a conversion byte that is known, or nothing. -/
theorem head?_length : ∀ b ∈ (s.length.text ++ s.letter.toList ++ rest).head?,
    b = Ascii.letterL ∨ IsConversionByte b := by
  intro b hb
  rw [List.append_assoc] at hb
  rcases hlength : s.length with _ | _ | _ <;> rw [hlength] at hb
  · exact .inr (h.head?_letter hrest b hb)
  · exact .inl (Option.some.inj hb).symm
  · exact .inl (Option.some.inj hb).symm

/-- Behind the width stands a byte that ends a number, or nothing. -/
theorem head?_precision :
    ∀ b ∈ (precisionText s.precision ++ s.length.text ++ s.letter.toList ++ rest).head?,
      EndsNumber b := by
  intro b hb
  rw [List.append_assoc, List.append_assoc, ← List.append_assoc s.length.text] at hb
  rcases hprecision : s.precision with _ | amount <;> rw [hprecision] at hb
  · exact .inr (h.head?_length hrest b hb)
  · exact .inl (Option.some.inj hb).symm

/-- Plain parts are greedy wherever they stand, if nothing stands behind a directive that has no
conversion byte. -/
theorem isGreedy : s.IsGreedy rest where
  flags := by
    refine ⟨fun b hb => List.contains_iff_mem.2 (h.flags b hb), fun b hb => ?_⟩
    have hflag : b ∉ flagBytes := by
      rcases hwidth : s.width with _ | run
      · rw [hwidth] at hb
        obtain rfl : Ascii.star = b := Option.some.inj hb
        decide
      · obtain ⟨hrun, hzero⟩ := h.width run hwidth
        rw [hwidth] at hb
        rcases run with _ | ⟨c, run⟩
        · exact (h.head?_precision hrest b hb).not_part.1
        · obtain rfl : c = b := Option.some.inj hb
          exact not_mem_flagBytes_of_isDigit (hrun c List.mem_cons_self)
            fun hc => hzero (congrArg some hc)
    simpa using hflag
  width := by
    rcases hwidth : s.width with _ | run
    · trivial
    · refine Amount.isLongest_digits (h.width run hwidth).1 fun b hb => ?_
      exact (h.head?_precision hrest b hb).not_part.2
  precision := by
    rcases hprecision : s.precision with _ | _ | run
    · intro hhead
      obtain hpoint | hknown := h.head?_length hrest _ hhead
      · exact absurd hpoint (by decide)
      · exact hknown.not_part.2.2.2.1 rfl
    · trivial
    · refine Amount.isLongest_digits (h.precision run hprecision) fun b hb => ?_
      exact (EndsNumber.not_part (.inr (h.head?_length hrest b hb))).2
  length := by
    refine .inr fun hhead => ?_
    exact (h.head?_letter hrest _ hhead).not_part.2.2.2.2.1 rfl
  letter := hrest

end IsPlain

/-- Plain parts have no NUL. -/
theorem IsPlain.nul_not_mem_text {s : Spelling} (h : s.IsPlain) : Ascii.nul ∉ s.text := by
  have hdigits : ∀ run : Bytes, (∀ b ∈ run, Ascii.isDigit b = true) → Ascii.nul ∉ run :=
    fun run hrun hmem => absurd (hrun _ hmem) (by decide)
  simp only [text, List.mem_append, not_or]
  refine ⟨⟨⟨⟨?_, ?_⟩, ?_⟩, ?_⟩, ?_⟩
  · exact fun hmem => absurd (h.flags _ hmem) (by decide)
  · rcases hwidth : s.width with _ | run
    · decide
    · exact hdigits run (h.width run hwidth).1
  · rcases hprecision : s.precision with _ | _ | run
    · decide
    · decide
    · have hrun := hdigits run (h.precision run hprecision)
      simpa [precisionText, Amount.text] using ⟨by decide, hrun⟩
  · rcases s.length with _ | _ | _ <;> decide
  · rcases hletter : s.letter with _ | b
    · decide
    · have hb := (h.letter b hletter).not_part.2.2.2.2.2
      simpa using hb.symm

end Spelling

end BoundedFormat
