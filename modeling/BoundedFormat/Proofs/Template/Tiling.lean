import BoundedFormat.Check.Basic
import BoundedFormat.Proofs.Template.Cutting
import BoundedFormat.Proofs.Template.Grammar

/-!
# The segments of a template tile it

A `Scanner` walks through the bytes of a template: each step hands out one segment and moves on
behind it, and the last step finds nothing left. `Scanner.next?_cases` says what one step does, and
`Scanner.yields_iff` that stepping to the end hands out the segments of the template, no more and no
fewer. `Scanner.Yields.at` follows the steps to the place where a given segment begins, so what
holds of one step holds of every segment of the template (`segments_tile_template`).
-/

namespace BoundedFormat

/-! ## Scanning -/

/-- A place in the bytes of a template. -/
structure Scanner where
  bytes : Bytes
  position : Nat

namespace Scanner

/-- The place in front of a template, which ends at its first NUL. -/
def ofTemplate (template : Bytes) : Scanner := ⟨beforeNul template, 0⟩

/-- The bytes from the place on. -/
def rest (scanner : Scanner) : Bytes := scanner.bytes.drop scanner.position

/-- The place `n` bytes further on. -/
def advance (scanner : Scanner) (n : Nat) : Scanner :=
  ⟨scanner.bytes, scanner.position + n⟩

/-- The segment at the place and the place behind it, if there are bytes left. -/
def next? (scanner : Scanner) : Option (Segment × Scanner) :=
  match scanner.rest with
  | [] => none
  | b :: tail =>
    if b = Ascii.percent then
      let spelling := (Spelling.read tail).1
      some (.directive spelling, scanner.advance (spelling.text.length + 1))
    else
      let run := (b :: tail).takeWhile (· != Ascii.percent)
      some (.literal run, scanner.advance run.length)

/-- Stepping to the end hands out these segments. -/
inductive Yields : Scanner → List Segment → Prop where
  | done {scanner : Scanner} (h : scanner.next? = none) : Yields scanner []
  | step {scanner later : Scanner} {segment : Segment} {others : List Segment}
      (h : scanner.next? = some (segment, later)) (hothers : Yields later others) :
      Yields scanner (segment :: others)

/-! ## One step -/

variable {scanner later : Scanner} {segment : Segment}

/-- Behind the first bytes that are left stand the others. -/
theorem rest_advance {front behind : Bytes} (h : scanner.rest = front ++ behind) :
    (scanner.advance front.length).rest = behind := by
  rw [rest, advance, ← List.drop_drop]
  change (scanner.rest).drop front.length = behind
  rw [h, List.drop_left]

/-- Nothing is handed out exactly where nothing is left. -/
theorem next?_eq_none_iff : scanner.next? = none ↔ scanner.rest = [] := by
  rw [next?]
  split
  · next h => simp [h]
  · next b tail h =>
    rw [h]
    split <;> simp

/-- A step hands out either a run of bytes that ends in front of the next percent sign, or a
directive with greedy parts behind a percent sign, and moves on behind it. -/
theorem next?_cases (h : scanner.next? = some (segment, later)) :
    later = scanner.advance segment.source.length ∧
      scanner.rest = segment.source ++ later.rest ∧
      ((∃ run, segment = .literal run ∧ run ≠ [] ∧
          IsLongestRun (· != Ascii.percent) run later.rest) ∨
        ∃ spelling, segment = .directive spelling ∧ spelling.IsGreedy later.rest) := by
  rw [next?] at h
  split at h
  · cases h
  · next b tail hrest =>
    split at h
    · next hpercent =>
      obtain ⟨rfl, rfl⟩ := Prod.mk.inj (Option.some.inj h)
      have hsplit : scanner.rest = (Ascii.percent :: (Spelling.read tail).1.text) ++
          (Spelling.read tail).2 := by
        rw [hrest, hpercent, List.cons_append, Spelling.text_read]
      have hlater : (scanner.advance ((Spelling.read tail).1.text.length + 1)).rest =
          (Spelling.read tail).2 := rest_advance hsplit
      refine ⟨rfl, by rw [hlater]; exact hsplit, .inr ⟨_, rfl, ?_⟩⟩
      rw [hlater]
      exact Spelling.isGreedy_read tail
    · next hpercent =>
      obtain ⟨rfl, rfl⟩ := Prod.mk.inj (Option.some.inj h)
      have hsplit : scanner.rest = (b :: tail).takeWhile (· != Ascii.percent) ++
          (b :: tail).dropWhile (· != Ascii.percent) := by
        rw [hrest, List.takeWhile_append_dropWhile]
      have hlater := rest_advance hsplit
      refine ⟨rfl, by rw [hlater]; exact hsplit, .inl ⟨_, rfl, ?_, ?_⟩⟩
      · rw [List.takeWhile_cons_of_pos (by simpa using hpercent)]
        exact List.cons_ne_nil _ _
      · rw [hlater]
        exact isLongestRun_span _ _

/-- A step moves on. -/
theorem source_ne_nil (h : scanner.next? = some (segment, later)) : segment.source ≠ [] := by
  obtain ⟨-, -, ⟨run, rfl, hrun, -⟩ | ⟨spelling, rfl, -⟩⟩ := next?_cases h
  · exact hrun
  · exact List.cons_ne_nil _ _

/-- A literal run ends in front of the next percent sign. -/
theorem isLongestRun_of_next? {run : Bytes} (h : scanner.next? = some (.literal run, later)) :
    IsLongestRun (· != Ascii.percent) run later.rest := by
  obtain ⟨-, -, ⟨_, hrun, -, hlongest⟩ | ⟨_, hspelling, -⟩⟩ := next?_cases h
  · rwa [Segment.literal.inj hrun]
  · exact nomatch hspelling

/-- A directive has greedy parts. -/
theorem isGreedy_of_next? {spelling : Spelling}
    (h : scanner.next? = some (.directive spelling, later)) : spelling.IsGreedy later.rest := by
  obtain ⟨-, -, ⟨_, hrun, -⟩ | ⟨_, hspelling, hgreedy⟩⟩ := next?_cases h
  · exact nomatch hrun
  · rwa [Segment.directive.inj hspelling]

/-- A step hands out the first of the segments that the bytes are cut into. -/
theorem cut_rest (h : scanner.next? = some (segment, later)) :
    cut scanner.rest = segment :: cut later.rest := by
  obtain ⟨-, hrest, ⟨run, rfl, hrun, hlongest⟩ | ⟨spelling, rfl, hgreedy⟩⟩ := next?_cases h
  · rw [hrest, Segment.source]
    rcases run with _ | ⟨b, run⟩
    · exact absurd rfl hrun
    · have hpercent : b ≠ Ascii.percent := by simpa using hlongest.all b List.mem_cons_self
      have hshorter : IsLongestRun (· != Ascii.percent) run later.rest :=
        ⟨fun c hc => hlongest.all c (List.mem_cons_of_mem _ hc), hlongest.ends⟩
      rw [List.cons_append, cut_of_ne_percent _ hpercent, hshorter.takeWhile_eq,
        hshorter.dropWhile_eq]
  · rw [hrest, Segment.source, List.cons_append, cut_percent, Spelling.read_text_append hgreedy]

/-! ## Stepping to the end -/

/-- Stepping comes to an end and hands out the segments that the bytes are cut into. -/
theorem yields_cut (scanner : Scanner) : scanner.Yields (cut scanner.rest) := by
  rcases hnext : scanner.next? with _ | ⟨segment, later⟩
  · rw [next?_eq_none_iff.1 hnext, cut]
    exact .done hnext
  · rw [cut_rest hnext]
    exact .step hnext (yields_cut later)
termination_by scanner.rest.length
decreasing_by
  have hpos := List.length_pos_iff.2 (source_ne_nil hnext)
  rw [(next?_cases hnext).2.1, List.length_append]
  omega

/-- Stepping to the end hands out these segments and no others. -/
theorem yields_iff {all : List Segment} : scanner.Yields all ↔ all = cut scanner.rest := by
  constructor
  · intro h
    induction h with
    | done h => rw [next?_eq_none_iff.1 h, cut]
    | step h _ ih => rw [cut_rest h, ih]
  · rintro rfl
    exact yields_cut scanner

/-- Moving on twice is moving on by the sum. -/
theorem advance_advance (scanner : Scanner) (m n : Nat) :
    (scanner.advance m).advance n = scanner.advance (m + n) := by
  simp only [advance, Nat.add_assoc]

end Scanner

/-- Where the source of segment `i` begins. -/
def sourceStart (all : List Segment) (i : Nat) : Nat :=
  ((all.take i).flatMap Segment.source).length

/-- Segments that come later begin further on. -/
theorem sourceStart_cons_succ (segment : Segment) (others : List Segment) (i : Nat) :
    sourceStart (segment :: others) (i + 1) =
      segment.source.length + sourceStart others i := by
  rw [sourceStart, List.take_succ_cons, List.flatMap_cons, List.length_append, sourceStart]

/-- The next segment begins where this one ends. -/
theorem sourceStart_succ {all : List Segment} {segment : Segment} {i : Nat}
    (h : all[i]? = some segment) :
    sourceStart all (i + 1) = sourceStart all i + segment.source.length := by
  rw [sourceStart, List.take_add_one, h, List.flatMap_append, List.length_append, sourceStart]
  simp

/-- Stepping to the end comes by the place where segment `i` begins, hands out this segment there
and goes on to hand out the segments behind it. -/
theorem Scanner.Yields.at {scanner : Scanner} {all : List Segment} {segment : Segment} {i : Nat}
    (h : scanner.Yields all) (hget : all[i]? = some segment) :
    ∃ later, (scanner.advance (sourceStart all i)).next? = some (segment, later) ∧
      later.Yields (all.drop (i + 1)) := by
  induction h generalizing i with
  | done _ => exact nomatch hget
  | @step scanner later first others hnext hothers ih =>
    cases i with
    | zero =>
      obtain rfl := Option.some.inj hget
      exact ⟨later, hnext, hothers⟩
    | succ i =>
      rw [List.getElem?_cons_succ] at hget
      obtain ⟨behind, hbehind, hyields⟩ := ih hget
      rw [(next?_cases hnext).1, advance_advance, ← sourceStart_cons_succ] at hbehind
      exact ⟨behind, hbehind, hyields⟩

/-! ## Tiles -/

/-- Segment `i` of all the segments is a tile of the text. -/
structure IsTile (text : Bytes) (all : List Segment) (i : Nat) (segment : Segment) : Prop where
  source_ne_nil : segment.source ≠ []
  /-- The tile reaches up to where the next one begins. -/
  source_eq : segment.source = text.extract (sourceStart all i) (sourceStart all (i + 1))
  /-- It does not reach beyond the text. -/
  le_length : sourceStart all (i + 1) ≤ text.length
  /-- A literal run has neither a percent sign nor a NUL, and no other literal run behind it. -/
  literal : ∀ run, segment = .literal run →
    Ascii.percent ∉ run ∧ Ascii.nul ∉ run ∧ ∀ next, all[i + 1]? ≠ some (.literal next)
  /-- A directive stands behind a percent sign and is the one that is read there, up to the end of
  the tile. -/
  directive : ∀ spelling, segment = .directive spelling →
    text[sourceStart all i]? = some Ascii.percent ∧
      directiveAt text (sourceStart all i + 1) = (spelling.directive, sourceStart all (i + 1))
  /-- Nothing comes after a directive that is cut off. -/
  truncated : ∀ spelling, segment = .directive spelling →
    spelling.directive.conversion = .truncated → i + 1 = all.length

/-- Where no byte of a literal run stands, a scanner does not find one. -/
theorem Scanner.Yields.head?_ne_literal {scanner : Scanner} {all : List Segment}
    (h : scanner.Yields all) (hends : ∀ b ∈ scanner.rest.head?, (b != Ascii.percent) = false)
    (run : Bytes) : all.head? ≠ some (.literal run) := by
  cases h with
  | done _ => exact nofun
  | step hnext _ =>
    intro hhead
    obtain rfl := Option.some.inj hhead
    have hrest := (next?_cases hnext).2.1
    rcases run with _ | ⟨b, run⟩
    · exact source_ne_nil hnext rfl
    · rw [hrest] at hends
      have hpercent := hends b rfl
      rw [(isLongestRun_of_next? hnext).all b List.mem_cons_self] at hpercent
      exact nomatch hpercent

section

variable {text : Bytes} {i : Nat} {segment : Segment}

/-- A scanner where segment `i` of a text begins hands out this segment and then those behind it. -/
theorem Scanner.next?_sourceStart (hget : (cut text)[i]? = some segment) :
    let later : Scanner := ⟨text, sourceStart (cut text) (i + 1)⟩
    (Scanner.mk text (sourceStart (cut text) i)).next? = some (segment, later) ∧
      later.Yields ((cut text).drop (i + 1)) := by
  intro later
  have hall : (Scanner.mk text 0).Yields (cut text) := yields_cut ⟨text, 0⟩
  obtain ⟨behind, hnext, hyields⟩ := hall.at hget
  have hstart : (Scanner.mk text 0).advance (sourceStart (cut text) i) =
      ⟨text, sourceStart (cut text) i⟩ := by
    rw [advance, Nat.zero_add]
  have hbehind : behind = later := by
    rw [(next?_cases hnext).1, advance_advance, ← sourceStart_succ hget, advance, Nat.zero_add]
  rw [← hbehind, ← hstart]
  exact ⟨hnext, hyields⟩

/-- Where segment `i` of a text begins, its source stands in front of where the next one begins. -/
theorem drop_sourceStart (hget : (cut text)[i]? = some segment) :
    text.drop (sourceStart (cut text) i) =
      segment.source ++ text.drop (sourceStart (cut text) (i + 1)) :=
  (Scanner.next?_cases (Scanner.next?_sourceStart hget).1).2.1

/-- A directive of a text is the one that is read behind its percent sign. -/
theorem read_drop_sourceStart {spelling : Spelling}
    (hget : (cut text)[i]? = some (.directive spelling)) :
    Spelling.read (text.drop (sourceStart (cut text) i + 1)) =
      (spelling, text.drop (sourceStart (cut text) (i + 1))) := by
  rw [← List.drop_drop, drop_sourceStart hget]
  exact Spelling.read_text_append
    (Scanner.isGreedy_of_next? (Scanner.next?_sourceStart hget).1)

/-- A directive of a text that is cut off is its last segment. -/
theorem succ_eq_length_of_truncated {spelling : Spelling}
    (hget : (cut text)[i]? = some (.directive spelling))
    (htruncated : spelling.directive.conversion = .truncated) : i + 1 = (cut text).length := by
  obtain ⟨hnext, hyields⟩ := Scanner.next?_sourceStart hget
  have hnothing := (Scanner.isGreedy_of_next? hnext).letter
    (spelling.conversion_eq_truncated_iff.1 htruncated)
  have hdrop : (cut text).drop (i + 1) = [] := by
    rw [Scanner.yields_iff.1 hyields, hnothing, cut]
  have hlt := (List.getElem?_eq_some_iff.1 hget).1
  have hge := List.drop_eq_nil_iff.1 hdrop
  omega

/-- Every segment of a text without a NUL is a tile of it. -/
theorem isTile_of_getElem? (hnul : Ascii.nul ∉ text) (hget : (cut text)[i]? = some segment) :
    IsTile text (cut text) i segment := by
  obtain ⟨hnext, hyields⟩ := Scanner.next?_sourceStart hget
  have hsucc := sourceStart_succ hget
  have hne := Scanner.source_ne_nil hnext
  have hrest := drop_sourceStart hget
  refine ⟨hne, ?_, ?_, ?_, ?_, ?_⟩
  · rw [List.extract_eq_take_drop, hsucc, Nat.add_sub_cancel_left, hrest, List.take_left]
  · have hlength := congrArg List.length hrest
    have hpos := List.length_pos_iff.2 hne
    rw [List.length_append, List.length_drop, List.length_drop] at hlength
    omega
  · rintro run rfl
    have hlongest := Scanner.isLongestRun_of_next? hnext
    refine ⟨fun hmem => ?_, fun hmem => ?_, fun next => ?_⟩
    · exact nomatch hlongest.all _ hmem
    · refine hnul (List.mem_of_mem_drop (i := sourceStart (cut text) i) ?_)
      rw [hrest]
      exact List.mem_append_left _ hmem
    · rw [← List.head?_drop]
      exact hyields.head?_ne_literal hlongest.ends next
  · rintro spelling rfl
    refine ⟨?_, ?_⟩
    · rw [← List.head?_drop, hrest]
      rfl
    · rw [directiveAt_of_read (read_drop_sourceStart hget), hsucc, Segment.source,
        List.length_cons, Nat.add_assoc, Nat.add_comm 1]
  · rintro spelling rfl htruncated
    exact succ_eq_length_of_truncated hget htruncated

end

/-- A template is tiled by its segments. A scanner steps through its text, which ends at the first
NUL, hands out these segments and comes to an end; their sources, one after the other, are the text,
and each of them is a tile of it. What stands at the first NUL or behind it has no influence on the
segments, on what a formatting call does or on what a check finds. -/
theorem segments_tile_template (template : Bytes) :
    let text := beforeNul template
    Ascii.nul ∉ text ∧
      (template = text ∨ ∃ behind, template = text ++ Ascii.nul :: behind) ∧
      (∀ all, (Scanner.ofTemplate template).Yields all ↔ all = segments template) ∧
      (segments template).flatMap Segment.source = text ∧
      (∀ (i : Nat) (segment : Segment), (segments template)[i]? = some segment →
        IsTile text (segments template) i segment) ∧
      ∀ other, beforeNul other = text →
        segments other = segments template ∧
          ∀ (cells : Array UInt8) (arguments : List Argument) (counters : Counters),
            formatInto cells other arguments counters =
                formatInto cells template arguments counters ∧
              checkArguments other arguments = checkArguments template arguments := by
  intro text
  have hnul : Ascii.nul ∉ text := fun hmem => ne_nul_of_mem_beforeNul hmem rfl
  refine ⟨hnul, ?_, fun all => Scanner.yields_iff, flatMap_source_cut text,
    fun i segment hget => isTile_of_getElem? hnul hget, fun other hother => ?_⟩
  · have hsplit := List.takeWhile_append_dropWhile (p := (· != Ascii.nul)) (l := template)
    have hends := (isLongestRun_span (· != Ascii.nul) template).ends
    rcases hdrop : template.dropWhile (· != Ascii.nul) with _ | ⟨b, behind⟩
    · rw [hdrop, List.append_nil] at hsplit
      exact .inl hsplit.symm
    · rw [hdrop] at hsplit hends
      have hb : b = Ascii.nul := by simpa using hends b rfl
      exact .inr ⟨behind, hb ▸ hsplit.symm⟩
  · have hsegments : segments other = segments template := congrArg cut hother
    refine ⟨hsegments, fun cells arguments counters => ⟨?_, ?_⟩⟩
    · simp only [formatInto, plan, hsegments]
    · simp only [checkArguments, hsegments]

end BoundedFormat
