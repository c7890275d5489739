import BoundedFormat.Proofs.Check.FirstUnmet
import BoundedFormat.Proofs.Format.Concatenation

/-!
# Texts as templates

A text becomes a template that writes it when each percent sign in it is doubled (`escape`). Such a
template has literal runs and the directive `%%` only (`isText_segments_escape`), which read no
argument and leave nothing to report (`planSegments_of_isText`). Byte by byte the template is joined
from the templates of single bytes, so its output is the text (`output_escape`), and a call with it
does what a call with `%s` and the text does (`escaping_is_transparent`).
-/

namespace BoundedFormat

/-! ## Doubled percent signs -/

/-- A byte as a template that writes it: a percent sign twice, any other byte once. -/
def escapeByte (b : UInt8) : Bytes :=
  if b = Ascii.percent then [Ascii.percent, Ascii.percent] else [b]

/-- A text as a template that writes it. -/
def escape (text : Bytes) : Bytes := text.flatMap escapeByte

/-- The directive `%%`. -/
def Spelling.percentSign : Spelling := ⟨[], .digits [], none, .native, some Ascii.percent⟩

/-- The segment is a literal run or the directive `%%`. -/
inductive Segment.IsText : Segment → Prop where
  | literal (run : Bytes) : IsText (.literal run)
  | percentSign : IsText (.directive .percentSign)

/-- Doubling makes no NUL. -/
theorem nul_notMem_escapeByte {b : UInt8} (hb : b ≠ Ascii.nul) : Ascii.nul ∉ escapeByte b := by
  rw [escapeByte]
  split
  · decide
  · exact fun hmem => hb (List.mem_singleton.1 hmem).symm

/-- The template of a text is joined from those of its bytes. -/
theorem escape_cons (b : UInt8) (rest : Bytes) :
    escape (b :: rest) = escapeByte b ++ escape rest := List.flatMap_cons

/-! ## Segments that are text -/

namespace Segment.IsText

variable {segment : Segment}

/-- A segment that is text does not end in the middle of a directive. -/
theorem isCutOff_eq_false (h : segment.IsText) : segment.isCutOff = false := by
  cases h <;> rfl

/-- A segment that is text reads nothing. -/
theorem demands_eq_nil (h : segment.IsText) : segment.demands = [] := by
  cases h <;> rfl

/-- A segment that is text writes something, takes no argument and has nothing to report. -/
theorem exists_resolve_eq (h : segment.IsText) :
    ∃ emission, ∀ cursor, segment.resolve cursor = ⟨.write emission, cursor, []⟩ := by
  cases h with
  | literal run => exact ⟨.run run, fun _ => rfl⟩
  | percentSign => exact ⟨.byte Ascii.percent, fun _ => rfl⟩

end Segment.IsText

/-- Segments that are text take no argument, have nothing to report and make no store. -/
theorem planSegments_of_isText {all : List Segment} (h : ∀ segment ∈ all, segment.IsText)
    (cursor : ArgumentCursor) :
    (planSegments all cursor).arguments = cursor ∧ (planSegments all cursor).diagnostics = [] ∧
      ∀ offset, storesFrom offset (planSegments all cursor).value = [] := by
  induction all generalizing cursor with
  | nil => exact ⟨rfl, rfl, fun _ => rfl⟩
  | cons segment rest ih =>
    obtain ⟨emission, hresolve⟩ := (h segment List.mem_cons_self).exists_resolve_eq
    obtain ⟨harguments, hdiagnostics, hstores⟩ :=
      ih (fun other hother => h other (List.mem_cons_of_mem _ hother)) cursor
    simp only [planSegments, hresolve, harguments, hdiagnostics, List.append_nil, true_and]
    exact fun offset => hstores _

/-- Joined segments are text if both parts are. -/
theorem isText_of_mem_joinSegments {first second : List Segment}
    (hfirst : ∀ segment ∈ first, segment.IsText) (hsecond : ∀ segment ∈ second, segment.IsText) :
    ∀ segment ∈ joinSegments first second, segment.IsText := by
  fun_induction joinSegments first second with
  | case1 second => exact hsecond
  | case2 run next rest =>
    intro segment hmem
    obtain rfl | hmem := List.mem_cons.1 hmem
    · exact .literal _
    · exact hsecond segment (List.mem_cons_of_mem _ hmem)
  | case3 segment rest second hshape ih =>
    intro other hmem
    obtain rfl | hmem := List.mem_cons.1 hmem
    · exact hfirst other List.mem_cons_self
    · exact ih (fun other hother => hfirst other (List.mem_cons_of_mem _ hother)) hsecond other hmem

/-! ## The template of a byte -/

section

variable {b : UInt8} (hb : b ≠ Ascii.nul)
include hb

/-- The template of a byte is one segment. -/
theorem segments_escapeByte :
    segments (escapeByte b) =
      [if b = Ascii.percent then .directive .percentSign else .literal [b]] := by
  rw [segments_eq_cutWithin, escapeByte]
  split
  · rfl
  · next hpercent =>
    have hbefore : beforeNul [b] = [b] := List.takeWhile_cons_of_pos (by simpa using hb)
    rw [hbefore, List.length_singleton, cutWithin, if_neg hpercent]
    rfl

/-- This segment is text. -/
theorem isText_segments_escapeByte : ∀ segment ∈ segments (escapeByte b), segment.IsText := by
  rw [segments_escapeByte hb]
  intro segment hmem
  obtain rfl := List.mem_singleton.1 hmem
  split
  · exact .percentSign
  · exact .literal [b]

/-- The template of a byte does not end in the middle of a directive. -/
theorem isCutOff_segments_escapeByte :
    ∀ segment ∈ segments (escapeByte b), segment.isCutOff = false := fun segment hmem =>
  (isText_segments_escapeByte hb segment hmem).isCutOff_eq_false

/-- The template of a byte writes it. -/
theorem output_escapeByte (arguments : List Argument) : output (escapeByte b) arguments = [b] := by
  rw [output, plan, segments_escapeByte hb]
  split
  · next hpercent =>
    rw [hpercent]
    rfl
  · rfl

end

/-! ## The template of a text -/

/-- A template of text reads nothing. -/
theorem demands_of_isText {template : Bytes} (h : ∀ segment ∈ segments template, segment.IsText) :
    demands template = [] :=
  List.flatMap_eq_nil_iff.2 fun segment hmem => (h segment hmem).demands_eq_nil

/-- A template that reads nothing accepts no arguments. -/
theorem checkArguments_nil {template : Bytes} (h : demands template = []) :
    checkArguments template [] = .ok 0 := by
  rw [checkArguments_eq_iff, h]
  exact .fit (fun k hunmet => absurd hunmet.lt_length (Nat.not_lt_zero k)) (Nat.le_refl 0)

section

variable {text : Bytes} (hnul : Ascii.nul ∉ text)
include hnul

/-- The segments of the template of a text are text. -/
theorem isText_segments_escape : ∀ segment ∈ segments (escape text), segment.IsText := by
  induction text with
  | nil =>
    intro segment hmem
    rw [segments_eq_cutWithin] at hmem
    cases hmem
  | cons b rest ih =>
    obtain ⟨hb, hrest⟩ := not_or.1 (List.mem_cons.not.1 hnul)
    rw [escape_cons, segments_append _ (nul_notMem_escapeByte (Ne.symm hb))
      (isCutOff_segments_escapeByte (Ne.symm hb))]
    exact isText_of_mem_joinSegments (isText_segments_escapeByte (Ne.symm hb)) (ih hrest)

/-- The template of a text writes the text, whatever the arguments are. -/
theorem output_escape (arguments : List Argument) : output (escape text) arguments = text := by
  induction text generalizing arguments with
  | nil =>
    rw [output, plan, segments_eq_cutWithin]
    rfl
  | cons b rest ih =>
    obtain ⟨hb, hrest⟩ := not_or.1 (List.mem_cons.not.1 hnul)
    rw [escape_cons, output_append _ _ (nul_notMem_escapeByte (Ne.symm hb))
      (isCutOff_segments_escapeByte (Ne.symm hb)), output_escapeByte (Ne.symm hb), ih hrest,
      List.singleton_append]

/-- A call with the template of a text offers the text and does nothing else. -/
theorem formatInto_escape (cells : Array UInt8) (arguments : List Argument)
    (counters : Counters) :
    formatInto cells (escape text) arguments counters =
      { outcome := ((Buffer.ofCells cells).putAll text).outcome
        cells := ((Buffer.ofCells cells).putAll text).terminate
        counters := counters
        diagnostics := []
        consumed := 0 } := by
  obtain ⟨harguments, hdiagnostics, hstores⟩ :=
    planSegments_of_isText (isText_segments_escape hnul) (.ofList arguments)
  rw [formatInto_eq, output_escape hnul, stores, plan, harguments, hdiagnostics, hstores]
  rfl

/-- A template of text leaves nothing to report. -/
theorem diagnostics_plan_escape (arguments : List Argument) :
    (plan (escape text) arguments).diagnostics = [] :=
  (planSegments_of_isText (isText_segments_escape hnul) _).2.1

/-- The directive `%s` writes a text without a NUL and takes the argument. -/
theorem plan_text :
    plan (utf8 "%s") [.text text] = ⟨[.write (.padded {} 0 text)], ⟨1, []⟩, []⟩ := by
  have hsegments : segments (utf8 "%s") =
      [.directive ⟨[], .digits [], none, .native, some 0x73⟩] := by
    rw [segments_eq_cutWithin]
    rfl
  have hbefore : beforeNul text = text := beforeNul_eq_self hnul
  have hplan : plan (utf8 "%s") [.text text] =
      ⟨[.write (.padded {} 0 (beforeNul text))], ⟨1, []⟩, []⟩ := by
    rw [plan, hsegments]
    rfl
  rw [hplan, hbefore]

/-- The output of `%s` is the text. -/
theorem output_text : output (utf8 "%s") [.text text] = text := by
  rw [output, plan_text hnul]
  simp [Effect.bytes, Emission.bytes, paddedLayout, spaces]

/-- A call with `%s` offers the text and takes one argument. -/
theorem formatInto_text (cells : Array UInt8) (counters : Counters) :
    formatInto cells (utf8 "%s") [.text text] counters =
      { outcome := ((Buffer.ofCells cells).putAll text).outcome
        cells := ((Buffer.ofCells cells).putAll text).terminate
        counters := counters
        diagnostics := []
        consumed := 1 } := by
  rw [formatInto_eq, output_text hnul, stores, plan_text hnul]
  rfl

end

/-- Escaping is transparent. The template that a text without a NUL becomes when its percent signs
are doubled consists of literal runs and `%%` only, and needs no argument to pass a check. Whatever
the arguments are, its output is the text; a call with it takes no argument, leaves the counters as
they are and has nothing to report. Apart from the argument that `%s` takes, such a call leaves
behind what a call with `%s` and the text does. -/
theorem escaping_is_transparent {text : Bytes} (hnul : Ascii.nul ∉ text) :
    (∀ segment ∈ segments (escape text), segment.IsText) ∧
      checkArguments (escape text) [] = .ok 0 ∧
      ∀ arguments : List Argument,
        output (escape text) arguments = text ∧
          output (utf8 "%s") [.text text] = text ∧
          ∀ (cells : Array UInt8) (counters : Counters),
            let run := formatInto cells (escape text) arguments counters
            let shown := formatInto cells (utf8 "%s") [.text text] counters
            run.Truncates cells text ∧ run.consumed = 0 ∧ run.counters = counters ∧
              run.diagnostics = [] ∧
              (∀ host,
                (Report.formatInto cells (escape text) arguments counters host).events = []) ∧
              run = { shown with consumed := 0 } := by
  have htext := isText_segments_escape hnul
  refine ⟨htext, checkArguments_nil (demands_of_isText htext), fun arguments =>
    ⟨output_escape hnul arguments, output_text hnul, fun cells counters => ?_⟩⟩
  intro run shown
  have hrun : run = _ := formatInto_escape hnul cells arguments counters
  have htruncates : run.Truncates cells (output (escape text) arguments) :=
    truncates_formatInto ..
  rw [output_escape hnul] at htruncates
  refine ⟨htruncates, ?_, ?_, ?_, fun host => ?_, ?_⟩
  · rw [hrun]
  · rw [hrun]
  · rw [hrun]
  · rw [Report.events_formatInto, diagnostics_plan_escape hnul, List.flatMap_nil]
  · rw [hrun, show shown = _ from formatInto_text hnul cells counters]

/-- A text with percent signs in front of each other, of a conversion byte, of a flag and at the
end, and a call that is handed arguments for the conversions that are not there. -/
theorem escaping_is_transparent_before_conversions :
    let text := utf8 "5%d %%-l%"
    let arguments : List Argument := [.int32 7, .text (utf8 "x")]
    Ascii.nul ∉ text ∧ escape text = utf8 "5%%d %%%%-l%%" ∧
      checkArguments (utf8 "5%%d %%%%-l%%") [] = .ok 0 ∧
      output (utf8 "5%%d %%%%-l%%") arguments = text ∧
      ∀ (cells : Array UInt8) (counters : Counters),
        (formatInto cells (utf8 "5%%d %%%%-l%%") arguments counters).consumed = 0 := by
  intro text arguments
  have hnul : Ascii.nul ∉ text := by decide
  have hescape : escape text = utf8 "5%%d %%%%-l%%" := by decide
  obtain ⟨-, hcheck, hcalls⟩ := escaping_is_transparent hnul
  rw [hescape] at hcheck hcalls
  obtain ⟨houtput, -, hruns⟩ := hcalls arguments
  exact ⟨hnul, hescape, hcheck, houtput, fun cells counters => (hruns cells counters).2.1⟩

end BoundedFormat
