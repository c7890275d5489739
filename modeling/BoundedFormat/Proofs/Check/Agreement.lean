import BoundedFormat.Host.Console
import BoundedFormat.Proofs.Format.Truncation
import BoundedFormat.Proofs.Plan.Slots

/-!
# Checking agrees with formatting

A check and a formatting call walk through the same segments, each with its own readers. Formatting
skips what it cannot use and goes on; a check stops there. `Agrees check read` says that the two are
in step on one stretch of a template: where the check lets the arguments pass, the reader skips
nothing and both go on from the same place; where the check fails, its error tells of the reader's
first skip. Stretches put together are in step if each of them is (`Agrees.andThen`), so it is
enough to compare what happens to a single argument (`expectArgument_agrees_readOne`).
-/

namespace BoundedFormat

/-! ## Skips and the errors that tell of them -/

namespace Diagnostic

/-- The byte that names the reader: `*`, or the conversion's. -/
def byte : Diagnostic → UInt8
  | starMissing | starKind _ => Ascii.star
  | missing conversion | wrongKind conversion _ => conversion
  | unknownConversion b => b

/-- The kind of argument that was found, if one was. -/
def found? : Diagnostic → Option ArgumentKind
  | starMissing | missing _ | unknownConversion _ => none
  | starKind found | wrongKind _ found => some found

end Diagnostic

/-- The error that tells of a skip at place `index`. -/
def CheckError.ofSkip (index : Nat) (skip : Diagnostic) : CheckError :=
  match skip.found? with
  | none => .missingArgument index skip.byte
  | some found => .typeMismatch index skip.byte found

/-- The first skip of a run, if there is one. -/
def firstSkip? (diagnostics : List Diagnostic) : Option Diagnostic :=
  diagnostics.find? Diagnostic.isSkip

/-- A run without a first skip has none at all. -/
theorem firstSkip?_eq_none_iff {diagnostics : List Diagnostic} :
    firstSkip? diagnostics = none ↔ ∀ diagnostic ∈ diagnostics, diagnostic.isSkip = false := by
  simp [firstSkip?]

/-- The first skip of two stretches is that of the former, or else that of the latter. -/
theorem firstSkip?_append (former latter : List Diagnostic) :
    firstSkip? (former ++ latter) = (firstSkip? former).or (firstSkip? latter) :=
  List.find?_append

/-! ## A check in step with a reader -/

/-- A check and a reader of arguments are in step, wherever they start. -/
structure Agrees {α : Type} (check : ArgumentCursor → Except CheckError ArgumentCursor)
    (read : ArgumentCursor → Reading α) : Prop where
  /-- What the check lets pass is read without a skip, up to the same place. -/
  of_ok : ∀ {cursor rest : ArgumentCursor}, check cursor = .ok rest →
    rest = (read cursor).arguments ∧ firstSkip? (read cursor).diagnostics = none
  /-- The check fails with the error that tells of the first skip. -/
  of_error : ∀ {cursor : ArgumentCursor} {error : CheckError}, check cursor = .error error →
    ∃ index skip, firstSkip? (read cursor).diagnostics = some skip ∧ error = .ofSkip index skip

namespace Agrees

variable {α β : Type}

/-- Checking nothing agrees with reading nothing. -/
theorem nothing (value : α) : Agrees .ok (fun cursor => ⟨value, cursor, []⟩) where
  of_ok h := ⟨(Except.ok.inj h).symm, rfl⟩
  of_error h := nomatch h

/-- Two stretches in step are in step one after the other. -/
theorem andThen {check next : ArgumentCursor → Except CheckError ArgumentCursor}
    {read : ArgumentCursor → Reading α} {readNext : α → ArgumentCursor → Reading β}
    (h : Agrees check read) (hnext : ∀ value, Agrees next (readNext value)) :
    Agrees (fun cursor => check cursor >>= next) (andThen read readNext) := by
  refine ⟨fun {cursor rest} hok => ?_, fun {cursor error} herror => ?_⟩
  · rcases hcheck : check cursor with error | middle
    · rw [hcheck] at hok
      exact nomatch hok
    · obtain ⟨rfl, hfirst⟩ := h.of_ok hcheck
      rw [hcheck] at hok
      obtain ⟨hrest, hsecond⟩ := (hnext (read cursor).value).of_ok hok
      refine ⟨hrest, ?_⟩
      rw [BoundedFormat.andThen, firstSkip?_append, hfirst, hsecond]
      rfl
  · rcases hcheck : check cursor with first | middle
    · -- The first stretch fails, and its first skip is that of the whole.
      rw [hcheck] at herror
      obtain ⟨index, skip, hskip, rfl⟩ := h.of_error hcheck
      refine ⟨index, skip, ?_, (Except.error.inj herror).symm⟩
      rw [BoundedFormat.andThen, firstSkip?_append, hskip, Option.some_or]
    · -- The first stretch skips nothing, so the first skip is that of the second.
      obtain ⟨rfl, hfirst⟩ := h.of_ok hcheck
      rw [hcheck] at herror
      obtain ⟨index, skip, hskip, rfl⟩ := (hnext (read cursor).value).of_error herror
      refine ⟨index, skip, ?_, rfl⟩
      rw [BoundedFormat.andThen, firstSkip?_append, hfirst, Option.none_or, hskip]

/-- What is made of the arguments does not matter for being in step. -/
theorem congr {check : ArgumentCursor → Except CheckError ArgumentCursor}
    {read : ArgumentCursor → Reading α} {other : ArgumentCursor → Reading β}
    (h : Agrees check read)
    (harguments : ∀ cursor, (other cursor).arguments = (read cursor).arguments)
    (hdiagnostics : ∀ cursor, (other cursor).diagnostics = (read cursor).diagnostics) :
    Agrees check other := by
  refine ⟨fun {cursor rest} hok => ?_, fun {cursor error} herror => ?_⟩
  · rw [harguments, hdiagnostics]
    exact h.of_ok hok
  · rw [hdiagnostics]
    exact h.of_error herror

end Agrees

/-! ## One argument -/

/-- A check of one argument is in step with a reader that has a use for the same arguments and
reports its skips under the same byte. -/
theorem expectArgument_agrees_readOne {α : Type} {byte : UInt8} {accepts : Argument → Bool}
    {missing : Diagnostic} {wrong : ArgumentKind → Diagnostic} {fallback : α}
    {use : Argument → Option α} (haccepts : ∀ argument, accepts argument = (use argument).isSome)
    (hmissing : missing.isSkip = true ∧ missing.found? = none ∧ missing.byte = byte)
    (hwrong : ∀ kind, (wrong kind).isSkip = true ∧ (wrong kind).found? = some kind ∧
      (wrong kind).byte = byte) :
    Agrees (expectArgument byte accepts) (readOne missing wrong fallback use) := by
  refine ⟨fun {cursor rest} hok => ?_, fun {cursor error} herror => ?_⟩
  · rw [expectArgument, cursor.next_eq] at hok
    rcases hhead : cursor.rest.head? with _ | argument
    · rw [hhead] at hok
      cases hok
    · simp only [hhead, haccepts] at hok
      by_cases huse : (use argument).isSome = true
      · rw [if_pos huse] at hok
        refine ⟨(Except.ok.inj hok).symm, ?_⟩
        simp only [readOne, hhead, if_pos huse]
        rfl
      · rw [if_neg huse] at hok
        cases hok
  · rw [expectArgument, cursor.next_eq] at herror
    rcases hhead : cursor.rest.head? with _ | argument
    · obtain ⟨hskip, hfound, rfl⟩ := hmissing
      rw [hhead] at herror
      refine ⟨cursor.consumed, missing, ?_, ?_⟩
      · simp only [readOne, hhead, firstSkip?, List.find?_cons_of_pos hskip]
      · rw [CheckError.ofSkip, hfound]
        exact (Except.error.inj herror).symm
    · simp only [hhead, haccepts] at herror
      by_cases huse : (use argument).isSome = true
      · rw [if_pos huse] at herror
        cases herror
      · obtain ⟨hskip, hfound, rfl⟩ := hwrong argument.kind
        rw [if_neg huse] at herror
        refine ⟨cursor.consumed, wrong argument.kind, ?_, ?_⟩
        · simp only [readOne, hhead, if_neg huse, firstSkip?, List.find?_cons_of_pos hskip]
        · rw [CheckError.ofSkip, hfound]
          exact (Except.error.inj herror).symm

/-- A check of one argument is in step with a conversion that has an effect for the same
arguments. -/
theorem expectArgument_agrees_readValue {α : Type} (conversion : UInt8) (fallback : α)
    {accepts : Argument → Bool} {use : Argument → Option α}
    (h : ∀ argument, accepts argument = (use argument).isSome) :
    Agrees (expectArgument conversion accepts) (readValue conversion fallback use) := by
  rw [readValue_eq_readOne]
  exact expectArgument_agrees_readOne h ⟨rfl, rfl, rfl⟩ fun _ => ⟨rfl, rfl, rfl⟩

/-- A check of a star is in step with reading it. -/
theorem expectArgument_agrees_readStar :
    Agrees (expectArgument Ascii.star Argument.isInteger) readStar := by
  rw [readStar_eq_readOne]
  refine expectArgument_agrees_readOne (fun argument => ?_) ⟨rfl, rfl, rfl⟩
    fun _ => ⟨rfl, rfl, rfl⟩
  rw [Argument.isInteger, Argument.signed?, Option.isSome_map, Option.isSome_map]

/-! ## The parts of a template -/

/-- A width is checked in step with being settled. -/
theorem Width.check_agrees_resolve (width : Width) (flags : Flags) :
    Agrees width.check (width.resolve flags) := by
  cases width with
  | fixed n => exact .nothing _
  | fromArgument => exact expectArgument_agrees_readStar.congr (fun _ => rfl) fun _ => rfl

/-- A precision is checked in step with being settled. -/
theorem Precision.check_agrees_resolve (precision : Precision) :
    Agrees precision.check precision.resolve := by
  cases precision with
  | unspecified => exact .nothing _
  | fixed n => exact .nothing _
  | fromArgument => exact expectArgument_agrees_readStar.congr (fun _ => rfl) fun _ => rfl

/-- A conversion is checked in step with being settled: for each kind of argument, what the check
accepts is what the conversion has an effect for. -/
theorem Conversion.check_agrees_resolve (conversion : Conversion) (place : Placement)
    (length : Length) : Agrees conversion.check (conversion.resolve place length) := by
  cases conversion with
  | errorNumber => exact .nothing _
  | percent => exact .nothing _
  | truncated => exact .nothing _
  | unknown b => exact ⟨fun hok => ⟨(Except.ok.inj hok).symm, rfl⟩, fun herror => nomatch herror⟩
  | _ =>
    refine expectArgument_agrees_readValue _ _ fun argument => ?_
    simp [effect?, Argument.isInteger, Argument.signed?, Argument.unsigned?]

/-- A segment is checked in step with being settled. -/
theorem Segment.check_agrees_resolve (segment : Segment) :
    Agrees segment.check segment.resolve := by
  cases segment with
  | literal run => exact .nothing _
  | directive spelling =>
    show Agrees _ spelling.directive.resolve
    rw [spelling.directive.resolve_eq_andThen]
    exact (spelling.directive.width.check_agrees_resolve _).andThen fun _ =>
      spelling.directive.precision.check_agrees_resolve.andThen fun _ =>
        spelling.directive.conversion.check_agrees_resolve ..

/-- Segments are checked in step with being planned. -/
theorem checkSegments_agrees_planSegments (segments : List Segment) :
    Agrees (checkSegments segments) (planSegments segments) := by
  induction segments with
  | nil => exact .nothing _
  | cons segment rest ih =>
    rw [planSegments_cons]
    refine segment.check_agrees_resolve.andThen fun effect => ?_
    exact ih.congr (fun _ => rfl) fun _ => List.append_nil _

/-! ## The whole template -/

/-- What a check can say: it tells of the first skip, or, where there is none, of arguments left
over, or else of how many the template takes, which is then all of them. -/
theorem checkArguments_cases (template : Bytes) (arguments : List Argument) :
    let run := plan template arguments
    (∃ index skip, firstSkip? run.diagnostics = some skip ∧
        checkArguments template arguments = .error (.ofSkip index skip)) ∨
      (firstSkip? run.diagnostics = none ∧ run.arguments.consumed < arguments.length ∧
        checkArguments template arguments =
          .error (.extraArguments run.arguments.consumed arguments.length)) ∨
      (firstSkip? run.diagnostics = none ∧ run.arguments.consumed = arguments.length ∧
        checkArguments template arguments = .ok arguments.length) := by
  intro run
  have hstep := checkSegments_agrees_planSegments (segments template)
  rcases hcheck : checkSegments (segments template) (.ofList arguments) with error | rest
  · obtain ⟨index, skip, hskip, rfl⟩ := hstep.of_error hcheck
    exact .inl ⟨index, skip, hskip, by rw [checkArguments, hcheck]; rfl⟩
  · obtain ⟨rfl, hnone⟩ := hstep.of_ok hcheck
    have hsupplied : run.arguments.supplied = arguments.length := by
      rw [arguments_plan, ArgumentCursor.supplied_skip, ArgumentCursor.supplied_ofList]
    have hchecked : checkArguments template arguments =
        if run.arguments.consumed < arguments.length then
          .error (.extraArguments run.arguments.consumed arguments.length)
        else .ok run.arguments.consumed := by
      rw [checkArguments, hcheck, ← hsupplied]
      rfl
    have hle : run.arguments.consumed ≤ arguments.length := by
      rw [consumed_plan]
      exact Nat.min_le_right _ _
    rcases Nat.lt_or_eq_of_le hle with hlt | heq
    · exact .inr (.inl ⟨hnone, hlt, by rw [hchecked, if_pos hlt]⟩)
    · exact .inr (.inr ⟨hnone, heq, by rw [hchecked, heq, if_neg (Nat.lt_irrefl _)]⟩)

/-- The error that tells of a skip says that an argument is missing, or of what kind it is. -/
theorem CheckError.ofSkip_cases (index : Nat) (skip : Diagnostic) :
    (skip.found? = none ∧ CheckError.ofSkip index skip = .missingArgument index skip.byte) ∨
      ∃ found, skip.found? = some found ∧
        CheckError.ofSkip index skip = .typeMismatch index skip.byte found := by
  rcases hfound : skip.found? with _ | found
  · exact .inl ⟨rfl, by rw [CheckError.ofSkip, hfound]⟩
  · exact .inr ⟨found, rfl, by rw [CheckError.ofSkip, hfound]⟩

/-- A check that fails at an argument tells of the first skip. -/
theorem ofSkip_of_error {template : Bytes} {arguments : List Argument} {error : CheckError}
    (h : checkArguments template arguments = .error error)
    (hne : ∀ consumed supplied, error ≠ .extraArguments consumed supplied) :
    ∃ index skip, firstSkip? (plan template arguments).diagnostics = some skip ∧
      CheckError.ofSkip index skip = error := by
  obtain ⟨index, skip, hskip, herror⟩ | ⟨-, -, herror⟩ | ⟨-, -, hok⟩ :=
    checkArguments_cases template arguments
  · exact ⟨index, skip, hskip, Except.error.inj (herror.symm.trans h)⟩
  · exact absurd (Except.error.inj (h.symm.trans herror)) (hne _ _)
  · exact nomatch hok.symm.trans h

/-- A check that finds an argument missing tells of a skip that found none. -/
theorem skip_of_missingArgument {template : Bytes} {arguments : List Argument} {index : Nat}
    {byte : UInt8} (h : checkArguments template arguments = .error (.missingArgument index byte)) :
    ∃ skip, firstSkip? (plan template arguments).diagnostics = some skip ∧ skip.byte = byte ∧
      skip.found? = none := by
  obtain ⟨place, skip, hskip, hofSkip⟩ := ofSkip_of_error h nofun
  obtain ⟨hfound, heq⟩ | ⟨found, -, heq⟩ := CheckError.ofSkip_cases place skip
  · rw [heq] at hofSkip
    cases hofSkip
    exact ⟨skip, hskip, rfl, hfound⟩
  · exact nomatch heq.symm.trans hofSkip

/-- A check that finds an argument of the wrong kind tells of a skip that found this kind. -/
theorem skip_of_typeMismatch {template : Bytes} {arguments : List Argument} {index : Nat}
    {byte : UInt8} {found : ArgumentKind}
    (h : checkArguments template arguments = .error (.typeMismatch index byte found)) :
    ∃ skip, firstSkip? (plan template arguments).diagnostics = some skip ∧ skip.byte = byte ∧
      skip.found? = some found := by
  obtain ⟨place, skip, hskip, hofSkip⟩ := ofSkip_of_error h nofun
  obtain ⟨-, heq⟩ | ⟨kind, hfound, heq⟩ := CheckError.ofSkip_cases place skip
  · exact nomatch heq.symm.trans hofSkip
  · rw [heq] at hofSkip
    cases hofSkip
    exact ⟨skip, hskip, rfl, hfound⟩

/-- A check fails at an argument exactly if formatting skips something. -/
theorem checkArguments_fails_iff (template : Bytes) (arguments : List Argument) :
    ((∃ index byte, checkArguments template arguments = .error (.missingArgument index byte)) ∨
        ∃ index byte found,
          checkArguments template arguments = .error (.typeMismatch index byte found)) ↔
      firstSkip? (plan template arguments).diagnostics ≠ none := by
  constructor
  · rintro (⟨index, byte, h⟩ | ⟨index, byte, found, h⟩)
    · obtain ⟨skip, hskip, -⟩ := skip_of_missingArgument h
      exact Option.ne_none_iff_exists'.2 ⟨skip, hskip⟩
    · obtain ⟨skip, hskip, -⟩ := skip_of_typeMismatch h
      exact Option.ne_none_iff_exists'.2 ⟨skip, hskip⟩
  · intro hsome
    obtain ⟨index, skip, -, herror⟩ | ⟨hnone, -⟩ | ⟨hnone, -⟩ :=
      checkArguments_cases template arguments
    · obtain ⟨-, heq⟩ | ⟨found, -, heq⟩ := CheckError.ofSkip_cases index skip
      · exact .inl ⟨index, skip.byte, herror.trans (congrArg _ heq)⟩
      · exact .inr ⟨index, skip.byte, found, herror.trans (congrArg _ heq)⟩
    · exact absurd hnone hsome
    · exact absurd hnone hsome

/-- A check passes exactly if formatting skips nothing and takes all arguments. -/
theorem checkArguments_eq_ok_iff (template : Bytes) (arguments : List Argument) (n : Nat) :
    checkArguments template arguments = .ok n ↔
      firstSkip? (plan template arguments).diagnostics = none ∧
        (plan template arguments).arguments.consumed = n ∧ arguments.length = n := by
  obtain ⟨index, skip, hskip, herror⟩ | ⟨hnone, hlt, herror⟩ | ⟨hnone, heq, hok⟩ :=
    checkArguments_cases template arguments
  · rw [herror, hskip]
    exact ⟨nofun, nofun⟩
  · rw [herror]
    refine ⟨nofun, fun ⟨_, hconsumed, hlength⟩ => ?_⟩
    omega
  · rw [hok, heq, Except.ok.injEq]
    exact ⟨fun h => ⟨hnone, h, h⟩, fun h => h.2.1⟩

/-- A check finds arguments left over exactly if formatting skips nothing and takes fewer. -/
theorem checkArguments_eq_extraArguments_iff (template : Bytes) (arguments : List Argument)
    (consumed supplied : Nat) :
    checkArguments template arguments = .error (.extraArguments consumed supplied) ↔
      firstSkip? (plan template arguments).diagnostics = none ∧
        (plan template arguments).arguments.consumed = consumed ∧
          arguments.length = supplied ∧ consumed < supplied := by
  obtain ⟨index, skip, hskip, herror⟩ | ⟨hnone, hlt, herror⟩ | ⟨hnone, heq, hok⟩ :=
    checkArguments_cases template arguments
  · rw [herror, hskip]
    refine ⟨fun h => ?_, fun h => nomatch h.1⟩
    obtain ⟨-, hmissing⟩ | ⟨found, -, hmismatch⟩ := CheckError.ofSkip_cases index skip
    · exact nomatch hmissing.symm.trans (Except.error.inj h)
    · exact nomatch hmismatch.symm.trans (Except.error.inj h)
  · rw [herror, Except.error.injEq, CheckError.extraArguments.injEq]
    exact ⟨fun ⟨hc, hs⟩ => ⟨hnone, hc, hs, hc ▸ hs ▸ hlt⟩, fun h => ⟨h.2.1, h.2.2.1⟩⟩
  · rw [hok]
    refine ⟨nofun, fun ⟨_, hconsumed, hlength, hlt⟩ => ?_⟩
    omega

section

variable {template : Bytes} {arguments : List Argument}

/-- A checked call whose check fails hands back the cells and counters as they were given. -/
theorem formatChecked_of_error {error : CheckError}
    (h : checkArguments template arguments = .error error) (cells : Array UInt8)
    (counters : Counters) :
    formatChecked cells template arguments counters = .error ⟨error, cells, counters⟩ := by
  rw [formatChecked, h]

/-- A checked call whose check passes is the call itself. -/
theorem formatChecked_of_ok {n : Nat} (h : checkArguments template arguments = .ok n)
    (cells : Array UInt8) (counters : Counters) :
    formatChecked cells template arguments counters =
      .ok (formatInto cells template arguments counters) := by
  rw [formatChecked, h]

/-- On a host, a checked call causes nothing if its check fails, and else what the call itself
causes. -/
theorem report_formatChecked_eq (cells : Array UInt8) (counters : Counters) (host : Host) :
    Report.formatChecked cells template arguments counters host =
      ⟨formatChecked cells template arguments counters,
        match checkArguments template arguments with
        | .error _ => []
        | .ok _ => (Report.formatInto cells template arguments counters host).events⟩ := by
  simp only [Report.formatChecked, Report.checkArguments, Report.bind_apply, Report.pure_apply,
    List.nil_append, formatChecked]
  rcases checkArguments template arguments with error | n
  · rfl
  · simp only [Report.bind_apply, Report.pure_apply, Report.formatInto, List.append_nil]

end

/-- A check foretells the formatting call with the same template and arguments. It finds an argument
missing or of the wrong kind exactly if the call skips something, and its error then names the
reader and the kind that the first skip tells of. Otherwise it tells how many arguments the call
takes, and whether any are left over. A checked call whose check fails therefore hands back the
cells and the counters as they were given and logs nothing. Any other is the call itself, in what it
returns, in the cells, the counters and the log, and takes all arguments and skips nothing. -/
theorem checkArguments_foretells_formatInto (cells : Array UInt8) (template : Bytes)
    (arguments : List Argument) (counters : Counters) :
    let run := formatInto cells template arguments counters
    let checked := checkArguments template arguments
    (((∃ index byte, checked = .error (.missingArgument index byte)) ∨
          ∃ index byte found, checked = .error (.typeMismatch index byte found)) ↔
        ∃ diagnostic ∈ run.diagnostics, diagnostic.isSkip = true) ∧
      (∀ index byte, checked = .error (.missingArgument index byte) →
        ∃ skip, firstSkip? run.diagnostics = some skip ∧ skip.byte = byte ∧
          skip.found? = none) ∧
      (∀ index byte found, checked = .error (.typeMismatch index byte found) →
        ∃ skip, firstSkip? run.diagnostics = some skip ∧ skip.byte = byte ∧
          skip.found? = some found) ∧
      (∀ n, checked = .ok n ↔
        (∀ diagnostic ∈ run.diagnostics, diagnostic.isSkip = false) ∧ run.consumed = n ∧
          arguments.length = n) ∧
      (∀ consumed supplied, checked = .error (.extraArguments consumed supplied) ↔
        (∀ diagnostic ∈ run.diagnostics, diagnostic.isSkip = false) ∧
          run.consumed = consumed ∧ arguments.length = supplied ∧ consumed < supplied) ∧
      (∀ error, checked = .error error →
        formatChecked cells template arguments counters = .error ⟨error, cells, counters⟩ ∧
          ∀ host, Report.formatChecked cells template arguments counters host =
            ⟨.error ⟨error, cells, counters⟩, []⟩) ∧
      ∀ n, checked = .ok n →
        formatChecked cells template arguments counters = .ok run ∧
          (∀ host, Report.formatChecked cells template arguments counters host =
            ⟨.ok run, (Report.formatInto cells template arguments counters host).events⟩) ∧
          run.consumed = arguments.length ∧
          ∀ diagnostic ∈ run.diagnostics, diagnostic.isSkip = false := by
  intro run checked
  have hdiagnostics : run.diagnostics = (plan template arguments).diagnostics :=
    diagnostics_formatInto ..
  have hconsumed : run.consumed = (plan template arguments).arguments.consumed := by
    show (formatInto ..).consumed = _
    rw [formatInto_eq]
  have hskips : (∃ diagnostic ∈ run.diagnostics, diagnostic.isSkip = true) ↔
      firstSkip? run.diagnostics ≠ none := by
    simp [firstSkip?]
  rw [hskips]
  simp only [← firstSkip?_eq_none_iff, hdiagnostics, hconsumed]
  refine ⟨checkArguments_fails_iff .., fun _ _ => skip_of_missingArgument,
    fun _ _ _ => skip_of_typeMismatch, checkArguments_eq_ok_iff template arguments,
    checkArguments_eq_extraArguments_iff template arguments,
    fun error (herror : checkArguments template arguments = .error error) => ?_,
    fun n (hok : checkArguments template arguments = .ok n) => ?_⟩
  · have hcall := formatChecked_of_error herror cells counters
    refine ⟨hcall, fun host => ?_⟩
    rw [report_formatChecked_eq, hcall, herror]
  · have hcall := formatChecked_of_ok hok cells counters
    obtain ⟨hnone, htaken, hlength⟩ := (checkArguments_eq_ok_iff ..).1 hok
    refine ⟨hcall, fun host => ?_, htaken.trans hlength.symm, hnone⟩
    rw [report_formatChecked_eq, hcall, hok]

end BoundedFormat
