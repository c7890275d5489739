import BoundedFormat.Proofs.Format.Truncation
import BoundedFormat.Proofs.Plan.Slots
import BoundedFormat.Proofs.Template.Joining

/-!
# Formatting joined templates

A template that does not end in the middle of a directive can be worked through on its own: joined
to another one, it does what it does alone, and the other does what it does alone with the arguments
that the first does not demand. Only the counts that the second one stores differ, by the length of
the output in front of it. `formatInto_append` is the law.

Two literal runs that meet become one segment and one effect, so the plans of the parts are not the
plan of the whole, but they come to the same: `SameWork` compares rows of effects by their bytes and
by their stores, and `planSegments_joinSegments` compares the plans.
-/

namespace BoundedFormat

/-! ## Rows of effects that come to the same -/

/-- Two rows of effects write the same bytes and make the same stores, whatever stands in front. -/
structure SameWork (effects others : List Effect) : Prop where
  bytes_eq : effects.flatMap Effect.bytes = others.flatMap Effect.bytes
  stores_eq : ∀ offset, storesFrom offset effects = storesFrom offset others

/-- The stores of a row of effects that begins with a given one. -/
theorem storesFrom_cons (offset : Nat) (effect : Effect) (rest : List Effect) :
    storesFrom offset (effect :: rest) =
      storesFrom offset [effect] ++ storesFrom (offset + effect.bytes.length) rest := by
  have happend := storesFrom_append offset [effect] rest
  rwa [List.singleton_append, List.flatMap_singleton] at happend

namespace SameWork

variable {effects others : List Effect}

/-- A row of effects comes to the same as itself. -/
theorem refl (effects : List Effect) : SameWork effects effects := ⟨rfl, fun _ => rfl⟩

/-- One effect more in front of both rows. -/
theorem cons (h : SameWork effects others) (effect : Effect) :
    SameWork (effect :: effects) (effect :: others) where
  bytes_eq := by rw [List.flatMap_cons, List.flatMap_cons, h.bytes_eq]
  stores_eq offset := by rw [storesFrom_cons, h.stores_eq, ← storesFrom_cons]

/-- Writing two runs is writing one. -/
theorem write_run_append (a b : Bytes) (effects : List Effect) :
    SameWork (.write (.run (a ++ b)) :: effects)
      (.write (.run a) :: .write (.run b) :: effects) where
  bytes_eq := by simp [Effect.bytes, Emission.bytes]
  stores_eq offset := by simp [storesFrom, Effect.bytes, Emission.bytes, Nat.add_assoc]

end SameWork

/-! ## The plan of joined segments -/

/-- The plan of joined segments comes to the same as the plans of the parts, the second one made
with the arguments that the first one leaves. -/
theorem planSegments_joinSegments (first second : List Segment) (cursor : ArgumentCursor) :
    let joined := planSegments (joinSegments first second) cursor
    let former := planSegments first cursor
    let latter := planSegments second former.arguments
    SameWork joined.value (former.value ++ latter.value) ∧
      joined.diagnostics = former.diagnostics ++ latter.diagnostics := by
  fun_induction joinSegments first second generalizing cursor with
  | case1 second => exact ⟨.refl _, rfl⟩
  | case2 run next rest =>
    -- Two literal runs meet: writing both at once comes to writing one after the other.
    exact ⟨.write_run_append run next _, rfl⟩
  | case3 segment rest second hshape ih =>
    obtain ⟨hwork, hdiagnostics⟩ := ih (segment.resolve cursor).arguments
    refine ⟨hwork.cons _, ?_⟩
    show (segment.resolve cursor).diagnostics ++ (planSegments (joinSegments rest second)
      (segment.resolve cursor).arguments).diagnostics = _
    rw [hdiagnostics, ← List.append_assoc]
    rfl

/-- The segments of a template without a NUL, joined to another template. -/
theorem segments_append {first : Bytes} (second : Bytes) (hnul : Ascii.nul ∉ first)
    (hwhole : ∀ segment ∈ segments first, segment.isCutOff = false) :
    segments (first ++ second) = joinSegments (segments first) (segments second) := by
  -- Without a NUL in it, the first template is read to its end, in front of the other as well.
  have hfirst : beforeNul first = first := beforeNul_eq_self hnul
  rw [segments, hfirst] at hwhole
  rw [segments, segments, segments, beforeNul_append hnul, hfirst, cut_append _ hwhole]

/-- The plan of a template does not depend on how many arguments were taken before it. -/
theorem planSegments_of_rest_eq (template : Bytes) {cursor : ArgumentCursor}
    {arguments : List Argument} (h : cursor.rest = arguments) :
    (planSegments (segments template) cursor).value = (plan template arguments).value ∧
      (planSegments (segments template) cursor).diagnostics =
        (plan template arguments).diagnostics := by
  have hrest : cursor.rest = (ArgumentCursor.ofList arguments).rest := h
  have htakes := planSegments_takes (segments template)
  exact ⟨htakes.value_congr (congrArg _ hrest), htakes.diagnostics_congr (congrArg _ hrest)⟩

/-- The plan of joined templates comes to the same as the plans of the parts. -/
theorem plan_append {first : Bytes} (second : Bytes) (arguments : List Argument)
    (hnul : Ascii.nul ∉ first) (hwhole : ∀ segment ∈ segments first, segment.isCutOff = false) :
    let later := plan second (arguments.drop (demands first).length)
    SameWork (plan (first ++ second) arguments).value
        ((plan first arguments).value ++ later.value) ∧
      (plan (first ++ second) arguments).diagnostics =
        (plan first arguments).diagnostics ++ later.diagnostics := by
  intro later
  -- The second plan begins at a cursor that has taken arguments already, which its effects and
  -- diagnostics do not depend on.
  have hrest : (plan first arguments).arguments.rest =
      arguments.drop (demands first).length := by
    rw [arguments_plan]
    rfl
  obtain ⟨hvalue, hdiagnostics⟩ := planSegments_of_rest_eq second hrest
  have hjoined := planSegments_joinSegments (segments first) (segments second)
    (.ofList arguments)
  rw [← segments_append second hnul hwhole] at hjoined
  simp only [← plan.eq_def] at hjoined
  rwa [hvalue, hdiagnostics] at hjoined

/-! ## Stores behind other output -/

/-- The store made behind `n` bytes more. The count stays a signed number of 32 bits. -/
def Store.shift (n : Nat) (store : Store) : Store :=
  { store with count := Int32.ofNat n + store.count }

/-- Behind `m` bytes more, every store counts `m` more. -/
theorem storesFrom_add (m n : Nat) (effects : List Effect) :
    storesFrom (m + n) effects = (storesFrom n effects).map (Store.shift m) := by
  induction effects generalizing n with
  | nil => rfl
  | cons effect rest ih =>
    rw [storesFrom_cons, storesFrom_cons n, List.map_append, ← ih, Nat.add_assoc]
    congr 1
    cases effect with
    | write emission => rfl
    | storeCount index => simp [storesFrom, Store.shift, Int32.ofNat_add]
    | nothing => rfl

/-- The stores of joined templates. -/
theorem stores_append {first : Bytes} (second : Bytes) (arguments : List Argument)
    (hnul : Ascii.nul ∉ first) (hwhole : ∀ segment ∈ segments first, segment.isCutOff = false) :
    stores (first ++ second) arguments = stores first arguments ++
      (stores second (arguments.drop (demands first).length)).map
        (Store.shift (output first arguments).length) := by
  obtain ⟨hwork, -⟩ := plan_append second arguments hnul hwhole
  rw [stores, hwork.stores_eq, storesFrom_append, Nat.add_comm 0, storesFrom_add]
  rfl

/-- The output of joined templates. -/
theorem output_append {first : Bytes} (second : Bytes) (arguments : List Argument)
    (hnul : Ascii.nul ∉ first) (hwhole : ∀ segment ∈ segments first, segment.isCutOff = false) :
    output (first ++ second) arguments =
      output first arguments ++ output second (arguments.drop (demands first).length) := by
  obtain ⟨hwork, -⟩ := plan_append second arguments hnul hwhole
  rw [output, hwork.bytes_eq, List.flatMap_append]
  rfl

/-! ## The law -/

/-- Formatting joined templates is formatting one after the other, in the output and in the log. The
second template works on the arguments that the first one does not demand, whatever they are and
however few; of its effects only the counts change, which count the output of the first template as
well. -/
theorem formatInto_append {first : Bytes} (second : Bytes) (arguments : List Argument)
    (hnul : Ascii.nul ∉ first)
    (hwhole : ∀ spelling, Segment.directive spelling ∈ segments first →
      spelling.directive.conversion ≠ .truncated) :
    let later := arguments.drop (demands first).length
    output (first ++ second) arguments = output first arguments ++ output second later ∧
      stores (first ++ second) arguments = stores first arguments ++
        (stores second later).map (Store.shift (output first arguments).length) ∧
      ∀ cells counters,
        let joined := formatInto cells (first ++ second) arguments counters
        let former := formatInto cells first arguments counters
        let latter := formatInto cells second later counters
        joined.outcome.required = former.outcome.required + latter.outcome.required ∧
          joined.diagnostics = former.diagnostics ++ latter.diagnostics ∧
          latter.counters = (stores second later).foldl Store.apply counters ∧
          joined.counters = ((stores second later).map
            (Store.shift former.outcome.required)).foldl Store.apply former.counters ∧
          ∀ host, (Report.formatInto cells (first ++ second) arguments counters host).events =
            (Report.formatInto cells first arguments counters host).events ++
              (Report.formatInto cells second later counters host).events := by
  intro later
  have hsegments : ∀ segment ∈ segments first, segment.isCutOff = false := by
    intro segment hmem
    refine isCutOff_eq_false fun spelling heq => hwhole spelling ?_
    rwa [heq] at hmem
  have houtput := output_append second arguments hnul hsegments
  have hstores := stores_append second arguments hnul hsegments
  obtain ⟨-, hdiagnostics⟩ := plan_append second arguments hnul hsegments
  refine ⟨houtput, hstores, fun cells counters => ⟨?_, ?_, ?_, ?_, fun host => ?_⟩⟩
  · rw [required_formatInto, required_formatInto, required_formatInto, houtput,
      List.length_append]
  · rw [diagnostics_formatInto, diagnostics_formatInto, diagnostics_formatInto, hdiagnostics]
  · rw [counters_formatInto]
  · rw [counters_formatInto, counters_formatInto, required_formatInto, hstores,
      List.foldl_append]
  · rw [Report.events_formatInto, Report.events_formatInto, Report.events_formatInto,
      hdiagnostics, List.flatMap_append]

/-- The law where the templates `%*c-` and `-%n%s` meet inside a literal run, and neither the star
nor the text conversion has a fitting argument. -/
theorem formatInto_append_at_literal_seam :
    let first := utf8 "%*c-"
    let second := utf8 "-%n%s"
    let arguments : List Argument := [.text (utf8 "a"), .character 0x78, .counter 0]
    Ascii.nul ∉ first ∧
      (∀ spelling, Segment.directive spelling ∈ segments first →
        spelling.directive.conversion ≠ .truncated) ∧
      output (first ++ second) arguments = utf8 "x--" ∧
      stores (first ++ second) arguments = [⟨0, 3⟩] := by
  intro first second arguments
  have hnul : Ascii.nul ∉ first := by decide
  have hfirst : segments first =
      [.directive ⟨[], .star, none, .native, some 0x63⟩, .literal [Ascii.minus]] := by
    rw [segments_eq_cutWithin]
    rfl
  have hsecond : segments second =
      [.literal [Ascii.minus], .directive ⟨[], .digits [], none, .native, some 0x6e⟩,
        .directive ⟨[], .digits [], none, .native, some 0x73⟩] := by
    rw [segments_eq_cutWithin]
    rfl
  have hwhole : ∀ spelling, Segment.directive spelling ∈ segments first →
      spelling.directive.conversion ≠ .truncated := by
    intro spelling hmem
    rw [hfirst, List.mem_cons, List.mem_singleton] at hmem
    obtain heq | heq := hmem
    · rw [Segment.directive.inj heq]
      decide
    · exact nomatch heq
  obtain ⟨houtput, hstores, -⟩ := formatInto_append second arguments hnul hwhole
  have hlater : arguments.drop (demands first).length = [.counter 0] := by
    rw [demands, hfirst]
    rfl
  have hfront : output first arguments = utf8 "x-" := by
    rw [output, plan, hfirst]
    rfl
  have hback : output second [.counter 0] = utf8 "-" := by
    rw [output, plan, hsecond]
    rfl
  have hnone : stores first arguments = [] := by
    rw [stores, plan, hfirst]
    rfl
  have hcount : stores second [.counter 0] = [⟨0, 1⟩] := by
    rw [stores, plan, hsecond]
    rfl
  refine ⟨hnul, hwhole, ?_, ?_⟩
  · rw [houtput, hlater, hfront, hback]
    rfl
  · rw [hstores, hlater, hfront, hnone, hcount]
    rfl

end BoundedFormat
