import BoundedFormat.Check.Demand
import BoundedFormat.Plan.Stores

/-!
# Which arguments a directive takes

How far a reader moves on in the arguments depends on the template alone: it takes one argument for
each of its demands, fit or unfit, and stays at the end of the list once it is there. What it makes
of them depends on these arguments alone. `Takes n read` says both of a reader; `Takes.andThen` puts
readers together, and `planSegments_takes` reaches the plan of any segments. Each segment therefore
has slots of its own in the arguments, and `getElem?_value_planSegments` says what it makes of them.
-/

namespace BoundedFormat

/-! ## Places in the list -/

namespace ArgumentCursor

/-- The place `n` arguments further on, or the end of the list. -/
def skip (cursor : ArgumentCursor) (n : Nat) : ArgumentCursor :=
  ⟨cursor.consumed + min n cursor.rest.length, cursor.rest.drop n⟩

@[simp]
theorem skip_zero (cursor : ArgumentCursor) : cursor.skip 0 = cursor := by
  simp [skip]

@[simp]
theorem rest_skip (cursor : ArgumentCursor) (n : Nat) :
    (cursor.skip n).rest = cursor.rest.drop n := rfl

@[simp]
theorem consumed_skip (cursor : ArgumentCursor) (n : Nat) :
    (cursor.skip n).consumed = cursor.consumed + min n cursor.rest.length := rfl

/-- Going on twice is going on by the sum. -/
theorem skip_skip (cursor : ArgumentCursor) (m n : Nat) :
    (cursor.skip m).skip n = cursor.skip (m + n) := by
  simp only [skip, List.drop_drop, List.length_drop, mk.injEq, and_true]
  omega

/-- Going on does not change how many arguments there are. -/
@[simp]
theorem supplied_skip (cursor : ArgumentCursor) (n : Nat) :
    (cursor.skip n).supplied = cursor.supplied := by
  simp only [supplied, skip, List.length_drop]
  omega

/-- Taking an argument is going on by one. -/
theorem next_eq (cursor : ArgumentCursor) : cursor.next = (cursor.rest.head?, cursor.skip 1) := by
  rcases cursor with ⟨consumed, _ | ⟨argument, rest⟩⟩
  · rfl
  · simp [next, skip]

/-- The same next argument is before two cursors that have the same one argument before them. -/
theorem head?_eq_of_take_one {cursor other : ArgumentCursor}
    (h : cursor.rest.take 1 = other.rest.take 1) : cursor.rest.head? = other.rest.head? := by
  have htake := congrArg List.head? h
  rwa [List.head?_take, List.head?_take, if_neg Nat.one_ne_zero, if_neg Nat.one_ne_zero] at htake

end ArgumentCursor

/-! ## Readers and what they take -/

/-- A reader takes `n` arguments, whatever they are, and looks at no other. -/
structure Takes {α : Type} (n : Nat) (read : ArgumentCursor → Reading α) : Prop where
  /-- The place behind is `n` arguments further on. -/
  arguments_eq : ∀ cursor, (read cursor).arguments = cursor.skip n
  /-- The value depends on these arguments only. -/
  value_congr : ∀ {cursor other : ArgumentCursor}, cursor.rest.take n = other.rest.take n →
    (read cursor).value = (read other).value
  /-- The diagnostics depend on these arguments only. -/
  diagnostics_congr : ∀ {cursor other : ArgumentCursor}, cursor.rest.take n = other.rest.take n →
    (read cursor).diagnostics = (read other).diagnostics

/-- One reader after another, the second one chosen by what the first one made. -/
def andThen {α β : Type} (first : ArgumentCursor → Reading α)
    (next : α → ArgumentCursor → Reading β) (cursor : ArgumentCursor) : Reading β :=
  let former := first cursor
  let latter := next former.value former.arguments
  ⟨latter.value, latter.arguments, former.diagnostics ++ latter.diagnostics⟩

namespace Takes

variable {α β : Type}

/-- A reader that takes nothing and reports nothing. -/
theorem zero (value : α) : Takes 0 (fun cursor => ⟨value, cursor, []⟩) where
  arguments_eq cursor := cursor.skip_zero.symm
  value_congr _ := rfl
  diagnostics_congr _ := rfl

/-- Two readers take what each of them takes. -/
theorem andThen {m n : Nat} {first : ArgumentCursor → Reading α}
    {next : α → ArgumentCursor → Reading β} (hfirst : Takes m first)
    (hnext : ∀ value, Takes n (next value)) : Takes (m + n) (andThen first next) := by
  have hsplit : ∀ {cursor other : ArgumentCursor},
      cursor.rest.take (m + n) = other.rest.take (m + n) →
        cursor.rest.take m = other.rest.take m ∧
          (first cursor).arguments.rest.take n = (first other).arguments.rest.take n := by
    intro cursor other h
    refine ⟨?_, ?_⟩
    · have htake := congrArg (List.take m) h
      rwa [List.take_take, List.take_take, Nat.min_eq_left (Nat.le_add_right m n)] at htake
    · rw [hfirst.arguments_eq, hfirst.arguments_eq, ArgumentCursor.rest_skip,
        ArgumentCursor.rest_skip, List.take_drop, List.take_drop, h]
  refine ⟨fun cursor => ?_, fun {cursor other} h => ?_, fun {cursor other} h => ?_⟩
  · show (next (first cursor).value (first cursor).arguments).arguments = _
    rw [(hnext _).arguments_eq, hfirst.arguments_eq, ArgumentCursor.skip_skip]
  · obtain ⟨hm, hn⟩ := hsplit h
    show (next (first cursor).value (first cursor).arguments).value = _
    rw [(hnext _).value_congr hn, hfirst.value_congr hm]
    rfl
  · obtain ⟨hm, hn⟩ := hsplit h
    show (first cursor).diagnostics ++
      (next (first cursor).value (first cursor).arguments).diagnostics = _
    rw [(hnext _).diagnostics_congr hn, hfirst.value_congr hm, hfirst.diagnostics_congr hm]
    rfl

end Takes

/-! ## Reading one argument -/

/-- Take one argument and make of it what `use` says. There is something to report when there is no
argument, and when `use` has no use for it. -/
def readOne {α : Type} (missing : Diagnostic) (wrong : ArgumentKind → Diagnostic) (fallback : α)
    (use : Argument → Option α) (cursor : ArgumentCursor) : Reading α where
  value := (cursor.rest.head?.bind use).getD fallback
  arguments := cursor.skip 1
  diagnostics :=
    match cursor.rest.head? with
    | none => [missing]
    | some argument => if (use argument).isSome then [] else [wrong argument.kind]

/-- A reader of one argument takes one. -/
theorem readOne_takes {α : Type} (missing : Diagnostic) (wrong : ArgumentKind → Diagnostic)
    (fallback : α) (use : Argument → Option α) :
    Takes 1 (readOne missing wrong fallback use) where
  arguments_eq _ := rfl
  value_congr h := by simp only [readOne, ArgumentCursor.head?_eq_of_take_one h]
  diagnostics_congr h := by simp only [readOne, ArgumentCursor.head?_eq_of_take_one h]

/-- A conversion reads one argument. -/
theorem readValue_eq_readOne {α : Type} (conversion : UInt8) (fallback : α)
    (use : Argument → Option α) :
    readValue conversion fallback use =
      readOne (.missing conversion) (.wrongKind conversion) fallback use := by
  funext cursor
  rw [readValue, cursor.next_eq]
  rcases hhead : cursor.rest.head? with _ | argument
  · simp [readOne, hhead]
  · rcases huse : use argument with _ | value <;> simp [readOne, hhead, huse]

/-- A star reads one argument, as an integer of 32 bits. -/
theorem readStar_eq_readOne :
    readStar = readOne .starMissing .starKind 0
      fun argument => (argument.signed? .native).map Int64.toInt32 := by
  funext cursor
  rw [readStar, cursor.next_eq]
  rcases hhead : cursor.rest.head? with _ | argument
  · simp [readOne, hhead]
  · rcases hsigned : argument.signed? .native with _ | n <;> simp [readOne, hhead, hsigned]

/-- A conversion that reads a value takes one argument. -/
theorem readValue_takes {α : Type} (conversion : UInt8) (fallback : α)
    (use : Argument → Option α) : Takes 1 (readValue conversion fallback use) := by
  rw [readValue_eq_readOne]
  exact readOne_takes ..

/-- A star takes one argument. -/
theorem readStar_takes : Takes 1 readStar := by
  rw [readStar_eq_readOne]
  exact readOne_takes ..

/-! ## What the parts of a template take -/

/-- A width takes what it demands. -/
theorem Width.resolve_takes (width : Width) (flags : Flags) :
    Takes width.demands.length (width.resolve flags) := by
  cases width with
  | fixed n => exact .zero _
  | fromArgument =>
    refine ⟨readStar_takes.arguments_eq, fun h => ?_, readStar_takes.diagnostics_congr⟩
    simp only [Width.resolve, readStar_takes.value_congr h]

/-- A precision takes what it demands. -/
theorem Precision.resolve_takes (precision : Precision) :
    Takes precision.demands.length precision.resolve := by
  cases precision with
  | unspecified => exact .zero _
  | fixed n => exact .zero _
  | fromArgument =>
    refine ⟨readStar_takes.arguments_eq, fun h => ?_, readStar_takes.diagnostics_congr⟩
    simp only [Precision.resolve, readStar_takes.value_congr h]

/-- A conversion takes what it demands. -/
theorem Conversion.resolve_takes (conversion : Conversion) (place : Placement)
    (length : Length) : Takes conversion.demands.length (conversion.resolve place length) := by
  cases conversion with
  | errorNumber => exact .zero _
  | percent => exact .zero _
  | truncated => exact .zero _
  | unknown b =>
    exact ⟨fun cursor => cursor.skip_zero.symm, fun _ => rfl, fun _ => rfl⟩
  | _ => exact readValue_takes ..

/-- A directive is its width, its precision and its conversion, one after the other. -/
theorem Directive.resolve_eq_andThen (directive : Directive) :
    directive.resolve = andThen (directive.width.resolve directive.flags) fun width =>
      andThen directive.precision.resolve fun precision =>
        directive.conversion.resolve ⟨width.1, width.2, precision⟩ directive.length := by
  funext cursor
  simp only [Directive.resolve, andThen, List.append_assoc]

/-- A directive takes what it demands. -/
theorem Directive.resolve_takes (directive : Directive) :
    Takes directive.demands.length directive.resolve := by
  have hlength : directive.demands.length = directive.width.demands.length +
      (directive.precision.demands.length + directive.conversion.demands.length) := by
    rw [Directive.demands, List.length_append, List.length_append, Nat.add_assoc]
  rw [hlength, directive.resolve_eq_andThen]
  exact (directive.width.resolve_takes _).andThen fun _ =>
    directive.precision.resolve_takes.andThen fun _ => directive.conversion.resolve_takes ..

/-- A segment takes what it demands. -/
theorem Segment.resolve_takes (segment : Segment) :
    Takes segment.demands.length segment.resolve := by
  cases segment with
  | literal run => exact .zero _
  | directive spelling => exact spelling.directive.resolve_takes

/-- The plan of one segment more. -/
theorem planSegments_cons (segment : Segment) (rest : List Segment) :
    planSegments (segment :: rest) = andThen segment.resolve fun effect =>
      andThen (planSegments rest) fun effects cursor => ⟨effect :: effects, cursor, []⟩ := by
  funext cursor
  simp only [planSegments, andThen, List.append_nil]

/-- Segments take what they demand. -/
theorem planSegments_takes (segments : List Segment) :
    Takes (segments.flatMap Segment.demands).length (planSegments segments) := by
  induction segments with
  | nil => exact .zero _
  | cons segment rest ih =>
    rw [List.flatMap_cons, List.length_append, planSegments_cons]
    exact segment.resolve_takes.andThen fun _ => ih.andThen fun _ => .zero _

/-- Behind the plan of a template are the arguments that it does not demand. -/
theorem arguments_plan (template : Bytes) (arguments : List Argument) :
    (plan template arguments).arguments =
      (ArgumentCursor.ofList arguments).skip (demands template).length :=
  (planSegments_takes (segments template)).arguments_eq _

/-- The plan of a template takes what the template demands, as far as there are arguments. -/
theorem consumed_plan (template : Bytes) (arguments : List Argument) :
    (plan template arguments).arguments.consumed =
      min (demands template).length arguments.length := by
  rw [arguments_plan, ArgumentCursor.consumed_skip]
  exact Nat.zero_add _

/-! ## The slots of a segment -/

/-- The number of the first argument that segment `i` can read. -/
def firstSlot (segments : List Segment) (i : Nat) : Nat :=
  ((segments.take i).flatMap Segment.demands).length

/-- Segments that come later read later arguments. -/
theorem firstSlot_cons_succ (segment : Segment) (rest : List Segment) (i : Nat) :
    firstSlot (segment :: rest) (i + 1) = segment.demands.length + firstSlot rest i := by
  rw [firstSlot, List.take_succ_cons, List.flatMap_cons, List.length_append, firstSlot]

/-- A plan holds what each segment comes to at its own arguments. -/
theorem getElem?_value_planSegments (segments : List Segment) (cursor : ArgumentCursor)
    (i : Nat) :
    (planSegments segments cursor).value[i]? = segments[i]?.map fun segment =>
      (segment.resolve (cursor.skip (firstSlot segments i))).value := by
  induction segments generalizing cursor i with
  | nil => rfl
  | cons segment rest ih =>
    cases i with
    | zero =>
      have hzero : firstSlot (segment :: rest) 0 = 0 := rfl
      rw [hzero, ArgumentCursor.skip_zero]
      rfl
    | succ i =>
      rw [firstSlot_cons_succ, ← ArgumentCursor.skip_skip, ← segment.resolve_takes.arguments_eq,
        List.getElem?_cons_succ, ← ih]
      rfl

/-- The output of a template is the output of its segments, so what one effect writes stands between
what the effects in front of it and behind it write. -/
theorem output_eq_of_getElem? (template : Bytes) (arguments : List Argument) {i : Nat}
    {effect : Effect} (h : (plan template arguments).value[i]? = some effect) :
    output template arguments =
      ((plan template arguments).value.take i).flatMap Effect.bytes ++ effect.bytes ++
        ((plan template arguments).value.drop (i + 1)).flatMap Effect.bytes := by
  obtain ⟨hlt, hget⟩ := List.getElem?_eq_some_iff.1 h
  rw [output, ← hget, List.append_assoc, ← List.flatMap_cons, List.getElem_cons_drop hlt,
    ← List.flatMap_append, List.take_append_drop]

end BoundedFormat
