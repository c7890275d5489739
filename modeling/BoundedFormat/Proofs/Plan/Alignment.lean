import Mathlib.Data.List.Nodup
import BoundedFormat.Proofs.Format.Truncation
import BoundedFormat.Proofs.Plan.Slots

/-!
# Every reader has its own argument

A directive has up to three readers: its width and its precision where they are stars, and its
conversion where it takes an argument. `slots` numbers the readers of a template in the order in
which they come; the arguments have no part in it. A template does what it does when each reader is
handed what its own slot holds, an argument or nothing, and is alone with it
(`value_plan_eq_settlements`, `diagnostics_plan_eq_settlements`). A reader that cannot use its
argument therefore never takes it from another one, and arguments that differ in one place are told
apart by one segment at most (`arguments_stay_in_their_slots`).
-/

namespace BoundedFormat

/-! ## Readers and slots -/

/-- A part of a directive that reads an argument. -/
inductive Reader where
  | width
  | precision
  | value
  deriving DecidableEq, Repr

namespace Reader

/-- The readers in the order in which they read. -/
def all : List Reader := [width, precision, value]

/-- There are no other readers. -/
theorem mem_all (reader : Reader) : reader ∈ all := by
  cases reader <;> decide

/-- The place of the reader in this order. -/
def rank : Reader → Nat
  | width => 0
  | precision => 1
  | value => 2

end Reader

namespace Directive

/-- Does the directive have this reader? -/
def hasReader (directive : Directive) : Reader → Bool
  | .width => directive.width = .fromArgument
  | .precision => directive.precision = .fromArgument
  | .value => directive.conversion.constantEffect?.isNone

/-- The readers of a directive, in order. -/
def readers (directive : Directive) : List Reader := Reader.all.filter directive.hasReader

end Directive

/-- The readers of a segment, in order. -/
def Segment.readers : Segment → List Reader
  | literal _ => []
  | directive spelling => spelling.directive.readers

/-- A reader of a template. -/
structure Slot where
  /-- The number of its segment. -/
  segment : Nat
  reader : Reader
  deriving DecidableEq, Repr

/-- The former reader comes first: in an earlier segment, or earlier in the same one. -/
def Slot.Before (former latter : Slot) : Prop :=
  former.segment < latter.segment ∨
    former.segment = latter.segment ∧ former.reader.rank < latter.reader.rank

/-- The readers of segments, the first of which has number `n`. -/
def slotsFrom (n : Nat) : List Segment → List Slot
  | [] => []
  | segment :: rest => segment.readers.map (Slot.mk n) ++ slotsFrom (n + 1) rest

/-- The readers of a template, by the number of the argument that is theirs. -/
def slots (template : Bytes) : List Slot := slotsFrom 0 (segments template)

/-- What a reader finds among the arguments: the one in its slot, if there is one. -/
def found (template : Bytes) (arguments : List Argument) (n : Nat) (reader : Reader) :
    Option Argument :=
  ((slots template).idxOf? ⟨n, reader⟩).bind (arguments[·]?)

/-! ## The numbering -/

/-- The readers of a directive are as many as the arguments that it demands. -/
theorem Directive.length_readers (directive : Directive) :
    directive.readers.length = directive.demands.length := by
  rcases directive with ⟨flags, width, precision, length, conversion⟩
  cases width <;> cases precision <;> cases conversion <;> rfl

/-- The readers of a segment are as many as the arguments that it demands. -/
theorem Segment.length_readers (segment : Segment) :
    segment.readers.length = segment.demands.length := by
  cases segment with
  | literal run => rfl
  | directive spelling => exact spelling.directive.length_readers

/-- There are as many slots as there are arguments that the segments demand. -/
theorem length_slotsFrom (n : Nat) (segments : List Segment) :
    (slotsFrom n segments).length = (segments.flatMap Segment.demands).length := by
  induction segments generalizing n with
  | nil => rfl
  | cons segment rest ih =>
    rw [slotsFrom, List.length_append, List.length_map, segment.length_readers, ih,
      List.flatMap_cons, List.length_append]

/-- A segment with the same readers has the slots of the one in whose place it stands. -/
theorem slotsFrom_set (n : Nat) {segments : List Segment} {m : Nat} {segment other : Segment}
    (hget : segments[m]? = some segment) (hreaders : other.readers = segment.readers) :
    slotsFrom n (segments.set m other) = slotsFrom n segments := by
  induction segments generalizing n m with
  | nil => rfl
  | cons first rest ih =>
    cases m with
    | zero =>
      obtain rfl := Option.some.inj hget
      rw [List.set_cons_zero, slotsFrom, slotsFrom, hreaders]
    | succ m => rw [List.set_cons_succ, slotsFrom, slotsFrom, ih (n + 1) hget]

/-- A slot belongs to a directive that has its reader. -/
theorem mem_slotsFrom_iff (n : Nat) (segments : List Segment) (slot : Slot) :
    slot ∈ slotsFrom n segments ↔ ∃ m segment, segments[m]? = some segment ∧
      slot.segment = n + m ∧ slot.reader ∈ segment.readers := by
  induction segments generalizing n with
  | nil => simp [slotsFrom]
  | cons segment rest ih =>
    rw [slotsFrom, List.mem_append, ih, List.mem_map]
    constructor
    · rintro (⟨reader, hmem, rfl⟩ | ⟨m, other, hget, hsegment, hmem⟩)
      · exact ⟨0, segment, rfl, rfl, hmem⟩
      · exact ⟨m + 1, other, hget, by omega, hmem⟩
    · rintro ⟨_ | m, other, hget, hsegment, hmem⟩
      · obtain rfl := Option.some.inj hget
        exact .inl ⟨slot.reader, hmem, by rw [← Nat.add_zero n, ← hsegment]⟩
      · exact .inr ⟨m, other, hget, by omega, hmem⟩

/-- The readers of a segment come in their order. -/
theorem Segment.readers_pairwise (segment : Segment) :
    segment.readers.Pairwise fun former latter => former.rank < latter.rank := by
  cases segment with
  | literal run => exact .nil
  | directive spelling =>
    have hall : Reader.all.Pairwise fun former latter => former.rank < latter.rank := by decide
    exact hall.filter _

/-- The slots come in the order of their readers. -/
theorem slotsFrom_pairwise (n : Nat) (segments : List Segment) :
    (slotsFrom n segments).Pairwise Slot.Before := by
  induction segments generalizing n with
  | nil => exact .nil
  | cons segment rest ih =>
    rw [slotsFrom, List.pairwise_append, List.pairwise_map]
    refine ⟨segment.readers_pairwise.imp fun hrank => .inr ⟨rfl, hrank⟩, ih (n + 1), ?_⟩
    intro former hformer latter hlatter
    obtain ⟨reader, -, rfl⟩ := List.mem_map.1 hformer
    obtain ⟨m, other, -, hsegment, -⟩ := (mem_slotsFrom_iff _ _ _).1 hlatter
    exact .inl (by rw [hsegment]; show n < n + 1 + m; omega)

/-- No reader has two slots. -/
theorem slots_nodup (template : Bytes) : (slots template).Nodup := by
  refine (slotsFrom_pairwise 0 (segments template)).imp fun {former latter} hbefore heq => ?_
  subst heq
  obtain hlt | ⟨-, hlt⟩ := hbefore
  · exact Nat.lt_irrefl _ hlt
  · exact Nat.lt_irrefl _ hlt

/-- The slots of a segment begin behind those of the segments in front of it. -/
theorem getElem?_slotsFrom (n : Nat) {segments : List Segment} {m : Nat} {segment : Segment}
    (hget : segments[m]? = some segment) {j : Nat} {reader : Reader}
    (hreader : segment.readers[j]? = some reader) :
    (slotsFrom n segments)[firstSlot segments m + j]? = some ⟨n + m, reader⟩ := by
  induction segments generalizing n m with
  | nil => exact nomatch hget
  | cons first rest ih =>
    cases m with
    | zero =>
      obtain rfl := Option.some.inj hget
      have hlt := (List.getElem?_eq_some_iff.1 hreader).1
      have hzero : firstSlot (first :: rest) 0 = 0 := rfl
      rw [hzero, Nat.zero_add, slotsFrom, List.getElem?_append_left (by simpa using hlt),
        List.getElem?_map, hreader]
      rfl
    | succ m =>
      have hlength : (first.readers.map (Slot.mk n)).length = first.demands.length := by
        rw [List.length_map, first.length_readers]
      rw [firstSlot_cons_succ, slotsFrom, Nat.add_assoc, List.getElem?_append_right (by omega),
        hlength, Nat.add_sub_cancel_left, ih (n + 1) hget, Nat.add_assoc, Nat.add_comm 1]

/-- A reader finds the argument in its slot. -/
theorem found_of_getElem?_slots {template : Bytes} (arguments : List Argument) {i n : Nat}
    {reader : Reader} (hslot : (slots template)[i]? = some ⟨n, reader⟩) :
    found template arguments n reader = arguments[i]? := by
  obtain ⟨hlt, heq⟩ := List.getElem?_eq_some_iff.1 hslot
  have hindex : (slots template).idxOf? ⟨n, reader⟩ = some i := by
    rw [List.idxOf?_eq_some_iff]
    refine ⟨hlt, heq, fun k hk hsame => ?_⟩
    exact Nat.ne_of_lt hk ((slots_nodup template).getElem_inj_iff.1 (hsame.trans heq.symm))
  rw [found, hindex, Option.bind_some]

/-- The readers of a segment find the arguments behind those of the segments in front of it. -/
theorem found_eq (template : Bytes) (arguments : List Argument) {n : Nat} {segment : Segment}
    (hget : (segments template)[n]? = some segment) {j : Nat} {reader : Reader}
    (hreader : segment.readers[j]? = some reader) :
    found template arguments n reader = arguments[firstSlot (segments template) n + j]? := by
  refine found_of_getElem?_slots arguments ?_
  have hslot := getElem?_slotsFrom 0 hget hreader
  rwa [Nat.zero_add] at hslot

/-! ## What the readers make of their arguments -/

/-- What a segment comes to. -/
structure Settlement where
  effect : Effect
  diagnostics : List Diagnostic
  deriving DecidableEq, Repr

/-- What a directive comes to when each of its readers is handed what it finds and nothing else. -/
def Directive.settle (directive : Directive) (found : Reader → Option Argument) : Settlement :=
  let handed (reader : Reader) : ArgumentCursor := .ofList (found reader).toList
  let width := directive.width.resolve directive.flags (handed .width)
  let precision := directive.precision.resolve (handed .precision)
  let place : Placement := ⟨width.value.1, width.value.2, precision.value⟩
  let conversion := directive.conversion.resolve place directive.length (handed .value)
  ⟨conversion.value, width.diagnostics ++ precision.diagnostics ++ conversion.diagnostics⟩

/-- What a segment comes to when each of its readers is handed what it finds and nothing else. -/
def Segment.settle (segment : Segment) (found : Reader → Option Argument) : Settlement :=
  match segment with
  | literal run => ⟨.write (.run run), []⟩
  | directive spelling => spelling.directive.settle found

/-- A reader of one argument at most does the same when it is handed no other argument. -/
theorem Takes.eq_handed {α : Type} {n : Nat} {read : ArgumentCursor → Reading α}
    (h : Takes n read) (hn : n ≤ 1) (cursor : ArgumentCursor) (found : Option Argument)
    (hfound : n = 1 → found = cursor.rest.head?) :
    (read cursor).value = (read (.ofList found.toList)).value ∧
      (read cursor).diagnostics = (read (.ofList found.toList)).diagnostics := by
  have htake : cursor.rest.take n = (ArgumentCursor.ofList found.toList).rest.take n := by
    obtain rfl | rfl : n = 0 ∨ n = 1 := by omega
    · rfl
    · rw [hfound rfl]
      rcases cursor with ⟨consumed, _ | ⟨argument, rest⟩⟩ <;> rfl
  exact ⟨h.value_congr htake, h.diagnostics_congr htake⟩

/-- What a conversion does that is handed what it finds. -/
theorem Conversion.value_resolve_handed (conversion : Conversion) (place : Placement)
    (length : Length) (found : Option Argument) :
    (conversion.resolve place length (.ofList found.toList)).value =
      (conversion.constantEffect?.or (found.bind (conversion.effect? place length))).getD
        .nothing := by
  rw [resolve]
  rcases conversion.constantEffect? with _ | effect
  · rw [readValue_eq_readOne]
    cases found <;> rfl
  · cases conversion <;> rfl

/-- A width demands an argument exactly if it reads one. -/
theorem Directive.length_demands_width (directive : Directive) :
    directive.width.demands.length = (directive.hasReader .width).toNat := by
  rcases directive with ⟨flags, _ | _, precision, length, conversion⟩ <;> rfl

/-- A precision demands an argument exactly if it reads one. -/
theorem Directive.length_demands_precision (directive : Directive) :
    directive.precision.demands.length = (directive.hasReader .precision).toNat := by
  rcases directive with ⟨flags, width, _ | _ | _, length, conversion⟩ <;> rfl

/-- A conversion demands an argument exactly if it reads one. -/
theorem Directive.length_demands_conversion (directive : Directive) :
    directive.conversion.demands.length = (directive.hasReader .value).toNat := by
  rcases directive with ⟨flags, width, precision, length, conversion⟩
  cases conversion <;> rfl

/-- Each reader of a directive comes behind those that read before it. -/
theorem Directive.getElem?_readers (directive : Directive) :
    (directive.width.demands.length = 1 → directive.readers[0]? = some .width) ∧
      (directive.precision.demands.length = 1 →
        directive.readers[directive.width.demands.length]? = some .precision) ∧
      (directive.conversion.demands.length = 1 →
        directive.readers[directive.width.demands.length +
          directive.precision.demands.length]? = some .value) := by
  simp only [length_demands_width, length_demands_precision, length_demands_conversion, readers,
    Reader.all, List.filter_cons, List.filter_nil]
  cases directive.hasReader .width <;> cases directive.hasReader .precision <;>
    cases directive.hasReader .value <;> simp

/-- A directive comes to what its readers make of what they find, if each finds the argument that it
would come to in its turn. -/
theorem Directive.resolve_eq_settle (directive : Directive) (cursor : ArgumentCursor)
    {found : Reader → Option Argument}
    (hfound : ∀ (j : Nat) (reader : Reader), directive.readers[j]? = some reader →
      found reader = cursor.rest[j]?) :
    (directive.resolve cursor).value = (directive.settle found).effect ∧
      (directive.resolve cursor).diagnostics = (directive.settle found).diagnostics := by
  obtain ⟨hfirst, hsecond, hthird⟩ := directive.getElem?_readers
  have hwidth := (directive.width.resolve_takes directive.flags).eq_handed
    (directive.length_demands_width ▸ Bool.toNat_le _) cursor (found .width) fun h => by
      rw [hfound _ _ (hfirst h), List.head?_eq_getElem?]
  have hprecision := directive.precision.resolve_takes.eq_handed
    (directive.length_demands_precision ▸ Bool.toNat_le _)
    (cursor.skip directive.width.demands.length) (found .precision) fun h => by
      rw [hfound _ _ (hsecond h), ArgumentCursor.rest_skip, List.head?_drop]
  have hconversion := fun place =>
    (directive.conversion.resolve_takes place directive.length).eq_handed
      (directive.length_demands_conversion ▸ Bool.toNat_le _)
      (cursor.skip (directive.width.demands.length + directive.precision.demands.length))
      (found .value) fun h => by
        rw [hfound _ _ (hthird h), ArgumentCursor.rest_skip, List.head?_drop]
  simp only [resolve, settle, (directive.width.resolve_takes _).arguments_eq,
    directive.precision.resolve_takes.arguments_eq, ArgumentCursor.skip_skip, hwidth.1, hwidth.2,
    hprecision.1, hprecision.2, (hconversion _).1, (hconversion _).2, and_self]

/-- A segment comes to what its readers make of what they find. -/
theorem Segment.resolve_eq_settle (segment : Segment) (cursor : ArgumentCursor)
    {found : Reader → Option Argument}
    (hfound : ∀ (j : Nat) (reader : Reader), segment.readers[j]? = some reader →
      found reader = cursor.rest[j]?) :
    (segment.resolve cursor).value = (segment.settle found).effect ∧
      (segment.resolve cursor).diagnostics = (segment.settle found).diagnostics := by
  cases segment with
  | literal run => exact ⟨rfl, rfl⟩
  | directive spelling => exact spelling.directive.resolve_eq_settle cursor hfound

/-! ## What a template makes of its arguments -/

/-- What the segments of a template come to, when each reader is handed what its slot holds. -/
def settlements (template : Bytes) (arguments : List Argument) : List Settlement :=
  (segments template).mapIdx fun n segment => segment.settle (found template arguments n)

/-- A plan reports what each segment reports at its own arguments. -/
theorem diagnostics_planSegments (segments : List Segment) (cursor : ArgumentCursor) :
    (planSegments segments cursor).diagnostics = (segments.mapIdx fun n segment =>
      (segment.resolve (cursor.skip (firstSlot segments n))).diagnostics).flatten := by
  induction segments generalizing cursor with
  | nil => rfl
  | cons segment rest ih =>
    have hzero : firstSlot (segment :: rest) 0 = 0 := rfl
    rw [planSegments, List.mapIdx_cons, List.flatten_cons, hzero, ArgumentCursor.skip_zero, ih,
      segment.resolve_takes.arguments_eq]
    simp only [firstSlot_cons_succ, ArgumentCursor.skip_skip]

/-- A segment of a template comes to what its readers make of what their slots hold. -/
theorem resolve_eq_settle_found (template : Bytes) (arguments : List Argument) {n : Nat}
    {segment : Segment} (hget : (segments template)[n]? = some segment) :
    let reading := segment.resolve
      ((ArgumentCursor.ofList arguments).skip (firstSlot (segments template) n))
    let settlement := segment.settle (found template arguments n)
    reading.value = settlement.effect ∧ reading.diagnostics = settlement.diagnostics := by
  refine segment.resolve_eq_settle _ fun j reader hreader => ?_
  rw [found_eq template arguments hget hreader, ArgumentCursor.rest_skip, List.getElem?_drop]
  rfl

/-- The effects of a plan are those that the readers arrive at in their slots. -/
theorem value_plan_eq_settlements (template : Bytes) (arguments : List Argument) :
    (plan template arguments).value = (settlements template arguments).map (·.effect) := by
  refine List.ext_getElem? fun n => ?_
  rw [plan, getElem?_value_planSegments, settlements, List.getElem?_map, List.getElem?_mapIdx]
  rcases hget : (segments template)[n]? with _ | segment
  · rfl
  · exact congrArg some (resolve_eq_settle_found template arguments hget).1

/-- The diagnostics of a plan are those that the readers leave in their slots. -/
theorem diagnostics_plan_eq_settlements (template : Bytes) (arguments : List Argument) :
    (plan template arguments).diagnostics =
      (settlements template arguments).flatMap (·.diagnostics) := by
  rw [plan, diagnostics_planSegments, List.flatMap_def, settlements]
  refine congrArg List.flatten (List.ext_getElem? fun n => ?_)
  rw [List.getElem?_map, List.getElem?_mapIdx, List.getElem?_mapIdx]
  rcases hget : (segments template)[n]? with _ | segment
  · rfl
  · exact congrArg some (resolve_eq_settle_found template arguments hget).2

/-- What each segment of a template adds to the output, in order. -/
def contributions (template : Bytes) (arguments : List Argument) : List Bytes :=
  (plan template arguments).value.map Effect.bytes

/-- What a segment adds to the output is what its readers make of what they find. -/
theorem getElem?_contributions (template : Bytes) (arguments : List Argument) (i : Nat) :
    (contributions template arguments)[i]? = (segments template)[i]?.map fun segment =>
      (segment.settle (found template arguments i)).effect.bytes := by
  rw [contributions, value_plan_eq_settlements, settlements, List.getElem?_map, List.getElem?_map,
    List.getElem?_mapIdx]
  rcases (segments template)[i]? with _ | segment <;> rfl

/-! ## Arguments that differ in one place -/

section

variable (template : Bytes) {arguments others : List Argument} {i : Nat}

/-- A reader finds the same in two lists that agree on its slot. -/
theorem found_congr {n : Nat} {reader : Reader}
    (h : ∀ k : Nat, (slots template)[k]? = some ⟨n, reader⟩ → arguments[k]? = others[k]?) :
    found template arguments n reader = found template others n reader := by
  rcases hindex : (slots template).idxOf? ⟨n, reader⟩ with _ | k
  · rw [found, found, hindex]
    rfl
  · obtain ⟨hlt, heq, -⟩ := List.idxOf?_eq_some_iff.1 hindex
    rw [found, found, hindex]
    exact h k (List.getElem?_eq_some_iff.2 ⟨hlt, heq⟩)

/-- A segment that has no reader for the argument in which two lists differ comes to the same with
both. -/
theorem getElem?_contributions_congr (h : ∀ k : Nat, k ≠ i → arguments[k]? = others[k]?) {n : Nat}
    (hn : ∀ slot, (slots template)[i]? = some slot → slot.segment ≠ n) :
    (contributions template arguments)[n]? = (contributions template others)[n]? := by
  have hfound : found template arguments n = found template others n := by
    funext reader
    refine found_congr template fun k hk => h k ?_
    rintro rfl
    exact hn _ hk rfl
  rw [getElem?_contributions, getElem?_contributions, hfound]

/-- An argument that has no reader has no influence on what the segments come to. -/
theorem settlements_congr (h : ∀ k : Nat, k ≠ i → arguments[k]? = others[k]?)
    (hi : (slots template).length ≤ i) :
    settlements template arguments = settlements template others := by
  have hfound : found template arguments = found template others := by
    funext n reader
    refine found_congr template fun k hk => h k ?_
    have hlt := (List.getElem?_eq_some_iff.1 hk).1
    omega
  rw [settlements, settlements, hfound]

end

/-- Calls whose segments come to the same cannot be told apart: not by what they write, count and
report, and not by what they cause on a host. -/
theorem calls_eq_of_settlements {template : Bytes} {arguments others : List Argument}
    (hlength : arguments.length = others.length)
    (h : settlements template arguments = settlements template others) :
    output template arguments = output template others ∧
      ∀ (cells : Array UInt8) (counters : Counters),
        formatInto cells template arguments counters = formatInto cells template others counters ∧
          ∀ host, (Report.formatInto cells template arguments counters host).events =
            (Report.formatInto cells template others counters host).events := by
  have hvalue : (plan template arguments).value = (plan template others).value := by
    rw [value_plan_eq_settlements, value_plan_eq_settlements, h]
  have hdiagnostics :
      (plan template arguments).diagnostics = (plan template others).diagnostics := by
    rw [diagnostics_plan_eq_settlements, diagnostics_plan_eq_settlements, h]
  have houtput : output template arguments = output template others := by
    rw [output, output, hvalue]
  have hstores : stores template arguments = stores template others := by
    rw [stores, stores, hvalue]
  have hconsumed : (plan template arguments).arguments.consumed =
      (plan template others).arguments.consumed := by
    rw [consumed_plan, consumed_plan, hlength]
  exact ⟨houtput, formatInto_congr houtput hstores hdiagnostics hconsumed⟩

/-! ## The law -/

/-- There are as many slots as there are arguments that the template demands. -/
theorem length_slots (template : Bytes) : (slots template).length = (demands template).length :=
  length_slotsFrom 0 (segments template)

/-- The slots of a template are those of the readers of its directives. -/
theorem mem_slots_iff (template : Bytes) (n : Nat) (reader : Reader) :
    ⟨n, reader⟩ ∈ slots template ↔ ∃ spelling,
      (segments template)[n]? = some (.directive spelling) ∧
        spelling.directive.hasReader reader = true := by
  rw [slots, mem_slotsFrom_iff]
  constructor
  · rintro ⟨m, segment, hget, hsegment, hreader⟩
    obtain rfl : n = m := by simpa using hsegment
    cases segment with
    | literal run => exact nomatch hreader
    | directive spelling => exact ⟨spelling, hget, (List.mem_filter.1 hreader).2⟩
  · rintro ⟨spelling, hget, hreader⟩
    exact ⟨n, _, hget, (Nat.zero_add n).symm, List.mem_filter.2 ⟨reader.mem_all, hreader⟩⟩

/-- Arguments stay in their slots. A template numbers its readers, width before precision before
value in a directive and one directive after another, whatever the arguments are. Each reader finds
the argument of its own number, or none where there are fewer, and what a call writes, stores and
reports is what the readers make of these; the call takes one argument for each of them as far as
there are arguments. So only the segment that owns a slot can add other bytes to the output when the
argument in that slot is another one, and an argument without a slot has no influence at all. -/
theorem arguments_stay_in_their_slots (template : Bytes) :
    let slots := slots template
    (slots.Pairwise Slot.Before ∧
      ∀ (n : Nat) (reader : Reader), ⟨n, reader⟩ ∈ slots ↔ ∃ spelling,
        (segments template)[n]? = some (.directive spelling) ∧
          spelling.directive.hasReader reader = true) ∧
      (∀ arguments : List Argument,
        (∀ (i : Nat) (slot : Slot), slots[i]? = some slot →
          found template arguments slot.segment slot.reader = arguments[i]?) ∧
        contributions template arguments =
          (settlements template arguments).map (·.effect.bytes) ∧
        ∀ (cells : Array UInt8) (counters : Counters),
          let run := formatInto cells template arguments counters
          run.Truncates cells (contributions template arguments).flatten ∧
            run.counters = (storesFrom 0 ((settlements template arguments).map
              (·.effect))).foldl Store.apply counters ∧
            run.diagnostics = (settlements template arguments).flatMap (·.diagnostics) ∧
            run.consumed = min slots.length arguments.length) ∧
      ∀ (arguments others : List Argument) (i : Nat), arguments.length = others.length →
        (∀ k : Nat, k ≠ i → arguments[k]? = others[k]?) →
          (∀ n : Nat, (∀ slot, slots[i]? = some slot → slot.segment ≠ n) →
            (contributions template arguments)[n]? = (contributions template others)[n]?) ∧
          (slots.length ≤ i → output template arguments = output template others ∧
            ∀ (cells : Array UInt8) (counters : Counters),
              formatInto cells template arguments counters =
                  formatInto cells template others counters ∧
                ∀ host, (Report.formatInto cells template arguments counters host).events =
                  (Report.formatInto cells template others counters host).events) := by
  intro slots
  have hconsumed : ∀ arguments : List Argument,
      (plan template arguments).arguments.consumed = min slots.length arguments.length := by
    intro arguments
    rw [consumed_plan, ← length_slots]
  refine ⟨⟨slotsFrom_pairwise 0 _, mem_slots_iff template⟩, fun arguments => ⟨?_, ?_, ?_⟩, ?_⟩
  · exact fun i slot hslot => found_of_getElem?_slots arguments hslot
  · rw [contributions, value_plan_eq_settlements, List.map_map]
    rfl
  · intro cells counters run
    refine ⟨truncates_formatInto cells template arguments counters, ?_, ?_, ?_⟩
    · rw [counters_formatInto, stores, value_plan_eq_settlements]
    · rw [diagnostics_formatInto, diagnostics_plan_eq_settlements]
    · rw [← hconsumed]
      exact congrArg Formatted.consumed (formatInto_eq cells template arguments counters)
  · intro arguments others i hlength h
    refine ⟨fun n => getElem?_contributions_congr template h, fun hi => ?_⟩
    exact calls_eq_of_settlements hlength (settlements_congr template h hi)

end BoundedFormat
