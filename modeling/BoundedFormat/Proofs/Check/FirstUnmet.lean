import BoundedFormat.Check.Basic
import BoundedFormat.Check.Demand
import BoundedFormat.Proofs.Plan.Slots

/-!
# A check tells of the first unmet demand

The demands of a template are a list that no argument has a part in; it can be read off the stars
and the letters of the directives (`demands_eq_demandsByLetter`). `Judges` says what there is to say
of arguments against such a list: the first demand that is not met, or else whether arguments are
left over. A check goes through segments, stars and conversions instead; it comes to one demand
after the other all the same (`checkSegments_eq_expectAll`), at the place in the arguments that the
demand has in the list (`expectAll_eq`), and so it says just this
(`checkArguments_judges_demands`).
-/

namespace BoundedFormat

/-! ## Demands by letters -/

/-- What the argument of a conversion with this letter has to be. -/
def letterRequirement? (letter : UInt8) : Option Requirement :=
  if letter ∈ utf8 "diuxc" then some .integer
  else if letter ∈ utf8 "s" then some .text
  else if letter ∈ utf8 "p" then some .address
  else if letter ∈ utf8 "n" then some .counter
  else if letter ∈ utf8 "f" then some .float
  else none

/-- What a letter demands. Its conversion goes by the letter, and by `d` where that is `i`. -/
def letterDemand? (letter : UInt8) : Option Demand :=
  (letterRequirement? letter).map (⟨if letter = 0x69 then 0x64 else letter, ·⟩)

/-- What a star demands, if there is one. -/
def Amount.demands (amount : Amount) : List Demand :=
  if amount = star then [⟨Ascii.star, .integer⟩] else []

/-- What a segment demands by its stars and its letter. -/
def Segment.demandsByLetter : Segment → List Demand
  | literal _ => []
  | directive s =>
    s.width.demands ++ s.precision.elim [] Amount.demands ++ (s.letter.bind letterDemand?).toList

/-- A conversion demands what its letter does. -/
theorem Conversion.demands_ofByte (letter : UInt8) :
    (ofByte letter).demands = (letterDemand? letter).toList := by
  have hall : ∀ n : Fin 256,
      (ofByte (UInt8.ofFin n)).demands = (letterDemand? (UInt8.ofFin n)).toList := by
    decide +kernel
  exact hall letter.toFin

/-- A width demands what its amount does. -/
theorem Amount.demands_width (amount : Amount) : amount.width.demands = amount.demands := by
  cases amount <;> rfl

/-- A precision demands what its amount does. -/
theorem Amount.demands_precision (amount : Amount) :
    amount.precision.demands = amount.demands := by
  cases amount <;> rfl

/-- A segment demands what its stars and its letter do. -/
theorem Segment.demands_eq_demandsByLetter (segment : Segment) :
    segment.demands = segment.demandsByLetter := by
  rcases segment with run | s
  · rfl
  · have hprecision : s.directive.precision.demands = s.precision.elim [] Amount.demands := by
      rw [Spelling.directive]
      rcases s.precision with _ | amount
      · rfl
      · exact amount.demands_precision
    have hletter : s.directive.conversion.demands = (s.letter.bind letterDemand?).toList := by
      rw [Spelling.directive]
      rcases s.letter with _ | letter
      · rfl
      · exact Conversion.demands_ofByte letter
    rw [demands, demandsByLetter, Directive.demands, hprecision, hletter, ← s.width.demands_width]
    rfl

/-- The demands of a template are those of its stars and letters. -/
theorem demands_eq_demandsByLetter (template : Bytes) :
    demands template = (segments template).flatMap Segment.demandsByLetter := by
  rw [demands, funext Segment.demands_eq_demandsByLetter]

/-! ## Demands against arguments -/

/-- The demand at place `k` is not met: the argument there is of the wrong kind, or missing. -/
def IsUnmet (demands : List Demand) (arguments : List Argument) (k : Nat) : Prop :=
  ∃ demand, demands[k]? = some demand ∧
    ∀ argument, arguments[k]? = some argument → demand.requirement.accepts argument = false

/-- The demand at place `k` is not met, and all demands in front of it are. -/
structure IsFirstUnmet (demands : List Demand) (arguments : List Argument) (k : Nat) : Prop where
  isUnmet : IsUnmet demands arguments k
  least : ∀ j < k, ¬IsUnmet demands arguments j

/-- What there is to say of arguments against demands. -/
inductive Judges (demands : List Demand) (arguments : List Argument) :
    Except CheckError Nat → Prop where
  /-- The arguments end where the first unmet demand is. -/
  | missing {k : Nat} {demand : Demand} (hfirst : IsFirstUnmet demands arguments k)
      (hdemand : demands[k]? = some demand) (hend : k = arguments.length) :
      Judges demands arguments (.error (.missingArgument k demand.byte))
  /-- The first unmet demand has an argument of the wrong kind. -/
  | mismatch {k : Nat} {demand : Demand} {argument : Argument}
      (hfirst : IsFirstUnmet demands arguments k) (hdemand : demands[k]? = some demand)
      (hargument : arguments[k]? = some argument) :
      Judges demands arguments (.error (.typeMismatch k demand.byte argument.kind))
  /-- All demands are met, and there are more arguments. -/
  | surplus (hmet : ∀ k, ¬IsUnmet demands arguments k)
      (hlt : demands.length < arguments.length) :
      Judges demands arguments (.error (.extraArguments demands.length arguments.length))
  /-- All demands are met, and there are no more arguments. -/
  | fit (hmet : ∀ k, ¬IsUnmet demands arguments k) (hle : arguments.length ≤ demands.length) :
      Judges demands arguments (.ok demands.length)

section

variable {demand : Demand} {demands : List Demand} {argument : Argument}
  {arguments : List Argument} {k : Nat}

/-- A demand that is met has an argument. -/
theorem lt_length_of_not_isUnmet (hk : k < demands.length) (h : ¬IsUnmet demands arguments k) :
    k < arguments.length := by
  refine Nat.lt_of_not_le fun hle => h ⟨demands[k], List.getElem?_eq_getElem hk, ?_⟩
  intro argument hargument
  rw [List.getElem?_eq_none hle] at hargument
  cases hargument

theorem IsUnmet.lt_length (h : IsUnmet demands arguments k) : k < demands.length := by
  obtain ⟨demand, hdemand, -⟩ := h
  exact (List.getElem?_eq_some_iff.1 hdemand).1

/-- The first unmet demand is at the end of the arguments, if it is not in front of it. -/
theorem IsFirstUnmet.le_length (h : IsFirstUnmet demands arguments k) :
    k ≤ arguments.length := by
  refine Nat.le_of_not_lt fun hlt => ?_
  have hbound := h.isUnmet.lt_length
  exact Nat.lt_irrefl _ (lt_length_of_not_isUnmet (by omega) (h.least _ hlt))

/-- There is one first unmet demand. -/
theorem IsFirstUnmet.unique (h : IsFirstUnmet demands arguments k) {j : Nat}
    (hj : IsFirstUnmet demands arguments j) : j = k := by
  have hle : ¬k < j := fun hlt => hj.least k hlt h.isUnmet
  have hge : ¬j < k := fun hlt => h.least j hlt hj.isUnmet
  omega

/-- Demands that are met have as many arguments at least. -/
theorem length_le_of_met (h : ∀ k, ¬IsUnmet demands arguments k) :
    demands.length ≤ arguments.length := by
  refine Nat.le_of_not_lt fun hlt => ?_
  exact Nat.lt_irrefl _ (lt_length_of_not_isUnmet hlt (h _))

/-! ### One demand more -/

theorem isUnmet_cons_zero_iff :
    IsUnmet (demand :: demands) (argument :: arguments) 0 ↔
      demand.requirement.accepts argument = false := by
  simp [IsUnmet]

theorem isUnmet_cons_succ_iff :
    IsUnmet (demand :: demands) (argument :: arguments) (k + 1) ↔
      IsUnmet demands arguments k := Iff.rfl

/-- A first demand that is not met is the first unmet one. -/
theorem isFirstUnmet_zero (h : IsUnmet demands arguments 0) : IsFirstUnmet demands arguments 0 :=
  ⟨h, fun _ hj => absurd hj (Nat.not_lt_zero _)⟩

/-- Behind a demand that is met the first unmet one is one place further on. -/
theorem IsFirstUnmet.cons (haccepts : demand.requirement.accepts argument = true)
    (h : IsFirstUnmet demands arguments k) :
    IsFirstUnmet (demand :: demands) (argument :: arguments) (k + 1) := by
  refine ⟨isUnmet_cons_succ_iff.2 h.isUnmet, fun j hj => ?_⟩
  rcases j with _ | j
  · rw [isUnmet_cons_zero_iff, haccepts]
    exact Bool.noConfusion
  · rw [isUnmet_cons_succ_iff]
    exact h.least j (by omega)

/-- Demands are met if the first one is and the others are. -/
theorem met_cons (haccepts : demand.requirement.accepts argument = true)
    (h : ∀ k, ¬IsUnmet demands arguments k) :
    ∀ k, ¬IsUnmet (demand :: demands) (argument :: arguments) k := by
  rintro (_ | k)
  · rw [isUnmet_cons_zero_iff, haccepts]
    exact Bool.noConfusion
  · rw [isUnmet_cons_succ_iff]
    exact h k

end

/-! ## A check as a walk along its demands -/

/-- Expect an argument for one demand after the other. -/
def expectAll : List Demand → ArgumentCursor → Except CheckError ArgumentCursor
  | [], cursor => .ok cursor
  | demand :: rest, cursor => do
    let cursor ← expectArgument demand.byte demand.requirement.accepts cursor
    expectAll rest cursor

theorem expectAll_append (former latter : List Demand) (cursor : ArgumentCursor) :
    expectAll (former ++ latter) cursor = expectAll former cursor >>= expectAll latter := by
  induction former generalizing cursor with
  | nil => rfl
  | cons demand rest ih =>
    rw [List.cons_append, expectAll, expectAll]
    rcases expectArgument demand.byte demand.requirement.accepts cursor with error | middle
    · rfl
    · exact ih middle

/-- Expecting an argument for one demand is taking one argument that meets it. -/
theorem expectAll_singleton (demand : Demand) :
    expectAll [demand] = expectArgument demand.byte demand.requirement.accepts := by
  funext cursor
  rw [expectAll]
  rcases expectArgument demand.byte demand.requirement.accepts cursor with error | rest <;> rfl

/-- An argument can be read as an integer exactly if its kind meets that requirement. -/
theorem accepts_integer : Requirement.integer.accepts = Argument.isInteger := by
  funext argument
  cases argument <;> rfl

/-- A width is checked by its demands. -/
theorem Width.check_eq_expectAll (width : Width) : width.check = expectAll width.demands := by
  cases width with
  | fixed n => rfl
  | fromArgument =>
    rw [demands, expectAll_singleton, Demand.star, accepts_integer]
    rfl

/-- A precision is checked by its demands. -/
theorem Precision.check_eq_expectAll (precision : Precision) :
    precision.check = expectAll precision.demands := by
  cases precision with
  | unspecified | fixed n => rfl
  | fromArgument =>
    rw [demands, expectAll_singleton, Demand.star, accepts_integer]
    rfl

/-- A conversion is checked by its demands: what it has a use for is a matter of the kind. -/
theorem Conversion.check_eq_expectAll (conversion : Conversion) :
    conversion.check = expectAll conversion.demands := by
  have htext : Requirement.text.accepts = fun argument => argument.text?.isSome := by
    funext argument
    cases argument <;> rfl
  have haddress : Requirement.address.accepts = fun argument => argument.address?.isSome := by
    funext argument
    cases argument <;> rfl
  have hcounter : Requirement.counter.accepts = fun argument => argument.counter?.isSome := by
    funext argument
    cases argument <;> rfl
  have hfloat : Requirement.float.accepts = fun argument => argument.float?.isSome := by
    funext argument
    cases argument <;> rfl
  cases conversion with
  | errorNumber | percent | unknown _ | truncated => rfl
  | signedDecimal | unsignedDecimal | hexadecimal | character =>
    rw [demands, expectAll_singleton, accepts_integer]
    rfl
  | text =>
    rw [demands, expectAll_singleton, htext]
    rfl
  | pointer =>
    rw [demands, expectAll_singleton, haddress]
    rfl
  | writeCount =>
    rw [demands, expectAll_singleton, hcounter]
    rfl
  | fixedPoint =>
    rw [demands, expectAll_singleton, hfloat]
    rfl

/-- A segment is checked by its demands. -/
theorem Segment.check_eq_expectAll (segment : Segment) :
    segment.check = expectAll segment.demands := by
  funext cursor
  cases segment with
  | literal run => rfl
  | directive spelling =>
    rw [demands, Directive.demands, List.append_assoc, expectAll_append]
    simp only [check, Width.check_eq_expectAll, Precision.check_eq_expectAll,
      Conversion.check_eq_expectAll]
    rcases expectAll spelling.directive.width.demands cursor with error | rest
    · rfl
    · exact (expectAll_append ..).symm

/-- Segments are checked by their demands, in order. -/
theorem checkSegments_eq_expectAll (segments : List Segment) :
    checkSegments segments = expectAll (segments.flatMap Segment.demands) := by
  funext cursor
  induction segments generalizing cursor with
  | nil => rfl
  | cons segment rest ih =>
    rw [checkSegments, List.flatMap_cons, expectAll_append, segment.check_eq_expectAll]
    rcases expectAll segment.demands cursor with error | middle
    · rfl
    · exact ih middle

/-! ## Where the walk ends -/

/-- The error about a demand that finds no argument at its place, or one of the wrong kind. -/
def Demand.refusal (demand : Demand) (index : Nat) : Option Argument → CheckError
  | none => .missingArgument index demand.byte
  | some argument => .typeMismatch index demand.byte argument.kind

/-- The walk ends at the first unmet demand, if there is one, and else behind the last one. -/
theorem expectAll_eq (demands : List Demand) (cursor : ArgumentCursor) :
    (∃ k demand, IsFirstUnmet demands cursor.rest k ∧ demands[k]? = some demand ∧
        expectAll demands cursor =
          .error (demand.refusal (cursor.consumed + k) cursor.rest[k]?)) ∨
      ((∀ k, ¬IsUnmet demands cursor.rest k) ∧
        expectAll demands cursor = .ok (cursor.skip demands.length)) := by
  induction demands generalizing cursor with
  | nil =>
    refine .inr ⟨fun k h => absurd h.lt_length (Nat.not_lt_zero k), ?_⟩
    rw [expectAll, List.length_nil, ArgumentCursor.skip_zero]
  | cons demand demands ih =>
    rcases cursor with ⟨consumed, _ | ⟨argument, rest⟩⟩
    · exact .inl ⟨0, demand, isFirstUnmet_zero ⟨demand, rfl, nofun⟩, rfl, rfl⟩
    · by_cases haccepts : demand.requirement.accepts argument = true
      · -- The demand is met, and the walk goes on with one argument less.
        have hwalk : expectAll (demand :: demands) ⟨consumed, argument :: rest⟩ =
            expectAll demands ⟨consumed + 1, rest⟩ := by
          rw [expectAll, expectArgument, ArgumentCursor.next]
          simp only [if_pos haccepts]
          rfl
        rw [hwalk]
        obtain ⟨k, other, hfirst, hother, herror⟩ | ⟨hmet, hok⟩ := ih ⟨consumed + 1, rest⟩
        · refine .inl ⟨k + 1, other, hfirst.cons haccepts, hother, ?_⟩
          rw [herror, Nat.add_right_comm, Nat.add_assoc]
          rfl
        · refine .inr ⟨met_cons haccepts hmet, ?_⟩
          rw [hok, List.length_cons, Nat.add_comm demands.length, ← ArgumentCursor.skip_skip]
          rfl
      · have hrefused : demand.requirement.accepts argument = false := eq_false_of_ne_true haccepts
        refine .inl ⟨0, demand, isFirstUnmet_zero (isUnmet_cons_zero_iff.2 hrefused), rfl, ?_⟩
        rw [expectAll, expectArgument, ArgumentCursor.next]
        simp only [if_neg haccepts]
        rfl

/-! ## What is said -/

section

variable {demands : List Demand} {arguments : List Argument} {result : Except CheckError Nat}

/-- Where a demand is not met, the first one is all there is to speak of. -/
theorem IsFirstUnmet.judges_iff {k : Nat} {demand : Demand}
    (h : IsFirstUnmet demands arguments k) (hdemand : demands[k]? = some demand) :
    Judges demands arguments result ↔ result = .error (demand.refusal k arguments[k]?) := by
  constructor
  · rintro (⟨hfirst, hother, rfl⟩ | ⟨hfirst, hother, hargument⟩ | ⟨hmet, -⟩ | ⟨hmet, -⟩)
    · obtain rfl := h.unique hfirst
      obtain rfl := Option.some.inj (hdemand.symm.trans hother)
      rw [List.getElem?_eq_none (Nat.le_refl _)]
      rfl
    · obtain rfl := h.unique hfirst
      obtain rfl := Option.some.inj (hdemand.symm.trans hother)
      rw [hargument]
      rfl
    · exact absurd h.isUnmet (hmet k)
    · exact absurd h.isUnmet (hmet k)
  · rintro rfl
    rcases hargument : arguments[k]? with _ | argument
    · have hle := List.getElem?_eq_none_iff.1 hargument
      exact .missing h hdemand (Nat.le_antisymm h.le_length hle)
    · exact .mismatch h hdemand hargument

/-- Where all demands are met, it is a matter of how many arguments there are. -/
theorem judges_iff_of_met (h : ∀ k, ¬IsUnmet demands arguments k) :
    Judges demands arguments result ↔
      result = if demands.length < arguments.length then
        .error (.extraArguments demands.length arguments.length) else .ok demands.length := by
  constructor
  · rintro (⟨hfirst, -, -⟩ | ⟨hfirst, -, -⟩ | ⟨-, hlt⟩ | ⟨-, hle⟩)
    · exact absurd hfirst.isUnmet (h _)
    · exact absurd hfirst.isUnmet (h _)
    · rw [if_pos hlt]
    · rw [if_neg (Nat.not_lt.2 hle)]
  · rintro rfl
    split
    · next hlt => exact .surplus h hlt
    · next hge => exact .fit h (Nat.not_lt.1 hge)

end

/-- A check says what there is to say of the arguments against the demands of the template. -/
theorem checkArguments_eq_iff (template : Bytes) (arguments : List Argument)
    (result : Except CheckError Nat) :
    checkArguments template arguments = result ↔
      Judges (demands template) arguments result := by
  have hcheck : checkArguments template arguments =
      expectAll (demands template) (.ofList arguments) >>= fun cursor =>
        if cursor.consumed < cursor.supplied then
          .error (.extraArguments cursor.consumed cursor.supplied)
        else .ok cursor.consumed := by
    rw [checkArguments, checkSegments_eq_expectAll]
    rfl
  have hrest : (ArgumentCursor.ofList arguments).rest = arguments := rfl
  have hwalk := expectAll_eq (demands template) (.ofList arguments)
  rw [hrest] at hwalk
  obtain ⟨k, demand, hfirst, hdemand, herror⟩ | ⟨hmet, hok⟩ := hwalk
  · have hresult : checkArguments template arguments =
        .error (demand.refusal k arguments[k]?) := by
      have hplace : (ArgumentCursor.ofList arguments).consumed + k = k := Nat.zero_add k
      rw [hcheck, herror, hplace]
      rfl
    rw [hresult, hfirst.judges_iff hdemand, eq_comm]
  · have hconsumed : ((ArgumentCursor.ofList arguments).skip (demands template).length).consumed =
        (demands template).length := by
      rw [ArgumentCursor.consumed_skip, hrest, Nat.min_eq_left (length_le_of_met hmet)]
      exact Nat.zero_add _
    have hresult : checkArguments template arguments =
        if (demands template).length < arguments.length then
          .error (.extraArguments (demands template).length arguments.length)
        else .ok (demands template).length := by
      rw [hcheck, hok]
      show (if _ < _ then _ else _) = _
      rw [hconsumed, ArgumentCursor.supplied_skip, ArgumentCursor.supplied_ofList]
    rw [hresult, judges_iff_of_met hmet, eq_comm]

/-! ## Arguments that are accepted -/

/-- An argument that meets the requirement. -/
def Requirement.sample : Requirement → Argument
  | integer => .int32 0
  | text => .text []
  | address => .pointer 0
  | counter => .counter 0
  | float => .float 0

theorem Requirement.accepts_sample (requirement : Requirement) :
    requirement.accepts requirement.sample = true := by
  cases requirement <;> rfl

/-- Every row of demands can be met. -/
theorem met_samples (demands : List Demand) :
    ∀ k, ¬IsUnmet demands (demands.map (·.requirement.sample)) k := by
  induction demands with
  | nil => exact fun k h => absurd h.lt_length (Nat.not_lt_zero k)
  | cons demand rest ih => exact met_cons demand.requirement.accepts_sample ih

/-- A check goes by the list of demands that the template makes with its stars and the letters of its
conversions, and by nothing else. Where a demand is not met, it tells of the first one: that the
arguments end there, or of what kind the argument is. Where all demands are met, it tells of
arguments left over or else accepts them with the number of demands. So no error points beyond the
end of the arguments, and a template accepts arguments of one length, and some of this length. -/
theorem checkArguments_judges_demands (template : Bytes) :
    demands template = (segments template).flatMap Segment.demandsByLetter ∧
    (∀ arguments : List Argument,
      (∀ result, checkArguments template arguments = result ↔
        Judges (demands template) arguments result) ∧
      (∀ index byte, checkArguments template arguments = .error (.missingArgument index byte) →
        index = arguments.length) ∧
      ∀ index byte found,
        checkArguments template arguments = .error (.typeMismatch index byte found) →
          index < arguments.length) ∧
    ∀ n, (∃ arguments : List Argument, arguments.length = n ∧
        ∃ read, checkArguments template arguments = .ok read) ↔
      n = (demands template).length := by
  refine ⟨demands_eq_demandsByLetter template,
    fun arguments => ⟨checkArguments_eq_iff template arguments, ?_, ?_⟩, fun n => ⟨?_, ?_⟩⟩
  · intro index byte h
    obtain ⟨-, -, hend⟩ := (checkArguments_eq_iff ..).1 h
    exact hend
  · intro index byte found h
    obtain ⟨⟩ | ⟨-, -, hargument⟩ := (checkArguments_eq_iff ..).1 h
    exact (List.getElem?_eq_some_iff.1 hargument).1
  · rintro ⟨arguments, rfl, read, h⟩
    obtain ⟨⟩ | ⟨⟩ | ⟨⟩ | ⟨hmet, hle⟩ := (checkArguments_eq_iff ..).1 h
    exact Nat.le_antisymm hle (length_le_of_met hmet)
  · rintro rfl
    have hlength : ((demands template).map (·.requirement.sample)).length =
        (demands template).length := List.length_map _
    refine ⟨_, hlength, (demands template).length, (checkArguments_eq_iff ..).2 ?_⟩
    exact .fit (met_samples _) (Nat.le_of_eq hlength)

end BoundedFormat
