import Mathlib.Algebra.Group.Nat.Defs
import BoundedFormat.Proofs.Plan.Alignment

/-!
# Counting the bytes so far

A `%n` with a counter in its slot (`CountsInto`) stores how many bytes the segments in front of it
produce (`producedBefore`), whether the buffer has kept them or not. `writerAfter` is where a call
stands behind its first segments; the buffer there was offered just these bytes, and the counters
are as `CountedUpTo` has them: each holds the last count made into it, or what it held at first.
One segment more keeps this (`CountedUpTo.step`), so it holds at every point of a call
(`countedUpTo_writerAfter`) and at its end (`formatInto_keeps_last_counts`).
-/

namespace BoundedFormat

/-! ## What counts where -/

/-- Segment `i` is a `%n`, and the counter of number `index` is in its slot. -/
def CountsInto (template : Bytes) (arguments : List Argument) (i index : Nat) : Prop :=
  ∃ spelling, (segments template)[i]? = some (.directive spelling) ∧
    spelling.directive.conversion = .writeCount ∧
      found template arguments i .value = some (.counter index)

/-- How many bytes the segments in front of segment `i` produce. -/
def producedBefore (template : Bytes) (arguments : List Argument) (i : Nat) : Nat :=
  ((contributions template arguments).take i).flatten.length

/-- The number `count` is `n` kept to 32 bits and read as signed. -/
def IsCountOf (n : Nat) (count : Int32) : Prop := count.toInt = (n : Int).bmod (2 ^ 32)

/-- Where a call stands when it has worked through the first `i` segments. -/
def writerAfter (cells : Array UInt8) (template : Bytes) (arguments : List Argument)
    (counters : Counters) (i : Nat) : Writer :=
  ((plan template arguments).value.take i).foldl (fun writer effect => effect.perform writer)
    ⟨Buffer.ofCells cells, counters⟩

theorem isCountOf_ofNat (n : Nat) : IsCountOf n (Int32.ofNat n) := Int32.toInt_ofNat

/-- No conversion but `%n` makes a store, and it does so only if it has a counter. -/
theorem Conversion.effect?_eq_storeCount_iff {conversion : Conversion} {place : Placement}
    {length : Length} {argument : Argument} {index : Nat} :
    conversion.effect? place length argument = some (.storeCount index) ↔
      conversion = .writeCount ∧ argument = .counter index := by
  cases conversion with
  | writeCount => cases argument <;> simp [effect?, Argument.counter?]
  | _ => simp [effect?]

/-- A conversion that is handed what it finds stores into a counter exactly if it is `%n` and finds
this counter. -/
theorem Conversion.value_resolve_eq_storeCount_iff {conversion : Conversion} {place : Placement}
    {length : Length} {found : Option Argument} {index : Nat} :
    (conversion.resolve place length (.ofList found.toList)).value = .storeCount index ↔
      conversion = .writeCount ∧ found = some (.counter index) := by
  rw [value_resolve_handed]
  rcases hconstant : conversion.constantEffect? with _ | effect
  · rcases found with _ | argument
    · simp
    · rw [Option.none_or, Option.bind_some, Option.some.injEq, ← effect?_eq_storeCount_iff]
      rcases conversion.effect? place length argument with _ | effect <;> simp
  · -- It takes no argument, so it is no `%n` and makes no store.
    cases conversion with
    | errorNumber | percent | unknown _ | truncated =>
      obtain rfl := Option.some.inj hconstant
      simp
    | _ => cases hconstant

/-- A `%n` writes nothing, whatever it finds. -/
theorem Conversion.bytes_value_resolve_writeCount (place : Placement) (length : Length)
    (found : Option Argument) :
    (writeCount.resolve place length (.ofList found.toList)).value.bytes = [] := by
  rcases found with _ | argument
  · rfl
  · cases argument <;> rfl

section

variable {template : Bytes} {arguments : List Argument} {i index : Nat}

/-- A plan stores into a counter where a `%n` counts into it. -/
theorem getElem?_value_plan_eq_storeCount_iff :
    (plan template arguments).value[i]? = some (.storeCount index) ↔
      CountsInto template arguments i index := by
  rw [value_plan_eq_settlements, settlements, List.getElem?_map, List.getElem?_mapIdx, CountsInto]
  rcases (segments template)[i]? with _ | run | spelling
  · simp
  · simp [Segment.settle]
  · simpa [Segment.settle, Directive.settle] using Conversion.value_resolve_eq_storeCount_iff

/-- A segment counts into one counter at most. -/
theorem CountsInto.index_eq {other : Nat} (h : CountsInto template arguments i index)
    (hother : CountsInto template arguments i other) : other = index := by
  rw [← getElem?_value_plan_eq_storeCount_iff] at h hother
  exact Effect.storeCount.inj (Option.some.inj (hother.symm.trans h))

/-- A `%n` adds nothing to the output, whatever is in its slot. -/
theorem getElem?_contributions_of_writeCount {spelling : Spelling}
    (hget : (segments template)[i]? = some (.directive spelling))
    (hconversion : spelling.directive.conversion = .writeCount) :
    (contributions template arguments)[i]? = some [] := by
  rw [getElem?_contributions, hget]
  refine congrArg some ?_
  show (spelling.directive.settle (found template arguments i)).effect.bytes = []
  rw [Directive.settle, hconversion]
  exact Conversion.bytes_value_resolve_writeCount _ _ _

/-! ## One segment more -/

variable {cells : Array UInt8} {counters : Counters}

/-- The effect of one segment more is carried out, if there is one more. -/
theorem writerAfter_succ :
    writerAfter cells template arguments counters (i + 1) =
      (plan template arguments).value[i]?.elim (writerAfter cells template arguments counters i)
        fun effect => effect.perform (writerAfter cells template arguments counters i) := by
  rw [writerAfter, List.take_add_one, List.foldl_append]
  rcases (plan template arguments).value[i]? with _ | effect <;> rfl

/-- At every point of a call its buffer was offered what the segments so far produce. -/
theorem buffer_writerAfter :
    (writerAfter cells template arguments counters i).buffer =
      (Buffer.ofCells cells).putAll ((contributions template arguments).take i).flatten := by
  rw [writerAfter, foldl_perform, contributions, ← List.map_take, ← List.flatMap_def]

/-- The buffer has counted every byte so far, stored or not. -/
theorem offered_writerAfter :
    (writerAfter cells template arguments counters i).buffer.offered =
      producedBefore template arguments i := by
  rw [buffer_writerAfter, Buffer.offered_putAll, producedBefore]
  exact Nat.zero_add _

/-- A segment that counts stores the count so far into its counter, and does nothing else. -/
theorem writerAfter_succ_of_countsInto (h : CountsInto template arguments i index) :
    writerAfter cells template arguments counters (i + 1) =
      ⟨(writerAfter cells template arguments counters i).buffer,
        (writerAfter cells template arguments counters i).counters.setIfInBounds index
          (Int32.ofNat (producedBefore template arguments i))⟩ := by
  have hoffered : (writerAfter cells template arguments counters i).buffer.offered =
      producedBefore template arguments i := offered_writerAfter
  rw [writerAfter_succ, getElem?_value_plan_eq_storeCount_iff.2 h, Option.elim_some, ← hoffered]
  rfl

/-- A segment that does not count leaves the counters alone. -/
theorem counters_writerAfter_succ (h : ∀ index, ¬CountsInto template arguments i index) :
    (writerAfter cells template arguments counters (i + 1)).counters =
      (writerAfter cells template arguments counters i).counters := by
  rw [writerAfter_succ]
  rcases heffect : (plan template arguments).value[i]? with _ | effect
  · rfl
  · cases effect with
    | write emission => rfl
    | storeCount index => exact absurd (getElem?_value_plan_eq_storeCount_iff.1 heffect) (h index)
    | nothing => rfl

end

/-! ## The counters at every point of a call -/

/-- From `initial` the counters became `now` when the first `i` segments made their counts. -/
structure CountedUpTo (template : Bytes) (arguments : List Argument) (initial : Counters) (i : Nat)
    (now : Counters) : Prop where
  size_eq : now.size = initial.size
  /-- Where nothing was counted a counter is as it was. -/
  kept : ∀ index, (∀ j < i, ¬CountsInto template arguments j index) → now[index]? = initial[index]?
  /-- Of several counts into one counter the last one stands. -/
  last : ∀ j < i, ∀ index < initial.size, CountsInto template arguments j index →
    (∀ k, j < k → k < i → ¬CountsInto template arguments k index) →
      ∃ count, IsCountOf (producedBefore template arguments j) count ∧ now[index]? = some count

section

variable {cells : Array UInt8} {template : Bytes} {arguments : List Argument}
  {counters now : Counters} {i : Nat}

theorem countedUpTo_zero : CountedUpTo template arguments counters 0 counters where
  size_eq := rfl
  kept := fun _ _ => rfl
  last := fun _ hj => absurd hj (Nat.not_lt_zero _)

/-- A count keeps the law: its counter holds it, and the others are as before. -/
theorem CountedUpTo.count (h : CountedUpTo template arguments counters i now) {index : Nat}
    (hcounts : CountsInto template arguments i index) :
    CountedUpTo template arguments counters (i + 1)
      (now.setIfInBounds index (Int32.ofNat (producedBefore template arguments i))) where
  size_eq := by rw [Array.size_setIfInBounds, h.size_eq]
  kept := by
    intro other hnone
    have hne : index ≠ other := by
      rintro rfl
      exact hnone i (Nat.lt_succ_self i) hcounts
    rw [Array.getElem?_setIfInBounds_ne hne]
    exact h.kept other fun j hj => hnone j (Nat.lt_succ_of_lt hj)
  last := by
    intro j hj other hlt hother hlast
    obtain hbefore | rfl := Nat.lt_succ_iff_lt_or_eq.1 hj
    · have hne : index ≠ other := by
        rintro rfl
        exact hlast i hbefore (Nat.lt_succ_self i) hcounts
      rw [Array.getElem?_setIfInBounds_ne hne]
      exact h.last j hbefore other hlt hother fun k hjk hk => hlast k hjk (Nat.lt_succ_of_lt hk)
    · obtain rfl := hcounts.index_eq hother
      refine ⟨_, isCountOf_ofNat _, ?_⟩
      rw [Array.getElem?_setIfInBounds_self_of_lt (h.size_eq ▸ hlt)]

/-- A segment that does not count keeps the law with the counters as they are. -/
theorem CountedUpTo.skip (h : CountedUpTo template arguments counters i now)
    (hnone : ∀ index, ¬CountsInto template arguments i index) :
    CountedUpTo template arguments counters (i + 1) now where
  size_eq := h.size_eq
  kept := fun index hkept => h.kept index fun j hj => hkept j (Nat.lt_succ_of_lt hj)
  last := by
    intro j hj index hlt hcounts hlast
    obtain hbefore | rfl := Nat.lt_succ_iff_lt_or_eq.1 hj
    · exact h.last j hbefore index hlt hcounts fun k hjk hk => hlast k hjk (Nat.lt_succ_of_lt hk)
    · exact absurd hcounts (hnone index)

/-- One segment more keeps the law. -/
theorem CountedUpTo.step
    (h : CountedUpTo template arguments counters i
      (writerAfter cells template arguments counters i).counters) :
    CountedUpTo template arguments counters (i + 1)
      (writerAfter cells template arguments counters (i + 1)).counters := by
  by_cases hcounts : ∃ index, CountsInto template arguments i index
  · obtain ⟨index, hcounts⟩ := hcounts
    rw [writerAfter_succ_of_countsInto hcounts]
    exact h.count hcounts
  · have hnone : ∀ index, ¬CountsInto template arguments i index := not_exists.1 hcounts
    rw [counters_writerAfter_succ hnone]
    exact h.skip hnone

/-- At every point of a call the counters hold the last counts. -/
theorem countedUpTo_writerAfter (cells : Array UInt8) (counters : Counters) (i : Nat) :
    CountedUpTo template arguments counters i
      (writerAfter cells template arguments counters i).counters := by
  induction i with
  | zero => exact countedUpTo_zero
  | succ i ih => exact ih.step

end

/-! ## The whole call -/

/-- A plan has one effect for each segment. -/
theorem length_value_plan (template : Bytes) (arguments : List Argument) :
    (plan template arguments).value.length = (segments template).length := by
  rw [value_plan_eq_settlements, List.length_map, settlements, List.length_mapIdx]

/-- A call ends where it stands behind its last segment. -/
theorem writerAfter_length (cells : Array UInt8) (template : Bytes) (arguments : List Argument)
    (counters : Counters) :
    writerAfter cells template arguments counters (segments template).length =
      (plan template arguments).value.foldl (fun writer effect => effect.perform writer)
        ⟨Buffer.ofCells cells, counters⟩ := by
  rw [writerAfter, ← length_value_plan template arguments, List.take_length]

/-- A call that has worked through all its segments leaves each counter with the last count made
into it. Each `%n` that has a counter stores the number of bytes that the segments in front of it
produce, kept to 32 bits; it writes nothing, and no other segment touches a counter. What the call
writes and reports does not depend on what the counters held. -/
theorem formatInto_keeps_last_counts (template : Bytes) (arguments : List Argument) :
    (∀ (cells : Array UInt8) (counters : Counters),
      let writer := writerAfter cells template arguments counters
      let run := formatInto cells template arguments counters
      (∀ i index, CountsInto template arguments i index → ∃ count,
        IsCountOf (producedBefore template arguments i) count ∧
          writer (i + 1) = ⟨(writer i).buffer, (writer i).counters.setIfInBounds index count⟩) ∧
      (∀ i, (∀ index, ¬CountsInto template arguments i index) →
        (writer (i + 1)).counters = (writer i).counters) ∧
      (∀ i, (writer i).buffer.offered = producedBefore template arguments i ∧
        CountedUpTo template arguments counters i (writer i).counters) ∧
      run.outcome = (writer (segments template).length).buffer.outcome ∧
      run.counters = (writer (segments template).length).counters ∧
      CountedUpTo template arguments counters (segments template).length run.counters) ∧
    (∀ (i : Nat) (spelling : Spelling), (segments template)[i]? = some (.directive spelling) →
      spelling.directive.conversion = .writeCount →
        (contributions template arguments)[i]? = some []) ∧
    ∀ (cells : Array UInt8) (counters others : Counters),
      let run := formatInto cells template arguments counters
      let other := formatInto cells template arguments others
      run.outcome = other.outcome ∧ run.cells = other.cells ∧
        run.diagnostics = other.diagnostics ∧ run.consumed = other.consumed := by
  refine ⟨fun cells counters => ?_, ?_, ?_⟩
  · have hend : (formatInto cells template arguments counters).counters =
        (writerAfter cells template arguments counters (segments template).length).counters := by
      rw [writerAfter_length]
      rfl
    refine ⟨?_, ?_, ?_, ?_, hend, ?_⟩
    · exact fun i index h => ⟨_, isCountOf_ofNat _, writerAfter_succ_of_countsInto h⟩
    · exact fun i h => counters_writerAfter_succ h
    · exact fun i => ⟨offered_writerAfter, countedUpTo_writerAfter cells counters i⟩
    · rw [writerAfter_length]
      rfl
    · rw [hend]
      exact countedUpTo_writerAfter cells counters _
  · exact fun i spelling => getElem?_contributions_of_writeCount
  · intro cells counters others
    simp only [formatInto_eq, and_self]

end BoundedFormat
