import Mathlib.Algebra.Ring.Nat
import BoundedFormat.Proofs.Selftest.Summary

/-!
# What a summary holds after a run

After any row of results a summary keeps the first sixteen of them, in order, and each counter holds
the true sum or the largest number (`Summary.Tallies`). Counting one more result in keeps this up,
so it holds after every run. A table with sixteen places and a count of those in use, which is what
memory holds, keeps the same results (`SuiteTable.Keeps`).
-/

namespace BoundedFormat

/-! ## Counters -/

/-- The sum of a count over the results, or the largest number. -/
def saturatedSum (count : SuiteResult → UInt32) (results : List SuiteResult) : Nat :=
  min (results.map fun result => (count result).toNat).sum (UInt32.size - 1)

/-- A counter that holds a sum holds it with one more result counted in. -/
theorem toNat_saturatingAdd_of_saturatedSum {count : SuiteResult → UInt32}
    {results : List SuiteResult} {counter : UInt32}
    (h : counter.toNat = saturatedSum count results) (result : SuiteResult) :
    (saturatingAdd counter (count result)).toNat = saturatedSum count (results ++ [result]) := by
  rw [toNat_saturatingAdd, h, saturatedSum, saturatedSum, List.map_append, List.sum_append,
    List.map_singleton, List.sum_singleton]
  omega

namespace Summary

/-- The summary has the results counted in: it keeps those for which there is room, and its counters
hold their sums. -/
structure Tallies (summary : Summary) (results : List SuiteResult) : Prop where
  suites_eq : summary.suites = results.take maxKeptSuites
  total_eq : summary.total.toNat = saturatedSum SuiteResult.total results
  passed_eq : summary.passed.toNat = saturatedSum SuiteResult.passed results
  failed_eq : summary.failed.toNat = saturatedSum SuiteResult.failed results

/-- A new summary has nothing counted in. -/
theorem tallies_nil : ({} : Summary).Tallies [] := ⟨rfl, rfl, rfl, rfl⟩

/-- A result is kept behind those before it, if there is room. -/
theorem Tallies.suites_add {summary : Summary} {results : List SuiteResult}
    (h : summary.Tallies results) (result : SuiteResult) :
    (summary.add result).suites = (results ++ [result]).take maxKeptSuites := by
  have hone := suites_foldl_add [result] summary
  rw [List.foldl_cons, List.foldl_nil, h.suites_eq, List.length_take] at hone
  rw [hone, List.take_append]
  congr 2
  omega

/-- Counting a result in tallies one result more. -/
theorem Tallies.add {summary : Summary} {results : List SuiteResult} (h : summary.Tallies results)
    (result : SuiteResult) : (summary.add result).Tallies (results ++ [result]) where
  suites_eq := h.suites_add result
  total_eq := toNat_saturatingAdd_of_saturatedSum h.total_eq result
  passed_eq := toNat_saturatingAdd_of_saturatedSum h.passed_eq result
  failed_eq := toNat_saturatingAdd_of_saturatedSum h.failed_eq result

/-- Counting a row of results in tallies all of them. -/
theorem Tallies.foldl_add {summary : Summary} {counted : List SuiteResult}
    (h : summary.Tallies counted) (results : List SuiteResult) :
    (results.foldl Summary.add summary).Tallies (counted ++ results) := by
  induction results generalizing summary counted with
  | nil => rwa [List.append_nil]
  | cons result rest ih =>
    rw [List.foldl_cons, List.append_cons]
    exact ih (h.add result)

end Summary

/-! ## A table of results -/

/-- A table with a fixed number of places for results, of which as many as the count says are in
use, from the front. -/
structure SuiteTable where
  places : Vector SuiteResult maxKeptSuites := .replicate maxKeptSuites { name := "" }
  count : Nat := 0

namespace SuiteTable

/-- Put a result into the next place, if there is one. -/
def keep (table : SuiteTable) (result : SuiteResult) : SuiteTable :=
  if h : table.count < maxKeptSuites then
    ⟨table.places.set table.count result h, table.count + 1⟩
  else table

/-- The results in the places in use; `none` where the count says more places than there are. -/
def kept? (table : SuiteTable) : Option (List SuiteResult) :=
  if table.count ≤ maxKeptSuites then some (table.places.toList.take table.count) else none

/-- The table holds the results for which there is room. -/
structure Keeps (table : SuiteTable) (results : List SuiteResult) : Prop where
  count_eq : table.count = min results.length maxKeptSuites
  take_eq : table.places.toList.take table.count = results.take maxKeptSuites

/-- A new table holds nothing. -/
theorem keeps_nil : ({} : SuiteTable).Keeps [] := ⟨rfl, rfl⟩

/-- What is in the places in use stays there, and a result more is kept if there is room. -/
theorem Keeps.keep {table : SuiteTable} {results : List SuiteResult} (h : table.Keeps results)
    (result : SuiteResult) : (table.keep result).Keeps (results ++ [result]) := by
  have hcount := h.count_eq
  have htake := h.take_eq
  have hlength : (results ++ [result]).length = results.length + 1 := by
    rw [List.length_append, List.length_singleton]
  unfold SuiteTable.keep
  split
  · next hroom =>
    have hfits : results.length < maxKeptSuites := by omega
    have hset : (table.places.toList.set table.count result)[table.count]? = some result :=
      List.getElem?_set_self (by rw [Vector.length_toList]; exact hroom)
    have hall : (results ++ [result]).take maxKeptSuites = results ++ [result] :=
      List.take_of_length_le (by omega)
    rw [List.take_of_length_le (Nat.le_of_lt hfits)] at htake
    refine ⟨?_, ?_⟩
    · rw [hlength]
      show table.count + 1 = _
      omega
    · show (table.places.set table.count result hroom).toList.take (table.count + 1) = _
      rw [hall, Vector.toList_set, List.take_add_one, hset, List.take_set_of_le (Nat.le_refl _),
        htake]
      rfl
  · next hfull =>
    have hmore : maxKeptSuites ≤ results.length := by omega
    exact ⟨by omega, by rw [htake, List.take_append_of_le_length hmore]⟩

/-- A row of results is kept for as long as there is room. -/
theorem Keeps.foldl_keep {table : SuiteTable} {kept : List SuiteResult} (h : table.Keeps kept)
    (results : List SuiteResult) :
    (results.foldl SuiteTable.keep table).Keeps (kept ++ results) := by
  induction results generalizing table kept with
  | nil => rwa [List.append_nil]
  | cons result rest ih =>
    rw [List.foldl_cons, List.append_cons]
    exact ih (h.keep result)

/-- The count of a table never says more places than there are. -/
theorem Keeps.kept?_eq {table : SuiteTable} {results : List SuiteResult} (h : table.Keeps results) :
    table.kept? = some (results.take maxKeptSuites) := by
  have hcount := h.count_eq
  rw [kept?, if_pos (by omega), h.take_eq]

end SuiteTable

/-! ## Runs -/

/-- In the counts of a suite every test has passed or failed. -/
theorem SuiteResult.passed_add_failed_ofCounts (name : String) {passed total : UInt32}
    (h : passed ≤ total) :
    (ofCounts name passed total).passed.toNat + (ofCounts name passed total).failed.toNat =
      (ofCounts name passed total).total.toNat := by
  have hle : passed.toNat ≤ total.toNat := UInt32.le_iff_toNat_le.1 h
  show passed.toNat + (if passed ≤ total then total - passed else 0).toNat = total.toNat
  rw [if_pos h, UInt32.toNat_sub_of_le _ _ h]
  omega

/-- The result is one that a suite counts: `passed` of its `total` tests did not fail. -/
def SuiteResult.IsCounted (result : SuiteResult) : Prop :=
  ∃ name passed total, passed ≤ total ∧ result = ofCounts name passed total

/-- The passed tests of suites and the failed ones are all their tests. -/
theorem sum_passed_add_sum_failed {results : List SuiteResult}
    (h : ∀ result ∈ results, result.IsCounted) :
    (results.map fun result => result.passed.toNat).sum +
        (results.map fun result => result.failed.toNat).sum =
      (results.map fun result => result.total.toNat).sum := by
  induction results with
  | nil => rfl
  | cons result rest ih =>
    obtain ⟨⟨name, passed, total, hle, rfl⟩, hrest⟩ := List.forall_mem_cons.1 h
    have hone := SuiteResult.passed_add_failed_ofCounts name hle
    have hall := ih hrest
    simp only [List.map_cons, List.sum_cons]
    omega

/-- After any row of results a summary keeps the first sixteen, in order, and so does a table of
sixteen places, whose count is the number of results up to there. Each counter holds the true sum
over all results, or the largest number. No failure counted means that no result has one, however
many there are and whatever has been cut off. Where suites have counted their tests, and these are
not too many for a counter, the passed ones and the failed ones are all of them. -/
theorem summary_tallies_results (results : List SuiteResult) :
    let summary := results.foldl Summary.add {}
    let table := results.foldl SuiteTable.keep {}
    summary.suites = results.take maxKeptSuites ∧ table.kept? = some summary.suites ∧
      table.count = min results.length maxKeptSuites ∧ summary.suites.length = table.count ∧
      summary.total.toNat = saturatedSum SuiteResult.total results ∧
      summary.passed.toNat = saturatedSum SuiteResult.passed results ∧
      summary.failed.toNat = saturatedSum SuiteResult.failed results ∧
      (summary.allPassed = true ↔ ∀ result ∈ results, result.failed = 0) ∧
      ((∀ result ∈ results, result.IsCounted) →
        (results.map fun result => result.total.toNat).sum < UInt32.size →
        summary.passed.toNat + summary.failed.toNat = summary.total.toNat) := by
  intro summary table
  have htallies : summary.Tallies results := by
    have h := Summary.tallies_nil.foldl_add results
    rwa [List.nil_append] at h
  have hkeeps : table.Keeps results := by
    have h := SuiteTable.keeps_nil.foldl_keep results
    rwa [List.nil_append] at h
  have hlength : summary.suites.length = table.count := by
    rw [htallies.suites_eq, hkeeps.count_eq, List.length_take, Nat.min_comm]
  have hpassed : summary.allPassed = true ↔ ∀ result ∈ results, result.failed = 0 := by
    rw [Summary.allPassed, beq_iff_eq]
    exact (Summary.failed_foldl_add_eq_zero_iff results {}).trans (and_iff_right rfl)
  refine ⟨htallies.suites_eq, ?_, hkeeps.count_eq, hlength, htallies.total_eq, htallies.passed_eq,
    htallies.failed_eq, hpassed, fun hcounted hfits => ?_⟩
  · rw [hkeeps.kept?_eq, htallies.suites_eq]
  · have hsum := sum_passed_add_sum_failed hcounted
    rw [htallies.total_eq, htallies.passed_eq, htallies.failed_eq, saturatedSum, saturatedSum,
      saturatedSum]
    omega

/-- Seventeen suites, of which the last one has a failure: it is counted, but not kept. -/
theorem summary_tallies_results_of_seventeen :
    let results := List.replicate 16 (SuiteResult.ofCounts "format" 3 3) ++ [.ofCounts "bounds" 1 2]
    let summary := results.foldl Summary.add {}
    (∀ result ∈ results, result.IsCounted) ∧
      (results.map fun result => result.total.toNat).sum < UInt32.size ∧
      summary.suites = List.replicate 16 (.ofCounts "format" 3 3) ∧ summary.allPassed = false ∧
      summary.passed.toNat + summary.failed.toNat = summary.total.toNat := by
  intro results summary
  have hcounted : ∀ result ∈ results, result.IsCounted := by
    refine List.forall_mem_append.2 ⟨fun result hmem => ?_, fun result hmem => ?_⟩
    · exact ⟨"format", 3, 3, by decide, List.eq_of_mem_replicate hmem⟩
    · exact ⟨"bounds", 1, 2, by decide, List.mem_singleton.1 hmem⟩
  have hfits : (results.map fun result => result.total.toNat).sum < UInt32.size := by decide
  obtain ⟨hsuites, -, -, -, -, -, -, hpassed, hsum⟩ := summary_tallies_results results
  refine ⟨hcounted, hfits, hsuites.trans rfl, Bool.eq_false_iff.2 fun hall => ?_,
    hsum hcounted hfits⟩
  exact absurd (hpassed.1 hall (.ofCounts "bounds" 1 2) (by simp [results])) (by decide)

end BoundedFormat
