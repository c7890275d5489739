import BoundedFormat.Selftest.Summary

/-!
# What a summary adds up

A summary keeps results for as long as it has room (`suites_foldl_add`), but counts them all. Its
counters stop at the largest number and never come back from there, so one is zero only if
everything counted in was (`failed_foldl_add_eq_zero_iff`).
-/

namespace BoundedFormat

/-- A saturated sum is zero only if both parts are. -/
theorem saturatingAdd_eq_zero_iff {a b : UInt32} : saturatingAdd a b = 0 ↔ a = 0 ∧ b = 0 := by
  have hsize : UInt32.size = 2 ^ 32 := rfl
  simp only [← UInt32.toNat_inj, toNat_saturatingAdd, UInt32.toNat_zero]
  omega

namespace Summary

/-- Of a row of results those are kept for which there is room. -/
theorem suites_foldl_add (results : List SuiteResult) (summary : Summary) :
    (results.foldl add summary).suites =
      summary.suites ++ results.take (maxKeptSuites - summary.suites.length) := by
  induction results generalizing summary with
  | nil => simp
  | cons result rest ih =>
    rw [List.foldl_cons, ih, add]
    by_cases hroom : summary.suites.length < maxKeptSuites
    · obtain ⟨k, hk⟩ : ∃ k, maxKeptSuites - summary.suites.length = k + 1 :=
        ⟨maxKeptSuites - summary.suites.length - 1, by omega⟩
      have hrest : maxKeptSuites - (summary.suites ++ [result]).length = k := by
        rw [List.length_append, List.length_singleton]
        omega
      simp only [if_pos hroom, hrest, hk, List.take_succ_cons, List.append_assoc,
        List.singleton_append]
    · have hfull : maxKeptSuites - summary.suites.length = 0 := by omega
      simp only [if_neg hroom, hfull, List.take_zero]

/-- After a row of results no failure is counted exactly if none was before and none is in them. -/
theorem failed_foldl_add_eq_zero_iff (results : List SuiteResult) (summary : Summary) :
    (results.foldl add summary).failed = 0 ↔
      summary.failed = 0 ∧ ∀ result ∈ results, result.failed = 0 := by
  induction results generalizing summary with
  | nil => simp
  | cons result rest ih =>
    rw [List.foldl_cons, ih, List.forall_mem_cons, ← and_assoc]
    exact and_congr_left' saturatingAdd_eq_zero_iff

end Summary

end BoundedFormat
