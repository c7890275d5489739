/-!
# Results of test runs

Results are counted in 32 bits. The counters of a summary stop at the largest number instead of
starting over; it counts every suite, but keeps the results of the first sixteen only.
-/

namespace BoundedFormat

/-- The result of one suite. -/
structure SuiteResult where
  name : String
  total : UInt32 := 0
  passed : UInt32 := 0
  failed : UInt32 := 0
  deriving DecidableEq, Repr

namespace SuiteResult

/-- The result of a suite of `total` tests of which `passed` did not fail. -/
def ofCounts (name : String) (passed total : UInt32) : SuiteResult where
  name := name
  total := total
  passed := passed
  failed := if passed ≤ total then total - passed else 0

/-- Did no test fail? -/
def allPassed (result : SuiteResult) : Bool := result.failed == 0

end SuiteResult

/-- How many suite results a summary keeps. -/
def maxKeptSuites : Nat := 16

/-- The sum, or the largest number. -/
def saturatingAdd (a b : UInt32) : UInt32 :=
  UInt32.ofNat (min (a.toNat + b.toNat) (UInt32.size - 1))

/-- The value of a saturated sum: the true sum, held at the largest number. -/
theorem toNat_saturatingAdd (a b : UInt32) :
    (saturatingAdd a b).toNat = min (a.toNat + b.toNat) (UInt32.size - 1) := by
  have h : min (a.toNat + b.toNat) (UInt32.size - 1) < UInt32.size := by
    have : 0 < UInt32.size := by decide
    omega
  exact UInt32.toNat_ofNat_of_lt' h

/-- The results of a list of suites. -/
structure Summary where
  /-- The results kept, in order. -/
  suites : List SuiteResult := []
  total : UInt32 := 0
  passed : UInt32 := 0
  failed : UInt32 := 0
  deriving DecidableEq, Repr

namespace Summary

/-- Count a result in, and keep it if there is room. -/
def add (summary : Summary) (result : SuiteResult) : Summary where
  suites :=
    if summary.suites.length < maxKeptSuites then summary.suites ++ [result] else summary.suites
  total := saturatingAdd summary.total result.total
  passed := saturatingAdd summary.passed result.passed
  failed := saturatingAdd summary.failed result.failed

/-- The summary with nothing counted in. -/
def cleared : Summary → Summary
  | _ => {}

/-- Did no test of any suite fail? -/
def allPassed (summary : Summary) : Bool := summary.failed == 0

end Summary

end BoundedFormat
