import BoundedFormat.Selftest.Summary
import BoundedFormat.Selftest.Verdict

/-!
# Running suites

A run starts from an empty summary and goes through its suites in order, through all tests of each
even after a failure. It succeeds exactly when no test failed; a run that is not enabled does
nothing and succeeds.
-/

namespace BoundedFormat

/-- A named list of tests. -/
structure Suite where
  name : String
  tests : List Test

namespace Suite

/-- Run tests one after the other and count them: those that did not fail, and all. -/
def runTests (config : TestConfig) : List Test → UInt32 → UInt32 → HostM (UInt32 × UInt32)
  | [], passed, total => pure (passed, total)
  | test :: rest, passed, total => do
    let verdict ← test.runReporting config
    runTests config rest (if verdict.isFailure then passed else passed + 1) (total + 1)

/-- Run a suite. -/
def run (suite : Suite) (config : TestConfig) : HostM SuiteResult := do
  let (passed, total) ← runTests config suite.tests 0 0
  return .ofCounts suite.name passed total

end Suite

/-- The line that tells the result of a suite. The number of the suite is kept to 32 bits. -/
def suiteLine (index : UInt32) (result : SuiteResult) : String :=
  s!"SUITE{index} {result.name} total={result.total} pass={result.passed} fail={result.failed}"

/-- The line that tells the result of a run. -/
def summaryLine (summary : Summary) : String :=
  s!"TESTS SUMMARY: total={summary.total} passed={summary.passed} failed={summary.failed}"

/-- Run suites one after the other, numbered from `index`, and count their results in. -/
def runSuites (config : TestConfig) : List Suite → Nat → Summary → HostM Summary
  | [], _, summary => pure summary
  | suite :: rest, index, summary => do
    let result ← suite.run config
    HostM.ofReport (Report.log .info (suiteLine (UInt32.ofNat index) result))
    runSuites config rest (index + 1) (summary.add result)

/-- What came of a run. -/
structure RunResult where
  /-- Zero exactly when no test failed, else -1. -/
  code : Int
  summary : Summary
  deriving DecidableEq, Repr

/-- Run suites into a summary, whose earlier contents are dropped. -/
def runAll (config : TestConfig) (suites : List Suite) (previous : Summary) : HostM RunResult := do
  let summary := previous.cleared
  if !config.enabled then
    HostM.ofReport (Report.log .info "TESTS: Harness disabled")
    return ⟨0, summary⟩
  HostM.ofReport (Report.log .info s!"TESTS: Starting {suites.length} test suites")
  let summary ← runSuites config suites 0 summary
  HostM.ofReport (Report.log .info (summaryLine summary))
  return ⟨if summary.failed = 0 then 0 else -1, summary⟩

end BoundedFormat
