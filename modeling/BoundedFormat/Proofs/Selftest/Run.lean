import Mathlib.Algebra.Group.Nat.Defs
import Mathlib.Data.List.Forall2
import BoundedFormat.Proofs.Selftest.Summary
import BoundedFormat.Selftest.Runner

/-!
# The verdict of a run

A run is enabled or it does nothing. An enabled run goes through its suites, and through all tests
of each, in order and whatever they end in. All it does between them is to log, so with nothing said
(`HostM.muted`) it is the tests one after the other (`muted_suiteResults`). The result of a suite
tells the verdicts of its tests (`SuiteResult.Tells`), and the run fails exactly if one of all its
tests does (`runAll_tells_verdicts`).
-/

namespace BoundedFormat

namespace HostM

variable {α β : Type}

/-- The action with nothing said. -/
def muted (action : HostM α) : HostM α := fun host =>
  ⟨(action host).value, (action host).host, []⟩

theorem muted_bind (action : HostM α) (next : α → HostM β) :
    (action >>= next).muted = action.muted >>= fun a => (next a).muted := rfl

theorem muted_pure (a : α) : (pure a : HostM α).muted = pure a := rfl

/-- A log line is nothing but said. -/
theorem muted_log (level : Level) (text : String) :
    (ofReport (Report.log level text)).muted = pure () := rfl

/-- A row of actions with nothing said. -/
theorem muted_mapM (action : α → HostM β) (row : List α) :
    (row.mapM action).muted = row.mapM fun a => (action a).muted := by
  induction row with
  | nil => rfl
  | cons a rest ih =>
    simp only [List.mapM_cons, muted_bind, muted_pure, ih]

/-- What holds of the value of each action, on every host, holds all along a row of them. -/
theorem forall₂_value_mapM (action : α → HostM β) {R : α → β → Prop} {row : List α}
    (h : ∀ a ∈ row, ∀ host, R a (action a host).value) (host : Host) :
    List.Forall₂ R row (row.mapM action host).value := by
  induction row generalizing host with
  | nil => exact .nil
  | cons a rest ih =>
    simp only [List.mapM_cons, bind_apply, pure_apply]
    exact .cons (h a List.mem_cons_self host) (ih (fun b hb => h b (List.mem_cons_of_mem a hb)) _)

/-- A row of actions has as many values as actions. -/
theorem length_value_mapM (action : α → HostM β) (row : List α) (host : Host) :
    (row.mapM action host).value.length = row.length :=
  (forall₂_value_mapM action (R := fun _ _ => True) (fun _ _ _ => trivial) host).length_eq.symm

/-- Actions whose values do not depend on the host have the same values in a row. -/
theorem value_mapM_congr {action : α → HostM β} {row : List α}
    (h : ∀ a ∈ row, ∀ host other, (action a host).value = (action a other).value)
    (host other : Host) : (row.mapM action host).value = (row.mapM action other).value := by
  induction row generalizing host other with
  | nil => rfl
  | cons a rest ih =>
    simp only [List.mapM_cons, bind_apply, pure_apply]
    rw [h a List.mem_cons_self host other,
      ih (fun b hb => h b (List.mem_cons_of_mem a hb)) _ (action a other).host]

/-- A row of actions that leave every host as it is leaves it as it is. -/
theorem host_mapM {action : α → HostM β} {row : List α}
    (h : ∀ a ∈ row, ∀ host, (action a host).host = host) (host : Host) :
    (row.mapM action host).host = host := by
  induction row generalizing host with
  | nil => rfl
  | cons a rest ih =>
    simp only [List.mapM_cons, bind_apply, pure_apply]
    rw [h a List.mem_cons_self, ih fun b hb => h b (List.mem_cons_of_mem a hb)]

/-- What is made of each value may as well be made of them all in the end. -/
theorem mapM_map_eq_zipWith {γ : Type} (make : α → β → γ) (action : α → HostM β) (row : List α) :
    (row.mapM fun a => make a <$> action a) = List.zipWith make row <$> row.mapM action := by
  induction row with
  | nil => rfl
  | cons a rest ih =>
    rw [List.mapM_cons, List.mapM_cons, ih]
    simp only [map_eq_pure_bind, bind_assoc, pure_bind, List.zipWith_cons_cons]

end HostM

/-! ## One suite -/

namespace Verdict

/-- A verdict is one of three. -/
theorem length_eq_add_counts (verdicts : List Verdict) :
    verdicts.length =
      verdicts.count .pass + verdicts.count .skipped + verdicts.count .fail := by
  induction verdicts with
  | nil => rfl
  | cons verdict rest ih =>
    cases verdict <;> simp [ih] <;> omega

/-- What does not count as a failure. -/
theorem countP_not_isFailure (verdicts : List Verdict) :
    verdicts.countP (!·.isFailure) = verdicts.count .pass + verdicts.count .skipped := by
  induction verdicts with
  | nil => rfl
  | cons verdict rest ih =>
    rw [List.countP_cons, ih]
    cases verdict <;> simp [isFailure] <;> omega

end Verdict

/-- The value of the test does not depend on the host. -/
def Test.IgnoresHost (test : Test) : Prop :=
  ∀ host other, (test.run host).value = (test.run other).value

/-- To tell how a test ended is all that is done besides. -/
theorem Test.muted_runReporting (config : TestConfig) (test : Test) :
    (test.runReporting config).muted = test.run.muted := by
  funext host
  simp only [HostM.muted, runReporting, HostM.bind_apply]
  rcases outcomeLine? config.verbosity test.name (test.run host).value with _ | line <;> rfl

/-- To tell how a test ended leaves the host as the test leaves it. -/
theorem Test.host_runReporting (config : TestConfig) (test : Test) (host : Host) :
    (test.runReporting config host).host = (test.run host).host := by
  show ((test.runReporting config).muted host).host = _
  rw [test.muted_runReporting]
  rfl

/-- The result tells the verdicts of the tests of a suite. -/
structure SuiteResult.Tells (result : SuiteResult) (suite : Suite) (verdicts : List Verdict) :
    Prop where
  name_eq : result.name = suite.name
  /-- Every test has a verdict. -/
  length_eq : verdicts.length = suite.tests.length
  /-- Every test counts. -/
  total_eq : result.total.toNat = suite.tests.length
  /-- Those that failed count as failed. -/
  failed_eq : result.failed.toNat = verdicts.count .fail
  /-- All others, skipped ones among them, count as passed. -/
  passed_eq : result.passed.toNat = verdicts.count .pass + verdicts.count .skipped

namespace Suite

variable (suite : Suite) (config : TestConfig)

/-- The tests of the suite, one after the other and with nothing around them. -/
def verdicts : HostM (List Verdict) := suite.tests.mapM Test.run

/-- The result of the suite if its tests end with these verdicts. -/
def resultOf (verdicts : List Verdict) : SuiteResult :=
  .ofCounts suite.name (UInt32.ofNat (verdicts.countP (!·.isFailure)))
    (UInt32.ofNat verdicts.length)

/-- Tests are all run, and counted in the end. -/
theorem runTests_eq_mapM (tests : List Test) (passed total : UInt32) :
    runTests config tests passed total = (do
      let verdicts ← tests.mapM (Test.runReporting config)
      return (passed + UInt32.ofNat (verdicts.countP (!·.isFailure)),
        total + UInt32.ofNat verdicts.length)) := by
  induction tests generalizing passed total with
  | nil => simp [runTests]
  | cons test rest ih =>
    simp only [runTests, ih, List.mapM_cons, bind_assoc, pure_bind]
    congr 1
    funext verdict
    congr 1
    funext verdicts
    rw [List.length_cons, List.countP_cons, UInt32.ofNat_add, UInt32.ofNat_add]
    -- A failure counts as a test only, anything else as passed too.
    refine congrArg pure (Prod.ext ?_ ?_)
    · cases verdict with
      | fail => exact congrArg (passed + ·) (UInt32.add_zero _).symm
      | pass | skipped =>
        exact (UInt32.add_assoc ..).trans (congrArg (passed + ·) (UInt32.add_comm ..))
    · exact (UInt32.add_assoc ..).trans (congrArg (total + ·) (UInt32.add_comm ..))

/-- A suite runs all its tests and tells of each how it ended. -/
theorem run_eq_map_mapM :
    suite.run config = suite.resultOf <$> suite.tests.mapM (Test.runReporting config) := by
  simp only [run, runTests_eq_mapM, UInt32.zero_add, bind_assoc, pure_bind, map_eq_pure_bind]
  rfl

/-- With nothing said a suite is its tests. -/
theorem muted_run : (suite.run config).muted = suite.resultOf <$> suite.verdicts.muted := by
  simp only [run_eq_map_mapM, map_eq_pure_bind, HostM.muted_bind, HostM.muted_pure,
    HostM.muted_mapM, Test.muted_runReporting, verdicts]

/-- The result tells the verdicts, unless there are too many to count. -/
theorem tells_resultOf {suite : Suite} (hsmall : suite.tests.length < 2 ^ 32)
    {verdicts : List Verdict} (hlength : verdicts.length = suite.tests.length) :
    (suite.resultOf verdicts).Tells suite verdicts := by
  have hsize : UInt32.size = 2 ^ 32 := rfl
  have hsplit := Verdict.length_eq_add_counts verdicts
  have htotal : (UInt32.ofNat verdicts.length).toNat = verdicts.length :=
    UInt32.toNat_ofNat_of_lt' (by omega)
  have hpassed : (UInt32.ofNat (verdicts.countP (!·.isFailure))).toNat =
      verdicts.count .pass + verdicts.count .skipped := by
    rw [Verdict.countP_not_isFailure]
    exact UInt32.toNat_ofNat_of_lt' (by omega)
  have hle : UInt32.ofNat (verdicts.countP (!·.isFailure)) ≤ UInt32.ofNat verdicts.length := by
    rw [UInt32.le_iff_toNat_le]
    omega
  refine ⟨rfl, hlength, htotal.trans hlength, ?_, hpassed⟩
  rw [resultOf, SuiteResult.ofCounts, if_pos hle, UInt32.toNat_sub_of_le _ _ hle]
  omega

end Suite

/-! ## All suites -/

section

variable (config : TestConfig) (suites : List Suite)

/-- Suites one after the other, numbered from `index`, and the line of each behind it. -/
def suiteResults (index : Nat) : HostM (List SuiteResult) :=
  (suites.zipIdx index).mapM fun (suite, index) => do
    let result ← suite.run config
    HostM.ofReport (Report.log .info (suiteLine (UInt32.ofNat index) result))
    return result

/-- Results may as well be counted in when all suites are through. -/
theorem runSuites_eq_suiteResults (index : Nat) (summary : Summary) :
    runSuites config suites index summary = (do
      let results ← suiteResults config suites index
      return results.foldl Summary.add summary) := by
  induction suites generalizing index summary with
  | nil => rfl
  | cons suite rest ih =>
    simp only [suiteResults] at ih
    simp only [suiteResults, runSuites, ih, List.zipIdx_cons, List.mapM_cons, bind_assoc,
      pure_bind, List.foldl_cons]

/-- With nothing said suites are the tests of all of them. -/
theorem muted_suiteResults (index : Nat) :
    (suiteResults config suites index).muted =
      List.zipWith Suite.resultOf suites <$> (suites.mapM Suite.verdicts).muted := by
  rw [HostM.muted_mapM, ← HostM.mapM_map_eq_zipWith, suiteResults, HostM.muted_mapM]
  simp only [HostM.muted_bind, HostM.muted_pure, HostM.muted_log, Suite.muted_run, pure_bind,
    bind_pure]
  -- What is left of the numbering goes into no value.
  induction suites generalizing index with
  | nil => rfl
  | cons suite rest ih => simp only [List.zipIdx_cons, List.mapM_cons, ih]

/-- Suites leave a host as their tests leave it. -/
theorem host_suiteResults (index : Nat) (host : Host) :
    (suiteResults config suites index host).host = (suites.mapM Suite.verdicts host).host := by
  show ((suiteResults config suites index).muted host).host = _
  rw [muted_suiteResults]
  rfl

/-- An enabled run tells that it starts, goes through its suites, and tells what came of them. -/
theorem runAll_of_enabled (henabled : config.enabled = true) (previous : Summary) (host : Host) :
    let told := suiteResults config suites 0 host
    let summary := told.value.foldl Summary.add {}
    runAll config suites previous host =
      ⟨⟨if summary.failed = 0 then 0 else -1, summary⟩, told.host,
        host.logEvents .info s!"TESTS: Starting {suites.length} test suites" ++ told.events ++
          told.host.logEvents .info (summaryLine summary)⟩ := by
  intro told summary
  simp only [runAll, henabled, Bool.not_true, Bool.false_eq_true, if_false,
    runSuites_eq_suiteResults, HostM.bind_apply, HostM.pure_apply, HostM.ofReport_apply,
    List.append_nil]
  exact congrArg (Step.mk _ _) (List.append_assoc ..).symm

/-- A run that is not enabled only tells so. -/
theorem runAll_of_disabled (hdisabled : config.enabled = false) (previous : Summary) (host : Host) :
    runAll config suites previous host =
      ⟨⟨0, {}⟩, host, host.logEvents .info "TESTS: Harness disabled"⟩ := by
  simp only [runAll, hdisabled, Bool.not_false, if_true, HostM.bind_apply, HostM.pure_apply,
    List.append_nil]
  rfl

end

/-- A run leaves every host as it is if its tests do. -/
theorem host_runAll (config : TestConfig) {suites : List Suite}
    (hleave : ∀ suite ∈ suites, ∀ test ∈ suite.tests, ∀ host, (test.run host).host = host)
    (previous : Summary) (host : Host) : (runAll config suites previous host).host = host := by
  rcases henabled : config.enabled with _ | _
  · rw [runAll_of_disabled config suites henabled]
  · rw [runAll_of_enabled config suites henabled, host_suiteResults]
    exact HostM.host_mapM (fun suite hsuite => HostM.host_mapM (hleave suite hsuite)) host

/-- A failure is counted exactly if a test failed. -/
theorem failed_foldl_add_eq_zero_iff_forall_notMem {suites : List Suite}
    {verdicts : List (List Verdict)}
    (htell : List.Forall₂ (fun suite row => (suite.resultOf row).Tells suite row)
      suites verdicts) :
    ((List.zipWith Suite.resultOf suites verdicts).foldl Summary.add {}).failed = 0 ↔
      ¬ ∃ row ∈ verdicts, .fail ∈ row := by
  rw [Summary.failed_foldl_add_eq_zero_iff, and_iff_right rfl]
  induction htell with
  | nil => simp
  | cons h _ ih =>
    rw [List.zipWith_cons_cons, List.forall_mem_cons, List.exists_mem_cons_iff, not_or, ih,
      ← UInt32.toNat_inj, h.failed_eq, UInt32.toNat_zero, List.count_eq_zero]

/-- What has to come of an enabled run on a host. -/
structure RunsThrough (config : TestConfig) (suites : List Suite) (host : Host)
    (run : Step RunResult) : Prop where
  /-- Of each suite all tests are run, in order and whatever they end in. -/
  suite_eq : ∀ suite ∈ suites,
    suite.run config = suite.resultOf <$> suite.tests.mapM (Test.runReporting config)
  /-- The tests of all suites end as they do with nothing around them. -/
  results_eq : (suiteResults config suites 0 host).value =
    List.zipWith Suite.resultOf suites (suites.mapM Suite.verdicts host).value
  /-- The result of each suite tells the verdicts of its tests. -/
  results_tell :
    List.Forall₂ (fun suite verdicts => (suite.resultOf verdicts).Tells suite verdicts)
      suites (suites.mapM Suite.verdicts host).value
  /-- All results are counted, and nothing else is. -/
  summary_eq : run.value.summary =
    (suiteResults config suites 0 host).value.foldl Summary.add {}
  /-- Those of the first sixteen suites are kept. -/
  kept_eq : run.value.summary.suites = (suiteResults config suites 0 host).value.take 16
  /-- The run fails exactly if a test of any suite does. -/
  code_eq : run.value.code =
    if ∃ verdicts ∈ (suites.mapM Suite.verdicts host).value, .fail ∈ verdicts then -1 else 0
  /-- The host is left as the tests leave it. -/
  host_eq : run.host = (suites.mapM Suite.verdicts host).host
  /-- The suites are run once each, in order, between the two lines of the run. -/
  events_eq : run.events =
    host.logEvents .info s!"TESTS: Starting {suites.length} test suites" ++
      (suiteResults config suites 0 host).events ++
      run.host.logEvents .info (summaryLine run.value.summary)

/-- What an enabled run returns is a matter of the verdicts. -/
theorem RunsThrough.value_eq {config : TestConfig} {suites : List Suite} {host : Host}
    {run : Step RunResult} (h : RunsThrough config suites host run) :
    let verdicts := (suites.mapM Suite.verdicts host).value
    run.value = ⟨if ∃ row ∈ verdicts, .fail ∈ row then -1 else 0,
      (List.zipWith Suite.resultOf suites verdicts).foldl Summary.add {}⟩ := by
  intro verdicts
  rw [← h.code_eq, ← h.results_eq, ← h.summary_eq]

/-- An enabled run goes through all suites. -/
theorem runsThrough_runAll {config : TestConfig} (henabled : config.enabled = true)
    {suites : List Suite} (hsmall : ∀ suite ∈ suites, suite.tests.length < 2 ^ 32)
    (previous : Summary) (host : Host) :
    RunsThrough config suites host (runAll config suites previous host) := by
  have hresults : (suiteResults config suites 0 host).value =
      List.zipWith Suite.resultOf suites (suites.mapM Suite.verdicts host).value := by
    show ((suiteResults config suites 0).muted host).value = _
    rw [muted_suiteResults]
    rfl
  have htell : List.Forall₂
      (fun suite verdicts => (suite.resultOf verdicts).Tells suite verdicts)
      suites (suites.mapM Suite.verdicts host).value :=
    HostM.forall₂_value_mapM Suite.verdicts (fun suite hsuite host =>
      Suite.tells_resultOf (hsmall suite hsuite) (HostM.length_value_mapM _ _ host)) host
  rw [runAll_of_enabled config suites henabled]
  refine ⟨fun suite _ => suite.run_eq_map_mapM config, hresults, htell, rfl,
    Summary.suites_foldl_add _ {}, ?_, host_suiteResults config suites 0 host, rfl⟩
  simp only [hresults, failed_foldl_add_eq_zero_iff_forall_notMem htell, ite_not]

/-- A run that is not enabled does nothing, and succeeds with nothing counted. An enabled one goes
through all tests of all suites, and fails exactly if one of them does. What the summary held before
plays no part in it, and neither does the host unless a test depends on it. -/
theorem runAll_tells_verdicts (config : TestConfig) (suites : List Suite)
    (hsmall : ∀ suite ∈ suites, suite.tests.length < 2 ^ 32) (previous : Summary) (host : Host) :
    let run := runAll config suites previous host
    (config.enabled = false →
      run = ⟨⟨0, {}⟩, host, host.logEvents .info "TESTS: Harness disabled"⟩) ∧
    (config.enabled = true → RunsThrough config suites host run) ∧
    (∀ earlier, runAll config suites earlier host = run) ∧
    ((∀ suite ∈ suites, ∀ test ∈ suite.tests, test.IgnoresHost) →
      ∀ other, (runAll config suites previous other).value = run.value) := by
  intro run
  cases henabled : config.enabled with
  | false =>
    have hrun := runAll_of_disabled config suites henabled
    exact ⟨fun _ => hrun previous host, nofun, fun earlier => (hrun earlier host).trans
      (hrun previous host).symm, fun _ other => by simp only [run, hrun]⟩
  | true =>
    have hrun := runsThrough_runAll henabled hsmall previous
    refine ⟨nofun, fun _ => hrun host, fun earlier => ?_, fun hignore other => ?_⟩
    · simp only [run, runAll_of_enabled config suites henabled]
    · have hverdicts : (suites.mapM Suite.verdicts other).value =
          (suites.mapM Suite.verdicts host).value :=
        HostM.value_mapM_congr (fun suite hsuite => HostM.value_mapM_congr (hignore suite hsuite))
          other host
      rw [(hrun other).value_eq, hverdicts, ← (hrun host).value_eq]

/-- A failure in the seventeenth suite fails the run on every host, although the summary keeps only
sixteen results. -/
theorem runAll_tells_failure_of_last_suite :
    let passing : Suite := ⟨"bounds", [⟨"fits", pure .pass⟩, ⟨"wraps", pure .skipped⟩]⟩
    let failing : Suite := ⟨"float", [⟨"rounds", pure .fail⟩, ⟨"carries", pure .pass⟩]⟩
    let suites := List.replicate 16 passing ++ [failing]
    (∀ suite ∈ suites, suite.tests.length < 2 ^ 32 ∧ ∀ test ∈ suite.tests, test.IgnoresHost) ∧
      ∀ host, (runAll ⟨true, .verbose⟩ suites { failed := 7 } host).value =
        ⟨-1, ⟨List.replicate 16 ⟨"bounds", 2, 2, 0⟩, 34, 33, 1⟩⟩ := by
  intro passing failing suites
  have hsmall : ∀ suite ∈ suites, suite.tests.length < 2 ^ 32 := by decide
  have hignore : ∀ suite ∈ suites, ∀ test ∈ suite.tests, test.IgnoresHost := by
    simp [suites, passing, failing, Test.IgnoresHost]
  refine ⟨fun suite hsuite => ⟨hsmall suite hsuite, hignore suite hsuite⟩, fun host => ?_⟩
  obtain ⟨-, hruns, -, hsame⟩ := runAll_tells_verdicts ⟨true, .verbose⟩ suites hsmall
    { failed := 7 } {}
  rw [hsame hignore host, (hruns rfl).value_eq]
  decide

end BoundedFormat
