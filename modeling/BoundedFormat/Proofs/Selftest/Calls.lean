import Mathlib.Tactic.Choose
import BoundedFormat.Proofs.Host.Calls
import BoundedFormat.Proofs.Selftest.Run
import BoundedFormat.Selftest.Suites.All

/-!
# What a test run calls

Tests act by calls of their own (`AreCallsOf`). A run makes these calls and logs lines of level
`info` between them, which tell how the tests ended; `runCalls` is the whole row, and
`AreCallsOf.makes_runAll` says that a run comes to it and to nothing else.

The suites of this library have no settings to make. A trial only formats, asserts and logs
(`Trial.OnlyLogs`), so their tests make the same log lines on every host
(`exists_areLinesOf_allSuites`).
-/

namespace BoundedFormat

/-! ## A run of suites -/

/-- The calls are those that the tests of the suites make, whatever host a test starts on. -/
def AreCallsOf (calls : Test → Host → List Call) (suites : List Suite) : Prop :=
  ∀ suite ∈ suites, ∀ test ∈ suite.tests, ∀ host, test.run.Makes (calls test host) host

/-- The line that tells how a test ends on a host, if the run is talkative enough for it. -/
def Test.outcomeCalls (config : TestConfig) (test : Test) (host : Host) : List Call :=
  (outcomeLine? config.verbosity test.name (test.run host).value).toList.map (.log .info)

/-- The calls of the tests of a suite, each with its line behind them. -/
def Suite.testCalls (config : TestConfig) (calls : Test → Host → List Call) (suite : Suite) :
    Host → List Call :=
  HostM.callsAlong (fun test host => calls test host ++ test.outcomeCalls config host) suite.tests

/-- The calls of a suite with a number: those of its tests, and the line of its result. -/
def numberedCalls (config : TestConfig) (calls : Test → Host → List Call)
    (numbered : Suite × Nat) (host : Host) : List Call :=
  numbered.1.testCalls config calls host ++
    [.log .info (suiteLine (UInt32.ofNat numbered.2) (numbered.1.run config host).value)]

/-- The calls of a run: those of its suites between the line that it starts with and its summary,
or a single line if it is not enabled. -/
def runCalls (config : TestConfig) (calls : Test → Host → List Call) (suites : List Suite)
    (host : Host) : List Call :=
  if config.enabled then
    .log .info s!"TESTS: Starting {suites.length} test suites" ::
      (HostM.callsAlong (numberedCalls config calls) (suites.zipIdx 0) host ++
        [.log .info
          (summaryLine ((suiteResults config suites 0 host).value.foldl Summary.add {}))])
  else [.log .info "TESTS: Harness disabled"]

/-- To tell how a test ended takes one line at most. -/
theorem Test.makes_runReporting {test : Test} {calls : List Call} {host : Host}
    (h : test.run.Makes calls host) (config : TestConfig) :
    (test.runReporting config).Makes (calls ++ test.outcomeCalls config host) host := by
  refine h.bind ?_
  rw [outcomeCalls]
  rcases outcomeLine? config.verbosity test.name (test.run host).value with _ | line
  · exact HostM.makes_pure _
  · exact (HostM.makes_perform (.log .info line)).bind_pure _

section

variable {calls : Test → Host → List Call} {suites : List Suite} (h : AreCallsOf calls suites)
include h

/-- A suite makes the calls of its tests and tells how they ended. -/
theorem AreCallsOf.makes_run {suite : Suite} (hsuite : suite ∈ suites) (config : TestConfig)
    (host : Host) : (suite.run config).Makes (suite.testCalls config calls host) host := by
  rw [suite.run_eq_map_mapM, map_eq_pure_bind]
  have htests := HostM.makes_mapM (fun test htest host =>
    Test.makes_runReporting (h suite hsuite test htest host) config) host
  exact htests.bind_pure _

/-- Suites one after the other make the calls of each and tell what came of it. -/
theorem AreCallsOf.makes_suiteResults (config : TestConfig) (index : Nat) (host : Host) :
    (suiteResults config suites index).Makes
      (HostM.callsAlong (numberedCalls config calls) (suites.zipIdx index) host) host := by
  rw [suiteResults]
  refine HostM.makes_mapM (fun numbered hnumbered host => ?_) host
  have hmem : numbered.1 ∈ suites := by
    rw [← List.zipIdx_map_fst index suites]
    exact List.mem_map_of_mem hnumbered
  exact (h.makes_run hmem config host).bind ((HostM.makes_perform (.log .info _)).bind_pure _)

/-- A run makes the calls of its tests and tells what came of them. -/
theorem AreCallsOf.makes_runAll (config : TestConfig) (previous : Summary) (host : Host) :
    (runAll config suites previous).Makes (runCalls config calls suites host) host := by
  rw [runCalls]
  split
  · next henabled =>
    simp only [runAll, henabled, Bool.not_true, Bool.false_eq_true, if_false,
      runSuites_eq_suiteResults, bind_assoc, pure_bind]
    exact (HostM.makes_perform (.log .info _)).bind
      ((h.makes_suiteResults config 0 host).bind
        ((HostM.makes_perform (.log .info _)).bind_pure _))
  · next hdisabled =>
    have hrun := runAll_of_disabled config suites (Bool.eq_false_iff.2 hdisabled) previous host
    exact ⟨congrArg Step.host hrun, (congrArg Step.events hrun).trans (List.append_nil _).symm⟩

end

/-- What each test of the suites has is there for all of them at once. -/
theorem exists_of_forall_tests {β : Type} [Nonempty β] {suites : List Suite}
    {R : Test → β → Prop} (h : ∀ suite ∈ suites, ∀ test ∈ suite.tests, ∃ b, R test b) :
    ∃ choice : Test → β, ∀ suite ∈ suites, ∀ test ∈ suite.tests, R test (choice test) := by
  have htests : ∀ test ∈ suites.flatMap Suite.tests, ∃ b, R test b := by
    intro test htest
    obtain ⟨suite, hsuite, htest⟩ := List.mem_flatMap.1 htest
    exact h suite hsuite test htest
  choose! choice hchoice using htests
  exact ⟨choice, fun suite hsuite test htest =>
    hchoice test (List.mem_flatMap.2 ⟨suite, hsuite, htest⟩)⟩

/-- Tests that act by calls have calls. -/
theorem exists_areCallsOf {suites : List Suite}
    (h : ∀ suite ∈ suites, ∀ test ∈ suite.tests, test.run.ActsByCalls) :
    ∃ calls, AreCallsOf calls suites := exists_of_forall_tests h

/-! ## The suites of this library -/

/-- The report has the same value on every host, and logs the same lines. -/
def Report.OnlyLogs {α : Type} (report : Report α) : Prop :=
  ∃ (value : α) (lines : List Call), (∀ call ∈ lines, call.isLine = true) ∧
    ∀ host, report host = ⟨value, lines.flatMap fun call => (call.perform host).events⟩

namespace Report

variable {α β : Type}

theorem onlyLogs_pure (a : α) : (pure a : Report α).OnlyLogs :=
  ⟨a, [], List.forall_mem_nil _, fun _ => rfl⟩

theorem OnlyLogs.bind {action : Report α} {next : α → Report β} (h : action.OnlyLogs)
    (hnext : ∀ a, (next a).OnlyLogs) : (action >>= next).OnlyLogs := by
  obtain ⟨value, lines, hlines, haction⟩ := h
  obtain ⟨result, others, hothers, hnext⟩ := hnext value
  refine ⟨result, lines ++ others, List.forall_mem_append.2 ⟨hlines, hothers⟩, fun host => ?_⟩
  simp only [bind_apply, haction, hnext, List.flatMap_append]

theorem onlyLogs_log (level : Level) (text : String) : (log level text).OnlyLogs :=
  ⟨(), [.log level text], List.forall_mem_singleton.2 rfl, fun _ =>
    congrArg (Reported.mk ()) (List.append_nil _).symm⟩

/-- Logging what formatting had to report is logging. -/
theorem onlyLogs_logDiagnostics (diagnostics : List Diagnostic) :
    (logDiagnostics diagnostics).OnlyLogs := by
  induction diagnostics with
  | nil => exact onlyLogs_pure _
  | cons first rest ih => exact (onlyLogs_log _ _).bind fun _ => ih

section

variable (cells : Array UInt8) (template : Bytes) (arguments : List Argument) (counters : Counters)

theorem onlyLogs_formatInto : (formatInto cells template arguments counters).OnlyLogs :=
  (onlyLogs_logDiagnostics _).bind fun _ => onlyLogs_pure _

theorem onlyLogs_formatOwned : (formatOwned template arguments counters).OnlyLogs :=
  (onlyLogs_logDiagnostics _).bind fun _ => onlyLogs_pure _

theorem onlyLogs_formatChecked : (formatChecked cells template arguments counters).OnlyLogs := by
  refine (onlyLogs_pure _).bind fun checked => ?_
  cases checked with
  | error error => exact onlyLogs_pure _
  | ok n => exact (onlyLogs_formatInto cells template arguments counters).bind fun _ =>
      onlyLogs_pure _

end

end Report

/-- The trial ends in the same way on every host, and logs the same lines. -/
def Trial.OnlyLogs {α : Type} (trial : Trial α) : Prop := Report.OnlyLogs trial.run

namespace Trial

variable {α β : Type}

theorem onlyLogs_pure (a : α) : (pure a : Trial α).OnlyLogs := Report.onlyLogs_pure _

theorem onlyLogs_throw (verdict : Verdict) : (throw verdict : Trial α).OnlyLogs :=
  Report.onlyLogs_pure _

theorem onlyLogs_bind {trial : Trial α} {next : α → Trial β} (h : trial.OnlyLogs)
    (hnext : ∀ a, (next a).OnlyLogs) : (trial >>= next).OnlyLogs := by
  rw [OnlyLogs, ExceptT.run_bind]
  refine Report.OnlyLogs.bind h fun result => ?_
  cases result with
  | ok a => exact hnext a
  | error verdict => exact Report.onlyLogs_pure _

/-- A report inside a trial. -/
theorem onlyLogs_lift {report : Report α} (h : report.OnlyLogs) :
    OnlyLogs (liftM report : Trial α) :=
  h.bind fun _ => Report.onlyLogs_pure _

/-- A failure logs one line. -/
theorem onlyLogs_failWith (line : String) : (failWith line : Trial α).OnlyLogs :=
  onlyLogs_bind (onlyLogs_lift (Report.onlyLogs_log _ _)) fun _ => onlyLogs_throw _

theorem onlyLogs_assertEq [DecidableEq α] [Shown α] (actual expected : α)
    (message : Option String) : (assertEq actual expected message).OnlyLogs := by
  rw [assertEq]
  split
  · exact onlyLogs_pure _
  · exact onlyLogs_failWith _

theorem onlyLogs_assertBytesEq (actual expected : Bytes) (message : Option String) :
    (assertBytesEq actual expected message).OnlyLogs := by
  rw [assertBytesEq]
  split
  · exact onlyLogs_pure _
  · exact onlyLogs_failWith _

theorem onlyLogs_assertTrue (condition : Bool) (message : Option String) :
    (assertTrue condition message).OnlyLogs := by
  rw [assertTrue]
  split
  · exact onlyLogs_pure _
  · exact onlyLogs_failWith _

theorem onlyLogs_assertOk [Shown β] (result : Except β α) (message : Option String) :
    (assertOk result message).OnlyLogs := by
  cases result with
  | ok value => exact onlyLogs_pure _
  | error error => exact onlyLogs_failWith _

theorem onlyLogs_assertRenders (template : String) (arguments : List Argument)
    (expected : String) : (assertRenders template arguments expected).OnlyLogs :=
  onlyLogs_bind
    (onlyLogs_bind (onlyLogs_lift (Report.onlyLogs_formatInto _ _ _ _)) fun _ => onlyLogs_pure _)
    fun _ => onlyLogs_assertBytesEq _ _ _

/-- How a trial ends is not logged by itself. -/
theorem OnlyLogs.verdict {trial : Trial Unit} (h : trial.OnlyLogs) :
    Report.OnlyLogs trial.verdict := by
  refine Report.OnlyLogs.bind h fun result => ?_
  cases result <;> exact Report.onlyLogs_pure _

end Trial

/-- The test logs these lines on every host, and does nothing else there. -/
structure Test.Logs (test : Test) (lines : List Call) : Prop where
  isLine : ∀ call ∈ lines, call.isLine = true
  makes : ∀ host, test.run.Makes lines host

/-- The test logs the same lines on every host. -/
def Test.OnlyLogs (test : Test) : Prop := ∃ lines, test.Logs lines

/-- A test that logs leaves every host as it is. -/
theorem Test.Logs.host_eq {test : Test} {lines : List Call} (h : test.Logs lines) (host : Host) :
    (test.run host).host = host := by
  have hsaid : ∀ call ∈ lines, call.isSaid = true :=
    fun call hcall => Call.isSaid_of_isLine (h.isLine call hcall)
  rw [(h.makes host).host_eq, Call.performAll_of_isSaid hsaid]

theorem Trial.onlyLogs_test {trial : Trial Unit} (name : String) (h : trial.OnlyLogs) :
    (trial.test name).OnlyLogs := by
  obtain ⟨verdict, lines, hlines, hverdict⟩ := h.verdict
  refine ⟨lines, hlines, fun host => HostM.makes_ofReport ?_ (congrArg _ (hverdict host))⟩
  exact fun call hcall => Call.isSaid_of_isLine (hlines call hcall)

/-- The tests of this library only log. -/
theorem onlyLogs_of_mem_allSuites : ∀ suite ∈ allSuites, ∀ test ∈ suite.tests, test.OnlyLogs := by
  simp only [allSuites, formatSuite, FormatSuite.signedDecimal, FormatSuite.unsignedAndHex,
    FormatSuite.lengthModifiers, FormatSuite.signFlags, FormatSuite.widthAndPadding,
    FormatSuite.precision, FormatSuite.starArguments, FormatSuite.strings,
    FormatSuite.characters, FormatSuite.pointers, FormatSuite.writeCount,
    FormatSuite.percentAndUnknown, FormatSuite.argumentMismatchSkips, floatSuite,
    FloatSuite.defaultPrecision, FloatSuite.explicitPrecision, FloatSuite.rounding,
    FloatSuite.floatFields, FloatSuite.floatEdges, boundsSuite, BoundsSuite.truncation,
    BoundsSuite.zeroCapacityProbe, BoundsSuite.exactFit, BoundsSuite.templateStopsAtNul,
    BoundsSuite.deterministicOutput, BoundsSuite.checkedArguments, BoundsSuite.ownedFormat,
    List.forall_mem_cons, List.not_mem_nil, false_implies, implies_true, and_true]
  and_intros
  -- Each trial is a row of steps, and each step formats, asserts or checks.
  all_goals
    refine Trial.onlyLogs_test _ ?_
    repeat'
      with_reducible first
        | exact Trial.onlyLogs_assertRenders _ _ _
        | exact Trial.onlyLogs_assertEq _ _ _
        | exact Trial.onlyLogs_assertBytesEq _ _ _
        | exact Trial.onlyLogs_assertTrue _ _
        | exact Trial.onlyLogs_assertOk _ _
        | exact Trial.onlyLogs_lift (Report.onlyLogs_formatInto _ _ _ _)
        | exact Trial.onlyLogs_lift (Report.onlyLogs_formatOwned _ _ _)
        | exact Trial.onlyLogs_lift (Report.onlyLogs_formatChecked _ _ _ _)
        | refine Trial.onlyLogs_bind ?_ fun _ => ?_

/-- The tests of the suites log these lines on every host, and do nothing else. -/
def AreLinesOf (lines : Test → List Call) (suites : List Suite) : Prop :=
  ∀ suite ∈ suites, ∀ test ∈ suite.tests, test.Logs (lines test)

namespace AreLinesOf

variable {lines : Test → List Call} {suites : List Suite} (h : AreLinesOf lines suites)
include h

/-- The lines are the calls of the tests. -/
theorem areCallsOf : AreCallsOf (fun test _ => lines test) suites :=
  fun suite hsuite test htest => (h suite hsuite test htest).makes

/-- Such tests leave every host as it is. -/
theorem host_eq : ∀ suite ∈ suites, ∀ test ∈ suite.tests, ∀ host, (test.run host).host = host :=
  fun suite hsuite test htest => (h suite hsuite test htest).host_eq

end AreLinesOf

/-- The tests of this library have lines of their own. -/
theorem exists_areLinesOf_allSuites : ∃ lines, AreLinesOf lines allSuites :=
  exists_of_forall_tests onlyLogs_of_mem_allSuites

end BoundedFormat
