import BoundedFormat.Proofs.Selftest.Calls
import BoundedFormat.Session

/-!
# What is in force in a session

An operation of a session comes to a row of calls: first the settings that it makes itself, then
what it says (`Operation.Says`), and with it what the tests that it is handed do by calls of their
own. A session is such rows one after the other, so at each of its points the settings made last are
in force, and every line and every write meets them (`Operation.Follows`). `Unfolds` says this of a
whole session, and `unfolds_runOperations` that it holds from any point on.

Where the tests leave the host as they find it, the settings in force are those of the operations
themselves (`Unfolds.host_eq`). The tests of this library do
(`Operation.tests_runSuites_allSuites`).
-/

namespace BoundedFormat

namespace Operation

/-- The settings that an operation makes itself. A command line sets the level that it asks for. -/
def settingCalls : Operation → List Call
  | initLog => [.setLevel .info]
  | setLevel level => [.setLevel level]
  | registerBackend backend => [.setBackend (some backend)]
  | clearBackend => [.setBackend none]
  | registerSink sink => [.setSink (some sink)]
  | unregisterSink => [.setSink none]
  | boot line | runFromCommandLine line => [.setLevel (requestedLevel line)]
  | getLevel | isEnabled _ | log _ _ | consoleWrite _ | printf _ _ _ | printHex _ | format _ _ _ _
  | runTest _ _ | runTrial _ | runSuites _ _ => []

/-- The calls `said` are what an operation comes to on a host besides its own settings. Tests that
it is handed make calls of their own, behind which there are lines that tell how they ended; the
tests of this library make log lines, which are the same on every host. -/
def Says (host : Host) (said : List Call) : Operation → Prop
  | log level text => said = [.log level text]
  | consoleWrite bytes => said = [.write bytes]
  | printf template arguments _ => said = printedCalls template arguments
  | printHex n => said = hexCalls n
  | format _ template arguments _ => said = formattedCalls template arguments
  | runTest config test =>
    ∃ calls, test.run.Makes calls host ∧ said = calls ++ test.outcomeCalls config host
  | runTrial trial => (HostM.ofReport trial.verdict).Makes said host
  | runSuites config suites =>
    ∃ calls, AreCallsOf calls suites ∧ said = runCalls config calls suites host
  | runFromCommandLine line =>
    ∃ lines, AreLinesOf lines allSuites ∧
      said = runCalls (.ofCommandLine line) (fun test _ => lines test) allSuites host
  | initLog | setLevel _ | getLevel | isEnabled _ | registerBackend _ | clearBackend
  | registerSink _ | unregisterSink | boot _ => said = []

/-- The tests that an operation is handed, if it is handed any, do what they do by calls. -/
def TestsActByCalls : Operation → Prop
  | runTest _ test => test.run.ActsByCalls
  | runTrial trial => (HostM.ofReport trial.verdict).ActsByCalls
  | runSuites _ suites => ∀ suite ∈ suites, ∀ test ∈ suite.tests, test.run.ActsByCalls
  | _ => True

/-- The tests that an operation is handed, if it is handed any, leave every host as it is. -/
def TestsLeaveHost : Operation → Prop
  | runTest _ test => ∀ host, (test.run host).host = host
  | runSuites _ suites =>
    ∀ suite ∈ suites, ∀ test ∈ suite.tests, ∀ host, (test.run host).host = host
  | _ => True

/-- Starting on a host with the settings `before`, an operation came to the calls `row`. -/
structure Follows (operation : Operation) (before row : List Call) (step : Step Reply) :
    Prop where
  /-- It makes its own settings and says what it has to say. -/
  row_eq : ∃ said, row = operation.settingCalls ++ said ∧
    operation.Says (settings (before ++ operation.settingCalls)) said
  /-- The settings made last are in force behind it. -/
  host_eq : step.host = settings (before ++ row)
  /-- Each of its calls causes what it has to, in order, and there is nothing else. -/
  account : Account before row step.events
  /-- The level in force is told. -/
  level_eq : operation = .getLevel → step.value = .level (settings before).level
  /-- A level is enabled exactly if it is at most the one in force. -/
  enabled_iff : ∀ level, operation = .isEnabled level → ∃ enabled, step.value = .enabled enabled ∧
    (enabled = true ↔ level ≤ (settings before).level)

/-! ## One operation -/

/-- An operation makes its own settings and says what it has to say. -/
theorem makes_perform (operation : Operation) (htests : operation.TestsActByCalls) (host : Host) :
    ∃ said, operation.Says (Call.performAll operation.settingCalls host).host said ∧
      operation.perform.Makes (operation.settingCalls ++ said) host := by
  cases operation with
  | initLog => exact ⟨[], rfl, (HostM.makes_perform (.setLevel .info)).bind_pure _⟩
  | setLevel level => exact ⟨[], rfl, (HostM.makes_perform (.setLevel level)).bind_pure _⟩
  | getLevel => exact ⟨[], rfl, rfl, rfl⟩
  | isEnabled level => exact ⟨[], rfl, rfl, rfl⟩
  | registerBackend backend =>
    exact ⟨[], rfl, (HostM.makes_perform (.setBackend (some backend))).bind_pure _⟩
  | clearBackend => exact ⟨[], rfl, (HostM.makes_perform (.setBackend none)).bind_pure _⟩
  | registerSink sink => exact ⟨[], rfl, (HostM.makes_perform (.setSink (some sink))).bind_pure _⟩
  | unregisterSink => exact ⟨[], rfl, (HostM.makes_perform (.setSink none)).bind_pure _⟩
  | log level text => exact ⟨_, rfl, (HostM.makes_perform (.log level text)).bind_pure _⟩
  | consoleWrite bytes => exact ⟨_, rfl, (HostM.makes_perform (.write bytes)).bind_pure _⟩
  | printf template arguments counters =>
    exact ⟨_, rfl, (makes_printf template arguments counters host).bind_pure _⟩
  | printHex n => exact ⟨_, rfl, (makes_printHex host n).bind_pure _⟩
  | format cells template arguments counters =>
    exact ⟨_, rfl, (makes_formatInto template arguments counters host cells).bind_pure _⟩
  | boot line =>
    refine ⟨[], rfl, ?_⟩
    rw [settingCalls, ← level_ofCommandLine]
    exact (HostM.makes_perform (.setLevel _)).bind_pure _
  | runTest config test =>
    obtain ⟨calls, hcalls⟩ := htests
    exact ⟨_, ⟨_, hcalls host, rfl⟩, (Test.makes_runReporting (hcalls host) config).bind_pure _⟩
  | runTrial trial =>
    obtain ⟨calls, hcalls⟩ := htests
    exact ⟨_, hcalls host, (hcalls host).bind_pure _⟩
  | runSuites config suites =>
    obtain ⟨calls, hcalls⟩ := exists_areCallsOf htests
    exact ⟨_, ⟨calls, hcalls, rfl⟩, (hcalls.makes_runAll config {} host).bind_pure _⟩
  | runFromCommandLine line =>
    obtain ⟨lines, hlines⟩ := exists_areLinesOf_allSuites
    refine ⟨_, ⟨lines, hlines, rfl⟩, ?_⟩
    rw [settingCalls, ← level_ofCommandLine]
    refine HostM.Makes.bind_pure ?_ _
    exact (HostM.makes_perform (.setLevel _)).bind
      ((hlines.areCallsOf.makes_runAll _ {} _).bind_pure _)

/-- An operation follows the settings that it starts with. -/
theorem follows_perform (operation : Operation) (htests : operation.TestsActByCalls)
    (before : List Call) :
    ∃ row, operation.Follows before row (operation.perform (settings before)) := by
  obtain ⟨said, hsaid, hmakes⟩ := operation.makes_perform htests (settings before)
  rw [host_performAll] at hsaid
  refine ⟨operation.settingCalls ++ said, ⟨said, rfl, hsaid⟩, ?_, ?_, ?_, ?_⟩
  · rw [hmakes.host_eq, host_performAll]
  · rw [hmakes.events_eq]
    exact account_performAll before _
  · rintro rfl
    rfl
  · rintro level rfl
    exact ⟨_, rfl, decide_eq_true_iff⟩

end Operation

/-! ## A whole session -/

/-- On a host with the settings `before`, the steps are those of the operations: each follows what
the rows of calls before it have set. -/
inductive Unfolds : (before : List Call) → List Operation → List (Step Reply) → Prop
  | nil {before : List Call} : Unfolds before [] []
  | cons {before row : List Call} {operation : Operation} {rest : List Operation}
      {step : Step Reply} {steps : List (Step Reply)} (hstep : operation.Follows before row step)
      (hrest : Unfolds (before ++ row) rest steps) :
      Unfolds before (operation :: rest) (step :: steps)

/-- Operations unfold from any point on. -/
theorem unfolds_runOperations {operations : List Operation}
    (htests : ∀ operation ∈ operations, operation.TestsActByCalls) (before : List Call) :
    Unfolds before operations (runOperations operations (settings before)) := by
  induction operations generalizing before with
  | nil => exact .nil
  | cons operation rest ih =>
    obtain ⟨row, hrow⟩ := operation.follows_perform (htests _ List.mem_cons_self) before
    rw [runOperations, hrow.host_eq]
    exact .cons hrow (ih (fun other hother => htests other (List.mem_cons_of_mem _ hother)) _)

/-! ## The settings of the operations alone -/

/-- What an operation says makes no setting, if the tests that it is handed make none. -/
theorem Operation.host_eq_of_says {operation : Operation} (hleave : operation.TestsLeaveHost)
    {host : Host} {said : List Call} (h : operation.Says host said) :
    (Call.performAll said host).host = host := by
  have hsaid (h : ∀ call ∈ said, call.isSaid = true) : (Call.performAll said host).host = host :=
    congrArg Step.host (Call.performAll_of_isSaid h host)
  cases operation with
  | log | consoleWrite =>
    obtain rfl := h
    rfl
  | printf template arguments counters =>
    obtain rfl := h
    exact hsaid fun _ => isSaid_of_mem_printedCalls template arguments
  | printHex n =>
    obtain rfl := h
    exact hsaid fun _ => isSaid_of_mem_hexCalls
  | format cells template arguments counters =>
    obtain rfl := h
    exact hsaid fun _ => isSaid_of_mem_formattedCalls template arguments
  | runTest config test =>
    obtain ⟨calls, hcalls, rfl⟩ := h
    rw [← (Test.makes_runReporting hcalls config).host_eq, Test.host_runReporting, hleave]
  | runTrial trial => exact h.host_eq.symm
  | runSuites config suites =>
    obtain ⟨calls, hcalls, rfl⟩ := h
    rw [← (hcalls.makes_runAll config {} host).host_eq]
    exact host_runAll config hleave {} host
  | runFromCommandLine line =>
    obtain ⟨lines, hlines, rfl⟩ := h
    rw [← (hlines.areCallsOf.makes_runAll (.ofCommandLine line) {} host).host_eq]
    exact host_runAll _ hlines.host_eq {} host
  | _ =>
    obtain rfl := h
    rfl

/-- Settings that agree still agree after the same calls. -/
theorem settings_append_congr {first second : List Call} (h : settings first = settings second)
    (row : List Call) : settings (first ++ row) = settings (second ++ row) := by
  rw [← host_performAll, ← host_performAll, h]

/-- Behind each operation its own settings and those of the operations before it are in force, if
the tests leave every host as it is. -/
theorem Unfolds.host_eq {before own : List Call} {operations : List Operation}
    {steps : List (Step Reply)} (h : Unfolds before operations steps)
    (hown : settings before = settings own)
    (hleave : ∀ operation ∈ operations, operation.TestsLeaveHost) {i : Nat} {step : Step Reply}
    (hstep : steps[i]? = some step) :
    step.host = settings (own ++ (operations.take (i + 1)).flatMap Operation.settingCalls) := by
  induction h generalizing own i with
  | nil => cases hstep
  | @cons before row operation rest first steps hfirst hrest ih =>
    obtain ⟨said, rfl, hsays⟩ := hfirst.row_eq
    have hquiet : settings (before ++ (operation.settingCalls ++ said)) =
        settings (own ++ operation.settingCalls) := by
      rw [← List.append_assoc, ← host_performAll,
        Operation.host_eq_of_says (hleave _ List.mem_cons_self) hsays, settings_append_congr hown]
    rw [List.take_succ_cons, List.flatMap_cons, ← List.append_assoc]
    cases i with
    | zero =>
      obtain rfl := Option.some.inj hstep
      rw [hfirst.host_eq, hquiet]
      simp
    | succ i =>
      exact ih hquiet (fun other hother => hleave other (List.mem_cons_of_mem _ hother)) hstep

/-- The tests of this library act by calls and leave every host as it is. -/
theorem Operation.tests_runSuites_allSuites (config : TestConfig) :
    (runSuites config allSuites).TestsActByCalls ∧ (runSuites config allSuites).TestsLeaveHost := by
  obtain ⟨lines, hlines⟩ := exists_areLinesOf_allSuites
  exact ⟨fun suite hsuite test htest => ⟨_, hlines.areCallsOf suite hsuite test htest⟩,
    hlines.host_eq⟩

/-- A session from a fresh host follows the settings made last. Each operation comes to a row of
calls; the level in force is that of the last call that set one, or `info`, and the backend and the
sink are the ones registered last, unless cleared since. Every log line and every write meets the
settings in force: a line reaches their backend once if its level is enabled, bytes reach their sink
once if there are any, and nothing else reaches anything. Resetting the log, a command line and a
test run touch the level at most. So if the tests that the caller hands in make no settings, and
those of this library make none, what is in force behind each operation is what the operations up to
there have set themselves. -/
theorem session_follows_last_settings (operations : List Operation)
    (htests : ∀ operation ∈ operations, operation.TestsActByCalls) :
    Unfolds [] operations (runSession operations) ∧
      ((∀ operation ∈ operations, operation.TestsLeaveHost) →
        ∀ (i : Nat) (step : Step Reply), (runSession operations)[i]? = some step →
          step.host = settings ((operations.take (i + 1)).flatMap Operation.settingCalls)) ∧
      ∀ config, (Operation.runSuites config allSuites).TestsActByCalls ∧
        (Operation.runSuites config allSuites).TestsLeaveHost := by
  have hunfolds : Unfolds [] operations (runSession operations) := unfolds_runOperations htests []
  refine ⟨hunfolds, fun hleave i step hstep => ?_, Operation.tests_runSuites_allSuites⟩
  have hhost := hunfolds.host_eq rfl hleave hstep
  rwa [List.nil_append] at hhost

/-- A command line turns debug lines on, and neither the suites of this library nor a test of the
caller's that logs one change that. Resetting the log behind them leaves the sink alone. -/
theorem session_follows_last_settings_with_own_tests :
    let heard : Test := ⟨"heard", do
      HostM.ofReport (Report.log .debug "heard")
      return .pass⟩
    let operations : List Operation :=
      [.registerBackend .console, .registerSink ⟨"uart"⟩, .boot (some "quiet loglevel=debug"),
        .runTest ⟨true, .verbose⟩ heard, .runSuites ⟨true, .verbose⟩ allSuites, .clearBackend,
        .initLog]
    (∀ operation ∈ operations, operation.TestsActByCalls ∧ operation.TestsLeaveHost) ∧
      Unfolds [] operations (runSession operations) ∧
      (runSession operations)[4]?.map Step.host = some ⟨.debug, some .console, some ⟨"uart"⟩⟩ ∧
      (runSession operations)[6]?.map Step.host = some ⟨.info, none, some ⟨"uart"⟩⟩ := by
  intro heard operations
  have hheard : heard.run.ActsByCalls :=
    ⟨fun _ => [.log .debug "heard"], fun _ => ⟨rfl, rfl⟩⟩
  have htests : ∀ operation ∈ operations,
      operation.TestsActByCalls ∧ operation.TestsLeaveHost := by
    simp only [operations, List.forall_mem_cons, Operation.tests_runSuites_allSuites]
    exact ⟨⟨trivial, trivial⟩, ⟨trivial, trivial⟩, ⟨trivial, trivial⟩, ⟨hheard, fun _ => rfl⟩,
      ⟨trivial, trivial⟩, ⟨trivial, trivial⟩, ⟨trivial, trivial⟩, nofun⟩
  obtain ⟨hunfolds, hhosts, -⟩ :=
    session_follows_last_settings operations fun operation hmem => (htests operation hmem).1
  have hafter := hhosts fun operation hmem => (htests operation hmem).2
  exact ⟨htests, hunfolds, congrArg some ((hafter 4 _ rfl).trans (by decide)),
    congrArg some ((hafter 6 _ rfl).trans (by decide))⟩

end BoundedFormat
