import BoundedFormat.Proofs.Check.Agreement
import BoundedFormat.Proofs.Format.Owned
import BoundedFormat.Proofs.Host.Delivery

/-!
# Formatting does not depend on the host

Whatever is logged, and to whom, a formatting call does the same: its log lines come up in the
middle of its work, between reading an argument and writing, but nothing in it depends on whether
they are delivered. `formatStepwise` is a call that logs as it goes; `formatInto_eq_formatStepwise`
says that logging everything at the end is the same report, on every host. `HostM.OnlyLogs` says of
an action that all it ever does is to log given lines; it holds of formatting, with and without a
check before it and into a buffer of its own, and of checking, which logs nothing
(`formatting_only_logs`).
-/

namespace BoundedFormat

namespace Report

/-! ## Logging as the call goes -/

/-- Log what a reading had to report, before anything is made of it. -/
def read {α : Type} (reading : Reading α) : Report (Reading α) := do
  logDiagnostics reading.diagnostics
  return reading

/-- Settle a directive. What its width, its precision and its conversion have to report is logged
where each of them is read. -/
def settleDirective (directive : Directive) (arguments : ArgumentCursor) :
    Report (Reading Effect) := do
  let width ← read (directive.width.resolve directive.flags arguments)
  let precision ← read (directive.precision.resolve width.arguments)
  let place : Placement := ⟨width.value.1, width.value.2, precision.value⟩
  let conversion ← read (directive.conversion.resolve place directive.length precision.arguments)
  return ⟨conversion.value, conversion.arguments,
    width.diagnostics ++ precision.diagnostics ++ conversion.diagnostics⟩

/-- Settle a segment. -/
def settle (segment : Segment) (arguments : ArgumentCursor) : Report (Reading Effect) :=
  match segment with
  | .literal run => return ⟨.write (.run run), arguments, []⟩
  | .directive spelling => settleDirective spelling.directive arguments

/-- Work segments through: each effect is carried out before the next segment is settled. -/
def work : List Segment → ArgumentCursor → Writer → Report (Reading Writer)
  | [], arguments, writer => return ⟨writer, arguments, []⟩
  | segment :: rest, arguments, writer => do
    let first ← settle segment arguments
    let others ← work rest first.arguments (first.value.perform writer)
    return ⟨others.value, others.arguments, first.diagnostics ++ others.diagnostics⟩

/-- Format into cells, and log each diagnostic as it comes up. -/
def formatStepwise (cells : Array UInt8) (template : Bytes) (arguments : List Argument)
    (counters : Counters) : Report Formatted := do
  let worked ← work (segments template) (.ofList arguments) ⟨Buffer.ofCells cells, counters⟩
  return {
    outcome := worked.value.buffer.outcome
    cells := worked.value.buffer.terminate
    counters := worked.value.counters
    diagnostics := worked.diagnostics
    consumed := worked.arguments.consumed }

/-- Two rows of diagnostics are logged one after the other. -/
theorem logDiagnostics_append (first second : List Diagnostic) :
    logDiagnostics (first ++ second) = (do
      logDiagnostics first
      logDiagnostics second) := by
  induction first with
  | nil => rfl
  | cons diagnostic rest ih =>
    rw [List.cons_append, logDiagnostics, logDiagnostics, ih]
    simp only [bind_assoc]

/-- A segment logs what it has to report, and nothing in it waits for that. -/
theorem settle_eq_read (segment : Segment) (arguments : ArgumentCursor) :
    settle segment arguments = read (segment.resolve arguments) := by
  cases segment with
  | literal run => rfl
  | directive spelling =>
    simp only [settle, settleDirective, read, Segment.resolve, Directive.resolve,
      logDiagnostics_append, bind_assoc, pure_bind]

/-- Segments log what their plan has to report, and carry out its effects. -/
theorem work_eq_planSegments (segments : List Segment) (arguments : ArgumentCursor)
    (writer : Writer) :
    work segments arguments writer = (do
      let plan ← read (planSegments segments arguments)
      return ⟨plan.value.foldl (fun writer effect => effect.perform writer) writer,
        plan.arguments, plan.diagnostics⟩) := by
  induction segments generalizing arguments writer with
  | nil => rfl
  | cons segment rest ih =>
    simp only [work, settle_eq_read, ih, read, planSegments, logDiagnostics_append, bind_assoc,
      pure_bind, List.foldl_cons]

/-- Logging everything once the call is through is the same as logging as it goes. -/
theorem formatInto_eq_formatStepwise (cells : Array UInt8) (template : Bytes)
    (arguments : List Argument) (counters : Counters) :
    formatInto cells template arguments counters =
      formatStepwise cells template arguments counters := by
  simp only [formatStepwise, work_eq_planSegments, read, bind_assoc, pure_bind]
  rfl

end Report

/-! ## Actions that only log -/

/-- On every host the action has the same value, changes nothing, and logs these lines at level
`debug`. -/
def HostM.OnlyLogs {α : Type} (action : HostM α) (value : α) (lines : List String) : Prop :=
  ∀ host, (action host).value = value ∧ (action host).host = host ∧
    host.Logs lines (action host).events

/-- A report that has the same value on every host, and causes only log lines of level `debug`. -/
theorem HostM.onlyLogs_ofReport {α : Type} {report : Report α} {value : α} {lines : List String}
    (h : ∀ host, report host = ⟨value, lines.flatMap (host.logEvents .debug)⟩) :
    (ofReport report).OnlyLogs value lines := by
  intro host
  rw [ofReport_apply, h]
  exact ⟨rfl, rfl, host.logs_flatMap_logEvents lines⟩

/-- The log lines of a template with its arguments, in order. -/
def logLines (template : Bytes) (arguments : List Argument) : List String :=
  (plan template arguments).diagnostics.map Diagnostic.message

section

variable (cells : Array UInt8) (template : Bytes) (arguments : List Argument) (counters : Counters)

/-- A formatting call on a host. -/
theorem Report.formatInto_apply (host : Host) :
    formatInto cells template arguments counters host =
      ⟨BoundedFormat.formatInto cells template arguments counters,
        (logLines template arguments).flatMap (host.logEvents .debug)⟩ := by
  have hevents := events_formatInto cells template arguments counters host
  rw [logLines, List.flatMap_map, ← hevents]
  rfl

/-- A formatting call with a buffer of its own on a host. -/
theorem Report.formatOwned_apply (host : Host) :
    formatOwned template arguments counters host =
      ⟨BoundedFormat.formatOwned template arguments counters,
        (logLines template arguments ++ logLines template arguments).flatMap
          (host.logEvents .debug)⟩ := by
  have hevents := events_formatOwned template arguments counters host
  rw [logLines, ← List.map_append, List.flatMap_map, ← hevents]
  rfl

/-- A checked call on a host. -/
theorem Report.formatChecked_apply (host : Host) :
    formatChecked cells template arguments counters host =
      ⟨BoundedFormat.formatChecked cells template arguments counters,
        (if (BoundedFormat.checkArguments template arguments).isOk
          then logLines template arguments else []).flatMap (host.logEvents .debug)⟩ := by
  rw [report_formatChecked_eq, Report.formatInto_apply]
  rcases BoundedFormat.checkArguments template arguments with error | n <;> rfl

end

/-- Formatting is the same on every host, in what it returns, in the cells and in the counters, and
leaves the host as it is. What it does there is to log: the lines of its diagnostics, those of both
passes if it is into a buffer of its own, and none if a check before it fails. Checking logs nothing
at any level. It makes no difference that the lines come up in the middle of a call. -/
theorem formatting_only_logs (cells : Array UInt8) (template : Bytes) (arguments : List Argument)
    (counters : Counters) :
    let lines := logLines template arguments
    let checked := checkArguments template arguments
    (HostM.ofReport (Report.formatInto cells template arguments counters)).OnlyLogs
        (formatInto cells template arguments counters) lines ∧
      (HostM.ofReport (Report.formatChecked cells template arguments counters)).OnlyLogs
        (formatChecked cells template arguments counters) (if checked.isOk then lines else []) ∧
      (HostM.ofReport (Report.formatOwned template arguments counters)).OnlyLogs
        (formatOwned template arguments counters) (lines ++ lines) ∧
      (∀ host, HostM.ofReport (Report.checkArguments template arguments) host =
        ⟨checked, host, []⟩) ∧
      Report.formatInto cells template arguments counters =
        Report.formatStepwise cells template arguments counters :=
  ⟨HostM.onlyLogs_ofReport (Report.formatInto_apply _ _ _ _),
    HostM.onlyLogs_ofReport (Report.formatChecked_apply _ _ _ _),
    HostM.onlyLogs_ofReport (Report.formatOwned_apply _ _ _), fun _ => rfl,
    Report.formatInto_eq_formatStepwise ..⟩

end BoundedFormat
