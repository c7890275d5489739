import BoundedFormat.Proofs.Host.Independence

/-!
# What a console line causes

A line for the console causes three things, one after the other: the log lines of its formatting,
one call of the sink with as much of the line as fits, and a warning where something did not fit.
`Report.printf_apply` is the whole of it. What becomes of the log lines is up to the host
(`Host.Delivers`); where they go to the console themselves, each is one more call of the sink and
nothing else, so no line ever calls for another.
-/

namespace BoundedFormat

/-- What the sink of a host receives of a line for the console: the first 255 bytes in one call, and
nothing of an empty line. -/
def Host.linePrinted (host : Host) (line : Bytes) : List Event :=
  match host.sink with
  | none => []
  | some sink => if line = [] then [] else [.write sink (line.take 255)]

/-- The warning about a line of so many bytes that was cut to 255. -/
def cutWarning (length : Nat) : String :=
  "console: line truncated, " ++ toString (min length 255) ++ " of " ++ toString length ++
    " bytes written"

/-- A line that is cut is empty only if it was so before. -/
theorem Host.consoleEvents_take (host : Host) (line : Bytes) :
    host.consoleEvents (line.take 255) = host.linePrinted line := by
  rw [consoleEvents, linePrinted]
  rcases line with _ | ⟨b, rest⟩
  · rcases host.sink with _ | sink <;> rfl
  · rfl

variable (template : Bytes) (arguments : List Argument) (counters : Counters)

namespace Report

/-- Of a line for the console 255 bytes are kept. -/
theorem stored_formatInto_consoleLineMax :
    (BoundedFormat.formatInto (Array.replicate consoleLineMax 0) template arguments
      counters).stored = (output template arguments).take 255 := by
  have htruncates := truncates_formatInto (Array.replicate consoleLineMax 0) template arguments
    counters
  have hwritten := htruncates.written_eq
  rw [Array.size_replicate, if_pos (by decide), Nat.min_comm] at hwritten
  rw [htruncates.stored_eq, hwritten, ← List.take_eq_take_min]
  rfl

/-- The outcome of a line for the console. -/
theorem outcome_formatInto_consoleLineMax :
    (BoundedFormat.formatInto (Array.replicate consoleLineMax 0) template arguments
      counters).outcome =
        ⟨(output template arguments).length, min (output template arguments).length 255⟩ := by
  have htruncates := truncates_formatInto (Array.replicate consoleLineMax 0) template arguments
    counters
  have hwritten := htruncates.written_eq
  rw [Array.size_replicate, if_pos (by decide)] at hwritten
  rw [← htruncates.required_eq]
  exact congrArg (Outcome.mk _) (hwritten.trans (by rw [htruncates.required_eq]; rfl))

/-- All that a line for the console comes to. -/
theorem printf_apply (host : Host) :
    printf template arguments counters host =
      ⟨BoundedFormat.formatInto (Array.replicate consoleLineMax 0) template arguments counters,
        (logLines template arguments).flatMap (host.logEvents .debug) ++
          host.linePrinted (output template arguments) ++
            if 255 < (output template arguments).length then
              host.logEvents .warn (cutWarning (output template arguments).length)
            else []⟩ := by
  have hstored := stored_formatInto_consoleLineMax template arguments counters
  have houtcome := outcome_formatInto_consoleLineMax template arguments counters
  simp only [printf, bind_apply, formatInto_apply, consoleWrite]
  generalize BoundedFormat.formatInto _ template arguments counters = formatted at *
  rw [hstored, houtcome, Host.consoleEvents_take]
  have htruncated :
      min (output template arguments).length 255 < (output template arguments).length ↔
        255 < (output template arguments).length := by omega
  simp only [Outcome.isTruncated, decide_eq_true_eq, htruncated]
  have hwarning : truncationWarning ⟨(output template arguments).length,
      min (output template arguments).length 255⟩ = cutWarning (output template arguments).length :=
    rfl
  rw [hwarning, List.append_assoc]
  split
  · simp only [bind_apply, pure_apply, log, List.append_nil]
  · simp only [pure_apply]

end Report

/-- A line for the console tells the length of its whole output and leaves the host as it is. What
it causes is, in this order: the log lines of its formatting, one call of the sink with the first
255 bytes if there are any, and a warning with both lengths if there were more. Of every log line on
every host comes what has to come of it. -/
theorem printf_causes_trace (host : Host) :
    let whole := output template arguments
    let printed := HostM.ofReport (Report.printf template arguments counters) host
    printed.value.outcome.required = whole.length ∧ printed.host = host ∧
      printed.events =
        (plan template arguments).diagnostics.flatMap (host.logEvents .debug ·.message) ++
          (match host.sink with
            | none => []
            | some sink => if whole = [] then [] else [.write sink (whole.take 255)]) ++
          (if 255 < whole.length then
            host.logEvents .warn ("console: line truncated, " ++ toString (min whole.length 255) ++
              " of " ++ toString whole.length ++ " bytes written")
          else []) ∧
      ∀ level text, host.Delivers level text (host.logEvents level text) := by
  intro whole printed
  have hprinted := Report.printf_apply template arguments counters host
  refine ⟨?_, rfl, ?_, host.logEvents_delivers⟩
  · show (Report.printf template arguments counters host).value.outcome.required = _
    rw [hprinted, required_formatInto]
  · show (Report.printf template arguments counters host).events = _
    rw [hprinted, logLines, List.flatMap_map]
    rfl

end BoundedFormat
