import BoundedFormat.Proofs.Format.Truncation
import BoundedFormat.Proofs.Plan.LastStore

/-!
# Formatting into a buffer of one's own

`formatOwned` calls `formatInto` twice: with no cells at all, for the length, and with one cell more
than that, for the bytes. The second call starts from the counters that the first one left behind.
No byte of the output depends on a counter, so both calls have the same output, and the cell to
spare is the one that the terminator takes (`bytes_formatOwned`). Both calls make the same row of
stores, and a row made twice leaves the counters as the row made once does
(`counters_formatOwned`). Only the diagnostics show that there were two calls
(`diagnostics_formatOwned`).
-/

namespace BoundedFormat

variable (template : Bytes) (arguments : List Argument) (counters : Counters)

/-- A buffer with one cell more than a call requires receives the whole output. -/
theorem stored_formatInto_replicate :
    (formatInto (Array.replicate ((output template arguments).length + 1) 0) template arguments
      counters).stored = output template arguments := by
  refine (truncates_formatInto _ template arguments counters).stored_of_lt ?_
  rw [Array.size_replicate]
  exact Nat.lt_succ_self _

/-- The bytes are those of the whole output. -/
theorem bytes_formatOwned :
    (formatOwned template arguments counters).bytes = output template arguments := by
  rw [formatOwned, required_formatInto]
  exact stored_formatInto_replicate template arguments _

/-- The counters are those that the stores of one call leave behind. -/
theorem counters_formatOwned :
    (formatOwned template arguments counters).counters =
      (stores template arguments).foldl Store.apply counters := by
  rw [formatOwned, counters_formatInto, counters_formatInto, foldl_apply_foldl_apply]

/-- The diagnostics are those of the plan, once for each call. -/
theorem diagnostics_formatOwned :
    (formatOwned template arguments counters).diagnostics =
      (plan template arguments).diagnostics ++ (plan template arguments).diagnostics := by
  rw [formatOwned, diagnostics_formatInto, diagnostics_formatInto]

/-- What reaches the log of a host are the lines of the plan's diagnostics, once for each call. -/
theorem Report.events_formatOwned (host : Host) :
    (Report.formatOwned template arguments counters host).events =
      ((plan template arguments).diagnostics ++ (plan template arguments).diagnostics).flatMap
        fun diagnostic => host.logEvents .debug diagnostic.message := by
  simp only [Report.formatOwned, bind_apply, pure_apply, List.append_nil, events_logDiagnostics,
    diagnostics_formatOwned]

/-- Formatting into a buffer of one's own returns the whole output, which is what any buffer with
room for it receives, and nothing else: as many bytes as a call with any cells requires. The
counters end up as after one such call, whatever they held before, although there were two; the
diagnostics, and with them the log lines on any host, are those of one such call twice over. -/
theorem formatOwned_returns_output :
    (formatOwned template arguments counters).bytes = output template arguments ∧
      (∀ cells, (output template arguments).length < cells.size →
        (formatOwned template arguments counters).bytes =
          (formatInto cells template arguments counters).stored) ∧
      ∀ cells : Array UInt8,
        let owned := formatOwned template arguments counters
        let single := formatInto cells template arguments counters
        owned.bytes.length = single.outcome.required ∧
          owned.counters = single.counters ∧
          owned.diagnostics = single.diagnostics ++ single.diagnostics ∧
          ∀ host,
            (Report.formatOwned template arguments counters host).value = owned ∧
              (Report.formatOwned template arguments counters host).events =
                (Report.formatInto cells template arguments counters host).events ++
                  (Report.formatInto cells template arguments counters host).events := by
  refine ⟨bytes_formatOwned .., fun cells hroom => ?_,
    fun cells => ⟨?_, ?_, ?_, fun host => ⟨rfl, ?_⟩⟩⟩
  · rw [bytes_formatOwned, (truncates_formatInto cells ..).stored_of_lt hroom]
  · rw [bytes_formatOwned, required_formatInto]
  · rw [counters_formatOwned, counters_formatInto]
  · rw [diagnostics_formatOwned, diagnostics_formatInto]
  · rw [Report.events_formatOwned, Report.events_formatInto, List.flatMap_append]

end BoundedFormat
