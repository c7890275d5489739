import BoundedFormat.Host.Console
import BoundedFormat.Proofs.Output.Capacity

/-!
# Formatting keeps as much of the output as fits

A call has one output, whatever buffer it is given: `formatInto_eq` takes the call apart into the
offering of `output`, the making of `stores`, and the diagnostics of `plan`, which a host logs; of
these only the first ever looks at the buffer. `Formatted.Truncates` says what becomes of an output
in given cells; `truncates_formatInto` says that it holds of every call. The same for every capacity
are the counters, the diagnostics and the log lines (`formatInto_truncates_output`).
-/

namespace BoundedFormat

/-- A formatting call offers the output, makes the stores and reports the diagnostics. -/
theorem formatInto_eq (cells : Array UInt8) (template : Bytes) (arguments : List Argument)
    (counters : Counters) :
    formatInto cells template arguments counters =
      { outcome := ((Buffer.ofCells cells).putAll (output template arguments)).outcome
        cells := ((Buffer.ofCells cells).putAll (output template arguments)).terminate
        counters := (stores template arguments).foldl Store.apply counters
        diagnostics := (plan template arguments).diagnostics
        consumed := (plan template arguments).arguments.consumed } := by
  simp only [formatInto, foldl_perform]
  rfl

/-- The counters of a call are those that its stores leave behind. -/
theorem counters_formatInto (cells : Array UInt8) (template : Bytes) (arguments : List Argument)
    (counters : Counters) :
    (formatInto cells template arguments counters).counters =
      (stores template arguments).foldl Store.apply counters := by
  rw [formatInto_eq]

/-- The diagnostics of a call are those of its plan. -/
theorem diagnostics_formatInto (cells : Array UInt8) (template : Bytes)
    (arguments : List Argument) (counters : Counters) :
    (formatInto cells template arguments counters).diagnostics =
      (plan template arguments).diagnostics := by
  rw [formatInto_eq]

/-- A call requires as many bytes as its output has. -/
theorem required_formatInto (cells : Array UInt8) (template : Bytes) (arguments : List Argument)
    (counters : Counters) :
    (formatInto cells template arguments counters).outcome.required =
      (output template arguments).length := by
  rw [formatInto_eq]
  simp [Buffer.outcome, Buffer.ofCells]

/-- Diagnostics become log lines of level `debug`, in order. -/
theorem Report.events_logDiagnostics (diagnostics : List Diagnostic) (host : Host) :
    (logDiagnostics diagnostics host).events =
      diagnostics.flatMap fun diagnostic => host.logEvents .debug diagnostic.message := by
  induction diagnostics with
  | nil => rfl
  | cons first rest ih =>
    rw [List.flatMap_cons, ← ih]
    rfl

/-- What a call causes on a host are the log lines of its diagnostics. -/
theorem Report.events_formatInto (cells : Array UInt8) (template : Bytes)
    (arguments : List Argument) (counters : Counters) (host : Host) :
    (Report.formatInto cells template arguments counters host).events =
      (plan template arguments).diagnostics.flatMap fun diagnostic =>
        host.logEvents .debug diagnostic.message := by
  simp only [Report.formatInto, bind_apply, pure_apply, List.append_nil, events_logDiagnostics,
    diagnostics_formatInto]

/-- Calls whose plans write, store, report and take the same cannot be told apart: not by what they
leave behind, and not by what they cause on a host. -/
theorem formatInto_congr {template other : Bytes} {arguments others : List Argument}
    (houtput : output template arguments = output other others)
    (hstores : stores template arguments = stores other others)
    (hdiagnostics : (plan template arguments).diagnostics = (plan other others).diagnostics)
    (hconsumed : (plan template arguments).arguments.consumed =
      (plan other others).arguments.consumed)
    (cells : Array UInt8) (counters : Counters) :
    formatInto cells template arguments counters = formatInto cells other others counters ∧
      ∀ host, (Report.formatInto cells template arguments counters host).events =
        (Report.formatInto cells other others counters host).events := by
  refine ⟨?_, fun host => ?_⟩
  · rw [formatInto_eq, formatInto_eq, houtput, hstores, hdiagnostics, hconsumed]
  · rw [Report.events_formatInto, Report.events_formatInto, hdiagnostics]

/-- Of a call, `whole` was to be written over the cells `before`. -/
structure Formatted.Truncates (before : Array UInt8) (whole : Bytes) (result : Formatted) :
    Prop where
  /-- The length of all there was to write is reported. -/
  required_eq : result.outcome.required = whole.length
  /-- One cell is kept back, and without any cell nothing is written. -/
  written_eq : result.outcome.written =
    if 0 < before.size then min whole.length (before.size - 1) else 0
  /-- There are as many cells as before. -/
  size_cells : result.cells.size = before.size
  /-- The first cells hold the first bytes. -/
  stored_eq : result.stored = whole.take result.outcome.written
  /-- The terminator stands behind them. -/
  terminated : 0 < before.size → result.cells[result.outcome.written]? = some Ascii.nul
  /-- The cells behind the terminator are as they were. -/
  untouched : ∀ i, result.outcome.written < i → result.cells[i]? = before[i]?
  /-- The call tells whether it left anything out. -/
  isTruncated_iff : result.outcome.isTruncated = true ↔ result.outcome.written < whole.length

namespace Buffer.Holds

variable {initial : Array UInt8} {bytes : Bytes} {buffer : Buffer}

/-- The bytes in front of the terminator are the stored ones. -/
theorem take_terminate (h : Holds initial bytes buffer) :
    buffer.terminate.toList.take buffer.written = bytes.take buffer.written := by
  refine List.ext_getElem? fun i => ?_
  by_cases hi : i < buffer.written
  · rw [List.getElem?_take_of_lt hi, List.getElem?_take_of_lt hi, Array.getElem?_toList,
      h.closesTo_terminate.unchanged i fun _ => Nat.ne_of_lt hi, h.isFilledWith.stored i hi]
  · rw [List.getElem?_take_eq_none (Nat.le_of_not_lt hi),
      List.getElem?_take_eq_none (Nat.le_of_not_lt hi)]

/-- Behind the stored bytes stands the terminator. -/
theorem getElem?_terminate_written (h : Holds initial bytes buffer) (hpos : 0 < initial.size) :
    buffer.terminate[buffer.written]? = some Ascii.nul := by
  rw [← h.size_cells] at hpos
  exact h.closesTo_terminate.terminated hpos

/-- Behind the terminator the cells are as they were. -/
theorem getElem?_terminate_of_lt (h : Holds initial bytes buffer) {i : Nat}
    (hi : buffer.written < i) : buffer.terminate[i]? = initial[i]? := by
  rw [h.closesTo_terminate.unchanged i fun _ => Nat.ne_of_gt hi,
    h.isFilledWith.untouched i (Nat.le_of_lt hi)]

/-- There are as many cells as before. -/
theorem size_terminate (h : Holds initial bytes buffer) :
    buffer.terminate.size = initial.size := by
  rw [h.closesTo_terminate.size_eq, h.size_cells]

end Buffer.Holds

/-- What becomes of the output in given cells. -/
theorem truncates_formatInto (cells : Array UInt8) (template : Bytes) (arguments : List Argument)
    (counters : Counters) :
    (formatInto cells template arguments counters).Truncates cells
      (output template arguments) := by
  have h := (Buffer.holds_ofCells cells).putAll (output template arguments)
  rw [List.nil_append] at h
  rw [formatInto_eq]
  generalize output template arguments = whole at h
  generalize (Buffer.ofCells cells).putAll whole = buffer at h
  refine ⟨h.offered_eq, ?_, h.size_terminate, h.take_terminate, h.getElem?_terminate_written,
    fun i hi => h.getElem?_terminate_of_lt hi, ?_⟩
  · show buffer.written = _
    rw [h.written_eq]
    split <;> omega
  · show decide (buffer.written < buffer.offered) = true ↔ buffer.written < whole.length
    rw [decide_eq_true_iff, h.offered_eq]

/-- A buffer with more cells than the output has bytes receives the whole output. -/
theorem Formatted.Truncates.stored_of_lt {before : Array UInt8} {whole : Bytes}
    {result : Formatted} (h : result.Truncates before whole) (hroom : whole.length < before.size) :
    result.stored = whole := by
  rw [h.stored_eq, h.written_eq, if_pos (by omega), Nat.min_eq_left (by omega), List.take_length]

/-- A template and its arguments have one output: every buffer that has room for it receives it
whole, and every other one as much of it as leaves room for the terminator. The counters, the
diagnostics and what reaches the log of any host do not depend on the buffer at all. -/
theorem formatInto_truncates_output (template : Bytes) (arguments : List Argument)
    (counters : Counters) :
    (∀ cells, (output template arguments).length < cells.size →
        (formatInto cells template arguments counters).stored = output template arguments) ∧
      (∀ cells, (formatInto cells template arguments counters).Truncates cells
        (output template arguments)) ∧
      ∀ cells others : Array UInt8,
        (formatInto cells template arguments counters).counters =
            (formatInto others template arguments counters).counters ∧
          (formatInto cells template arguments counters).diagnostics =
            (formatInto others template arguments counters).diagnostics ∧
          ∀ host, (Report.formatInto cells template arguments counters host).events =
            (Report.formatInto others template arguments counters host).events := by
  refine ⟨fun cells hroom => (truncates_formatInto cells ..).stored_of_lt hroom,
    fun cells => truncates_formatInto cells .., fun cells others => ⟨?_, ?_, fun host => ?_⟩⟩
  · rw [counters_formatInto, counters_formatInto]
  · rw [diagnostics_formatInto, diagnostics_formatInto]
  · rw [Report.events_formatInto, Report.events_formatInto]

end BoundedFormat
