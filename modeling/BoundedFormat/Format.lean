import BoundedFormat.Plan.Stores

/-!
# Formatting into a buffer

`formatInto` works a template through with its arguments and writes what fits into the cells it is
given, the terminator included. It cannot fail: an unknown conversion, a template that ends after a
percent sign, a missing argument and an argument of the wrong kind all write nothing. Compare the
two numbers of the outcome to see whether the output was cut, or call once with no cells at all to
learn how many are needed; `formatOwned` does just that.
-/

namespace BoundedFormat

/-- A buffer being filled, and the counters. -/
structure Writer where
  buffer : Buffer
  counters : Counters
  deriving Repr

/-- Carry out an effect. -/
def Effect.perform (effect : Effect) : Writer → Writer
  | ⟨buffer, counters⟩ =>
    match effect with
    | write emission => ⟨emission.emit buffer, counters⟩
    | storeCount index =>
      let store : Store := ⟨index, Int32.ofNat buffer.offered⟩
      ⟨buffer, store.apply counters⟩
    | nothing => ⟨buffer, counters⟩

/-- Carrying out effects offers their bytes to the buffer and makes their stores. -/
theorem foldl_perform (effects : List Effect) (writer : Writer) :
    effects.foldl (fun writer effect => effect.perform writer) writer =
      ⟨writer.buffer.putAll (effects.flatMap Effect.bytes),
        (storesFrom writer.buffer.offered effects).foldl Store.apply writer.counters⟩ := by
  induction effects generalizing writer with
  | nil => rfl
  | cons effect rest ih =>
    rw [List.foldl_cons, ih]
    rcases writer with ⟨buffer, counters⟩
    cases effect with
    | write emission =>
      simp [Effect.perform, Effect.bytes, storesFrom, Emission.emit_eq_putAll,
        Buffer.putAll_append]
    | storeCount index => simp [Effect.perform, Effect.bytes, storesFrom]
    | nothing => simp [Effect.perform, Effect.bytes, storesFrom]

/-- What a formatting call leaves behind. -/
structure Formatted where
  outcome : Outcome
  /-- The cells of the buffer after the call. -/
  cells : Array UInt8
  counters : Counters
  /-- What there was to report, in order. -/
  diagnostics : List Diagnostic
  /-- How many arguments were taken. -/
  consumed : Nat
  deriving Repr

/-- The bytes that the call stored. -/
def Formatted.stored (formatted : Formatted) : Bytes :=
  formatted.cells.toList.take formatted.outcome.written

/-- Format `template` with `arguments` into `cells`. -/
def formatInto (cells : Array UInt8) (template : Bytes) (arguments : List Argument)
    (counters : Counters) : Formatted :=
  let plan := plan template arguments
  let writer := plan.value.foldl (fun writer effect => effect.perform writer)
    ⟨Buffer.ofCells cells, counters⟩
  { outcome := writer.buffer.outcome
    cells := writer.buffer.terminate
    counters := writer.counters
    diagnostics := plan.diagnostics
    consumed := plan.arguments.consumed }

/-- What a formatting call with a buffer of its own returns. -/
structure Owned where
  /-- The whole output, without a terminator. -/
  bytes : Bytes
  counters : Counters
  /-- What both passes had to report, in order. -/
  diagnostics : List Diagnostic
  deriving Repr

/-- Format into a buffer of exactly the size that a first pass without any cell asks for. -/
def formatOwned (template : Bytes) (arguments : List Argument) (counters : Counters) : Owned :=
  let probe := formatInto #[] template arguments counters
  let cells := Array.replicate (probe.outcome.required + 1) 0
  let full := formatInto cells template arguments probe.counters
  { bytes := full.stored
    counters := full.counters
    diagnostics := probe.diagnostics ++ full.diagnostics }

end BoundedFormat
