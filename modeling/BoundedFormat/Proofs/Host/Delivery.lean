import BoundedFormat.Host.Console
import BoundedFormat.Proofs.Output.Capacity

/-!
# What becomes of a log line

A line reaches the backend if its level is logged, and nothing else ever happens to it.
`Host.Delivers` says what has to come of one line on a host, whoever its backend is, and
`logEvents_delivers` that it does; `Host.Logs` says it of a row of lines of level `debug`
(`logs_flatMap_logEvents`).
-/

namespace BoundedFormat

namespace Host

/-- On the console a line is cut to 254 bytes, wherever that is in its encoding, and ends in a
newline. -/
theorem consoleLine_eq (text : String) :
    consoleLine text = (utf8 text).take 254 ++ [Ascii.newline] := by
  have hholds := (Buffer.holds_ofCells (Array.replicate (consoleLineMax - 1) 0)).putAll (utf8 text)
  rw [List.nil_append] at hholds
  have hwritten := hholds.written_eq
  rw [Array.size_replicate] at hwritten
  have hstored := hholds.stored_eq
  rw [hwritten, Nat.min_comm, ← List.take_eq_take_min] at hstored
  exact congrArg (· ++ [Ascii.newline]) hstored

/-- What has to come of a log line on a host. -/
structure Delivers (host : Host) (level : Level) (text : String) (events : List Event) : Prop where
  /-- A line beyond the level in force comes to nothing. -/
  filtered : ¬ level ≤ host.level → events = []
  /-- Without a backend a line comes to nothing. -/
  dropped : host.backend = none → events = []
  /-- A listener receives the line as it is. -/
  heard : level ≤ host.level → ∀ listener, host.backend = some (.listener listener) →
    events = [.line listener text]
  /-- The console shows the line, cut and with a newline, in one call of its sink. -/
  shown : level ≤ host.level → host.backend = some .console → ∀ sink, host.sink = some sink →
    events = [.write sink ((utf8 text).take 254 ++ [Ascii.newline])]
  /-- Without a sink the console shows nothing. -/
  unseen : host.backend = some .console → host.sink = none → events = []

/-- Every log line is delivered. -/
theorem logEvents_delivers (host : Host) (level : Level) (text : String) :
    host.Delivers level text (host.logEvents level text) := by
  have hnonempty : ((utf8 text).take 254 ++ [Ascii.newline]).isEmpty = false := by simp
  rw [logEvents, isEnabled]
  refine ⟨fun h => ?_, fun h => ?_, fun h listener hbackend => ?_,
    fun h hbackend sink hsink => ?_, fun hbackend hsink => ?_⟩
  · rw [if_neg (by simpa using h)]
  · rw [h, ite_self]
  · rw [if_pos (decide_eq_true h), hbackend]
    rfl
  · rw [if_pos (decide_eq_true h), hbackend]
    simp only [backendEvents, consoleEvents, consoleLine_eq, hnonempty, hsink, Bool.false_eq_true,
      if_false]
  · simp only [hbackend, backendEvents, consoleEvents, hsink, ite_self]

/-- The level `debug` is logged at the two most talkative levels. -/
theorem debug_le_iff (level : Level) : .debug ≤ level ↔ level = .debug ∨ level = .trace := by
  cases level <;> decide

/-- What has to come of a row of lines of level `debug` on a host. -/
structure Logs (host : Host) (lines : List String) (events : List Event) : Prop where
  /-- A listener receives every line, in order, at the two most talkative levels. -/
  heard : host.level = .debug ∨ host.level = .trace → ∀ listener,
    host.backend = some (.listener listener) → events = lines.map (.line listener)
  /-- Nobody receives anything at any other level, or without a backend. -/
  silent : ¬ (host.level = .debug ∨ host.level = .trace) ∨ host.backend = none → events = []

/-- A row of lines is delivered line by line. -/
theorem logs_flatMap_logEvents (host : Host) (lines : List String) :
    host.Logs lines (lines.flatMap (host.logEvents .debug)) := by
  have hdelivers (text : String) := host.logEvents_delivers .debug text
  refine ⟨fun hlevel listener hbackend => ?_, fun hsilent => ?_⟩
  · have hline (text : String) : host.logEvents .debug text = [.line listener text] :=
      (hdelivers text).heard ((debug_le_iff _).2 hlevel) listener hbackend
    rw [funext hline, List.map_eq_flatMap]
  · refine List.flatMap_eq_nil_iff.2 fun text _ => ?_
    obtain hlevel | hbackend := hsilent
    · exact (hdelivers text).filtered fun h => hlevel ((debug_le_iff _).1 h)
    · exact (hdelivers text).dropped hbackend

end Host

end BoundedFormat
