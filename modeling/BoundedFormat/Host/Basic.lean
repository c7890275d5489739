import BoundedFormat.Host.Level
import BoundedFormat.Output.Buffer

/-!
# The host

A host is what calls share with their surroundings: how much is logged, where log lines go, and
where console output goes. Nothing is delivered while no backend, or no sink, is registered. What
reaches a listener or a sink is recorded as a list of events, in order.
-/

namespace BoundedFormat

/-- A receiver of log lines. -/
structure Listener where
  name : String
  deriving DecidableEq, Repr

/-- A receiver of console output. -/
structure Sink where
  name : String
  deriving DecidableEq, Repr

/-- Where log lines go. -/
inductive Backend where
  /-- Each line goes to the listener as it is. -/
  | listener (listener : Listener)
  /-- Each line goes to the console, with a newline behind it. -/
  | console
  deriving DecidableEq, Repr

/-- What reaches the outside. -/
inductive Event where
  /-- A listener receives one log line. -/
  | line (listener : Listener) (text : String)
  /-- A sink is called once, with these bytes. -/
  | write (sink : Sink) (bytes : Bytes)
  deriving DecidableEq, Repr

/-- The state that calls share. -/
structure Host where
  /-- The most talkative level that is logged. -/
  level : Level := .info
  backend : Option Backend := none
  sink : Option Sink := none
  deriving DecidableEq, Repr

/-- The most bytes that one console call writes, terminator or newline included. -/
def consoleLineMax : Nat := 256

namespace Host

/-- Are lines of this level logged? -/
def isEnabled (host : Host) (level : Level) : Bool := level ≤ host.level

/-- Raw bytes for the console: one call of the sink, if there is a sink and anything to write. -/
def consoleEvents (host : Host) (bytes : Bytes) : List Event :=
  if bytes.isEmpty then []
  else
    match host.sink with
    | none => []
    | some sink => [.write sink bytes]

/-- A log line as the console shows it: cut to what fits, and a newline. -/
def consoleLine (text : String) : Bytes :=
  let cells := Array.replicate (consoleLineMax - 1) 0
  ((Buffer.ofCells cells).putAll (utf8 text)).stored ++ [Ascii.newline]

/-- What a backend makes of a log line. -/
def backendEvents (host : Host) (backend : Backend) (text : String) : List Event :=
  match backend with
  | .listener listener => [.line listener text]
  | .console => host.consoleEvents (consoleLine text)

/-- A log line: what reaches the outside if the level is logged and a backend is registered. -/
def logEvents (host : Host) (level : Level) (text : String) : List Event :=
  if host.isEnabled level then
    match host.backend with
    | none => []
    | some backend => host.backendEvents backend text
  else []

end Host

end BoundedFormat
