import BoundedFormat.Text.AsciiCase

/-!
# Log levels

Five levels, from the gravest to the most talkative. A line is of interest when its level is at most
the one in force.
-/

namespace BoundedFormat

/-- How much a log line matters, and how much is logged. -/
inductive Level where
  | error
  | warn
  | info
  | debug
  | trace
  deriving DecidableEq, Repr

namespace Level

/-- The place of the level in their order. -/
def rank : Level → Nat
  | error => 0
  | warn => 1
  | info => 2
  | debug => 3
  | trace => 4

instance : LE Level := ⟨fun a b => a.rank ≤ b.rank⟩

instance (a b : Level) : Decidable (a ≤ b) := inferInstanceAs (Decidable (a.rank ≤ b.rank))

/-- All levels, the gravest first. -/
def all : List Level := [error, warn, info, debug, trace]

/-- The name of the level. -/
def name : Level → String
  | error => "error"
  | warn => "warn"
  | info => "info"
  | debug => "debug"
  | trace => "trace"

/-- The level of a name, in any case. -/
def ofName? (name : String) : Option Level := all.find? fun level => sameName level.name name

end Level

end BoundedFormat
