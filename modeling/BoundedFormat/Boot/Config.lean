import BoundedFormat.Boot.Settings
import BoundedFormat.Host.Action

/-!
# Configuration from the command line

Three keys are known: `loglevel`, `fmtests` and `fmtests.verbosity`. Of the words with one key the
last that decides anything wins; a `loglevel` that names no level decides nothing, while any value
of `fmtests` that is no switch turns the tests on.
-/

namespace BoundedFormat

/-- Whether the tests run, and how much they tell. -/
@[ext]
structure TestConfig where
  enabled : Bool := false
  verbosity : Verbosity := .summary
  deriving DecidableEq, Repr

namespace TestConfig

/-- Take one word of a command line into account. -/
def readWord (config : TestConfig) (word : String) : TestConfig :=
  match valueOf? "fmtests" word with
  | some value => { config with enabled := (switch? value).getD true }
  | none =>
    match valueOf? "fmtests.verbosity" word with
    | some value => { config with verbosity := .ofName value }
    | none => config

/-- The configuration that a command line, if there is one, asks for. -/
def ofCommandLine : Option String → TestConfig
  | none => {}
  | some line => (words line).foldl readWord {}

end TestConfig

/-- Everything that a command line decides. -/
@[ext]
structure BootConfig where
  level : Level := .info
  tests : TestConfig := {}
  deriving DecidableEq, Repr

namespace BootConfig

/-- Take one word of a command line into account for the level. -/
def readLevel (level : Level) (word : String) : Level :=
  match valueOf? "loglevel" word with
  | some value => (Level.ofName? value).getD level
  | none => level

/-- The configuration that a command line, if there is one, asks for. -/
def ofCommandLine (line : Option String) : BootConfig where
  level :=
    match line with
    | none => .info
    | some line => (words line).foldl readLevel .info
  tests := .ofCommandLine line

/-- Put the configuration in force. -/
def apply (config : BootConfig) : HostM Unit :=
  HostM.modifyHost fun host => { host with level := config.level }

end BootConfig

end BoundedFormat
