import BoundedFormat.Selftest.Suites.Bounds
import BoundedFormat.Selftest.Suites.Directives
import BoundedFormat.Selftest.Suites.FixedPoint

/-!
# Running the suites at boot

A boot entry puts the command line in force and then runs every suite, if the command line asks for
tests.
-/

namespace BoundedFormat

/-- The suites of this library. -/
def allSuites : List Suite := [formatSuite, floatSuite, boundsSuite]

/-- Put a command line in force and run every suite if it asks for that. The result is zero when
nothing failed. -/
def runFromCommandLine (line : Option String) : HostM Int := do
  let config := BootConfig.ofCommandLine line
  config.apply
  let result ← runAll config.tests allSuites {}
  return result.code

end BoundedFormat
