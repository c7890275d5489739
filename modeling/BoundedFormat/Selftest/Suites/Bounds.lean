import BoundedFormat.Selftest.Runner
import BoundedFormat.Selftest.Suites.Render

/-!
# The suite `bounds`

Buffers that are too short, empty or just large enough, and the calls that check first or bring a
buffer of their own.
-/

namespace BoundedFormat

namespace BoundsSuite

open Trial

/-- Output is cut to one byte less than the capacity; the length reported stays the same. -/
def truncation : Trial Unit := do
  let formatted ← Report.formatInto (Array.replicate 8 0xaa) (utf8 "frag count %d") [.int32 12] #[]
  assertEq formatted.outcome ⟨13, 7⟩ none
  assertTrue formatted.outcome.isTruncated none
  assertBytesEq formatted.cells.toList (utf8 "frag co\x00") none
  let single ← Report.formatInto (Array.replicate 1 0xaa) (utf8 "abc") [] #[]
  assertEq single.outcome ⟨3, 0⟩ none
  assertEq (single.cells.getD 0 0xaa) Ascii.nul none

/-- Without any cell only the length is worked out. -/
def zeroCapacityProbe : Trial Unit := do
  let arguments := [toArgument "lives", .int32 3]
  let probe ← Report.formatInto #[] (utf8 "%s:%5d") arguments #[]
  assertEq probe.outcome ⟨11, 0⟩ none
  let full ← Report.formatInto (Array.replicate 12 0) (utf8 "%s:%5d") arguments #[]
  assertEq full.outcome ⟨11, 11⟩ none
  assertBytesEq full.cells.toList (utf8 "lives:    3\x00") none

/-- A buffer with room for the output and the terminator cuts nothing. -/
def exactFit : Trial Unit := do
  let formatted ← Report.formatInto (Array.replicate 4 0xaa) (utf8 "%x") [.uint32 0xabc] #[]
  assertTrue (!formatted.outcome.isTruncated) none
  assertBytesEq formatted.cells.toList (utf8 "abc\x00") none

/-- A template ends at its first NUL. -/
def templateStopsAtNul : Trial Unit := do
  let formatted ← Report.formatInto (Array.replicate 16 0) (utf8 "ok\x00%d ignored") [.int32 1] #[]
  assertEq formatted.outcome.required 2 none
  assertBytesEq (formatted.cells.toList.take 3) (utf8 "ok\x00") none

/-- The same call twice gives the same bytes. -/
def deterministicOutput : Trial Unit := do
  let arguments := [toArgument "cacodemon", .int32 (-17), .float 0.5, .uint32 0xff]
  let cells := Array.replicate 64 0
  let template := utf8 "%-12s|%+5d|%.3f|%x"
  let first ← Report.formatInto cells template arguments #[]
  let second ← Report.formatInto cells template arguments #[]
  assertEq first.outcome second.outcome none
  assertBytesEq first.cells.toList second.cells.toList none

/-- Checking counts the arguments, or says what is wrong with them. -/
def checkedArguments : Trial Unit := do
  let count ← assertOk
    (checkArguments (utf8 "%*d %s %%") [.int32 4, .int32 2, toArgument "x"]) none
  assertEq count 3 none
  assertEq (checkArguments (utf8 "%d %d") [.int32 1]) (.error (.missingArgument 1 0x64)) none
  assertEq (checkArguments [] [.int32 1]) (.error (.extraArguments 0 1)) none
  let cells := Array.replicate 16 0
  let checked ← Report.formatChecked cells (utf8 "%p") [.pointer 0x10] #[]
  let formatted ← assertOk checked none
  assertBytesEq formatted.stored (utf8 "0x10") none
  let refused ← Report.formatChecked formatted.cells (utf8 "%p") [.float 1.0] #[]
  assertTrue (!refused.isOk) none

/-- A call with a buffer of its own returns the whole output. -/
def ownedFormat : Trial Unit := do
  let owned ← Report.formatOwned (utf8 "%s x%d") [toArgument "shotgun", .int32 2] #[]
  assertBytesEq owned.bytes (utf8 "shotgun x2") none

end BoundsSuite

/-- The suite `bounds`. -/
def boundsSuite : Suite where
  name := "bounds"
  tests := [
    BoundsSuite.truncation.test "test_truncation",
    BoundsSuite.zeroCapacityProbe.test "test_zero_capacity_probe",
    BoundsSuite.exactFit.test "test_exact_fit",
    BoundsSuite.templateStopsAtNul.test "test_template_stops_at_nul",
    BoundsSuite.deterministicOutput.test "test_deterministic_output",
    BoundsSuite.checkedArguments.test "test_checked_arguments",
    BoundsSuite.ownedFormat.test "test_owned_format"]

end BoundedFormat
