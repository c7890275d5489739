import BoundedFormat.Selftest.Runner
import BoundedFormat.Selftest.Suites.Render

/-!
# The suite `float`

Fixed-point numbers: places, rounding, fields and the odd values.
-/

namespace BoundedFormat

namespace FloatSuite

open Trial

/-- Six places when none are asked for. -/
def defaultPrecision : Trial Unit := do
  assertRenders "%f" [.float 3.14159] "3.141590"
  assertRenders "%f" [.float 0.0] "0.000000"
  assertRenders "%f" [.float (-2.5)] "-2.500000"

/-- As many places as asked for. -/
def explicitPrecision : Trial Unit := do
  assertRenders "%.2f" [.float 1.5] "1.50"
  assertRenders "%.2f" [.float 0.05] "0.05"
  assertRenders "%.1f" [.float 1e10] "10000000000.0"
  assertRenders "%.*f" [.int32 3, .float 0.5] "0.500"

/-- Half rounds up on the first dropped digit; no place truncates; a carry stays in the fraction. -/
def rounding : Trial Unit := do
  assertRenders "%.1f" [.float 0.25] "0.3"
  assertRenders "%.2f" [.float 0.375] "0.38"
  assertRenders "%.1f" [.float 0.21] "0.2"
  assertRenders "%.0f" [.float 2.7] "2"
  assertRenders "%.1f" [.float 0.96] "0.9"

/-- Width and flags. -/
def floatFields : Trial Unit := do
  assertRenders "[%8.2f]" [.float 1.5] "[    1.50]"
  assertRenders "[%-8.1f]" [.float (-0.5)] "[-0.5    ]"
  assertRenders "[%08.2f]" [.float (-3.25)] "[-0003.25]"
  assertRenders "%+.1f" [.float 2.0] "+2.0"
  assertRenders "% .1f" [.float 2.0] " 2.0"

/-- Negative zero, single precision, and an argument that is no floating-point value. -/
def floatEdges : Trial Unit := do
  assertRenders "%.1f" [.float (-0.0)] "0.0"
  assertRenders "%.2f" [toArgument (0.75 : Float32)] "0.75"
  assertRenders "[%f]" [.int32 1] "[]"

end FloatSuite

/-- The suite `float`. -/
def floatSuite : Suite where
  name := "float"
  tests := [
    FloatSuite.defaultPrecision.test "test_default_precision",
    FloatSuite.explicitPrecision.test "test_explicit_precision",
    FloatSuite.rounding.test "test_rounding",
    FloatSuite.floatFields.test "test_float_fields",
    FloatSuite.floatEdges.test "test_float_edges"]

end BoundedFormat
