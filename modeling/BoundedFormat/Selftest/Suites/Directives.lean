import BoundedFormat.Selftest.Runner
import BoundedFormat.Selftest.Suites.Render

/-!
# The suite `format`

Integers, flags, widths, precisions, texts, pointers and counts, and what becomes of arguments that
do not fit.
-/

namespace BoundedFormat

namespace FormatSuite

open Trial

/-! ## Integers -/

/-- Signed decimals, up to the ends of 32 bits. -/
def signedDecimal : Trial Unit := do
  assertRenders "%d" [.int32 0] "0"
  assertRenders "%d" [.int32 (-42)] "-42"
  assertRenders "%i" [.int32 2147483647] "2147483647"
  assertRenders "%d" [.int32 (-2147483648)] "-2147483648"

/-- Unsigned decimals and hexadecimals. -/
def unsignedAndHex : Trial Unit := do
  assertRenders "%u" [.uint32 4294967295] "4294967295"
  assertRenders "%u" [.int32 (-1)] "4294967295"
  assertRenders "%x" [.uint32 0xdeadbeef] "deadbeef"
  assertRenders "%x" [.uint32 0] "0"

/-- The length modifiers; without one only the low 32 bits are read. -/
def lengthModifiers : Trial Unit := do
  assertRenders "%lld" [.int64 (-9223372036854775808)] "-9223372036854775808"
  assertRenders "%llu" [.uint64 18446744073709551615] "18446744073709551615"
  assertRenders "%llx" [.uint64 18446744073709551615] "ffffffffffffffff"
  assertRenders "%x" [.uint64 0x1000000ff] "ff"

/-! ## Flags, width, precision -/

/-- The plus and space flags. -/
def signFlags : Trial Unit := do
  assertRenders "%+d" [.int32 5] "+5"
  assertRenders "% d" [.int32 5] " 5"
  assertRenders "%+ d" [.int32 5] "+5"
  assertRenders "% d" [.int32 (-5)] "-5"

/-- Padding with spaces and zeros, on either side. -/
def widthAndPadding : Trial Unit := do
  assertRenders "[%6d]" [.int32 (-42)] "[   -42]"
  assertRenders "[%-6d]" [.int32 (-42)] "[-42   ]"
  assertRenders "[%06d]" [.int32 (-42)] "[-00042]"
  assertRenders "[%-06d]" [.int32 42] "[42    ]"
  assertRenders "[%08x]" [.uint32 0xbeef] "[0000beef]"
  assertRenders "[%2d]" [.int32 12345] "[12345]"

/-- The least number of digits. -/
def precision : Trial Unit := do
  assertRenders "%.5d" [.int32 42] "00042"
  assertRenders "[%8.4d]" [.int32 (-7)] "[   -0007]"
  assertRenders "[%08.3d]" [.int32 7] "[     007]"
  assertRenders "[%.0d]" [.int32 0] "[]"
  assertRenders "[%3.0u]" [.uint32 0] "[   ]"
  assertRenders "[%+.0d]" [.int32 0] "[+]"
  assertRenders "[%.0d]" [.int32 3] "[3]"

/-- Widths and precisions from the arguments. -/
def starArguments : Trial Unit := do
  assertRenders "[%*d]" [.int32 5, .int32 42] "[   42]"
  assertRenders "[%*d]" [.int32 (-5), .int32 42] "[42   ]"
  assertRenders "[%.*d]" [.int32 4, .int32 9] "[0009]"
  assertRenders "[%.*d]" [.int32 (-1), .int32 0] "[]"
  assertRenders "[%*.*s]" [.int32 6, .int32 3, toArgument "revenant"] "[   rev]"

/-! ## Texts, pointers, counts -/

/-- Texts end at their first NUL. -/
def strings : Trial Unit := do
  assertRenders "%s" [toArgument "e1m1"] "e1m1"
  assertRenders "[%7s]" [toArgument "e1m1"] "[   e1m1]"
  assertRenders "[%-7s]" [toArgument "e1m1"] "[e1m1   ]"
  assertRenders "[%07s]" [toArgument "e1m1"] "[   e1m1]"
  assertRenders "%.2s" [toArgument "e1m1"] "e1"
  assertRenders "[%s]" [toArgument ""] "[]"
  assertRenders "%s" [toArgument "ab\x00cd"] "ab"

/-- Single characters, of which the low byte counts. -/
def characters : Trial Unit := do
  assertRenders "%c%c" [toArgument 'o', toArgument 'k'] "ok"
  assertRenders "[%3c]" [toArgument 'x'] "[  x]"
  assertRenders "[%-3c]" [toArgument 'x'] "[x  ]"
  assertRenders "%c" [.int32 0x141] "A"

/-- Addresses, and the address zero. -/
def pointers : Trial Unit := do
  assertRenders "%p" [.pointer 0xb800] "0xb800"
  assertRenders "[%10p]" [.pointer 0xb800] "[    0xb800]"
  assertRenders "[%-10p]" [.pointer 0xb800] "[0xb800    ]"
  assertRenders "[%010p]" [.pointer 0xb800] "[    0xb800]"
  assertRenders "%p" [.pointer 0] "(nil)"
  assertRenders "[%7p]" [.pointer 0] "[  (nil)]"

/-- Counts are of all bytes offered, also past the end of a short buffer. -/
def writeCount : Trial Unit := do
  let cells := Array.replicate renderMax 0
  let formatted ← Report.formatInto cells (utf8 "%n%d bullets%n")
    [.counter 0, .int32 50, .counter 1] #[-1, -1]
  assertBytesEq formatted.stored (utf8 "50 bullets") none
  assertEq (formatted.counters.getD 0 (-1)) 0 none
  assertEq (formatted.counters.getD 1 (-1)) 10 none
  let short ← Report.formatInto (Array.replicate 4 0) (utf8 "overflowing%n") [.counter 0] #[-1]
  assertEq (short.counters.getD 0 (-1)) 11 none

/-- The percent sign, and directives that are discarded. -/
def percentAndUnknown : Trial Unit := do
  assertRenders "100%%" [] "100%"
  assertRenders "[%5%]" [] "[%]"
  assertRenders "a%qb" [] "ab"
  assertRenders "err%m!" [] "err!"
  assertRenders "tail%" [] "tail"
  assertRenders "tail%-08" [] "tail"

/-- An argument of the wrong kind is consumed and skipped; an exhausted list writes nothing. -/
def argumentMismatchSkips : Trial Unit := do
  assertRenders "[%d][%s]" [toArgument "imp", toArgument "demon"] "[][demon]"
  assertRenders "[%d][%d]" [.int32 1] "[1][]"
  assertRenders "[%*d]" [] "[]"

end FormatSuite

/-- The suite `format`. -/
def formatSuite : Suite where
  name := "format"
  tests := [
    FormatSuite.signedDecimal.test "test_signed_decimal",
    FormatSuite.unsignedAndHex.test "test_unsigned_and_hex",
    FormatSuite.lengthModifiers.test "test_length_modifiers",
    FormatSuite.signFlags.test "test_sign_flags",
    FormatSuite.widthAndPadding.test "test_width_and_padding",
    FormatSuite.precision.test "test_precision",
    FormatSuite.starArguments.test "test_star_arguments",
    FormatSuite.strings.test "test_strings",
    FormatSuite.characters.test "test_chars",
    FormatSuite.pointers.test "test_pointers",
    FormatSuite.writeCount.test "test_write_count",
    FormatSuite.percentAndUnknown.test "test_percent_and_unknown",
    FormatSuite.argumentMismatchSkips.test "test_argument_mismatch_skips"]

end BoundedFormat
