import BoundedFormat.Selftest.Assertion

/-!
# Rendering in trials

Most trials format a template into a buffer that is large enough for anything they write, and
compare the bytes stored with a text.
-/

namespace BoundedFormat

namespace Trial

/-- The size of the buffer that trials format into. -/
def renderMax : Nat := 256

/-- Format into a fresh buffer; the result is the bytes stored. -/
def render (template : String) (arguments : List Argument) : Trial Bytes := do
  let cells := Array.replicate renderMax 0
  let formatted ← Report.formatInto cells (utf8 template) arguments #[]
  return formatted.stored

/-- The template must render as the text. -/
def assertRenders (template : String) (arguments : List Argument) (expected : String) :
    Trial Unit := do
  let actual ← render template arguments
  assertBytesEq actual (utf8 expected) none

end Trial

end BoundedFormat
