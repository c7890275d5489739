import BoundedFormat.Plan.Effect
import BoundedFormat.Template.Segment

/-!
# The plan of a call

A template and its arguments determine, before anything is written, what every segment will do. The
plan lists these effects in order, with the place in the arguments behind the last one read and the
diagnostics of the whole run. `output` is what an unbounded buffer would receive.
-/

namespace BoundedFormat

/-- Settle the width. A negative one from an argument asks for left justification. -/
def Width.resolve (width : Width) (flags : Flags) (arguments : ArgumentCursor) :
    Reading (Flags × Nat) :=
  match width with
  | fixed n => ⟨(flags, n.toNat), arguments, []⟩
  | fromArgument =>
    let star := readStar arguments
    let flags := if star.value < 0 then { flags with leftJustify := true } else flags
    ⟨(flags, star.value.toInt.natAbs), star.arguments, star.diagnostics⟩

/-- Settle the precision. A negative one from an argument counts as given and zero. -/
def Precision.resolve (precision : Precision) (arguments : ArgumentCursor) :
    Reading (Option Nat) :=
  match precision with
  | unspecified => ⟨none, arguments, []⟩
  | fixed n => ⟨some n.toNat, arguments, []⟩
  | fromArgument =>
    let star := readStar arguments
    ⟨some star.value.toInt.toNat, star.arguments, star.diagnostics⟩

/-- Settle a directive: its width, then its precision, then its conversion. -/
def Directive.resolve (directive : Directive) (arguments : ArgumentCursor) : Reading Effect :=
  let width := directive.width.resolve directive.flags arguments
  let precision := directive.precision.resolve width.arguments
  let place : Placement := ⟨width.value.1, width.value.2, precision.value⟩
  let conversion := directive.conversion.resolve place directive.length precision.arguments
  ⟨conversion.value, conversion.arguments,
    width.diagnostics ++ precision.diagnostics ++ conversion.diagnostics⟩

/-- Settle a segment. -/
def Segment.resolve (segment : Segment) (arguments : ArgumentCursor) : Reading Effect :=
  match segment with
  | literal run => ⟨.write (.run run), arguments, []⟩
  | directive spelling => spelling.directive.resolve arguments

/-- The effects of a call, in order, and how the arguments were read. -/
abbrev Plan := Reading (List Effect)

/-- Settle segments one after the other. -/
def planSegments : List Segment → ArgumentCursor → Plan
  | [], arguments => ⟨[], arguments, []⟩
  | segment :: rest, arguments =>
    let first := segment.resolve arguments
    let others := planSegments rest first.arguments
    ⟨first.value :: others.value, others.arguments, first.diagnostics ++ others.diagnostics⟩

/-- The plan of a template with its arguments. -/
def plan (template : Bytes) (arguments : List Argument) : Plan :=
  planSegments (segments template) (.ofList arguments)

/-- The whole output of a template with its arguments, as without any bound. -/
def output (template : Bytes) (arguments : List Argument) : Bytes :=
  (plan template arguments).value.flatMap Effect.bytes

end BoundedFormat
