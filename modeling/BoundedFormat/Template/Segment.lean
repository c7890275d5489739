import BoundedFormat.Template.Spelling
import BoundedFormat.Text.NulTerminated

/-!
# The segments of a template

A template is cut into literal runs and directives. Each segment keeps its own bytes, so the sources
of the segments, one after the other, are the template up to its first NUL.
-/

namespace BoundedFormat

/-- A piece of a template. -/
inductive Segment where
  /-- A run of bytes without a percent sign, written as it stands. -/
  | literal (run : Bytes)
  /-- A percent sign and the directive spelled behind it. -/
  | directive (spelling : Spelling)
  deriving DecidableEq, Repr

/-- The bytes of the template that the segment covers. -/
def Segment.source : Segment → Bytes
  | literal run => run
  | directive spelling => Ascii.percent :: spelling.text

/-- Cut bytes into segments. -/
def cut (bytes : Bytes) : List Segment :=
  match bytes with
  | [] => []
  | b :: rest =>
    if b = Ascii.percent then
      .directive (Spelling.read rest).1 :: cut (Spelling.read rest).2
    else
      .literal (b :: rest.takeWhile (· != Ascii.percent)) ::
        cut (rest.dropWhile (· != Ascii.percent))
termination_by bytes.length
decreasing_by
  · exact Nat.lt_succ_of_le (Spelling.length_read_le rest)
  · exact Nat.lt_succ_of_le (List.dropWhile_suffix _).length_le

/-- The segments of a template, which ends at its first NUL. -/
def segments (template : Bytes) : List Segment := cut (beforeNul template)

/-- The sources of the segments are the bytes that were cut. -/
theorem flatMap_source_cut (bytes : Bytes) : (cut bytes).flatMap Segment.source = bytes := by
  fun_induction cut bytes with
  | case1 => rfl
  | case2 rest ih => simp [Segment.source, ih, Spelling.text_read]
  | case3 b rest h ih => simp [Segment.source, ih, List.takeWhile_append_dropWhile]

/-- No segment of a template has a NUL in it. -/
theorem nul_notMem_source {template : Bytes} {segment : Segment}
    (hmem : segment ∈ segments template) : Ascii.nul ∉ segment.source := by
  intro hnul
  have hsource : Ascii.nul ∈ (segments template).flatMap Segment.source :=
    List.mem_flatMap.2 ⟨segment, hmem, hnul⟩
  rw [segments, flatMap_source_cut] at hsource
  exact ne_nul_of_mem_beforeNul hsource rfl

end BoundedFormat
