import BoundedFormat.Proofs.Template.Rebuilding
import BoundedFormat.Proofs.Template.Tiling

/-!
# One flag more in a directive

A flag byte that is put anywhere among the flags of a directive is read as one flag more of this
directive, and the rest of the template is read as before (`segments_withFlag`). What the byte means
there is added to the flags (`Spelling.directive_withFlag`).
-/

namespace BoundedFormat

/-- The flags with the one that a byte stands for. -/
def Flags.add (b : UInt8) (flags : Flags) : Flags := (ofByte? b).getD none ∪ flags

/-- The directive with one flag more. -/
def Directive.withFlag (b : UInt8) (directive : Directive) : Directive :=
  { directive with flags := directive.flags.add b }

/-- The spelling with a byte more in front of flag `k`. -/
def Spelling.withFlag (k : Nat) (b : UInt8) (s : Spelling) : Spelling :=
  { s with flags := s.flags.insertIdx k b }

/-- The template with a byte more in directive `i`, in front of its flag `k`. -/
def withFlag (template : Bytes) (i k : Nat) (b : UInt8) : Bytes :=
  template.insertIdx (sourceStart (segments template) i + 1 + k) b

/-! ## What the flag means -/

/-- A flag byte means the same wherever it stands among the flags. -/
theorem Flags.ofBytes_insertIdx {run : Bytes} {k : Nat} (hk : k ≤ run.length) (b : UInt8) :
    ofBytes (run.insertIdx k b) = (ofBytes run).add b := by
  rw [add, ← ofBytes_cons, ofBytes_eq, ofBytes_eq]
  simp only [List.mem_insertIdx hk, List.mem_cons]

/-- A flag more in the spelling is a flag more in the directive. -/
theorem Spelling.directive_withFlag (s : Spelling) {k : Nat} (hk : k ≤ s.flags.length)
    (b : UInt8) : (s.withFlag k b).directive = s.directive.withFlag b := by
  rw [withFlag, directive, Flags.ofBytes_insertIdx hk]
  rfl

/-! ## Where the flag is read -/

/-- A byte put in behind the first part of a row stands between both parts. -/
theorem insertIdx_between (front behind : Bytes) (b : UInt8) :
    (front ++ behind).insertIdx front.length b = front ++ b :: behind := by
  induction front with
  | nil => rfl
  | cons first rest ih =>
    rw [List.cons_append, List.length_cons, List.insertIdx_succ_cons, ih, List.cons_append]

/-- A directive is spelled with its flags in front. -/
theorem Spelling.text_eq_flags_append (s : Spelling) :
    s.text = s.flags ++ { s with flags := [] }.text := by
  simp only [text, List.append_assoc, List.nil_append]

/-- A flag more in the spelling is a byte more in the text. -/
theorem Spelling.text_withFlag (s : Spelling) {k : Nat} (hk : k ≤ s.flags.length) (b : UInt8) :
    s.text = s.flags.take k ++ (s.flags.drop k ++ { s with flags := [] }.text) ∧
      (s.withFlag k b).text =
        s.flags.take k ++ b :: (s.flags.drop k ++ { s with flags := [] }.text) := by
  have hflags := insertIdx_between (s.flags.take k) (s.flags.drop k) b
  rw [List.take_append_drop, List.length_take, Nat.min_eq_left hk] at hflags
  refine ⟨?_, ?_⟩
  · rw [text_eq_flags_append, ← List.append_assoc, List.take_append_drop]
  · rw [text_eq_flags_append, withFlag, hflags, List.append_assoc, List.cons_append]

/-- The parts of a directive stay greedy with one flag more. -/
theorem Spelling.IsGreedy.withFlag {s : Spelling} {rest : Bytes} (h : s.IsGreedy rest) {k : Nat}
    (hk : k ≤ s.flags.length) {b : UInt8} (hb : b ∈ flagBytes) :
    (s.withFlag k b).IsGreedy rest := by
  refine ⟨⟨fun c hc => ?_, h.flags.ends⟩, h.width, h.precision, h.length, h.letter⟩
  obtain rfl | hc := (List.mem_insertIdx hk).1 hc
  · exact List.contains_iff_mem.2 hb
  · exact h.flags.all c hc

section

variable {template : Bytes} {i k : Nat} {s : Spelling} {b : UInt8}
  (hsegment : (segments template)[i]? = some (.directive s)) (hk : k ≤ s.flags.length)
include hsegment hk

/-- In front of the byte stand the segments before, the percent sign and the flags before; what is
behind it stays. -/
theorem exists_around_flag (b : UInt8) :
    ∃ front behind : Bytes, front.length = sourceStart (segments template) i + 1 + k ∧
      template = front ++ behind ∧
      ((segments template).set i (.directive (s.withFlag k b))).flatMap Segment.source ++
        template.dropWhile (· != Ascii.nul) = front ++ b :: behind := by
  obtain ⟨hlt, hget⟩ := List.getElem?_eq_some_iff.1 hsegment
  obtain ⟨htext, hflagged⟩ := s.text_withFlag hk b
  have hset : ∀ other : Segment, ((segments template).set i other).flatMap Segment.source =
      ((segments template).take i).flatMap Segment.source ++ (other.source ++
        ((segments template).drop (i + 1)).flatMap Segment.source) := by
    intro other
    rw [List.set_eq_take_append_cons_drop, if_pos hlt, List.flatMap_append, List.flatMap_cons]
  have hself := hset (.directive s)
  rw [← hget, List.set_getElem_self, hget, segments, flatMap_source_cut, ← segments] at hself
  refine ⟨((segments template).take i).flatMap Segment.source ++
      Ascii.percent :: s.flags.take k,
    s.flags.drop k ++ { s with flags := [] }.text ++
      ((segments template).drop (i + 1)).flatMap Segment.source ++
        template.dropWhile (· != Ascii.nul), ?_, ?_, ?_⟩
  · rw [List.length_append, List.length_cons, List.length_take, Nat.min_eq_left hk, sourceStart]
    omega
  · refine (List.takeWhile_append_dropWhile (p := (· != Ascii.nul)) (l := template)).symm.trans ?_
    rw [← beforeNul, hself, Segment.source, htext]
    simp only [List.append_assoc, List.cons_append]
  · rw [hset, Segment.source, hflagged]
    simp only [List.append_assoc, List.cons_append]

/-- The template with one flag more is put together from its segments, of which one has a flag
more. -/
theorem withFlag_eq (b : UInt8) :
    withFlag template i k b =
      ((segments template).set i (.directive (s.withFlag k b))).flatMap Segment.source ++
        template.dropWhile (· != Ascii.nul) := by
  obtain ⟨front, behind, hlength, htemplate, hflagged⟩ := exists_around_flag hsegment hk b
  rw [hflagged, withFlag, ← hlength]
  refine (congrArg (List.insertIdx · front.length b) htemplate).trans ?_
  exact insertIdx_between front behind b

/-- A flag byte among the flags of a directive is one flag more of this directive. All other
segments stay as they are. -/
theorem segments_withFlag (hb : b ∈ flagBytes) :
    segments (withFlag template i k b) =
      (segments template).set i (.directive (s.withFlag k b)) := by
  rw [withFlag_eq hsegment hk]
  refine ((isCut_cut (beforeNul template)).set hsegment fun rest hs =>
    hs.withFlag hk hb).segments_source_append (fun segment hmem => ?_) template
  obtain hmem | rfl := List.mem_or_eq_of_mem_set hmem
  · exact nul_notMem_source hmem
  · have hs := nul_notMem_source (List.mem_of_getElem? hsegment)
    obtain ⟨htext, hflagged⟩ := s.text_withFlag hk b
    rw [Segment.source, htext] at hs
    rw [Segment.source, hflagged]
    have hnul : Ascii.nul ≠ b := by
      rintro rfl
      exact absurd hb (by decide)
    simpa [hnul] using hs

end

end BoundedFormat
