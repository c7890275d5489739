import BoundedFormat.Template.Segment

/-!
# Cutting, one segment at a time

What `cut` does to bytes that begin with a percent sign and to bytes that do not, and the cutting of
a closed template: `cutWithin` takes a bound on the segments and evaluates, and with the length of
the template for a bound it is `cut`.
-/

namespace BoundedFormat

/-- A percent sign opens a directive. -/
theorem cut_percent (rest : Bytes) :
    cut (Ascii.percent :: rest) =
      .directive (Spelling.read rest).1 :: cut (Spelling.read rest).2 := by
  rw [cut, if_pos rfl]

/-- Any other byte begins a literal run. -/
theorem cut_of_ne_percent {b : UInt8} (rest : Bytes) (h : b ≠ Ascii.percent) :
    cut (b :: rest) = .literal (b :: rest.takeWhile (· != Ascii.percent)) ::
      cut (rest.dropWhile (· != Ascii.percent)) := by
  rw [cut, if_neg h]

/-- Bytes that are there are cut into segments. -/
theorem cut_ne_nil {bytes : Bytes} (h : bytes ≠ []) : cut bytes ≠ [] := by
  rcases bytes with _ | ⟨b, rest⟩
  · exact absurd rfl h
  · rw [cut]
    split <;> exact List.cons_ne_nil _ _

/-- Cut bytes into at most `n` segments. -/
def cutWithin : Nat → Bytes → List Segment
  | 0, _ => []
  | _ + 1, [] => []
  | n + 1, b :: rest =>
    if b = Ascii.percent then
      .directive (Spelling.read rest).1 :: cutWithin n (Spelling.read rest).2
    else
      .literal (b :: rest.takeWhile (· != Ascii.percent)) ::
        cutWithin n (rest.dropWhile (· != Ascii.percent))

/-- There are no more segments than bytes. -/
theorem cut_eq_cutWithin {n : Nat} {bytes : Bytes} (h : bytes.length ≤ n) :
    cut bytes = cutWithin n bytes := by
  induction n generalizing bytes with
  | zero =>
    rw [List.length_eq_zero_iff.1 (Nat.le_zero.1 h), cut]
    rfl
  | succ n ih =>
    rcases bytes with _ | ⟨b, rest⟩
    · rw [cut]
      rfl
    · have hrest : rest.length ≤ n := Nat.le_of_succ_le_succ h
      by_cases hb : b = Ascii.percent
      · subst hb
        rw [cut_percent, ih (Nat.le_trans (Spelling.length_read_le rest) hrest), cutWithin,
          if_pos rfl]
      · have hdrop := (List.dropWhile_suffix (l := rest) (· != Ascii.percent)).length_le
        rw [cut_of_ne_percent rest hb, ih (Nat.le_trans hdrop hrest), cutWithin, if_neg hb]

/-- The segments of a template, evaluated. -/
theorem segments_eq_cutWithin (template : Bytes) :
    segments template = cutWithin template.length (beforeNul template) :=
  cut_eq_cutWithin (List.takeWhile_prefix _).length_le

end BoundedFormat
