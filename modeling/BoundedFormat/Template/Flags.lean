import BoundedFormat.Text.Bytes

/-!
# Directive flags

Four flags stand between the percent sign and the width, each any number of times and in any order.
Repeating one changes nothing, so a run of flag bytes means the set of the flags in it.
-/

namespace BoundedFormat

/-- The flags of a directive. -/
structure Flags where
  /-- `0`: pad a number with zeros up to the width. -/
  zeroPad : Bool := false
  /-- `-`: pad on the right instead of the left. -/
  leftJustify : Bool := false
  /-- `+`: write a sign in front of a signed number that is not negative. -/
  forceSign : Bool := false
  /-- A space: write a space where a plus sign would go. -/
  spaceSign : Bool := false
  deriving DecidableEq, Repr

namespace Flags

/-- No flag at all. -/
def none : Flags := {}

/-- The flags of either set. -/
def union (a b : Flags) : Flags where
  zeroPad := a.zeroPad || b.zeroPad
  leftJustify := a.leftJustify || b.leftJustify
  forceSign := a.forceSign || b.forceSign
  spaceSign := a.spaceSign || b.spaceSign

instance : Union Flags := ⟨union⟩

/-- The flag that a byte stands for. -/
def ofByte? (b : UInt8) : Option Flags :=
  if b = Ascii.zero then some { zeroPad := true }
  else if b = Ascii.minus then some { leftJustify := true }
  else if b = Ascii.plus then some { forceSign := true }
  else if b = Ascii.space then some { spaceSign := true }
  else Option.none

/-- Does the byte stand for a flag? -/
def isFlag (b : UInt8) : Bool := (ofByte? b).isSome

/-- The flags of a run of flag bytes. -/
def ofBytes (run : Bytes) : Flags :=
  run.foldl (fun flags b => flags ∪ (ofByte? b).getD none) none

/-! ## The flags of a run, one by one -/

private theorem foldl_union (run : Bytes) (flags : Flags) :
    run.foldl (fun flags b => flags ∪ (ofByte? b).getD none) flags = flags ∪ ofBytes run := by
  induction run generalizing flags with
  | nil => simp [ofBytes, Union.union, union, none]
  | cons b rest ih =>
    rw [ofBytes, List.foldl_cons, List.foldl_cons, ih, ih]
    simp [Union.union, union, none, Bool.or_assoc]

/-- Adding a byte to the run adds its flag. -/
theorem ofBytes_cons (b : UInt8) (run : Bytes) :
    ofBytes (b :: run) = (ofByte? b).getD none ∪ ofBytes run := by
  rw [ofBytes, List.foldl_cons, foldl_union]
  simp [Union.union, union, none]

end Flags

end BoundedFormat
