import BoundedFormat.Proofs.Argument.Integer
import BoundedFormat.Proofs.Output.Fields
import BoundedFormat.Proofs.Plan.Values
import BoundedFormat.Proofs.Template.Cutting

/-!
# Texts and characters in the output

Of a byte string a text conversion shows the longest initial part that has no NUL in it and is no
longer than the precision (`IsShownText`), padded with spaces to the width. Nothing behind that part
is told apart: two byte strings of which the same part is shown can stand for each other in any call
(`Converts.settlements_set_text`). A character conversion shows a single byte, whatever its
precision and length modifier are.
-/

namespace BoundedFormat

/-! ## What is shown of a byte string -/

/-- The longest initial part of the bytes that has no NUL in it and is no longer than the limit, if
there is one. -/
structure IsShownText (text bytes : Bytes) (limit : Option Nat) : Prop where
  isPrefix : text <+: bytes
  nul_notMem : Ascii.nul ∉ text
  length_le : ∀ n, limit = some n → text.length ≤ n
  longest : ∀ other, other <+: bytes → Ascii.nul ∉ other →
    (∀ n, limit = some n → other.length ≤ n) → other.length ≤ text.length

/-- An initial part without a NUL ends before the first NUL. -/
theorem prefix_beforeNul {text bytes : Bytes} (hinitial : text <+: bytes)
    (hnul : Ascii.nul ∉ text) : text <+: beforeNul bytes := by
  obtain ⟨rest, rfl⟩ := hinitial
  rw [beforeNul_append hnul]
  exact List.prefix_append text _

/-- No byte of a text in front of a NUL is one. -/
theorem nul_notMem_boundedText (bytes : Bytes) (limit : Option Nat) :
    Ascii.nul ∉ boundedText bytes limit := by
  cases limit <;> exact fun h => ne_nul_of_mem_beforeNul h rfl

/-- The bounded text is the part that is shown. -/
theorem isShownText_boundedText (bytes : Bytes) (limit : Option Nat) :
    IsShownText (boundedText bytes limit) bytes limit := by
  cases limit with
  | none =>
    refine ⟨beforeNul_isPrefix bytes, nul_notMem_boundedText bytes none, nofun, ?_⟩
    intro other hother hnul _
    exact (prefix_beforeNul hother hnul).length_le
  | some n =>
    obtain ⟨hinitial, hlength⟩ := List.prefix_take_iff.1 (beforeNul_isPrefix (bytes.take n))
    refine ⟨hinitial, nul_notMem_boundedText bytes (some n), ?_, ?_⟩
    · rintro _ ⟨⟩
      exact hlength
    · intro other hother hnul hle
      exact (prefix_beforeNul (List.prefix_take_iff.2 ⟨hother, hle n rfl⟩) hnul).length_le

/-- One part of the bytes is shown and no other. -/
theorem isShownText_iff {text bytes : Bytes} {limit : Option Nat} :
    IsShownText text bytes limit ↔ text = boundedText bytes limit := by
  constructor
  · intro h
    have hbounded := isShownText_boundedText bytes limit
    have hle := hbounded.longest text h.isPrefix h.nul_notMem h.length_le
    have hge := h.longest _ hbounded.isPrefix hbounded.nul_notMem hbounded.length_le
    have hinitial := List.prefix_of_prefix_length_le h.isPrefix hbounded.isPrefix hle
    exact hinitial.eq_of_length (Nat.le_antisymm hle hge)
  · rintro rfl
    exact isShownText_boundedText bytes limit

/-- The same part of two byte strings is shown. -/
def ShowSame (limit : Option Nat) (bytes other : Bytes) : Prop :=
  ∃ text, IsShownText text bytes limit ∧ IsShownText text other limit

theorem showSame_iff {limit : Option Nat} {bytes other : Bytes} :
    ShowSame limit bytes other ↔ boundedText other limit = boundedText bytes limit := by
  simp only [ShowSame, isShownText_iff]
  constructor
  · rintro ⟨text, hbytes, hother⟩
    rw [← hbytes, hother]
  · intro h
    exact ⟨_, rfl, h.symm⟩

/-- Nothing behind a NUL is shown. -/
theorem showSame_append_nul (limit : Option Nat) (front tail other : Bytes) :
    ShowSame limit (front ++ Ascii.nul :: tail) (front ++ Ascii.nul :: other) := by
  rw [showSame_iff]
  cases limit with
  | none => rw [boundedText, boundedText, beforeNul_append_nul, beforeNul_append_nul]
  | some n =>
    rw [boundedText, boundedText, List.take_append, List.take_append]
    rcases n - front.length with _ | k
    · rfl
    · rw [List.take_succ_cons, List.take_succ_cons, beforeNul_append_nul, beforeNul_append_nul]

/-- Nothing behind the limit is shown. -/
theorem showSame_of_take_eq {n : Nat} {bytes other : Bytes} (h : bytes.take n = other.take n) :
    ShowSame (some n) bytes other := by
  rw [showSame_iff, boundedText, boundedText, h]

/-! ## Texts in a call -/

section

variable {template : Bytes} {arguments : List Argument} {i : Nat} {argument : Argument}
  {place : Placement} {bytes : Bytes}

/-- A text conversion adds the shown part of its text to the output, padded with spaces. -/
theorem Converts.contribution_text (h : Converts template arguments i .text (.text bytes) place) :
    (contributions template arguments)[i]? =
      some (paddedLayout place.flags place.width (boundedText bytes place.precision)) :=
  h.contribution_eq fun _ => rfl

/-- A character conversion adds the low byte of its integer to the output, padded with spaces. -/
theorem Converts.contribution_character {bits : UInt64}
    (h : Converts template arguments i .character argument place)
    (hbits : argument.integerBits? = some bits) :
    (contributions template arguments)[i]? =
      some (paddedLayout place.flags place.width [bits.toUInt8]) := by
  have heffect : ∀ length, Conversion.character.effect? place length argument =
      some (.write (place.character bits)) := by
    intro length
    rw [Conversion.effect?, hbits]
    rfl
  exact h.contribution_eq heffect

/-- A reader finds the same after the argument of another one was replaced. -/
theorem found_set_of_ne {k n : Nat} {reader : Reader} {slot : Slot}
    (hslot : (slots template)[k]? = some slot) (hne : slot ≠ ⟨n, reader⟩) (other : Argument) :
    found template (arguments.set k other) n reader = found template arguments n reader := by
  refine found_congr template fun j hj => ?_
  have hjk : k ≠ j := by
    rintro rfl
    exact hne (Option.some.inj (hslot.symm.trans hj))
  exact List.getElem?_set_ne hjk

/-- A directive whose value finds another text of which the same part is shown comes to the same. -/
theorem Directive.settle_eq_of_boundedText {directive : Directive}
    {found others : Reader → Option Argument} {other : Bytes}
    (hconversion : directive.conversion = .text) (hwidth : others .width = found .width)
    (hprecision : others .precision = found .precision) (hvalue : found .value = some (.text bytes))
    (hother : others .value = some (.text other))
    (hshown : boundedText other (directive.placeOf found).precision =
      boundedText bytes (directive.placeOf found).precision) :
    directive.settle others = directive.settle found := by
  have hplace : directive.placeOf others = directive.placeOf found := by
    rw [placeOf, placeOf, hwidth, hprecision]
  have hresolve : ∀ text : Bytes,
      Conversion.text.resolve (directive.placeOf found) directive.length
          (.ofList (some (Argument.text text)).toList) =
        ⟨.write ((directive.placeOf found).text text), ⟨1, []⟩, []⟩ := fun _ => rfl
  have htext : (directive.placeOf found).text other = (directive.placeOf found).text bytes := by
    rw [Placement.text, Placement.text, hshown]
  simp only [settle_eq, hplace, hwidth, hprecision, hvalue, hother, hconversion, hresolve, htext]

/-- Texts of which the same part is shown come to the same in any call. -/
theorem Converts.settlements_set_text
    (h : Converts template arguments i .text (.text bytes) place) {k : Nat}
    (hslot : (slots template)[k]? = some ⟨i, .value⟩) {other : Bytes}
    (hshown : boundedText other place.precision = boundedText bytes place.precision) :
    settlements template (arguments.set k (.text other)) = settlements template arguments := by
  obtain ⟨spelling, hsegment, hconversion, hvalue, rfl⟩ := h
  have hargument : arguments[k]? = some (.text bytes) :=
    (found_of_getElem?_slots arguments hslot).symm.trans hvalue
  have hother : found template (arguments.set k (.text other)) i .value = some (.text other) := by
    rw [found_of_getElem?_slots _ hslot,
      List.getElem?_set_self (List.getElem?_eq_some_iff.1 hargument).1]
  rw [settlements, settlements]
  refine List.ext_getElem? fun n => ?_
  rw [List.getElem?_mapIdx, List.getElem?_mapIdx]
  by_cases hn : n = i
  · subst hn
    rw [hsegment]
    exact congrArg some (Directive.settle_eq_of_boundedText hconversion
      (found_set_of_ne hslot (by simp) _) (found_set_of_ne hslot (by simp) _) hvalue hother hshown)
  · -- Any other segment finds what it found before.
    have hfound :
        found template (arguments.set k (.text other)) n = found template arguments n := by
      funext reader
      exact found_set_of_ne hslot (fun heq => hn (Slot.mk.inj heq).1.symm) _
    rw [hfound]

end

/-- Texts and characters are shown up to their bounds. A text conversion shows the longest initial
part of its byte string without a NUL and within its precision, padded with spaces to its width on
the side that its flags ask for. Another byte string of which the same part is shown makes no
difference to the call, and so nothing does that stands behind a NUL or behind the precision. A
character conversion shows the low byte of the integer that it finds, padded likewise. -/
theorem texts_are_shown_up_to_their_bounds :
    (∀ (template : Bytes) (arguments : List Argument) (i : Nat) (bytes : Bytes) (place : Placement),
      Converts template arguments i .text (.text bytes) place →
        (∃ text padded, IsShownText text bytes place.precision ∧
          LaysOutText place.flags place.width text padded ∧
          (contributions template arguments)[i]? = some padded) ∧
        ∀ (k : Nat) (other : Bytes), (slots template)[k]? = some ⟨i, .value⟩ →
          ShowSame place.precision bytes other →
            let others := arguments.set k (.text other)
            output template others = output template arguments ∧
              ∀ (cells : Array UInt8) (counters : Counters),
                formatInto cells template others counters =
                    formatInto cells template arguments counters ∧
                  ∀ host, (Report.formatInto cells template others counters host).events =
                    (Report.formatInto cells template arguments counters host).events) ∧
      (∀ (limit : Option Nat) (front tail other : Bytes),
        ShowSame limit (front ++ Ascii.nul :: tail) (front ++ Ascii.nul :: other)) ∧
      (∀ (n : Nat) (bytes other : Bytes), bytes.take n = other.take n →
        ShowSame (some n) bytes other) ∧
      ∀ (template : Bytes) (arguments : List Argument) (i : Nat) (argument : Argument) (x : Int)
        (place : Placement),
        Converts template arguments i .character argument place → argument.integer? = some x →
          ∃ b padded, (b.toNat : Int) = pattern64 x % 256 ∧
            LaysOutText place.flags place.width [b] padded ∧
            (contributions template arguments)[i]? = some padded := by
  refine ⟨?_, showSame_append_nul, fun n bytes other => showSame_of_take_eq, ?_⟩
  · intro template arguments i bytes place h
    refine ⟨⟨_, _, isShownText_boundedText bytes place.precision, laysOutText_paddedLayout _ _ _,
      h.contribution_text⟩, ?_⟩
    intro k other hslot hsame others
    exact calls_eq_of_settlements List.length_set
      (h.settlements_set_text hslot (showSame_iff.1 hsame))
  · intro template arguments i argument x place h hinteger
    obtain ⟨bits, hbits, hpattern⟩ := Argument.integerBits?_of_integer? hinteger
    refine ⟨bits.toUInt8, _, ?_, laysOutText_paddedLayout _ _ _, h.contribution_character hbits⟩
    rw [← hpattern, UInt64.toNat_toUInt8]
    rfl

/-- A text that ends at a NUL in front of its precision, `%-6.*s`, which could as well end there
itself, and a wide character, `%3lc`. -/
theorem texts_are_shown_up_to_their_bounds_at_nul :
    let template := utf8 "%-6.*s|%3lc"
    let bytes := utf8 "ab" ++ Ascii.nul :: utf8 "cd"
    let arguments : List Argument := [.int32 4, .text bytes, .int32 0x141]
    Converts template arguments 0 .text (.text bytes) ⟨{ leftJustify := true }, 6, some 4⟩ ∧
      (contributions template arguments)[0]? = some (utf8 "ab    ") ∧
      ShowSame (some 4) bytes (utf8 "ab") ∧
      (∀ (cells : Array UInt8) (counters : Counters),
        formatInto cells template [.int32 4, .text (utf8 "ab"), .int32 0x141] counters =
          formatInto cells template arguments counters) ∧
      Converts template arguments 2 .character (.int32 0x141) ⟨{}, 3, none⟩ ∧
      (contributions template arguments)[2]? = some (utf8 "  A") := by
  intro template bytes arguments
  have hsegments : segments template = [
      .directive ⟨utf8 "-", .digits (utf8 "6"), some .star, .native, some 0x73⟩,
      .literal (utf8 "|"), .directive ⟨[], .digits (utf8 "3"), none, .long, some 0x63⟩] := by
    rw [segments_eq_cutWithin]
    rfl
  have hslots : slots template = [⟨0, .precision⟩, ⟨0, .value⟩, ⟨2, .value⟩] := by
    rw [slots, hsegments]
    rfl
  have htext : Converts template arguments 0 .text (.text bytes)
      ⟨{ leftJustify := true }, 6, some 4⟩ := by
    refine ⟨_, by rw [hsegments]; rfl, rfl, ?_, ?_⟩
    · rw [found, hslots]
      rfl
    · rw [Directive.placeOf, found, found, hslots]
      decide
  have hcharacter : Converts template arguments 2 .character (.int32 0x141) ⟨{}, 3, none⟩ := by
    refine ⟨_, by rw [hsegments]; rfl, rfl, ?_, rfl⟩
    rw [found, hslots]
    rfl
  have hsame : ShowSame (some 4) bytes (utf8 "ab") := showSame_iff.2 rfl
  obtain ⟨htexts, -, -, hcharacters⟩ := texts_are_shown_up_to_their_bounds
  obtain ⟨⟨text, padded, hshown, hpadded, hcontribution⟩, hothers⟩ :=
    htexts template arguments 0 bytes _ htext
  obtain ⟨b, paddedByte, hb, hpaddedByte, hcontributionByte⟩ :=
    hcharacters template arguments 2 _ 0x141 _ hcharacter rfl
  obtain rfl : text = utf8 "ab" := isShownText_iff.1 hshown
  obtain rfl : b = 0x41 := by
    rw [← UInt8.toNat_inj]
    exact Int.ofNat.inj hb
  refine ⟨htext, ?_, hsame, fun cells counters => ?_, hcharacter, ?_⟩
  · rw [hcontribution, hpadded.left rfl]
    rfl
  · exact ((hothers 1 _ (by rw [hslots]; rfl) hsame).2 cells counters).1
  · rw [hcontributionByte, hpaddedByte.right rfl]
    rfl

end BoundedFormat
