import BoundedFormat.Proofs.Plan.Values
import BoundedFormat.Proofs.Template.WrittenOut

/-!
# A star is the number that it finds

A template with stars does what it does with the numbers written out that its stars find among the
arguments (`withNumbers`), and with the arguments of the stars taken out (`withoutStars`). The
values keep what they find: the slots of the new template are those of the values, in their order
(`slots_withNumbers`), and so are the arguments that are left (`found_withNumbers`). A directive
then has the same place for its value, read from the template or from the arguments
(`placeOf_writeOut`).
-/

namespace BoundedFormat

/-- The template with each star replaced by the number that it finds. -/
def withNumbers (template : Bytes) (arguments : List Argument) : Bytes :=
  writeOutStars (fun i => starValue (found template arguments i .width))
    (fun i => starValue (found template arguments i .precision)) template

/-- The arguments without those that stars read. What no reader has a slot for stays. -/
def withoutStars : List Slot → List Argument → List Argument
  | slot :: slots, argument :: arguments =>
    if slot.reader = .value then argument :: withoutStars slots arguments
    else withoutStars slots arguments
  | _, arguments => arguments

/-! ## The values keep their arguments -/

/-- Is it the slot of a value? -/
def Slot.isValue (slot : Slot) : Bool := slot.reader = .value

/-- Of the readers of a directive only its value is left. -/
theorem Segment.readers_writeOut (width precision : Int) (segment : Segment) :
    (segment.writeOut width precision).readers = segment.readers.filter (· = .value) := by
  cases segment with
  | literal run => rfl
  | directive s =>
    have hwidth : (s.writeOut width precision).directive.hasReader .width = false := by
      rcases s with ⟨flags, _ | _, precision, length, letter⟩ <;> rfl
    have hprecision : (s.writeOut width precision).directive.hasReader .precision = false := by
      rcases s with ⟨flags, width, _ | _ | _, length, letter⟩ <;> rfl
    have hvalue : (s.writeOut width precision).directive.hasReader .value =
        s.directive.hasReader .value := rfl
    simp only [writeOut, readers, Directive.readers, Reader.all, List.filter_cons, hwidth,
      hprecision, hvalue]
    cases s.directive.hasReader .width <;> cases s.directive.hasReader .precision <;>
      cases s.directive.hasReader .value <;> rfl

/-- Of the slots of segments those of the values are left. -/
theorem slotsFrom_writeOutSegments (n : Nat) (all : List Segment) (width precision : Nat → Int) :
    slotsFrom n (writeOutSegments width precision all) =
      (slotsFrom n all).filter Slot.isValue := by
  induction all generalizing n width precision with
  | nil => rfl
  | cons segment rest ih =>
    rw [writeOutSegments_cons, slotsFrom, slotsFrom, ih, List.filter_append,
      segment.readers_writeOut, List.filter_map]
    rfl

/-- A value finds the same among the arguments that are left as among all of them. -/
theorem getElem?_withoutStars (slots : List Slot) (arguments : List Argument) {slot : Slot}
    (hvalue : slot.reader = .value) :
    ((slots.filter Slot.isValue).idxOf? slot).bind ((withoutStars slots arguments)[·]?) =
      (slots.idxOf? slot).bind (arguments[·]?) := by
  induction slots generalizing arguments with
  | nil => rfl
  | cons first rest ih =>
    rcases arguments with _ | ⟨argument, others⟩
    · -- No argument is left, so nothing is found on either side.
      cases (first :: rest).idxOf? slot <;>
        cases ((first :: rest).filter Slot.isValue).idxOf? slot <;> rfl
    · have hothers := ih others
      rw [withoutStars]
      by_cases hfirst : first.reader = .value
      · have hkept : first.isValue = true := decide_eq_true hfirst
        rw [if_pos hfirst, List.filter_cons_of_pos hkept, List.idxOf?_cons, List.idxOf?_cons]
        by_cases hslot : first = slot
        · rw [if_pos (beq_iff_eq.2 hslot), if_pos (beq_iff_eq.2 hslot)]
          rfl
        · rw [if_neg (by simpa using hslot), if_neg (by simpa using hslot), Option.bind_map,
            Option.bind_map]
          exact hothers
      · have hslot : first ≠ slot := by
          rintro rfl
          exact hfirst hvalue
        have hdropped : ¬first.isValue = true := fun hkept => hfirst (of_decide_eq_true hkept)
        rw [if_neg hfirst, List.filter_cons_of_neg hdropped, List.idxOf?_cons,
          if_neg (by simpa using hslot), Option.bind_map]
        exact hothers

section

variable {template : Bytes} (hknown : ConversionsKnown (segments template))
  (arguments : List Argument)
include hknown

/-- The slots of the template with numbers are those of the values. -/
theorem slots_withNumbers :
    slots (withNumbers template arguments) = (slots template).filter Slot.isValue := by
  rw [slots, withNumbers, segments_writeOutStars hknown, slotsFrom_writeOutSegments, slots]

/-- A value finds the same as before. -/
theorem found_withNumbers (n : Nat) :
    found (withNumbers template arguments) (withoutStars (slots template) arguments) n .value =
      found template arguments n .value := by
  rw [found, slots_withNumbers hknown]
  exact getElem?_withoutStars (slots template) arguments rfl

end

/-! ## A directive with its numbers -/

/-- A star finds a number of 32 bits. -/
theorem natAbs_starValue_lt (found : Option Argument) : (starValue found).natAbs < 2 ^ 32 := by
  rw [starValue]
  rcases found.bind Argument.integer? with _ | x
  · decide
  · exact Length.native.natAbs_readSigned_lt x

/-- A minus in front of the flags asks for left justification. -/
theorem Flags.ofBytes_minus_cons (run : Bytes) :
    ofBytes (Ascii.minus :: run) = { ofBytes run with leftJustify := true } := by
  rw [ofBytes_cons]
  rfl

section

variable (s : Spelling) (width precision : Int) (other : Option Argument)

/-- The width in a directive with numbers is that of its star without the sign. -/
theorem Spelling.width_writeOut (found : Option Argument) :
    (s.writeOut (starValue found) precision).directive.width.amount other =
      (s.directive.width.amount found).natAbs := by
  rcases s with ⟨flags, _ | run, precision, length, letter⟩
  · exact congrArg Nat.cast (toNat_wrappedValue_widthText (natAbs_starValue_lt found))
  · rfl

/-- The flags in a directive with numbers are those that its star asks for. -/
theorem Spelling.flags_writeOut (found : Option Argument) :
    (s.writeOut (starValue found) precision).directive.flags =
      if s.directive.width.amount found < 0 then { s.directive.flags with leftJustify := true }
      else s.directive.flags := by
  rcases s with ⟨flags, _ | run, precision, length, letter⟩
  · show Flags.ofBytes (if Amount.star = .star ∧ starValue found < 0 then Ascii.minus :: flags
      else flags) = if starValue found < 0 then _ else Flags.ofBytes flags
    by_cases hneg : starValue found < 0
    · rw [if_pos ⟨rfl, hneg⟩, if_pos hneg, Flags.ofBytes_minus_cons]
      rfl
    · rw [if_neg fun h => hneg h.2, if_neg hneg]
  · have hnonneg : ¬((Amount.wrappedValue run).toNat : Int) < 0 := by omega
    exact (if_neg hnonneg).symm

/-- The precision in a directive with numbers is that of its star. -/
theorem Spelling.precision_writeOut (found : Option Argument) :
    (s.writeOut width (starValue found)).directive.precision.amount? other =
      s.directive.precision.amount? found := by
  have hlt : (starValue found).toNat < 2 ^ 32 := by
    have := natAbs_starValue_lt found
    omega
  rcases s with ⟨flags, width, _ | _ | run, length, letter⟩
  · rfl
  · exact congrArg some (toNat_wrappedValue_decimalText hlt)
  · rfl

end

/-- A value has the same place when the numbers stand in its directive. -/
theorem Spelling.placeOf_writeOut (s : Spelling) (found other : Reader → Option Argument) :
    (s.writeOut (starValue (found .width)) (starValue (found .precision))).directive.placeOf other =
      s.directive.placeOf found := by
  have hwidth : ¬((s.directive.width.amount (found .width)).natAbs : Int) < 0 := by omega
  rw [Directive.placeOf, Directive.placeOf]
  simp only [width_writeOut, flags_writeOut, precision_writeOut, if_neg hwidth, Int.natAbs_natCast]

/-- A segment comes to the same when the numbers stand in it and its value finds the same. -/
theorem Segment.effect_settle_writeOut (segment : Segment) {found other : Reader → Option Argument}
    (hvalue : other .value = found .value) :
    ((segment.writeOut (starValue (found .width)) (starValue (found .precision))).settle
      other).effect = (segment.settle found).effect := by
  cases segment with
  | literal run => rfl
  | directive s =>
    rw [writeOut, settle, settle, Directive.effect_settle, Directive.effect_settle,
      s.placeOf_writeOut found other, hvalue]
    rfl

/-! ## The law -/

/-- A template with the numbers of its stars has the effects of the template. -/
theorem value_plan_withNumbers {template : Bytes}
    (hknown : ConversionsKnown (segments template)) (arguments : List Argument) :
    (plan (withNumbers template arguments) (withoutStars (slots template) arguments)).value =
      (plan template arguments).value := by
  rw [value_plan_eq_settlements, value_plan_eq_settlements, settlements, settlements]
  refine List.ext_getElem? fun i => ?_
  simp only [List.getElem?_map, List.getElem?_mapIdx]
  have hsegments : segments (withNumbers template arguments) =
      writeOutSegments (fun i => starValue (found template arguments i .width))
        (fun i => starValue (found template arguments i .precision)) (segments template) :=
    segments_writeOutStars hknown _ _
  rw [hsegments, writeOutSegments, List.getElem?_mapIdx]
  rcases (segments template)[i]? with _ | segment
  · rfl
  · exact congrArg some
      (segment.effect_settle_writeOut (found_withNumbers hknown arguments i))

/-- A star behaves as the number that it finds. For a template whose conversions are all known, let
each star be replaced by the number that the argument in its slot stands for, and let the arguments
of the stars be taken out. The new template has the segments of the old one with the numbers in
them, and readers for values only; it has the same output and makes the same counts, so a call with
it leaves every buffer and every row of counters as a call with the stars does. -/
theorem stars_behave_as_numbers (template : Bytes) (arguments : List Argument)
    (hknown : ConversionsKnown (segments template)) :
    let written := withNumbers template arguments
    let others := withoutStars (slots template) arguments
    (segments written =
        (segments template).mapIdx fun i segment => segment.writeOut
          (starValue (found template arguments i .width))
          (starValue (found template arguments i .precision))) ∧
      slots written = (slots template).filter (·.reader = .value) ∧
      output written others = output template arguments ∧
      ∀ (cells : Array UInt8) (counters : Counters),
        let run := formatInto cells template arguments counters
        let literal := formatInto cells written others counters
        literal.outcome = run.outcome ∧ literal.cells = run.cells ∧
          literal.counters = run.counters := by
  intro written others
  have hvalue : (plan written others).value = (plan template arguments).value :=
    value_plan_withNumbers hknown arguments
  have houtput : output written others = output template arguments := by
    rw [output, output, hvalue]
  refine ⟨segments_writeOutStars hknown _ _, slots_withNumbers hknown arguments, houtput, ?_⟩
  intro cells counters
  simp only [formatInto_eq, houtput, stores, hvalue, and_self]

/-- The least number of 32 bits as a width: `%*.*d` behind a literal run, with a negative precision
and one argument more than there are readers. The width that stands in the template has no sign. -/
theorem stars_behave_as_numbers_least_width :
    let template := utf8 "<%*.*d>"
    let arguments : List Argument :=
      [.int32 Int32.minValue, .int64 (-3), .int32 7, .text (utf8 "left over")]
    ConversionsKnown (segments template) ∧
      withNumbers template arguments = utf8 "<%-2147483648.0d>" ∧
      withoutStars (slots template) arguments = [.int32 7, .text (utf8 "left over")] ∧
      output (utf8 "<%-2147483648.0d>") [.int32 7, .text (utf8 "left over")] =
        output template arguments := by
  intro template arguments
  have hsegments : segments template = [.literal (utf8 "<"),
      .directive ⟨[], .star, some .star, .native, some 0x64⟩, .literal (utf8 ">")] := by
    rw [segments_eq_cutWithin]
    rfl
  have hslots : slots template = [⟨1, .width⟩, ⟨1, .precision⟩, ⟨1, .value⟩] := by
    rw [slots, hsegments]
    rfl
  have hknown : ConversionsKnown (segments template) := by
    rw [hsegments]
    intro s hmem b hunknown
    obtain rfl : s = ⟨[], .star, some .star, .native, some 0x64⟩ := by simpa using hmem
    cases hunknown
  have hfoundWidth : found template arguments 1 .width = some (.int32 Int32.minValue) := by
    rw [found, hslots]
    rfl
  have hfoundPrecision : found template arguments 1 .precision = some (.int64 (-3)) := by
    rw [found, hslots]
    rfl
  have hwidth : starValue (some (.int32 Int32.minValue)) = -2147483648 := by decide
  have hprecision : starValue (some (.int64 (-3))) = -3 := by decide
  have hnumeral : decimalText 2147483648 = utf8 "2147483648" :=
    (Radix.isNumeral_iff.1 ⟨by decide +kernel, by decide, by decide, by decide⟩).symm
  have hspelling : Spelling.writeOut (-2147483648) (-3)
      ⟨[], .star, some .star, .native, some 0x64⟩ =
        ⟨utf8 "-", .digits (utf8 "2147483648"), some (.digits (utf8 "0")), .native, some 0x64⟩ := by
    have hminus : (-2147483648 : Int).natAbs = 2147483648 := rfl
    have hnegative : (-3 : Int).toNat = 0 := rfl
    simp only [Spelling.writeOut, Amount.writeOut, Option.map_some, hminus, hnegative, widthText,
      decimalText, Radix.digits_zero] at hnumeral ⊢
    rw [hnumeral]
    rfl
  have hwritten : withNumbers template arguments = utf8 "<%-2147483648.0d>" := by
    rw [withNumbers, writeOutStars, hsegments, writeOutSegments_cons, writeOutSegments_cons,
      hfoundWidth, hfoundPrecision, hwidth, hprecision, Segment.writeOut, Segment.writeOut,
      hspelling]
    rfl
  have hothers : withoutStars (slots template) arguments =
      [.int32 7, .text (utf8 "left over")] := by
    rw [hslots]
    rfl
  obtain ⟨-, -, houtput, -⟩ := stars_behave_as_numbers template arguments hknown
  rw [hwritten, hothers] at houtput
  exact ⟨hknown, hwritten, hothers, houtput⟩

end BoundedFormat
