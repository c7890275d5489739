import BoundedFormat.Proofs.Check.FirstUnmet
import BoundedFormat.Proofs.Plan.Values
import BoundedFormat.Proofs.Template.Tiling

/-!
# The bytes in errors and diagnostics

An error of a check and a diagnostic of a call name the conversion that they are about by one byte.
`IsLetterOf` says which byte of the template the letter of a directive is: the last one that the
directive covers. A conversion is named by its letter as it stands there, except that `i` is read as
the conversion of `d` and named `d` (`Conversion.byte_ofByte`). So the named byte is the one in the
template for every directive but those that end in `i` (`conversions_are_named_by_letters`).
-/

namespace BoundedFormat

/-! ## Letters in a template -/

/-- Segment `n` of a template is a directive with this conversion byte, which stands at the end of
the segment. -/
structure IsLetterOf (template : Bytes) (n : Nat) (letter : UInt8) : Prop where
  spelled : ∃ s, (segments template)[n]? = some (.directive s) ∧ s.letter = some letter
  placed : ∃ position, sourceStart (segments template) (n + 1) = position + 1 ∧
    template[position]? = some letter

/-- The byte names the conversion of segment `n`: it is the letter of this segment, and `d` where
the letter is `i`. -/
def NamesConversion (template : Bytes) (n : Nat) (b : UInt8) : Prop :=
  ∃ letter, IsLetterOf template n letter ∧ b = if letter = 0x69 then 0x64 else letter

/-- A conversion is named by its letter, except that `d` names `i` too. -/
theorem Conversion.byte_ofByte (b : UInt8) : (ofByte b).byte = if b = 0x69 then 0x64 else b := by
  have hall : ∀ n : Fin 256, (ofByte (UInt8.ofFin n)).byte =
      if UInt8.ofFin n = 0x69 then 0x64 else UInt8.ofFin n := by
    decide +kernel
  exact hall b.toFin

section

variable {template : Bytes} {n : Nat} {s : Spelling}
  (hsegment : (segments template)[n]? = some (.directive s))
include hsegment

/-- The letter of a directive stands at the end of what the directive covers. -/
theorem isLetterOf_of_getElem? {letter : UInt8} (hletter : s.letter = some letter) :
    IsLetterOf template n letter := by
  have htext : s.text = s.stem ++ [letter] := by
    rw [Spelling.text, hletter]
    rfl
  have hdrop : (beforeNul template).drop (sourceStart (segments template) n) =
      (Ascii.percent :: s.stem) ++
        letter :: (beforeNul template).drop (sourceStart (segments template) (n + 1)) := by
    rw [segments, drop_sourceStart hsegment, Segment.source, htext, ← segments]
    simp only [List.cons_append, List.append_assoc, List.nil_append]
  have hget : (beforeNul template)[sourceStart (segments template) n +
      (Ascii.percent :: s.stem).length]? = some letter := by
    rw [← List.getElem?_drop, hdrop, List.getElem?_append_right (Nat.le_refl _), Nat.sub_self]
    rfl
  refine ⟨⟨s, hsegment, hletter⟩,
    sourceStart (segments template) n + (Ascii.percent :: s.stem).length, ?_, ?_⟩
  · rw [sourceStart_succ hsegment, Segment.source, htext, ← List.cons_append, List.length_append]
    rfl
  · obtain ⟨hlt, heq⟩ := List.getElem?_eq_some_iff.1 hget
    rw [← heq]
    exact List.prefix_iff_getElem?.1 (beforeNul_isPrefix template) _ hlt

/-- A directive that is not cut off is named as its conversion is. -/
theorem namesConversion_of_getElem? (hwhole : s.directive.conversion ≠ .truncated) :
    NamesConversion template n s.directive.conversion.byte := by
  rcases hletter : s.letter with _ | letter
  · exact absurd (s.conversion_eq_truncated_iff.2 hletter) hwhole
  · refine ⟨letter, isLetterOf_of_getElem? hsegment hletter, ?_⟩
    rw [Spelling.directive, hletter]
    exact Conversion.byte_ofByte letter

end

/-! ## Demands by their slots -/

/-- The byte that names a reader of the directive. -/
def Directive.nameOf (directive : Directive) : Reader → UInt8
  | .width | .precision => Ascii.star
  | .value => directive.conversion.byte

/-- A directive demands an argument under the name of each of its readers. -/
theorem Directive.byte_demands (directive : Directive) :
    directive.demands.map Demand.byte = directive.readers.map directive.nameOf := by
  rcases directive with ⟨flags, width, precision, length, conversion⟩
  cases width <;> cases precision <;> cases conversion <;> rfl

/-- The demand at place `k` has the name of the reader at slot `k`. -/
theorem getElem?_byte_demands (n : Nat) {segments : List Segment} {k : Nat} {slot : Slot}
    (hslot : (slotsFrom n segments)[k]? = some slot) :
    ∃ m s, slot.segment = n + m ∧ segments[m]? = some (.directive s) ∧
      ((segments.flatMap Segment.demands).map Demand.byte)[k]? =
        some (s.directive.nameOf slot.reader) := by
  induction segments generalizing n k with
  | nil => cases hslot
  | cons segment rest ih =>
    rw [slotsFrom] at hslot
    rw [List.flatMap_cons, List.map_append]
    by_cases hk : k < segment.readers.length
    · -- The slot belongs to the first segment, which is a directive since it has readers.
      rw [List.getElem?_append_left (by simpa using hk), List.getElem?_map] at hslot
      obtain ⟨reader, hreader, rfl⟩ := Option.map_eq_some_iff.1 hslot
      cases segment with
      | literal run => cases hreader
      | directive s =>
        refine ⟨0, s, rfl, rfl, ?_⟩
        rw [List.getElem?_append_left (by simpa [← Segment.length_readers] using hk),
          Segment.demands, s.directive.byte_demands, List.getElem?_map]
        exact congrArg (Option.map _) hreader
    · have hle : segment.readers.length ≤ k := Nat.le_of_not_lt hk
      rw [List.getElem?_append_right (by simpa using hle), List.length_map] at hslot
      obtain ⟨m, s, hsegment, hget, hbyte⟩ := ih (n + 1) hslot
      refine ⟨m + 1, s, by omega, hget, ?_⟩
      rw [List.getElem?_append_right (by simpa [← Segment.length_readers] using hle),
        List.length_map, ← segment.length_readers]
      exact hbyte

/-- The reader at a slot is named in the demand at the same place. -/
theorem byte_eq_nameOf {template : Bytes} {k n : Nat} {reader : Reader} {demand : Demand}
    (hslot : (slots template)[k]? = some ⟨n, reader⟩)
    (hdemand : (demands template)[k]? = some demand) :
    ∃ s, (segments template)[n]? = some (.directive s) ∧
      demand.byte = s.directive.nameOf reader := by
  obtain ⟨m, s, hm, hget, hbyte⟩ := getElem?_byte_demands 0 hslot
  obtain rfl : n = m := by simpa using hm
  rw [List.getElem?_map, ← demands, hdemand] at hbyte
  exact ⟨s, hget, Option.some.inj hbyte⟩

/-! ## Errors of a check -/

/-- The number of the argument that an error is about, and the byte that names its reader. -/
def CheckError.reader? : CheckError → Option (Nat × UInt8)
  | missingArgument index conversion | typeMismatch index conversion _ => some (index, conversion)
  | extraArguments _ _ => none

/-- An error names the reader of the demand that it is about. -/
theorem exists_demand_of_reader? {template : Bytes} {arguments : List Argument}
    {error : CheckError} {index : Nat} {b : UInt8}
    (herror : checkArguments template arguments = .error error)
    (hreader : error.reader? = some (index, b)) :
    ∃ demand, (demands template)[index]? = some demand ∧ demand.byte = b := by
  obtain ⟨-, hdemand, -⟩ | ⟨-, hdemand, -⟩ | ⟨-, -⟩ := (checkArguments_eq_iff ..).1 herror
  · obtain ⟨rfl, rfl⟩ := Prod.mk.inj (Option.some.inj hreader)
    exact ⟨_, hdemand, rfl⟩
  · obtain ⟨rfl, rfl⟩ := Prod.mk.inj (Option.some.inj hreader)
    exact ⟨_, hdemand, rfl⟩
  · cases hreader

/-! ## Diagnostics of a call -/

/-- The byte by which a diagnostic names a conversion; a star is not named by a byte. -/
def Diagnostic.byte? : Diagnostic → Option UInt8
  | missing b | wrongKind b _ | unknownConversion b => some b
  | starMissing | starKind _ => none

/-- A message shows the byte. -/
theorem Diagnostic.exists_message_eq {diagnostic : Diagnostic} {b : UInt8}
    (h : diagnostic.byte? = some b) :
    ∃ front back, diagnostic.message = front ++ shownByte b ++ back := by
  cases diagnostic with
  | starMissing | starKind found => cases h
  | missing c =>
    obtain rfl := Option.some.inj h
    refine ⟨"printf: no argument left for ", "", ?_⟩
    rw [String.append_empty]
    rfl
  | wrongKind c found =>
    obtain rfl := Option.some.inj h
    refine ⟨"printf: ", " cannot take " ++ found.name ++ ", skipped", ?_⟩
    rw [← String.append_assoc, ← String.append_assoc]
    rfl
  | unknownConversion c =>
    obtain rfl := Option.some.inj h
    exact ⟨"printf: unknown conversion ", " discarded", rfl⟩

/-- What a reader of one argument reports. -/
theorem mem_diagnostics_readOne {α : Type} {missing : Diagnostic}
    {wrong : ArgumentKind → Diagnostic} {fallback : α} {use : Argument → Option α}
    {cursor : ArgumentCursor} {diagnostic : Diagnostic}
    (h : diagnostic ∈ (readOne missing wrong fallback use cursor).diagnostics) :
    diagnostic = missing ∨ ∃ found, diagnostic = wrong found := by
  simp only [readOne] at h
  split at h
  · exact .inl (List.mem_singleton.1 h)
  · split at h
    · cases h
    · exact .inr ⟨_, List.mem_singleton.1 h⟩

/-- A star does not name a conversion. -/
theorem byte?_of_mem_readStar {cursor : ArgumentCursor} {diagnostic : Diagnostic}
    (h : diagnostic ∈ (readStar cursor).diagnostics) : diagnostic.byte? = none := by
  rw [readStar_eq_readOne] at h
  obtain rfl | ⟨found, rfl⟩ := mem_diagnostics_readOne h <;> rfl

/-- A width does not name a conversion. -/
theorem Width.byte?_of_mem_resolve {width : Width} {flags : Flags} {cursor : ArgumentCursor}
    {diagnostic : Diagnostic} (h : diagnostic ∈ (width.resolve flags cursor).diagnostics) :
    diagnostic.byte? = none := by
  cases width with
  | fixed n => cases h
  | fromArgument => exact byte?_of_mem_readStar h

/-- A precision does not name a conversion. -/
theorem Precision.byte?_of_mem_resolve {precision : Precision} {cursor : ArgumentCursor}
    {diagnostic : Diagnostic} (h : diagnostic ∈ (precision.resolve cursor).diagnostics) :
    diagnostic.byte? = none := by
  cases precision with
  | unspecified | fixed n => cases h
  | fromArgument => exact byte?_of_mem_readStar h

/-- A conversion names itself, and one that is cut off has nothing to report. -/
theorem Conversion.byte?_of_mem_resolve {conversion : Conversion} {place : Placement}
    {length : Length} {cursor : ArgumentCursor} {diagnostic : Diagnostic}
    (h : diagnostic ∈ (conversion.resolve place length cursor).diagnostics) :
    conversion ≠ .truncated ∧ diagnostic.byte? = some conversion.byte := by
  have hwhole : conversion ≠ .truncated := by
    rintro rfl
    cases h
  refine ⟨hwhole, ?_⟩
  cases conversion with
  | errorNumber | percent | truncated => cases h
  | unknown b =>
    obtain rfl := List.mem_singleton.1 h
    rfl
  | _ =>
    rw [resolve, readValue_eq_readOne] at h
    obtain rfl | ⟨found, rfl⟩ := mem_diagnostics_readOne h <;> rfl

/-- A directive names no other conversion than its own. -/
theorem Directive.byte_of_mem_settle {directive : Directive} {found : Reader → Option Argument}
    {diagnostic : Diagnostic} {b : UInt8}
    (hmem : diagnostic ∈ (directive.settle found).diagnostics)
    (hb : diagnostic.byte? = some b) :
    directive.conversion ≠ .truncated ∧ b = directive.conversion.byte := by
  rw [settle_eq, List.mem_append, List.mem_append] at hmem
  obtain (hwidth | hprecision) | hconversion := hmem
  · rw [Width.byte?_of_mem_resolve hwidth] at hb
    cases hb
  · rw [Precision.byte?_of_mem_resolve hprecision] at hb
    cases hb
  · obtain ⟨hwhole, hbyte⟩ := Conversion.byte?_of_mem_resolve hconversion
    exact ⟨hwhole, Option.some.inj (hb.symm.trans hbyte)⟩

/-! ## The law -/

/-- Conversions are named by their letters, and `i` by the letter `d`. When a check refuses an
argument, the number in the error is that of the slot of a reader; a star is named `*`, and a
conversion by its letter at the end of the directive. When a call reports a missing argument, an
argument of the wrong kind or an unknown conversion, the report comes from a segment whose letter it
shows. In both the letter is the byte of the template if it is not an `i`. -/
theorem conversions_are_named_by_letters (template : Bytes) (arguments : List Argument) :
    (∀ error, checkArguments template arguments = .error error →
      ∀ (index : Nat) (b : UInt8), error.reader? = some (index, b) →
        ∃ n reader, (slots template)[index]? = some ⟨n, reader⟩ ∧
          if reader = .value then NamesConversion template n b else b = Ascii.star) ∧
      (plan template arguments).diagnostics =
        (settlements template arguments).flatMap (·.diagnostics) ∧
      ∀ (n : Nat) (settlement : Settlement), (settlements template arguments)[n]? = some settlement →
        ∀ diagnostic ∈ settlement.diagnostics, ∀ b : UInt8, diagnostic.byte? = some b →
          NamesConversion template n b ∧
            ∃ front back, diagnostic.message = front ++ Diagnostic.shownByte b ++ back := by
  refine ⟨fun error herror index b hreader => ?_, diagnostics_plan_eq_settlements template arguments,
    fun n settlement hget diagnostic hmem b hb => ⟨?_, Diagnostic.exists_message_eq hb⟩⟩
  · obtain ⟨demand, hdemand, rfl⟩ := exists_demand_of_reader? herror hreader
    have hlt : index < (slots template).length := by
      rw [length_slots]
      exact (List.getElem?_eq_some_iff.1 hdemand).1
    obtain ⟨⟨n, reader⟩, hslot⟩ : ∃ slot, (slots template)[index]? = some slot :=
      ⟨_, List.getElem?_eq_getElem hlt⟩
    obtain ⟨s, hsegment, hname⟩ := byte_eq_nameOf hslot hdemand
    refine ⟨n, reader, hslot, ?_⟩
    rw [hname]
    cases reader with
    | width | precision => rfl
    | value =>
      refine namesConversion_of_getElem? hsegment fun htruncated => ?_
      -- A directive that is cut off has no reader for a value.
      obtain ⟨other, hother, hreader⟩ :=
        (mem_slots_iff template n .value).1 (List.mem_of_getElem? hslot)
      obtain rfl := Segment.directive.inj (Option.some.inj (hsegment.symm.trans hother))
      rw [Directive.hasReader, htruncated] at hreader
      cases hreader
  · rw [settlements, List.getElem?_mapIdx] at hget
    obtain ⟨segment, hsegment, rfl⟩ := Option.map_eq_some_iff.1 hget
    cases segment with
    | literal run => cases hmem
    | directive s =>
      obtain ⟨hwhole, rfl⟩ := Directive.byte_of_mem_settle hmem hb
      exact namesConversion_of_getElem? hsegment hwhole

/-- The letter of `%i` is `i`, but the error of a check and the line in the log name `d`. -/
theorem conversion_of_i_is_named_d :
    let template := utf8 "%i"
    IsLetterOf template 0 0x69 ∧ ¬IsLetterOf template 0 0x64 ∧
      (slots template)[0]? = some ⟨0, .value⟩ ∧
      checkArguments template [] = .error (.missingArgument 0 0x64) ∧
      (plan template []).diagnostics = [.missing 0x64] ∧
      Diagnostic.message (.missing 0x64) = "printf: no argument left for %d" := by
  intro template
  have hsegments : segments template =
      [.directive ⟨[], .digits [], none, .native, some 0x69⟩] := by
    rw [segments_eq_cutWithin]
    rfl
  have hsegment : (segments template)[0]? =
      some (.directive ⟨[], .digits [], none, .native, some 0x69⟩) := by
    rw [hsegments]
    rfl
  refine ⟨isLetterOf_of_getElem? hsegment rfl, fun hd => ?_, ?_, ?_, ?_, by decide⟩
  · obtain ⟨s, hs, hletter⟩ := hd.spelled
    obtain rfl := Segment.directive.inj (Option.some.inj (hsegment.symm.trans hs))
    exact absurd hletter (by decide)
  · rw [slots, hsegments]
    rfl
  · rw [checkArguments, hsegments]
    rfl
  · rw [plan, hsegments]
    rfl

end BoundedFormat
