import BoundedFormat.Proofs.Plan.FixedPoint
import BoundedFormat.Proofs.Plan.Integer
import BoundedFormat.Proofs.Plan.Pointer
import BoundedFormat.Proofs.Plan.Text

/-!
# Where a NUL in the output comes from

Literal runs and texts end before a NUL, and numbers and addresses are written in an alphabet that
has none; paddings and signs are no NUL either (`Conversion.nul_notMem_resolve`). What is left is
the character conversion, which writes the byte that it is given
(`Conversion.count_nul_resolve_character`). So an output has as many NUL bytes as its template has
segments that print one (`nulPrinters`), and where no segment does, what a buffer holds in front of
its terminator is the text that is read from it (`only_characters_print_nul`).
-/

namespace BoundedFormat

/-! ## What prints a NUL -/

/-- Does the segment print a NUL when its value finds this argument? Only a character conversion
does, and only for an integer whose low byte is zero. -/
def Segment.printsNul (segment : Segment) (found : Option Argument) : Bool :=
  match segment with
  | literal _ => false
  | directive spelling => spelling.directive.conversion = .character &&
      (found.bind Argument.integer?).any (256 ∣ pattern64 ·)

/-- How many segments of a template print a NUL. -/
def nulPrinters (template : Bytes) (arguments : List Argument) : Nat :=
  (segments template).zipIdx.countP fun (segment, i) =>
    segment.printsNul (found template arguments i .value)

/-! ## Fields without a NUL -/

theorem nul_notMem_spaces (n : Nat) : Ascii.nul ∉ spaces n :=
  fun h => absurd (List.eq_of_mem_replicate h) (by decide)

theorem nul_notMem_zeros (n : Nat) : Ascii.nul ∉ zeros n :=
  fun h => absurd (List.eq_of_mem_replicate h) (by decide)

/-- No digit of a radix is NUL. -/
theorem Radix.nul_notMem_digits (radix : Radix) (n : Nat) : Ascii.nul ∉ radix.digits n := by
  intro h
  have hmem := mem_alphabet_of_mem_digits h
  revert hmem
  cases radix <;> decide

/-- No sign is NUL. -/
theorem nul_notMem_signByte? (negative : Bool) (flags : Flags) :
    Ascii.nul ∉ (signByte? negative flags).toList := by
  rw [signByte?]
  repeat' split
  all_goals decide

/-- A numeric field has no NUL if its sign and its digits have none. -/
theorem Field.nul_notMem_layout {field : Field} {digits : Bytes}
    (hsign : Ascii.nul ∉ field.sign.toList) (hdigits : Ascii.nul ∉ digits) :
    Ascii.nul ∉ field.layout digits := by
  have hbody : Ascii.nul ∉ field.body digits := by
    rw [body]
    split
    · exact List.not_mem_nil
    · rw [List.mem_append, List.mem_reverse]
      exact not_or.2 ⟨nul_notMem_zeros _, hdigits⟩
  simp only [layout_eq, List.mem_append, not_or]
  exact ⟨⟨⟨nul_notMem_spaces _, hsign⟩, nul_notMem_zeros _, hbody⟩, nul_notMem_spaces _⟩

/-- A padding adds no NUL to a text. -/
theorem count_nul_paddedLayout (flags : Flags) (width : Nat) (text : Bytes) :
    (paddedLayout flags width text).count Ascii.nul = text.count Ascii.nul := by
  have hspaces : (spaces (width - text.length)).count Ascii.nul = 0 :=
    List.count_eq_zero.2 (nul_notMem_spaces _)
  simp only [paddedLayout]
  split <;> rw [List.count_append, hspaces] <;> omega

/-! ## Conversions without a NUL -/

namespace Placement

variable (place : Placement)

theorem nul_notMem_signedDecimal (length : Length) (n : Int64) :
    Ascii.nul ∉ (place.signedDecimal length n).bytes := by
  refine Field.nul_notMem_layout (nul_notMem_signByte? _ _) ?_
  rw [integerDigits_eq]
  exact Radix.nul_notMem_digits _ _

theorem nul_notMem_unsigned (length : Length) (radix : Radix) (n : UInt64) :
    Ascii.nul ∉ (place.unsigned length radix n).bytes := by
  refine Field.nul_notMem_layout List.not_mem_nil ?_
  rw [integerDigits_eq]
  exact Radix.nul_notMem_digits _ _

theorem nul_notMem_text (bytes : Bytes) : Ascii.nul ∉ (place.text bytes).bytes := by
  rw [← List.count_eq_zero, text, Emission.bytes, count_nul_paddedLayout, List.count_eq_zero]
  exact nul_notMem_boundedText bytes _

theorem nul_notMem_pointer (address : UInt64) : Ascii.nul ∉ (place.pointer address).bytes := by
  rw [← List.count_eq_zero, bytes_pointer, count_nul_paddedLayout, List.count_eq_zero]
  by_cases hzero : address = 0
  · subst hzero
    decide
  · rw [addressText_of_ne_zero hzero, List.mem_append, List.mem_reverse]
    exact not_or.2 ⟨by decide, Radix.nul_notMem_digits _ _⟩

theorem nul_notMem_fixedPoint (x : Float) : Ascii.nul ∉ (place.fixedPoint x).bytes := by
  rw [bytes_fixedPoint_eq_layout]
  refine Field.nul_notMem_layout (nul_notMem_signByte? _ _) ?_
  rw [floatRun, List.mem_append]
  refine not_or.2 ⟨?_, Radix.nul_notMem_digits _ _⟩
  rw [fractionRun]
  split
  · exact List.not_mem_nil
  · simp only [List.mem_append, not_or]
    exact ⟨⟨Radix.nul_notMem_digits _ _, nul_notMem_zeros _⟩, by decide⟩

/-- A character is NUL if the low byte of its integer is. -/
theorem count_nul_character (bits : UInt64) :
    (place.character bits).bytes.count Ascii.nul = if 256 ∣ bits.toNat then 1 else 0 := by
  rw [character, Emission.bytes, count_nul_paddedLayout, List.count_singleton]
  have hbyte : (bits.toUInt8 == Ascii.nul) = true ↔ 256 ∣ bits.toNat := by
    rw [beq_iff_eq, ← UInt8.toNat_inj, UInt64.toNat_toUInt8, Nat.dvd_iff_mod_eq_zero]
    rfl
  simp only [hbyte]

end Placement

namespace Conversion

variable {conversion : Conversion} {place : Placement} {length : Length}

/-- A conversion other than that of a character writes no NUL, whatever its argument is. -/
theorem nul_notMem_effect? (hne : conversion ≠ .character) {argument : Argument} {effect : Effect}
    (h : conversion.effect? place length argument = some effect) : Ascii.nul ∉ effect.bytes := by
  cases conversion with
  | character => exact absurd rfl hne
  | errorNumber | percent | unknown _ | truncated => cases h
  | signedDecimal =>
    obtain ⟨n, -, rfl⟩ := Option.map_eq_some_iff.1 h
    exact place.nul_notMem_signedDecimal length n
  | unsignedDecimal =>
    obtain ⟨n, -, rfl⟩ := Option.map_eq_some_iff.1 h
    exact place.nul_notMem_unsigned length .decimal n
  | hexadecimal =>
    obtain ⟨n, -, rfl⟩ := Option.map_eq_some_iff.1 h
    exact place.nul_notMem_unsigned length .hexadecimal n
  | text =>
    obtain ⟨bytes, -, rfl⟩ := Option.map_eq_some_iff.1 h
    exact place.nul_notMem_text bytes
  | pointer =>
    obtain ⟨address, -, rfl⟩ := Option.map_eq_some_iff.1 h
    exact place.nul_notMem_pointer address
  | writeCount =>
    obtain ⟨index, -, rfl⟩ := Option.map_eq_some_iff.1 h
    exact List.not_mem_nil
  | fixedPoint =>
    obtain ⟨x, -, rfl⟩ := Option.map_eq_some_iff.1 h
    exact place.nul_notMem_fixedPoint x

/-- Nor does it where there is no argument to write. -/
theorem nul_notMem_resolve (hne : conversion ≠ .character) (found : Option Argument) :
    Ascii.nul ∉ (conversion.resolve place length (.ofList found.toList)).value.bytes := by
  rw [value_resolve_handed]
  rcases hconstant : conversion.constantEffect? with _ | effect
  · rcases heffect : found.bind (conversion.effect? place length) with _ | effect
    · exact List.not_mem_nil
    · obtain ⟨argument, -, hargument⟩ := Option.bind_eq_some_iff.1 heffect
      exact nul_notMem_effect? hne hargument
  · -- A percent sign is the only thing that is written without an argument.
    cases conversion with
    | errorNumber | unknown _ | truncated =>
      obtain rfl := Option.some.inj hconstant
      exact List.not_mem_nil
    | percent =>
      obtain rfl := Option.some.inj hconstant
      show Ascii.nul ∉ [Ascii.percent]
      decide
    | _ => cases hconstant

/-- A character conversion writes one NUL, or none. -/
theorem count_nul_resolve_character (found : Option Argument) :
    (character.resolve place length (.ofList found.toList)).value.bytes.count Ascii.nul =
      if (found.bind Argument.integer?).any (256 ∣ pattern64 ·) then 1 else 0 := by
  rw [value_resolve_handed]
  rcases found with _ | argument
  · rfl
  · rw [Option.bind_some, Option.bind_some]
    rcases hinteger : argument.integer? with _ | x
    · have heffect : character.effect? place length argument = none := by
        rw [effect?, Argument.integerBits?_of_integer?_eq_none hinteger]
        rfl
      rw [heffect]
      rfl
    · obtain ⟨bits, hbits, hpattern⟩ := Argument.integerBits?_of_integer? hinteger
      have heffect : character.effect? place length argument =
          some (.write (place.character bits)) := by
        rw [effect?, hbits]
        rfl
      have hdvd : (256 : Int) ∣ pattern64 x ↔ 256 ∣ bits.toNat := by
        rw [← hpattern]
        exact Int.natCast_dvd_natCast
      rw [heffect]
      show (place.character bits).bytes.count Ascii.nul = _
      rw [place.count_nul_character, Option.any_some]
      simp only [decide_eq_true_iff, hdvd]

end Conversion

/-! ## The whole output -/

/-- A segment adds one NUL to the output, or none. -/
theorem Segment.count_nul_settle {template : Bytes} {segment : Segment}
    (hmem : segment ∈ segments template) (found : Reader → Option Argument) :
    (segment.settle found).effect.bytes.count Ascii.nul =
      if segment.printsNul (found .value) then 1 else 0 := by
  cases segment with
  | literal run => exact List.count_eq_zero.2 (nul_notMem_source hmem)
  | directive spelling =>
    rw [settle, Directive.effect_settle]
    by_cases hcharacter : spelling.directive.conversion = .character
    · rw [hcharacter, Conversion.count_nul_resolve_character]
      simp [printsNul, hcharacter]
    · rw [List.count_eq_zero.2 (Conversion.nul_notMem_resolve hcharacter _)]
      simp [printsNul, hcharacter]

/-- The output is what its segments add to it, each with its number. -/
theorem output_eq_flatMap_zipIdx (template : Bytes) (arguments : List Argument) :
    output template arguments = (segments template).zipIdx.flatMap fun (segment, i) =>
      (segment.settle (found template arguments i)).effect.bytes := by
  rw [output, value_plan_eq_settlements, settlements, List.mapIdx_eq_zipIdx_map, List.map_map,
    List.flatMap_map]
  rfl

/-- A byte that each part holds once or not at all is held as often as there are parts with it. -/
theorem count_flatMap_eq_countP {α : Type} {b : UInt8} {part : α → Bytes} {p : α → Bool}
    {l : List α} (h : ∀ x ∈ l, (part x).count b = if p x then 1 else 0) :
    (l.flatMap part).count b = l.countP p := by
  induction l with
  | nil => rfl
  | cons x rest ih =>
    rw [List.flatMap_cons, List.count_append, h x List.mem_cons_self,
      ih fun y hy => h y (List.mem_cons_of_mem x hy), List.countP_cons, Nat.add_comm]

/-- An output has as many NUL bytes as there are segments that print one. -/
theorem count_nul_output (template : Bytes) (arguments : List Argument) :
    (output template arguments).count Ascii.nul = nulPrinters template arguments := by
  rw [output_eq_flatMap_zipIdx]
  refine count_flatMap_eq_countP fun (segment, i) hmem => ?_
  exact Segment.count_nul_settle (List.fst_mem_of_mem_zipIdx hmem) _

/-! ## Reading a buffer -/

/-- What is read from a buffer is what was stored there, if there was no NUL to write. -/
theorem Formatted.Truncates.beforeNul_cells {before : Array UInt8} {whole : Bytes}
    {result : Formatted} (h : result.Truncates before whole) (hpos : 0 < before.size)
    (hnul : Ascii.nul ∉ whole) : beforeNul result.cells.toList = result.stored := by
  have hterminated := h.terminated hpos
  rw [← Array.getElem?_toList] at hterminated
  have hsplit : result.cells.toList = result.stored ++
      Ascii.nul :: result.cells.toList.drop (result.outcome.written + 1) := by
    obtain ⟨hlt, heq⟩ := List.getElem?_eq_some_iff.1 hterminated
    rw [stored, ← heq, ← List.drop_eq_getElem_cons hlt, List.take_append_drop]
  have hstored : Ascii.nul ∉ result.stored := by
    rw [h.stored_eq]
    exact fun hmem => hnul (List.mem_of_mem_take hmem)
  rw [hsplit, beforeNul_append hstored]
  exact List.append_nil _

/-- As many bytes are stored as the call says that it has written. -/
theorem Formatted.Truncates.length_stored {before : Array UInt8} {whole : Bytes}
    {result : Formatted} (h : result.Truncates before whole) :
    result.stored.length = result.outcome.written := by
  rw [h.stored_eq, List.length_take_of_le]
  rw [h.written_eq]
  split <;> omega

/-- Only a character conversion prints a NUL: the output has as many of them as there are character
conversions that find an integer whose low byte is zero. Where there is none, the text that is read
from a buffer with any cell in it is what the call has stored there, and as long as it says. -/
theorem only_characters_print_nul (template : Bytes) (arguments : List Argument) :
    (output template arguments).count Ascii.nul = nulPrinters template arguments ∧
      (nulPrinters template arguments = 0 →
        ∀ (cells : Array UInt8) (counters : Counters), 0 < cells.size →
          let run := formatInto cells template arguments counters
          beforeNul run.cells.toList = run.stored ∧
            run.stored = (output template arguments).take run.outcome.written ∧
            textLength run.cells.toList none = run.outcome.written) := by
  refine ⟨count_nul_output template arguments, ?_⟩
  intro hnone cells counters hpos run
  have hrun : run.Truncates cells (output template arguments) := truncates_formatInto ..
  have hread : beforeNul run.cells.toList = run.stored := by
    refine hrun.beforeNul_cells hpos ?_
    rw [← List.count_eq_zero, count_nul_output, hnone]
  refine ⟨hread, hrun.stored_eq, ?_⟩
  rw [textLength, boundedText, hread, hrun.length_stored]

/-- A text that ends at a NUL and a character, `%s|%c`. The character 256 is written as a NUL, and
321 as an `A`; a buffer of three cells is read as the two bytes in front of its terminator. -/
theorem only_characters_print_nul_in_three_cells :
    let template := utf8 "%s|%c"
    let text := utf8 "n" ++ Ascii.nul :: utf8 "x"
    let arguments (x : Int32) : List Argument := [.text text, .int32 x]
    let cells : Array UInt8 := #[0x2e, 0x2e, 0x2e]
    nulPrinters template (arguments 256) = 1 ∧
      (output template (arguments 256)).count Ascii.nul = 1 ∧
      nulPrinters template (arguments 321) = 0 ∧ 0 < cells.size ∧
      let run := formatInto cells template (arguments 321) #[]
      run.outcome.written = 2 ∧ run.stored = utf8 "n|" ∧
        beforeNul run.cells.toList = utf8 "n|" ∧ textLength run.cells.toList none = 2 := by
  intro template text arguments cells
  have hsegments : segments template = [.directive ⟨[], .digits [], none, .native, some 0x73⟩,
      .literal (utf8 "|"), .directive ⟨[], .digits [], none, .native, some 0x63⟩] := by
    rw [segments_eq_cutWithin]
    rfl
  have hprinters : nulPrinters template (arguments 256) = 1 ∧
      nulPrinters template (arguments 321) = 0 := by
    simp only [nulPrinters, found, slots, hsegments]
    decide
  have houtput : output template (arguments 321) = utf8 "n|A" := by
    rw [output, plan, hsegments]
    rfl
  obtain ⟨hcount, -⟩ := only_characters_print_nul template (arguments 256)
  obtain ⟨-, hread⟩ := only_characters_print_nul template (arguments 321)
  obtain ⟨htext, hstored, hlength⟩ := hread hprinters.2 cells #[] (by decide)
  have hwritten : (formatInto cells template (arguments 321) #[]).outcome.written = 2 := by
    rw [(truncates_formatInto ..).written_eq, houtput]
    rfl
  rw [hwritten, houtput] at hstored
  refine ⟨hprinters.1, hcount.trans hprinters.1, hprinters.2, by decide, hwritten, hstored, ?_, ?_⟩
  · exact htext.trans hstored
  · exact hlength.trans hwritten

end BoundedFormat
