import BoundedFormat.Proofs.Numeral.Canonical
import BoundedFormat.Proofs.Template.Rebuilding

/-!
# Writing out stars

`writeOutStars` puts a number into a template for each star. For a width it is the number without
its sign, and a negative one puts a minus in front of the flags; a width of zero is not written,
since a zero would be read as a flag. For a precision it is the number itself, or zero where that is
negative.

What stands behind a number never goes on with it as long as every conversion is known, so the
template with its stars written out has the segments of the template, each with its own stars
written out (`segments_writeOutStars`). A number of 32 bits reads back as it is
(`toNat_wrappedValue_decimalText`).
-/

namespace BoundedFormat

/-! ## Numbers in a template -/

/-- A number in decimal, in reading order. -/
def decimalText (n : Nat) : Bytes := (Radix.decimal.digits n).reverse

/-- A number as a width; a width of zero is not written. -/
def widthText (n : Nat) : Bytes := if n = 0 then [] else decimalText n

/-- A number is written in digits. -/
theorem isDigit_of_mem_decimalText {n : Nat} {b : UInt8} (h : b ∈ decimalText n) :
    Ascii.isDigit b = true := by
  have hall : ∀ i : Fin Radix.decimal.alphabet.length,
      Ascii.isDigit Radix.decimal.alphabet[i] = true := by decide
  have hmem : b ∈ Radix.decimal.alphabet :=
    Radix.mem_alphabet_of_mem_digits (List.mem_reverse.1 h)
  obtain ⟨i, hi, rfl⟩ := List.mem_iff_getElem.1 hmem
  exact hall ⟨i, hi⟩

/-- A number of 32 bits reads back. -/
theorem toNat_wrappedValue_decimalText {n : Nat} (h : n < 2 ^ 32) :
    (Amount.wrappedValue (decimalText n)).toNat = n := by
  rw [Amount.toNat_wrappedValue fun b hb => isDigit_of_mem_decimalText hb, decimalText,
    List.reverse_reverse, Radix.value_digits, Nat.mod_eq_of_lt h]

/-- A width is written in digits. -/
theorem isDigit_of_mem_widthText {n : Nat} {b : UInt8} (h : b ∈ widthText n) :
    Ascii.isDigit b = true := by
  rw [widthText] at h
  split at h
  · cases h
  · exact isDigit_of_mem_decimalText h

/-- A width does not begin with a zero. -/
theorem head?_widthText_ne_zero (n : Nat) : (widthText n).head? ≠ some Ascii.zero := by
  rw [widthText]
  split
  · exact nofun
  · next hn =>
    intro hhead
    have hnumeral : Radix.decimal.IsNumeral (decimalText n) n := Radix.isNumeral_iff.2 rfl
    refine hn ?_
    rw [← hnumeral.value_eq, hnumeral.eq_of_head? hhead]
    rfl

/-- A width of 32 bits reads back. -/
theorem toNat_wrappedValue_widthText {n : Nat} (h : n < 2 ^ 32) :
    (Amount.wrappedValue (widthText n)).toNat = n := by
  rw [widthText]
  split
  · next hn => exact hn.symm
  · exact toNat_wrappedValue_decimalText h

/-! ## Writing out the stars of a template -/

/-- The amount with a text in place of a star. -/
def Amount.writeOut (text : Bytes) : Amount → Amount
  | star => digits text
  | digits run => digits run

/-- The directive with numbers in place of its stars. -/
def Spelling.writeOut (width precision : Int) (s : Spelling) : Spelling where
  flags := if s.width = .star ∧ width < 0 then Ascii.minus :: s.flags else s.flags
  width := s.width.writeOut (widthText width.natAbs)
  precision := s.precision.map (Amount.writeOut (decimalText precision.toNat))
  length := s.length
  letter := s.letter

/-- The segment with numbers in place of its stars. -/
def Segment.writeOut (width precision : Int) : Segment → Segment
  | literal run => literal run
  | directive s => directive (s.writeOut width precision)

/-- Segments with numbers in place of their stars. -/
def writeOutSegments (width precision : Nat → Int) (all : List Segment) : List Segment :=
  all.mapIdx fun i segment => segment.writeOut (width i) (precision i)

/-- The template with numbers in place of its stars: `width i` and `precision i` are those of
segment `i`. What stands at the first NUL and behind it stays. -/
def writeOutStars (width precision : Nat → Int) (template : Bytes) : Bytes :=
  (writeOutSegments width precision (segments template)).flatMap Segment.source ++
    template.dropWhile (· != Ascii.nul)

/-! ## Cutting the template again -/

/-- An amount in digits is written out by itself. -/
theorem Amount.writeOut_eq_digits {text run : Bytes} {amount : Amount}
    (h : amount.writeOut text = .digits run) :
    amount = .star ∧ text = run ∨ amount = .digits run := by
  cases amount with
  | star => exact .inl ⟨rfl, Amount.digits.inj h⟩
  | digits run => exact .inr h

/-- Plain parts stay plain. -/
theorem Spelling.IsPlain.writeOut {s : Spelling} (h : s.IsPlain) (width precision : Int) :
    (s.writeOut width precision).IsPlain where
  flags := by
    intro b hb
    rw [Spelling.writeOut] at hb
    split at hb
    · obtain rfl | hb := List.mem_cons.1 hb
      · decide
      · exact h.flags b hb
    · exact h.flags b hb
  width := by
    intro run hrun
    obtain ⟨-, rfl⟩ | hdigits := Amount.writeOut_eq_digits hrun
    · exact ⟨fun b hb => isDigit_of_mem_widthText hb, head?_widthText_ne_zero _⟩
    · exact h.width run hdigits
  precision := by
    intro run hrun
    obtain ⟨amount, hamount, hwritten⟩ := Option.map_eq_some_iff.1 hrun
    obtain ⟨-, rfl⟩ | rfl := Amount.writeOut_eq_digits hwritten
    · exact fun b hb => isDigit_of_mem_decimalText hb
    · exact h.precision run hamount
  letter := h.letter

/-- Every conversion in these segments is known. -/
def ConversionsKnown (all : List Segment) : Prop :=
  ∀ s, .directive s ∈ all → ∀ b, s.directive.conversion ≠ .unknown b

theorem writeOutSegments_cons (width precision : Nat → Int) (segment : Segment)
    (rest : List Segment) :
    writeOutSegments width precision (segment :: rest) =
      segment.writeOut (width 0) (precision 0) ::
        writeOutSegments (fun i => width (i + 1)) (fun i => precision (i + 1)) rest :=
  List.mapIdx_cons

/-- Segments with their stars written out can still come out of a cut. -/
theorem IsCut.writeOut {all : List Segment} (h : IsCut all) (hknown : ConversionsKnown all)
    (width precision : Nat → Int) : IsCut (writeOutSegments width precision all) := by
  induction h generalizing width precision with
  | nil => exact .nil
  | @literal run rest hne hrun hnext hrest ih =>
    rw [writeOutSegments_cons]
    refine .literal hne hrun (fun next hhead => ?_)
      (ih (fun s hs => hknown s (List.mem_cons_of_mem _ hs)) _ _)
    -- Writing out turns no directive into a literal run.
    rcases rest with _ | ⟨_ | s, others⟩
    · cases hhead
    · exact hnext _ rfl
    · rw [writeOutSegments_cons] at hhead
      cases hhead
  | @directive s rest hs hrest ih =>
    rw [writeOutSegments_cons]
    refine .directive ?_ (ih (fun s hs => hknown s (List.mem_cons_of_mem _ hs)) _ _)
    refine ((hs.isPlain (hknown s List.mem_cons_self)).writeOut _ _).isGreedy fun hletter => ?_
    rw [hrest.eq_nil_of_source (hs.letter hletter)]
    rfl

section

variable {template : Bytes} (hknown : ConversionsKnown (segments template))
include hknown

/-- The directives of a template have plain parts. -/
theorem isPlain_of_mem_segments {s : Spelling} (hmem : .directive s ∈ segments template) :
    s.IsPlain := by
  obtain ⟨rest, hs⟩ := (isCut_cut (beforeNul template)).isGreedy_of_mem hmem
  exact hs.isPlain (hknown s hmem)

/-- No NUL comes in with the numbers. -/
theorem nul_not_mem_source_writeOut {segment : Segment} (hmem : segment ∈ segments template)
    (width precision : Int) : Ascii.nul ∉ (segment.writeOut width precision).source := by
  cases segment with
  | literal run => exact nul_notMem_source hmem
  | directive s =>
    rw [Segment.writeOut, Segment.source, List.mem_cons, not_or]
    exact ⟨by decide,
      ((isPlain_of_mem_segments hknown hmem).writeOut width precision).nul_not_mem_text⟩

/-- The template with its stars written out has the segments of the template with their stars
written out. -/
theorem segments_writeOutStars (width precision : Nat → Int) :
    segments (writeOutStars width precision template) =
      writeOutSegments width precision (segments template) := by
  refine ((isCut_cut (beforeNul template)).writeOut hknown width
    precision).segments_source_append (fun segment hmem => ?_) template
  obtain ⟨i, hi, rfl⟩ := List.mem_mapIdx.1 hmem
  exact nul_not_mem_source_writeOut hknown (List.getElem_mem hi) _ _

end

end BoundedFormat
