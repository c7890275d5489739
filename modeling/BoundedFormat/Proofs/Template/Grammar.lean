import Mathlib.Algebra.Group.Nat.Defs
import Mathlib.Data.List.TakeWhile
import BoundedFormat.Numeral.Radix
import BoundedFormat.Template.Spelling

/-!
# Directives are read greedily

`Spelling.IsGreedy` says what the grammar of a directive asks of its parts, without reading
anything: each part consists of bytes that it may consist of, and the byte behind it would not go on
with it. Such parts are read back just as they are (`Spelling.read_text_append`), and whatever is
read consists of such parts (`Spelling.isGreedy_read`), so a byte string can be taken apart in one
way only. `Spelling.Means` says what the parts stand for, and `directiveAt_follows_grammar` puts
both together.
-/

namespace BoundedFormat

/-! ## Runs of one class -/

/-- A run of bytes of one class, as long as it can be in front of what stands behind it. -/
structure IsLongestRun (p : UInt8 → Bool) (run behind : Bytes) : Prop where
  /-- The bytes of the run are of the class. -/
  all : ∀ b ∈ run, p b = true
  /-- The byte behind it, if there is one, is not. -/
  ends : ∀ b ∈ behind.head?, p b = false

/-- Taking bytes while they are of a class takes the longest run. -/
theorem isLongestRun_span (p : UInt8 → Bool) (bytes : Bytes) :
    IsLongestRun p (bytes.takeWhile p) (bytes.dropWhile p) where
  all _ hb := List.mem_takeWhile_imp hb
  ends b hb := by
    have hnot := List.head?_dropWhile_not p bytes
    rw [Option.mem_def.1 hb] at hnot
    simpa using hnot

namespace IsLongestRun

variable {p : UInt8 → Bool} {run behind : Bytes}

/-- What stands behind the longest run has no more bytes to take. -/
theorem takeWhile_behind (h : IsLongestRun p run behind) : behind.takeWhile p = [] := by
  rcases behind with _ | ⟨b, rest⟩
  · rfl
  · rw [List.takeWhile_cons_of_neg (by simp [h.ends b rfl])]

/-- Taking bytes while they are of the class takes the run. -/
theorem takeWhile_eq (h : IsLongestRun p run behind) : (run ++ behind).takeWhile p = run := by
  rw [List.takeWhile_append_of_pos h.all, h.takeWhile_behind, List.append_nil]

/-- Behind the run everything is left. -/
theorem dropWhile_eq (h : IsLongestRun p run behind) : (run ++ behind).dropWhile p = behind := by
  rw [List.dropWhile_append_of_pos h.all]
  have hsplit := List.takeWhile_append_dropWhile (p := p) (l := behind)
  rwa [h.takeWhile_behind, List.nil_append] at hsplit

end IsLongestRun

/-! ## The parts of a directive -/

/-- The bytes that flags are spelled with. -/
def flagBytes : Bytes := [Ascii.zero, Ascii.minus, Ascii.plus, Ascii.space]

/-- These bytes stand for flags, and no other byte does. -/
theorem Flags.isFlag_eq_contains (b : UInt8) : isFlag b = flagBytes.contains b := by
  unfold isFlag ofByte?
  repeat' split
  all_goals simp_all [flagBytes]

namespace Amount

/-- The amount is all there is of it in front of what stands behind it: a star, or all digits where
no star begins. -/
def IsLongest (behind : Bytes) : Amount → Prop
  | star => True
  | digits run =>
    IsLongestRun Ascii.isDigit run behind ∧ (run ++ behind).head? ≠ some Ascii.star

/-- What is read as an amount is all there is of it. -/
theorem isLongest_read (bytes : Bytes) : (read bytes).1.IsLongest (read bytes).2 := by
  rcases bytes with _ | ⟨b, rest⟩
  · exact ⟨⟨nofun, nofun⟩, nofun⟩
  · rw [read]
    split
    · exact trivial
    · next hstar =>
      refine ⟨isLongestRun_span _ _, ?_⟩
      rw [List.takeWhile_append_dropWhile]
      exact fun h => hstar (Option.some.inj h)

/-- An amount that is all there is of it is read as it is. -/
theorem read_text_append {amount : Amount} {behind : Bytes} (h : amount.IsLongest behind) :
    read (amount.text ++ behind) = (amount, behind) := by
  cases amount with
  | star => rfl
  | digits run =>
    obtain ⟨hrun, hstar⟩ := h
    have htake := hrun.takeWhile_eq
    have hdrop := hrun.dropWhile_eq
    rw [text]
    generalize run ++ behind = bytes at hstar htake hdrop
    subst htake hdrop
    rcases bytes with _ | ⟨b, rest⟩
    · rfl
    · rw [read, if_neg fun hb => hstar (congrArg some hb)]

end Amount

namespace Length

/-- The modifier is all there is of it in front of what stands behind it. -/
def IsLongest (behind : Bytes) (length : Length) : Prop :=
  length = longLong ∨ behind.head? ≠ some Ascii.letterL

/-- What is read as a modifier is all there is of it. -/
theorem isLongest_read (bytes : Bytes) : (read bytes).1.IsLongest (read bytes).2 := by
  unfold read
  repeat' split
  all_goals simp_all [IsLongest]

/-- A modifier that is all there is of it is read as it is. -/
theorem read_text_append {length : Length} {behind : Bytes} (h : length.IsLongest behind) :
    read (length.text ++ behind) = (length, behind) := by
  cases length with
  | longLong => rfl
  | native =>
    have hhead := h.resolve_left (by simp)
    rcases behind with _ | ⟨a, _ | ⟨b, rest⟩⟩
    · rfl
    · simp_all [text, read]
    · simp_all [text, read]
  | long =>
    have hhead := h.resolve_left (by simp)
    rcases behind with _ | ⟨a, rest⟩
    · rfl
    · simp_all [text, read]

end Length

namespace Spelling

/-- The precision is all there is of it in front of what stands behind it. -/
def PrecisionIsLongest (behind : Bytes) : Option Amount → Prop
  | none => behind.head? ≠ some Ascii.point
  | some amount => amount.IsLongest behind

/-- What is read as a precision is all there is of it. -/
theorem precisionIsLongest_read (bytes : Bytes) :
    PrecisionIsLongest (readPrecision bytes).2 (readPrecision bytes).1 := by
  rcases bytes with _ | ⟨b, rest⟩
  · exact nofun
  · rw [readPrecision]
    split
    · exact Amount.isLongest_read rest
    · next hpoint => exact fun h => hpoint (Option.some.inj h)

/-- A precision that is all there is of it is read as it is. -/
theorem readPrecision_text_append {precision : Option Amount} {behind : Bytes}
    (h : PrecisionIsLongest behind precision) :
    readPrecision (precisionText precision ++ behind) = (precision, behind) := by
  cases precision with
  | none =>
    rcases behind with _ | ⟨b, rest⟩
    · rfl
    · exact if_neg fun hb => h (congrArg some hb)
  | some amount =>
    rw [precisionText, List.cons_append, readPrecision, if_pos rfl, Amount.read_text_append h]

/-! ## Directives -/

/-- The parts are what the grammar takes for a directive in front of `rest`: from left to right each
part is as long as it can be, and the conversion byte is there unless nothing is left. -/
structure IsGreedy (s : Spelling) (rest : Bytes) : Prop where
  flags : IsLongestRun flagBytes.contains s.flags
    (s.width.text ++ precisionText s.precision ++ s.length.text ++ s.letter.toList ++ rest)
  width : s.width.IsLongest
    (precisionText s.precision ++ s.length.text ++ s.letter.toList ++ rest)
  precision : PrecisionIsLongest (s.length.text ++ s.letter.toList ++ rest) s.precision
  length : s.length.IsLongest (s.letter.toList ++ rest)
  letter : s.letter = none → rest = []

/-- What is read as a directive has greedy parts. -/
theorem isGreedy_read (bytes : Bytes) : (read bytes).1.IsGreedy (read bytes).2 := by
  have hletter : ∀ left : Bytes, left.head?.toList ++ left.tail = left := by
    intro left
    cases left <;> rfl
  -- Behind each part stands what was left to the readers after it.
  simp only [read, funext Flags.isFlag_eq_contains]
  refine ⟨?_, ?_, ?_, ?_, ?_⟩
  · simp only [List.append_assoc, hletter, Length.text_read, text_readPrecision, Amount.text_read]
    exact isLongestRun_span _ _
  · simp only [List.append_assoc, hletter, Length.text_read, text_readPrecision]
    exact Amount.isLongest_read _
  · simp only [List.append_assoc, hletter, Length.text_read]
    exact precisionIsLongest_read _
  · simp only [hletter]
    exact Length.isLongest_read _
  · intro hnone
    rw [List.head?_eq_none_iff.1 hnone, List.tail_nil]

/-- Greedy parts are read as they are. -/
theorem read_text_append {s : Spelling} {rest : Bytes} (h : s.IsGreedy rest) :
    read (s.text ++ rest) = (s, rest) := by
  obtain ⟨hflags, hwidth, hprecision, hlength, hletter⟩ := h
  rcases s with ⟨flags, width, precision, length, letter⟩
  simp only [List.append_assoc] at hflags hwidth hprecision
  simp only [read, text, List.append_assoc, funext Flags.isFlag_eq_contains, hflags.takeWhile_eq,
    hflags.dropWhile_eq, Amount.read_text_append hwidth, readPrecision_text_append hprecision,
    Length.read_text_append hlength]
  cases letter with
  | none =>
    rw [hletter rfl]
    rfl
  | some b => rfl

/-- Bytes are taken apart in one way only. -/
theorem read_eq_iff {bytes : Bytes} {s : Spelling} {rest : Bytes} :
    read bytes = (s, rest) ↔ s.text ++ rest = bytes ∧ s.IsGreedy rest := by
  constructor
  · intro h
    have htext := text_read bytes
    have hgreedy := isGreedy_read bytes
    rw [h] at htext hgreedy
    exact ⟨htext, hgreedy⟩
  · rintro ⟨rfl, hgreedy⟩
    exact read_text_append hgreedy

end Spelling

/-! ## What the parts mean -/

/-- The flags of a run are those whose bytes are in it, in whatever order and however often. -/
theorem Flags.ofBytes_eq (run : Bytes) :
    ofBytes run =
      { zeroPad := decide (Ascii.zero ∈ run)
        leftJustify := decide (Ascii.minus ∈ run)
        forceSign := decide (Ascii.plus ∈ run)
        spaceSign := decide (Ascii.space ∈ run) } := by
  induction run with
  | nil => rfl
  | cons b rest ih =>
    have hbyte : (ofByte? b).getD none =
        { zeroPad := decide (Ascii.zero = b)
          leftJustify := decide (Ascii.minus = b)
          forceSign := decide (Ascii.plus = b)
          spaceSign := decide (Ascii.space = b) } := by
      unfold ofByte?
      repeat' split
      all_goals simp_all [none, eq_comm, Ascii.zero, Ascii.minus, Ascii.plus, Ascii.space]
    rw [ofBytes_cons, ih, hbyte]
    simp [Union.union, union, List.mem_cons, Bool.decide_or]

/-- A digit has the value that it has in a decimal numeral. -/
theorem Ascii.digitOfByte_eq_digitValue {b : UInt8} (h : isDigit b = true) :
    digitOfByte b = digitValue b := by
  simp only [isDigit, Bool.and_eq_true, decide_eq_true_eq, UInt8.le_iff_toNat_le] at h
  have hle : b.toNat ≤ 0x39 := h.2
  rw [digitOfByte, digitValue, if_pos (by omega)]

/-- The number of a run of digits is its decimal value, kept to 32 bits. -/
theorem Amount.toNat_wrappedValue {run : Bytes} (h : ∀ b ∈ run, Ascii.isDigit b = true) :
    (wrappedValue run).toNat = Radix.decimal.value run.reverse % 2 ^ 32 := by
  -- Digit by digit the word is the remainder of the number that the digits make so far.
  have hfold : ∀ (n : UInt32) (m : Nat), n.toNat = m % 2 ^ 32 →
      (run.foldl (fun n b => n * 10 + UInt32.ofNat (Ascii.digitValue b)) n).toNat =
        run.foldl (fun m b => digitOfByte b + 10 * m) m % 2 ^ 32 := by
    induction run with
    | nil => exact fun n m hn => hn
    | cons b rest ih =>
      intro n m hn
      rw [List.foldl_cons, List.foldl_cons]
      refine ih (fun c hc => h c (List.mem_cons_of_mem _ hc)) _ _ ?_
      have hten : (10 : UInt32).toNat = 10 := rfl
      rw [Ascii.digitOfByte_eq_digitValue (h b List.mem_cons_self), UInt32.toNat_add,
        UInt32.toNat_mul, hten, UInt32.toNat_ofNat', hn]
      omega
  rw [wrappedValue, hfold 0 0 rfl, Radix.value, List.foldr_reverse]
  rfl

namespace Spelling

/-- A run of decimal digits stands for this number, which has 32 bits only. -/
def IsNumber (run : Bytes) (n : UInt32) : Prop :=
  n.toNat = Radix.decimal.value run.reverse % 2 ^ 32

/-- What the parts of a directive stand for. -/
structure Means (s : Spelling) (d : Directive) : Prop where
  /-- The flags are those whose bytes are there. -/
  flags_eq : d.flags =
    { zeroPad := decide (Ascii.zero ∈ s.flags)
      leftJustify := decide (Ascii.minus ∈ s.flags)
      forceSign := decide (Ascii.plus ∈ s.flags)
      spaceSign := decide (Ascii.space ∈ s.flags) }
  /-- The width is an argument or a number, which is zero where no digit is there. -/
  width : match s.width with
    | .star => d.width = .fromArgument
    | .digits run => ∃ n, d.width = .fixed n ∧ IsNumber run n
  /-- The precision is an argument or a number, or there is none. -/
  precision : match s.precision with
    | none => d.precision = .unspecified
    | some .star => d.precision = .fromArgument
    | some (.digits run) => ∃ n, d.precision = .fixed n ∧ IsNumber run n
  length_eq : d.length = s.length
  /-- The conversion is that of its byte, if there is one. -/
  conversion : match s.letter with
    | none => d.conversion = .truncated
    | some b => d.conversion = .ofByte b

/-- Greedy parts mean the directive that they are taken for. -/
theorem IsGreedy.means {s : Spelling} {rest : Bytes} (h : s.IsGreedy rest) :
    s.Means s.directive := by
  have hwidth := h.width
  have hprecision := h.precision
  rcases s with ⟨flags, width, precision, length, letter⟩
  refine ⟨Flags.ofBytes_eq flags, ?_, ?_, rfl, ?_⟩
  · cases width with
    | star => rfl
    | digits run => exact ⟨_, rfl, Amount.toNat_wrappedValue hwidth.1.all⟩
  · match precision with
    | none => rfl
    | some .star => rfl
    | some (.digits run) => exact ⟨_, rfl, Amount.toNat_wrappedValue hprecision.1.all⟩
  · cases letter <;> rfl

end Spelling

/-- No byte stands for a directive that the template cut off. -/
theorem Conversion.ofByte_ne_truncated (b : UInt8) : ofByte b ≠ truncated := by
  unfold ofByte
  repeat' split
  all_goals exact nofun

namespace Spelling

/-- A directive is cut off exactly if it has no conversion byte. -/
theorem conversion_eq_truncated_iff (s : Spelling) :
    s.directive.conversion = .truncated ↔ s.letter = none := by
  rcases s with ⟨flags, width, precision, length, _ | b⟩
  · exact ⟨fun _ => rfl, fun _ => rfl⟩
  · exact ⟨fun h => absurd h (Conversion.ofByte_ne_truncated b), nofun⟩

/-- The bytes in front of the conversion byte. -/
def stem (s : Spelling) : Bytes :=
  s.flags ++ s.width.text ++ precisionText s.precision ++ s.length.text

/-- Greedy parts have no conversion byte exactly if nothing stands behind the other parts. -/
theorem IsGreedy.letter_eq_none_iff {s : Spelling} {rest : Bytes} (h : s.IsGreedy rest) :
    s.letter = none ↔ s.stem.length = (s.text ++ rest).length := by
  have htext : s.text = s.stem ++ s.letter.toList := rfl
  rw [htext, List.length_append, List.length_append]
  rcases hletter : s.letter with _ | b
  · simp [h.letter hletter]
  · simp only [reduceCtorEq, Option.toList_some, List.length_singleton, false_iff]
    omega

end Spelling

/-! ## The directive at a position -/

section

variable {bytes : Bytes} {position : Nat} {s : Spelling} {rest : Bytes}

/-- The directive at a position is the one whose parts are read there. -/
theorem directiveAt_of_read (h : Spelling.read (bytes.drop position) = (s, rest)) :
    directiveAt bytes position = (s.directive, position + s.text.length) := by
  rw [directiveAt, h]

/-- Behind the directive at a position stands what reading left over. -/
theorem drop_add_length_text (h : Spelling.read (bytes.drop position) = (s, rest)) :
    bytes.drop (position + s.text.length) = rest := by
  rw [← List.drop_drop, ← (Spelling.read_eq_iff.1 h).1, List.drop_left]

/-- The bytes of the directive at a position are those of its parts. -/
theorem extract_add_length_text (h : Spelling.read (bytes.drop position) = (s, rest)) :
    bytes.extract position (position + s.text.length) = s.text := by
  rw [List.extract_eq_take_drop, ← (Spelling.read_eq_iff.1 h).1, Nat.add_sub_cancel_left,
    List.take_left]

/-- The directive at a position in the bytes and what stands behind it reach to their end. -/
theorem add_length_text_add_length (h : Spelling.read (bytes.drop position) = (s, rest))
    (hposition : position ≤ bytes.length) :
    position + s.text.length + rest.length = bytes.length := by
  have htext := congrArg List.length (Spelling.read_eq_iff.1 h).1
  rw [List.length_append, List.length_drop] at htext
  omega

end

/-- A directive is read off a byte string, from any position on, as its grammar

    FLAGS* WIDTH? ('.' PRECISION?)? LENGTH? CONVERSION

says. The bytes from the position to the one behind the directive are its parts; each part is as
long as it can be, which leaves no other way to take the bytes apart, and the directive is what the
parts mean. It is cut off exactly if the bytes end before its conversion byte. Conversely, parts of
which none goes on in what stands behind it are read back as they are, wherever they stand. -/
theorem directiveAt_follows_grammar (bytes : Bytes) (position : Nat)
    (h : position ≤ bytes.length) :
    let parsed := directiveAt bytes position
    position ≤ parsed.2 ∧ parsed.2 ≤ bytes.length ∧
      (∃ s : Spelling, s.text = bytes.extract position parsed.2 ∧
        s.IsGreedy (bytes.drop parsed.2) ∧ s.Means parsed.1 ∧
        (parsed.1.conversion = .truncated ↔ position + s.stem.length = bytes.length) ∧
        ∀ (other : Spelling) (rest : Bytes), other.text ++ rest = bytes.drop position →
          other.IsGreedy rest → other = s ∧ rest = bytes.drop parsed.2) ∧
      ∀ (before : Bytes) (s : Spelling) (rest : Bytes), s.IsGreedy rest →
        Spelling.read (s.text ++ rest) = (s, rest) ∧
          (directiveAt (before ++ (s.text ++ rest)) before.length).2 =
            before.length + s.text.length ∧
          s.Means (directiveAt (before ++ (s.text ++ rest)) before.length).1 := by
  intro parsed
  rcases hread : Spelling.read (bytes.drop position) with ⟨s, rest⟩
  have hparsed : parsed = (s.directive, position + s.text.length) := directiveAt_of_read hread
  have hend := add_length_text_add_length hread h
  obtain ⟨htext, hgreedy⟩ := Spelling.read_eq_iff.1 hread
  rw [hparsed]
  refine ⟨Nat.le_add_right _ _, by omega, ⟨s, ?_, ?_, hgreedy.means, ?_, ?_⟩, ?_⟩
  · rw [extract_add_length_text hread]
  · rwa [drop_add_length_text hread]
  · rw [s.conversion_eq_truncated_iff, hgreedy.letter_eq_none_iff, List.length_append]
    omega
  · intro other behind hother hlongest
    have hagain := Spelling.read_eq_iff.2 ⟨hother, hlongest⟩
    rw [hread, Prod.mk.injEq] at hagain
    rw [drop_add_length_text hread]
    exact ⟨hagain.1.symm, hagain.2.symm⟩
  · intro before parts behind hparts
    have hagain : Spelling.read ((before ++ (parts.text ++ behind)).drop before.length) =
        (parts, behind) := by
      rw [List.drop_left, Spelling.read_text_append hparts]
    rw [directiveAt_of_read hagain]
    exact ⟨Spelling.read_text_append hparts, rfl, hparts.means⟩

/-- The grammar where every part is there, the zero goes to the flags, the width has more than 32
bits and the byte behind the modifier is no conversion: `0+4294967308.*lq` inside a template. -/
theorem directiveAt_follows_grammar_inside_template :
    let bytes := utf8 "a%0+4294967308.*lq!"
    2 ≤ bytes.length ∧
      directiveAt bytes 2 =
        (⟨{ zeroPad := true, forceSign := true }, .fixed 12, .fromArgument, .long,
          .unknown 0x71⟩, 18) ∧
      ∃ s : Spelling, s.text = utf8 "0+4294967308.*lq" ∧ s.IsGreedy (utf8 "!") ∧
        s.flags = utf8 "0+" ∧ s.width = .digits (utf8 "4294967308") := by
  intro bytes
  have hle : 2 ≤ bytes.length := by decide
  have hparsed : directiveAt bytes 2 =
      (⟨{ zeroPad := true, forceSign := true }, .fixed 12, .fromArgument, .long,
        .unknown 0x71⟩, 18) := by decide +kernel
  obtain ⟨-, -, ⟨s, htext, hgreedy, -⟩, -⟩ := directiveAt_follows_grammar bytes 2 hle
  rw [hparsed] at htext hgreedy
  refine ⟨hle, hparsed, s, htext, hgreedy, ?_⟩
  have hread := congrArg Prod.fst (Spelling.read_text_append hgreedy)
  rw [htext] at hread
  exact ⟨congrArg Spelling.flags hread.symm, congrArg Spelling.width hread.symm⟩

end BoundedFormat
