import BoundedFormat.Proofs.Numeral.Digits

/-!
# Canonical numerals

A number has one text in each radix that begins with no zero it could do without. `IsNumeral` says
what such a text is without dividing anything; `isNumeral_iff` says that the digits of the number in
reading order are one, and that there is no other.
-/

namespace BoundedFormat

namespace Radix

/-- The text stands for the number, in reading order and without a zero too many in front. -/
structure IsNumeral (radix : Radix) (text : Bytes) (n : Nat) : Prop where
  /-- Only digits of the radix are in it. -/
  mem_alphabet : ∀ b ∈ text, b ∈ radix.alphabet
  /-- They read as the number. -/
  value_eq : radix.value text.reverse = n
  /-- There is a digit. -/
  ne_nil : text ≠ []
  /-- A zero in front is the whole text. -/
  eq_of_head? : text.head? = some Ascii.zero → text = [Ascii.zero]

/-- A digit of the alphabet is the digit of what it counts for. -/
theorem digitByte_digitOfByte {radix : Radix} {b : UInt8} (h : b ∈ radix.alphabet) :
    digitByte (digitOfByte b) = b ∧ digitOfByte b < radix.base := by
  have hall : ∀ i : Fin radix.alphabet.length,
      digitByte i = radix.alphabet[i] ∧ i < radix.base := by
    cases radix <;> decide
  obtain ⟨i, hi, rfl⟩ := List.mem_iff_getElem.1 h
  have hdigit : digitOfByte radix.alphabet[i] = i := radix.digitOfByte_getElem_alphabet ⟨i, hi⟩
  rw [hdigit]
  exact hall ⟨i, hi⟩

/-- The most significant digit of a number is no zero, unless it is the only one. -/
theorem eq_of_getLast?_digits {radix : Radix} {n : Nat}
    (h : (radix.digits n).getLast? = some Ascii.zero) : radix.digits n = [Ascii.zero] := by
  have hpos := radix.one_lt_base
  fun_induction digits radix n with
  | case1 n hn => simpa using h
  | case2 n hn ih =>
    -- The front of the number is the front of its quotient, which is not zero.
    rw [List.getLast?_cons_of_ne_nil (radix.digits_ne_nil _)] at h
    have hvalue := radix.value_digits (n / radix.base)
    rw [ih h] at hvalue
    have hzero : 0 = n / radix.base := hvalue
    have hquotient : 0 < n / radix.base := Nat.div_pos (by omega) (by omega)
    omega

/-- A run of digits whose most significant one is no zero, unless it is the only one, is the run of
its value. -/
theorem digits_value {radix : Radix} {run : Bytes} (halphabet : ∀ b ∈ run, b ∈ radix.alphabet)
    (hne : run ≠ []) (hlast : run.getLast? = some Ascii.zero → run = [Ascii.zero]) :
    radix.digits (radix.value run) = run := by
  induction run with
  | nil => exact absurd rfl hne
  | cons b rest ih =>
    obtain ⟨hbyte, hlt⟩ := digitByte_digitOfByte (halphabet b List.mem_cons_self)
    rw [value_cons]
    rcases rest with _ | ⟨c, rest⟩
    · -- The last digit: it counts for less than the radix.
      have hvalue : digitOfByte b + radix.base * radix.value [] = digitOfByte b := rfl
      rw [hvalue, digits, if_pos hlt, hbyte]
    · have hrest : radix.digits (radix.value (c :: rest)) = c :: rest := by
        refine ih (fun d hd => halphabet d (List.mem_cons_of_mem b hd)) (List.cons_ne_nil c rest)
          fun hzero => ?_
        rw [← List.getLast?_cons_of_ne_nil (x := b) (List.cons_ne_nil c rest)] at hzero
        exact absurd (hlast hzero) (by simp)
      -- More digits: they do not count for zero, so the number is not below the radix.
      have hpos : 0 < radix.value (c :: rest) := by
        refine Nat.pos_of_ne_zero fun hzero => ?_
        rw [hzero, digits_zero] at hrest
        rw [List.getLast?_cons_of_ne_nil (List.cons_ne_nil c rest), ← hrest] at hlast
        exact absurd (hlast rfl) (by simp)
      have hge : ¬ digitOfByte b + radix.base * radix.value (c :: rest) < radix.base := by
        have := Nat.le_mul_of_pos_right radix.base hpos
        omega
      rw [digits, if_neg hge, Nat.add_mul_mod_self_left, Nat.mod_eq_of_lt hlt,
        Nat.add_mul_div_left _ _ (by omega), Nat.div_eq_of_lt hlt, Nat.zero_add, hbyte, hrest]

/-- The canonical text of a number is its digits in reading order, and nothing else is. -/
theorem isNumeral_iff {radix : Radix} {text : Bytes} {n : Nat} :
    radix.IsNumeral text n ↔ text = (radix.digits n).reverse := by
  constructor
  · rintro ⟨halphabet, rfl, hne, hhead⟩
    rw [digits_value, List.reverse_reverse]
    · exact fun b hb => halphabet b (List.mem_reverse.1 hb)
    · exact fun hnil => hne (List.reverse_eq_nil_iff.1 hnil)
    · intro hlast
      rw [List.getLast?_reverse] at hlast
      rw [hhead hlast]
      rfl
  · rintro rfl
    refine ⟨fun b hb => mem_alphabet_of_mem_digits (List.mem_reverse.1 hb), ?_, ?_, fun hhead => ?_⟩
    · rw [List.reverse_reverse, value_digits]
    · exact fun hnil => radix.digits_ne_nil n (List.reverse_eq_nil_iff.1 hnil)
    · rw [List.head?_reverse] at hhead
      rw [eq_of_getLast?_digits hhead]
      rfl

end Radix

end BoundedFormat
