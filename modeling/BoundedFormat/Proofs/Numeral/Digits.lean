import Mathlib.Algebra.Group.Nat.Defs
import BoundedFormat.Numeral.Integer

/-!
# Digits that read back

What a number is written with: every digit stands in the alphabet of its radix, there are no more of
them than a power of the radix says, and zeros in front of a number do not change what it reads as.
-/

namespace BoundedFormat

namespace Radix

/-- The digits of a radix in the order of their values; letters are small. -/
def alphabet : Radix → Bytes
  | decimal => utf8 "0123456789"
  | hexadecimal => utf8 "0123456789abcdef"

/-- The digits of the radix stand in its alphabet. -/
theorem digitByte_mem_alphabet (radix : Radix) {d : Nat} (h : d < radix.base) :
    digitByte d ∈ radix.alphabet := by
  have hall : ∀ d : Fin radix.base, digitByte d ∈ radix.alphabet := by
    cases radix <;> decide
  exact hall ⟨d, h⟩

/-- What a digit counts for is its place in the alphabet. -/
theorem digitOfByte_getElem_alphabet (radix : Radix) (i : Fin radix.alphabet.length) :
    digitOfByte radix.alphabet[i] = i := by
  revert i
  cases radix <;> decide

/-- A number is written in the alphabet of the radix. -/
theorem mem_alphabet_of_mem_digits {radix : Radix} {n : Nat} {b : UInt8}
    (h : b ∈ radix.digits n) : b ∈ radix.alphabet := by
  have hpos := radix.one_lt_base
  fun_induction digits radix n with
  | case1 n hn =>
    rw [List.mem_singleton] at h
    rw [h]
    exact digitByte_mem_alphabet radix hn
  | case2 n hn ih =>
    obtain rfl | hrest := List.mem_cons.1 h
    · exact digitByte_mem_alphabet radix (Nat.mod_lt n (by omega))
    · exact ih hrest

/-- A number has a digit. -/
theorem digits_ne_nil (radix : Radix) (n : Nat) : radix.digits n ≠ [] := by
  rw [digits]
  split <;> exact List.cons_ne_nil _ _

/-- A number below a power of the radix has no more digits than the exponent says. -/
theorem length_digits_le (radix : Radix) {n k : Nat} (hk : 0 < k) (h : n < radix.base ^ k) :
    (radix.digits n).length ≤ k := by
  have hpos := radix.one_lt_base
  fun_induction digits radix n generalizing k with
  | case1 n hn => exact hk
  | case2 n hn ih =>
    obtain ⟨k, rfl⟩ : ∃ j, k = j + 1 := ⟨k - 1, by omega⟩
    -- The number is not below the radix, so the exponent is not one.
    have hk' : 0 < k := by
      rcases k with _ | k
      · exact absurd h (by simpa using hn)
      · omega
    have hdiv : n / radix.base < radix.base ^ k := by
      rw [Nat.div_lt_iff_lt_mul (by omega), ← Nat.pow_succ]
      exact h
    rw [List.length_cons]
    have := ih hk' hdiv
    omega

/-- The value of a run that begins with a given digit. -/
theorem value_cons (radix : Radix) (b : UInt8) (run : Bytes) :
    radix.value (b :: run) = digitOfByte b + radix.base * radix.value run := rfl

/-- The value of a run with more digits behind it, which count for more. -/
theorem value_append (radix : Radix) (a b : Bytes) :
    radix.value (a ++ b) = radix.value a + radix.base ^ a.length * radix.value b := by
  induction a with
  | nil => simp [value]
  | cons c rest ih =>
    rw [List.cons_append, value_cons, value_cons, ih, List.length_cons, Nat.pow_succ', Nat.mul_add,
      Nat.mul_assoc, Nat.add_assoc]

/-- A run of zeros has no value. -/
theorem value_replicate_zero (radix : Radix) (n : Nat) :
    radix.value (List.replicate n Ascii.zero) = 0 := by
  induction n with
  | zero => rfl
  | succ n ih =>
    rw [List.replicate_succ, value_cons, ih]
    rfl

/-- Zeros in front of a written number do not change what it reads as. -/
theorem value_reverse_zeros_append (radix : Radix) (n : Nat) (run : Bytes) :
    radix.value (List.replicate n Ascii.zero ++ run.reverse).reverse = radix.value run := by
  rw [List.reverse_append, List.reverse_reverse, List.reverse_replicate, value_append,
    value_replicate_zero, Nat.mul_zero, Nat.add_zero]

end Radix

/-! ## Words in scratch cells -/

namespace DigitRun

/-- The digits of a row of pushes into empty cells that have room for all of it. -/
theorem digits_pushAll_ofCapacity {capacity : Nat} {bytes : Bytes}
    (h : bytes.length ≤ capacity) :
    ((ofCapacity capacity).pushAll bytes).digits = bytes := by
  rw [digits_pushAll]
  simp [ofCapacity, digits, List.take_of_length_le h]

/-- A word written into new cells is a row of pushes. -/
theorem writeWord64_ofCapacity (capacity : Nat) (radix : Radix) (n : UInt64) :
    (ofCapacity capacity).writeWord64 radix n =
      (ofCapacity capacity).pushAll (radix.digits n.toNat) := by
  rw [← pushWord64_eq_pushAll]
  rfl

/-- A narrow word written into new cells is a row of pushes. -/
theorem writeWord32_ofCapacity (capacity : Nat) (radix : Radix) (n : UInt32) :
    (ofCapacity capacity).writeWord32 radix n =
      (ofCapacity capacity).pushAll (radix.digits n.toNat) := by
  rw [← pushWord32_eq_pushAll]
  rfl

end DigitRun

end BoundedFormat
