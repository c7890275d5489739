import BoundedFormat.Text.Bytes

/-!
# Radices and digit runs

A number is written least significant digit first: that is the order in which dividing by the radix
yields the digits, and padding or a sign then goes after the run without moving it. `Radix.digits`
is the run of a natural number, `Radix.value` reads a run back.
-/

namespace BoundedFormat

/-- The radix of a written number. -/
inductive Radix where
  | decimal
  | hexadecimal
  deriving DecidableEq, Repr

namespace Radix

/-- How many digits the radix has. -/
def base : Radix → Nat
  | decimal => 10
  | hexadecimal => 16

/-- Dividing by a radix makes a positive number smaller. -/
theorem one_lt_base (radix : Radix) : 1 < radix.base := by cases radix <;> decide

/-- A radix has at most sixteen digits. -/
theorem base_le (radix : Radix) : radix.base ≤ 16 := by cases radix <;> decide

end Radix

/-- The byte of a digit below sixteen; letters are small. -/
def digitByte (d : Nat) : UInt8 :=
  if d < 10 then UInt8.ofNat (0x30 + d) else UInt8.ofNat (0x61 + (d - 10))

/-- The value of a digit, decimal or hexadecimal with small letters. -/
def digitOfByte (b : UInt8) : Nat :=
  if b.toNat < 0x61 then b.toNat - 0x30 else b.toNat - 0x61 + 10

/-- Reading a digit undoes writing it. -/
theorem digitOfByte_digitByte {d : Nat} (h : d < 16) : digitOfByte (digitByte d) = d := by
  have : ∀ d : Fin 16, digitOfByte (digitByte d) = d := by decide
  exact this ⟨d, h⟩

namespace Radix

/-- The digits of a number, least significant first. Zero has the single digit `0`, and no other
number ends in a zero digit. -/
def digits (radix : Radix) (n : Nat) : Bytes :=
  if n < radix.base then [digitByte n]
  else digitByte (n % radix.base) :: radix.digits (n / radix.base)
termination_by n
decreasing_by
  have := radix.one_lt_base
  exact Nat.div_lt_self (by omega) this

/-- Zero is the digit `0`. -/
theorem digits_zero (radix : Radix) : radix.digits 0 = [Ascii.zero] := by
  have := radix.one_lt_base
  rw [digits, if_pos (by omega)]
  rfl

/-- The value of a run of digits, least significant first. -/
def value (radix : Radix) (run : Bytes) : Nat :=
  run.foldr (fun b rest => digitOfByte b + radix.base * rest) 0

/-- A digit run reads back as the number it was written for. -/
theorem value_digits (radix : Radix) (n : Nat) : radix.value (radix.digits n) = n := by
  have hb := radix.base_le
  fun_induction digits radix n with
  | case1 n h => simp [value, digitOfByte_digitByte (show n < 16 by omega)]
  | case2 n h ih =>
    have hmod : n % radix.base < 16 := by
      have := Nat.mod_lt n (show 0 < radix.base by have := radix.one_lt_base; omega)
      omega
    simp only [value, List.foldr_cons] at ih ⊢
    rw [digitOfByte_digitByte hmod, ih, Nat.mod_add_div]

end Radix

end BoundedFormat
