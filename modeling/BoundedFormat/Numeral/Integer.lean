import BoundedFormat.Numeral.DigitRun
import BoundedFormat.Numeral.Radix

/-!
# Writing machine words as digits

A word is written by dividing it by the radix until nothing is left or the cells are full, so a run
that is cut holds the least significant digits. Words of 32 and of 64 bits have a loop each, in
their own arithmetic: a narrow word never pays for a wide division.
-/

namespace BoundedFormat

namespace DigitRun

/-- Add the digits of a 64-bit word; the word zero has none here. -/
def pushDigits64 (run : DigitRun) (radix : Radix) (n : UInt64) : DigitRun :=
  if n = 0 then run
  else
    let base := UInt64.ofNat radix.base
    match run.push? (digitByte (n % base).toNat) with
    | none => run
    | some longer => longer.pushDigits64 radix (n / base)
termination_by n.toNat
decreasing_by
  rename_i h
  have hn : n.toNat ≠ 0 := fun h0 => h (UInt64.toNat_inj.1 (by simpa using h0))
  rw [UInt64.toNat_div]
  cases radix <;> exact Nat.div_lt_self (by omega) (by decide)

/-- Add the digits of a 32-bit word; the word zero has none here. -/
def pushDigits32 (run : DigitRun) (radix : Radix) (n : UInt32) : DigitRun :=
  if n = 0 then run
  else
    let base := UInt32.ofNat radix.base
    match run.push? (digitByte (n % base).toNat) with
    | none => run
    | some longer => longer.pushDigits32 radix (n / base)
termination_by n.toNat
decreasing_by
  rename_i h
  have hn : n.toNat ≠ 0 := fun h0 => h (UInt32.toNat_inj.1 (by simpa using h0))
  rw [UInt32.toNat_div]
  cases radix <;> exact Nat.div_lt_self (by omega) (by decide)

/-- Add a 64-bit word after the run; zero is the single digit `0`. -/
def pushWord64 (run : DigitRun) (radix : Radix) (n : UInt64) : DigitRun :=
  if n = 0 then run.push Ascii.zero else run.pushDigits64 radix n

/-- Add a 32-bit word after the run; zero is the single digit `0`. -/
def pushWord32 (run : DigitRun) (radix : Radix) (n : UInt32) : DigitRun :=
  if n = 0 then run.push Ascii.zero else run.pushDigits32 radix n

/-- Write a 64-bit word over the run. -/
def writeWord64 (run : DigitRun) (radix : Radix) (n : UInt64) : DigitRun :=
  run.clear.pushWord64 radix n

/-- Write a 32-bit word over the run. -/
def writeWord32 (run : DigitRun) (radix : Radix) (n : UInt32) : DigitRun :=
  run.clear.pushWord32 radix n

/-! ## A word has the digits of its value -/

private theorem size_le_of_push?_eq_none {run : DigitRun} {b : UInt8} (h : run.push? b = none) :
    run.cells.size ≤ run.length := by
  unfold push? at h
  split at h <;> simp_all

private theorem pushDigits64_eq_pushAll (run : DigitRun) (radix : Radix) (n : UInt64)
    (hn : n ≠ 0) : run.pushDigits64 radix n = run.pushAll (radix.digits n.toNat) := by
  have hbase : (UInt64.ofNat radix.base).toNat = radix.base := by cases radix <;> rfl
  have hpos := radix.one_lt_base
  fun_induction pushDigits64 run radix n with
  | case1 => exact absurd rfl hn
  | case2 run n h base hp =>
    rw [pushAll_of_full _ (size_le_of_push?_eq_none hp)]
  | case3 run n h base longer hp ih =>
    have hpush : run.push (digitByte (n % base).toNat) = longer := by rw [push, hp]; rfl
    have hlow : (n % base).toNat = n.toNat % radix.base := by rw [UInt64.toNat_mod, hbase]
    have hdiv : (n / base).toNat = n.toNat / radix.base := by rw [UInt64.toNat_div, hbase]
    rw [Radix.digits]
    by_cases hsmall : n.toNat < radix.base
    · have hzero : n / base = 0 := UInt64.toNat_inj.1 (by rw [hdiv, Nat.div_eq_of_lt hsmall]; rfl)
      rw [if_pos hsmall, pushAll_cons, ← Nat.mod_eq_of_lt hsmall, ← hlow, hpush, hzero,
        pushDigits64]
      simp
    · have hne : n / base ≠ 0 := fun h0 => by
        have := hdiv.symm.trans (congrArg UInt64.toNat h0)
        rw [UInt64.toNat_zero, Nat.div_eq_zero_iff] at this
        omega
      rw [if_neg hsmall, pushAll_cons, ih hne, ← hlow, hpush, hdiv]

/-- Adding a 64-bit word adds the digits of its value. -/
theorem pushWord64_eq_pushAll (run : DigitRun) (radix : Radix) (n : UInt64) :
    run.pushWord64 radix n = run.pushAll (radix.digits n.toNat) := by
  unfold pushWord64
  split
  · next h => rw [h, UInt64.toNat_zero, Radix.digits_zero]; rfl
  · next h => exact run.pushDigits64_eq_pushAll radix n h

private theorem pushDigits32_eq_pushAll (run : DigitRun) (radix : Radix) (n : UInt32)
    (hn : n ≠ 0) : run.pushDigits32 radix n = run.pushAll (radix.digits n.toNat) := by
  have hbase : (UInt32.ofNat radix.base).toNat = radix.base := by cases radix <;> rfl
  have hpos := radix.one_lt_base
  fun_induction pushDigits32 run radix n with
  | case1 => exact absurd rfl hn
  | case2 run n h base hp =>
    rw [pushAll_of_full _ (size_le_of_push?_eq_none hp)]
  | case3 run n h base longer hp ih =>
    have hpush : run.push (digitByte (n % base).toNat) = longer := by rw [push, hp]; rfl
    have hlow : (n % base).toNat = n.toNat % radix.base := by rw [UInt32.toNat_mod, hbase]
    have hdiv : (n / base).toNat = n.toNat / radix.base := by rw [UInt32.toNat_div, hbase]
    rw [Radix.digits]
    by_cases hsmall : n.toNat < radix.base
    · have hzero : n / base = 0 := UInt32.toNat_inj.1 (by rw [hdiv, Nat.div_eq_of_lt hsmall]; rfl)
      rw [if_pos hsmall, pushAll_cons, ← Nat.mod_eq_of_lt hsmall, ← hlow, hpush, hzero,
        pushDigits32]
      simp
    · have hne : n / base ≠ 0 := fun h0 => by
        have := hdiv.symm.trans (congrArg UInt32.toNat h0)
        rw [UInt32.toNat_zero, Nat.div_eq_zero_iff] at this
        omega
      rw [if_neg hsmall, pushAll_cons, ih hne, ← hlow, hpush, hdiv]

/-- Adding a 32-bit word adds the digits of its value. -/
theorem pushWord32_eq_pushAll (run : DigitRun) (radix : Radix) (n : UInt32) :
    run.pushWord32 radix n = run.pushAll (radix.digits n.toNat) := by
  unfold pushWord32
  split
  · next h => rw [h, UInt32.toNat_zero, Radix.digits_zero]; rfl
  · next h => exact run.pushDigits32_eq_pushAll radix n h

end DigitRun

end BoundedFormat
