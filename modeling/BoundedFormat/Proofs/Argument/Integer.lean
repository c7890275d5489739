import Mathlib.Algebra.Group.Int.Defs
import Mathlib.Algebra.Group.Nat.Defs
import BoundedFormat.Argument.Promotion

/-!
# The integer that an argument carries

An argument that is an integer, a character or an address stands for an integer, and so does every
integer that the host hands over. Reading it again at 32 or at 64 bits goes through its 64-bit
pattern: what comes out is that integer reduced to the width, as two's complement or unsigned
(`signed?_of_integer?`, `unsigned?_of_integer?`).
-/

namespace BoundedFormat

/-! ## What arguments stand for -/

/-- The integer that the argument stands for, if it is integer-like. -/
def Argument.integer? : Argument → Option Int
  | int32 n => some n.toInt
  | int64 n => some n.toInt
  | uint32 n => some n.toNat
  | uint64 n => some n.toNat
  | character b => some b.toNat
  | pointer address => some address.toNat
  | text _ | float _ | counter _ => none

/-- An integer of the host, of any of its types. -/
inductive HostInteger where
  | int8 (n : Int8)
  | int16 (n : Int16)
  | int32 (n : Int32)
  | int64 (n : Int64)
  | isize (n : ISize)
  | uint8 (n : UInt8)
  | uint16 (n : UInt16)
  | uint32 (n : UInt32)
  | uint64 (n : UInt64)
  | usize (n : USize)

namespace HostInteger

/-- The integer itself. -/
def value : HostInteger → Int
  | int8 n => n.toInt
  | int16 n => n.toInt
  | int32 n => n.toInt
  | int64 n => n.toInt
  | isize n => n.toInt
  | uint8 n => n.toNat
  | uint16 n => n.toNat
  | uint32 n => n.toNat
  | uint64 n => n.toNat
  | usize n => n.toNat

/-- The argument that it is handed over as. -/
def argument : HostInteger → Argument
  | int8 n => toArgument n
  | int16 n => toArgument n
  | int32 n => toArgument n
  | int64 n => toArgument n
  | isize n => toArgument n
  | uint8 n => toArgument n
  | uint16 n => toArgument n
  | uint32 n => toArgument n
  | uint64 n => toArgument n
  | usize n => toArgument n

/-- The promotions keep the value. -/
theorem integer?_argument (n : HostInteger) : n.argument.integer? = some n.value := by
  cases n with
  | int8 n | int16 n => exact congrArg some n.toInt_toInt32
  | isize n => exact congrArg some n.toInt_toInt64
  | _ => rfl

end HostInteger

/-- An argument stands for an integer: it is integer-like itself, or it is what an integer of the
host is handed over as. -/
inductive Carries : Argument → Int → Prop where
  | integerLike {argument : Argument} {x : Int} (h : argument.integer? = some x) :
      Carries argument x
  | host (n : HostInteger) : Carries n.argument n.value

/-- What an argument stands for, however it was made. -/
theorem Carries.integer?_eq {argument : Argument} {x : Int} (h : Carries argument x) :
    argument.integer? = some x := by
  cases h with
  | integerLike h => exact h
  | host n => exact n.integer?_argument

/-! ## Reading at a width -/

/-- How many bits are read. -/
def Length.bits : Length → Nat
  | native => 32
  | long | longLong => 64

/-- The 64-bit pattern of an integer. -/
def pattern64 (x : Int) : Int := x % 2 ^ 64

/-- The pattern of an integer at a width, as two's complement. -/
def Length.readSigned (length : Length) (x : Int) : Int :=
  (pattern64 x).bmod (2 ^ length.bits)

/-- The pattern of an integer at a width, without a sign. -/
def Length.readUnsigned (length : Length) (x : Int) : Int :=
  pattern64 x % 2 ^ length.bits

/-- A signed number that was read fits its width. -/
theorem Length.natAbs_readSigned_lt (length : Length) (x : Int) :
    (length.readSigned x).natAbs < 2 ^ length.bits := by
  have hpos : 0 < 2 ^ length.bits := Nat.two_pow_pos _
  have hlow := Int.le_bmod (x := pattern64 x) hpos
  have hhigh := Int.bmod_lt (x := pattern64 x) hpos
  rw [readSigned]
  omega

/-- A number without a sign that was read fits its width. -/
theorem Length.natAbs_readUnsigned_lt (length : Length) (x : Int) :
    (length.readUnsigned x).natAbs < 2 ^ length.bits := by
  rw [readUnsigned]
  cases length <;> simp only [bits] <;> omega

/-- A machine word of 64 bits that is signed has the pattern of its value. -/
theorem toNat_toUInt64_toInt (n : Int64) : (n.toUInt64.toNat : Int) = pattern64 n.toInt := by
  -- The value is the pattern as two's complement, and reducing it gives the pattern back.
  have hbmod : n.toInt = (n.toUInt64.toNat : Int).bmod (2 ^ 64) :=
    BitVec.toInt_eq_toNat_bmod n.toBitVec
  have hlt := n.toUInt64.toNat_lt
  rw [hbmod, pattern64, show (2 : Int) ^ 64 = ((2 ^ 64 : Nat) : Int) from rfl, Int.bmod_emod,
    Int.emod_eq_of_lt (by omega) (by omega)]

/-- A machine word of 64 bits without a sign is its pattern. -/
theorem pattern64_of_lt {n : Nat} (h : n < 2 ^ 64) : (n : Int) = pattern64 n :=
  (Int.emod_eq_of_lt (by omega) (by omega)).symm

namespace Argument

/-- An integer-like argument has the pattern of its integer. -/
theorem integerBits?_of_integer? {argument : Argument} {x : Int}
    (h : argument.integer? = some x) :
    ∃ bits, argument.integerBits? = some bits ∧ (bits.toNat : Int) = pattern64 x := by
  cases argument with
  | int32 n =>
    obtain rfl := Option.some.inj h
    refine ⟨n.toInt64.toUInt64, rfl, ?_⟩
    rw [toNat_toUInt64_toInt, Int32.toInt_toInt64]
  | int64 n =>
    obtain rfl := Option.some.inj h
    exact ⟨n.toUInt64, rfl, toNat_toUInt64_toInt n⟩
  | uint32 n =>
    obtain rfl := Option.some.inj h
    exact ⟨n.toUInt64, rfl, pattern64_of_lt n.toUInt64.toNat_lt⟩
  | uint64 n =>
    obtain rfl := Option.some.inj h
    exact ⟨n, rfl, pattern64_of_lt n.toNat_lt⟩
  | character b =>
    obtain rfl := Option.some.inj h
    exact ⟨b.toUInt64, rfl, pattern64_of_lt b.toUInt64.toNat_lt⟩
  | pointer address =>
    obtain rfl := Option.some.inj h
    exact ⟨address, rfl, pattern64_of_lt address.toNat_lt⟩
  | text _ | float _ | counter _ => exact nomatch h

/-- An argument that is not integer-like has no pattern. -/
theorem integerBits?_of_integer?_eq_none {argument : Argument} (h : argument.integer? = none) :
    argument.integerBits? = none := by
  cases argument with
  | text _ | float _ | counter _ => rfl
  | _ => exact nomatch h

/-- Reading an integer-like argument as a signed number. -/
theorem signed?_of_integer? {argument : Argument} {x : Int} (length : Length)
    (h : argument.integer? = some x) :
    ∃ n, argument.signed? length = some n ∧ n.toInt = length.readSigned x := by
  obtain ⟨bits, hbits, hpattern⟩ := integerBits?_of_integer? h
  rw [signed?, hbits, Length.readSigned, ← hpattern]
  refine ⟨_, rfl, ?_⟩
  cases length with
  | native =>
    -- Only the low half of the pattern is read, and a reduction to 64 bits leaves it as it is.
    have hword : bits.toUInt32.toInt32.toInt = (bits.toUInt32.toNat : Int).bmod (2 ^ 32) :=
      BitVec.toInt_eq_toNat_bmod _
    show bits.toUInt32.toInt32.toInt64.toInt = (bits.toNat : Int).bmod (2 ^ 32)
    rw [Int32.toInt_toInt64, hword, UInt64.toNat_toUInt32, Int.natCast_emod, Int.emod_bmod]
  | long | longLong => exact BitVec.toInt_eq_toNat_bmod bits.toBitVec

/-- Reading an integer-like argument as a number without a sign. -/
theorem unsigned?_of_integer? {argument : Argument} {x : Int} (length : Length)
    (h : argument.integer? = some x) :
    ∃ n, argument.unsigned? length = some n ∧ (n.toNat : Int) = length.readUnsigned x := by
  obtain ⟨bits, hbits, hpattern⟩ := integerBits?_of_integer? h
  rw [unsigned?, hbits, Length.readUnsigned, ← hpattern]
  refine ⟨_, rfl, ?_⟩
  cases length with
  | native =>
    show (bits.toUInt32.toUInt64.toNat : Int) = (bits.toNat : Int) % 2 ^ 32
    rw [UInt32.toNat_toUInt64, UInt64.toNat_toUInt32]
    rfl
  | long | longLong => exact pattern64_of_lt bits.toNat_lt

end Argument

end BoundedFormat
