import BoundedFormat.Proofs.Numeral.Canonical
import BoundedFormat.Proofs.Output.Fields
import BoundedFormat.Proofs.Plan.Values

/-!
# Addresses that read back

A pointer carries an address, and so does an unsigned integer of either width (`CarriesAddress`). An
address has one text: `(nil)` for the address zero, and for any other one `0x` and its numeral in
hexadecimal. `ShowsAddress` says this of a text, and that the address can be read off it again.
Written to a place the text is padded with spaces (`Placement.bytes_pointer`); of the flags only
left justification has a part in this, and the precision has none.
-/

namespace BoundedFormat

/-! ## What arguments carry -/

/-- An argument carries an address: it is a pointer, or an unsigned integer that holds one. -/
inductive CarriesAddress : Argument → (address : Nat) → Prop
  | pointer (address : UInt64) : CarriesAddress (.pointer address) address.toNat
  | uint32 (n : UInt32) : CarriesAddress (.uint32 n) n.toNat
  | uint64 (n : UInt64) : CarriesAddress (.uint64 n) n.toNat

/-- The address is read off an argument that carries it. -/
theorem CarriesAddress.address?_eq {argument : Argument} {address : UInt64}
    (h : CarriesAddress argument address.toNat) : argument.address? = some address := by
  generalize hvalue : address.toNat = value at h
  cases h with
  | pointer a | uint64 a =>
    rw [UInt64.toNat_inj.1 hvalue]
    rfl
  | uint32 n =>
    have hwide : n.toUInt64.toNat = n.toNat := n.toNat_toUInt64
    rw [UInt64.toNat_inj.1 (hvalue.trans hwide.symm)]
    rfl

/-! ## The text of an address -/

/-- The address that a text stands for. -/
def readAddress (text : Bytes) : Nat :=
  if text = utf8 "(nil)" then 0 else Radix.hexadecimal.value (text.drop 2).reverse

/-- The text shows the address. -/
structure ShowsAddress (text : Bytes) (address : Nat) : Prop where
  /-- The address zero has a word of its own. -/
  eq_nil_iff : text = utf8 "(nil)" ↔ address = 0
  /-- Any other address is its numeral behind a prefix. -/
  eq_hexadecimal : address ≠ 0 →
    ∃ digits, text = utf8 "0x" ++ digits ∧ Radix.hexadecimal.IsNumeral digits address
  /-- The address can be told from its text. -/
  readAddress_eq : readAddress text = address

/-- What is written for an address. -/
def addressText (address : UInt64) : Bytes :=
  if address = 0 then nilText
  else utf8 "0x" ++ (Radix.hexadecimal.digits address.toNat).reverse

theorem addressText_of_ne_zero {address : UInt64} (h : address ≠ 0) :
    addressText address = utf8 "0x" ++ (Radix.hexadecimal.digits address.toNat).reverse := if_neg h

/-- What is written for an address shows it. -/
theorem showsAddress_addressText (address : UInt64) :
    ShowsAddress (addressText address) address.toNat := by
  by_cases hzero : address = 0
  · subst hzero
    exact ⟨⟨fun _ => rfl, fun _ => rfl⟩, fun h => absurd rfl h, rfl⟩
  · have hnat : address.toNat ≠ 0 := fun h => hzero (UInt64.toNat_inj.1 h)
    rw [addressText_of_ne_zero hzero]
    generalize hdigits : (Radix.hexadecimal.digits address.toNat).reverse = digits
    -- The prefix tells the two kinds of text apart.
    have hne : utf8 "0x" ++ digits ≠ utf8 "(nil)" := fun h => nomatch (List.cons.inj h).1
    refine ⟨⟨fun h => absurd h hne, fun h => absurd h hnat⟩, fun _ => ?_, ?_⟩
    · exact ⟨digits, rfl, Radix.isNumeral_iff.2 hdigits.symm⟩
    · have hdrop : (utf8 "0x" ++ digits).drop 2 = digits := rfl
      rw [readAddress, if_neg hne, hdrop, ← hdigits, List.reverse_reverse, Radix.value_digits]

/-! ## Addresses in a field -/

/-- The scratch cells hold the longest address with its prefix. -/
theorem digits_pushAll_prefix (address : UInt64) :
    (((DigitRun.ofCapacity integerScratch).writeWord64 .hexadecimal address).pushAll
      [Ascii.letterX, Ascii.zero]).digits =
        Radix.hexadecimal.digits address.toNat ++ [Ascii.letterX, Ascii.zero] := by
  have hlength : (Radix.hexadecimal.digits address.toNat).length ≤ 16 :=
    Radix.hexadecimal.length_digits_le (by decide)
      (Nat.lt_of_lt_of_le address.toNat_lt (by decide))
  rw [DigitRun.writeWord64_ofCapacity, ← DigitRun.pushAll_append]
  refine DigitRun.digits_pushAll_ofCapacity ?_
  rw [List.length_append]
  exact Nat.le_trans (Nat.add_le_add_right hlength _) (by decide)

/-- An address is written as its text, padded with spaces. -/
theorem Placement.bytes_pointer (place : Placement) (address : UInt64) :
    (place.pointer address).bytes =
      paddedLayout place.flags place.width (addressText address) := by
  rw [pointer]
  by_cases hzero : address = 0
  · rw [if_pos hzero, hzero]
    rfl
  · rw [if_neg hzero, Emission.bytes, Field.layout_eq_paddedLayout rfl ⟨rfl, rfl⟩ rfl,
      digits_pushAll_prefix, List.reverse_append, addressText_of_ne_zero hzero]
    rfl

/-- A pointer conversion that finds an address adds its text to the output, padded with spaces. -/
theorem Converts.contribution_pointer {template : Bytes} {arguments : List Argument} {i : Nat}
    {argument : Argument} {place : Placement} {address : UInt64}
    (h : Converts template arguments i .pointer argument place)
    (haddress : argument.address? = some address) :
    (contributions template arguments)[i]? =
      some (paddedLayout place.flags place.width (addressText address)) := by
  have heffect : ∀ length, Conversion.pointer.effect? place length argument =
      some (.write (place.pointer address)) := by
    intro length
    rw [Conversion.effect?, haddress]
    rfl
  rw [h.contribution_eq heffect, Effect.bytes, Placement.bytes_pointer]

end BoundedFormat
