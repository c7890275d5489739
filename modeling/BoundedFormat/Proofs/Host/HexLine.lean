import BoundedFormat.Proofs.Host.Console
import BoundedFormat.Proofs.Plan.Integer
import BoundedFormat.Proofs.Plan.Pointer

/-!
# Hexadecimal lines

A number is printed on a line of its own as `0x` and a fixed count of digits: eight where 32 bits
are enough, and sixteen otherwise. Both lines are one template with another width
(`plan_hexLine`), whose zero flag fills the field, so there are just as many digits as the field
is wide (`isHexOf_unsigned`). The sink receives the line in one call (`events_printHex`).
Together with the addresses of pointer conversions this is what a dump of memory is read back from
(`addresses_and_hexLines_read_back`).
-/

namespace BoundedFormat

/-! ## A fixed count of digits -/

/-- The digits are so many, in hexadecimal, and read as the number. -/
structure IsHexOf (digits : Bytes) (count n : Nat) : Prop where
  length_eq : digits.length = count
  mem_alphabet : ∀ b ∈ digits, b ∈ Radix.hexadecimal.alphabet
  value_eq : Radix.hexadecimal.value digits.reverse = n

/-- A place that is filled with zeros. -/
def zeroFilled (width : Nat) : Placement := ⟨{ zeroPad := true }, width, none⟩

/-- A field that is filled with zeros and wide enough for the number has as many digits as it is
wide, and nothing else. -/
theorem isHexOf_unsigned (length : Length) {width : Nat} {n : UInt64} (hwidth : 0 < width)
    (hdigits : n.toNat < Radix.hexadecimal.base ^ width) (hword : n.toNat < 2 ^ length.bits) :
    IsHexOf ((zeroFilled width).unsigned length .hexadecimal n).bytes width n.toNat := by
  have hsign : signOf? false (zeroFilled width).flags n.toNat = none :=
    signOf?_false _ (Int.natCast_nonneg _)
  have hshows := (zeroFilled width).written_shows none .hexadecimal n.toNat rfl hsign.symm
  have hbytes := (zeroFilled width).bytes_unsigned .hexadecimal length hword
  have hlayout := (zeroFilled width).bytes_written none .hexadecimal n.toNat
  -- Neither in front of the digits nor behind them there is anything.
  have hwhole : ((zeroFilled width).written none .hexadecimal n.toNat).bytes =
      ((zeroFilled width).written none .hexadecimal n.toNat).digits := List.append_nil _
  have hbody : (((zeroFilled width).field none (n.toNat == 0)).body
      (Radix.hexadecimal.digits n.toNat)).length ≤ width := by
    have hdigitsLength := Radix.hexadecimal.length_digits_le hwidth hdigits
    show (zeros (0 - _) ++ _).length ≤ width
    rw [List.length_append, length_zeros, List.length_reverse]
    omega
  rw [hbytes.trans hwhole]
  refine ⟨?_, hshows.mem_alphabet, hshows.value_eq⟩
  rw [← hwhole, hlayout, Field.length_layout]
  show max width (0 + _) = width
  omega

/-! ## A number on a line -/

/-- The directive of a number that fills so many places with zeros. -/
def hexSpelling (width : Bytes) (length : Length) : Spelling :=
  ⟨[Ascii.zero], .digits width, none, length, some 0x78⟩

/-- The template of a number on a line. -/
def hexSegments (width : Bytes) (length : Length) : List Segment :=
  [.literal (utf8 "0x"), .directive (hexSpelling width length), .literal [Ascii.newline]]

theorem segments_shortHexTemplate :
    segments Report.shortHexTemplate = hexSegments (utf8 "8") .native := by
  rw [segments_eq_cutWithin]
  rfl

theorem segments_longHexTemplate :
    segments Report.longHexTemplate = hexSegments (utf8 "16") .longLong := by
  rw [segments_eq_cutWithin]
  rfl

section

variable {template width : Bytes} {length : Length} {argument : Argument} {n : UInt64}

/-- The field of a number on a line. -/
def hexField (width : Bytes) (length : Length) (n : UInt64) : Emission :=
  (zeroFilled (Amount.wrappedValue width).toNat).unsigned length .hexadecimal n

/-- The directive of a number on a line reads its argument and writes the field. -/
theorem resolve_hexSpelling (hargument : argument.unsigned? length = some n) :
    (hexSpelling width length).directive.resolve (.ofList [argument]) =
      ⟨.write (hexField width length n), ⟨1, []⟩, []⟩ := by
  have heffect : Conversion.hexadecimal.effect? (zeroFilled (Amount.wrappedValue width).toNat)
      length argument = some (.write (hexField width length n)) := by
    rw [Conversion.effect?, hargument]
    rfl
  have hhead : (ArgumentCursor.ofList [argument]).rest.head? = some argument := rfl
  exact Conversion.resolve_of_effect? hhead heffect

/-- A number on a line is planned as a prefix, a field and a newline, with nothing to report. -/
theorem plan_hexLine (hsegments : segments template = hexSegments width length)
    (hargument : argument.unsigned? length = some n) :
    plan template [argument] = ⟨[.write (.run (utf8 "0x")), .write (hexField width length n),
      .write (.run [Ascii.newline])], ⟨1, []⟩, []⟩ := by
  rw [plan, hsegments, hexSegments, planSegments, planSegments, Segment.resolve, Segment.resolve,
    resolve_hexSpelling hargument]
  rfl

/-- Printed, a line of a number reaches the sink in one call. -/
theorem events_printf_hexLine {host : Host} {sink : Sink} (hsink : host.sink = some sink)
    (hsegments : segments template = hexSegments width length)
    (hargument : argument.unsigned? length = some n)
    (hshort : (hexField width length n).bytes.length ≤ 16) :
    (Report.printf template [argument] #[] host).events =
      [.write sink (utf8 "0x" ++ (hexField width length n).bytes ++ [Ascii.newline])] := by
  have hplan := plan_hexLine hsegments hargument
  have hlines : logLines template [argument] = [] := by
    rw [logLines, hplan]
    rfl
  have houtput : output template [argument] =
      utf8 "0x" ++ (hexField width length n).bytes ++ [Ascii.newline] := by
    rw [output, hplan]
    simp only [List.flatMap_cons, List.flatMap_nil, Effect.bytes, Emission.bytes, List.append_nil,
      List.append_assoc]
  have hlength : (output template [argument]).length ≤ 255 := by
    rw [houtput, List.length_append, List.length_append, List.length_singleton]
    have hmarker : (utf8 "0x").length = 2 := rfl
    omega
  have hne : output template [argument] ≠ [] := by
    rw [houtput]
    exact List.append_ne_nil_of_right_ne_nil _ (List.cons_ne_nil _ _)
  have hprinted : host.linePrinted (output template [argument]) =
      [.write sink (output template [argument])] := by
    rw [Host.linePrinted, hsink]
    simp only [if_neg hne, List.take_of_length_le hlength]
  rw [Report.printf_apply, hlines, if_neg (Nat.not_lt.2 hlength), hprinted, houtput]
  rfl

end

/-- A number is printed with the short line or with the long one. -/
theorem events_printHex_eq (n : UInt64) (host : Host) :
    (Report.printHex n host).events =
      if n.toNat < 2 ^ 32 then
        (Report.printf Report.shortHexTemplate [toArgument n.toUInt32] #[] host).events
      else (Report.printf Report.longHexTemplate [toArgument n] #[] host).events := by
  have hsize : UInt32.size = 2 ^ 32 := rfl
  unfold Report.printHex
  rw [← hsize]
  split <;> exact List.append_nil _

/-- A printed number reaches the sink in one call, as its digits between the prefix and a newline:
eight digits where they are enough, else sixteen. -/
theorem events_printHex {host : Host} {sink : Sink} (hsink : host.sink = some sink) (n : UInt64) :
    ∃ digits, (Report.printHex n host).events =
        [.write sink (utf8 "0x" ++ digits ++ [Ascii.newline])] ∧
      IsHexOf digits (if n.toNat < 2 ^ 32 then 8 else 16) n.toNat := by
  by_cases hsmall : n.toNat < 2 ^ 32
  · -- The number survives the way through the narrow word.
    have hnarrow : n.toUInt32.toUInt64.toNat = n.toNat := by
      rw [UInt32.toNat_toUInt64, UInt64.toNat_toUInt32, Nat.mod_eq_of_lt hsmall]
    have hargument : (toArgument n.toUInt32).unsigned? .native = some n.toUInt32.toUInt64 := by
      have hback : n.toUInt32.toUInt64.toUInt32 = n.toUInt32 := by
        rw [← UInt32.toNat_inj, UInt64.toNat_toUInt32, hnarrow, UInt64.toNat_toUInt32]
      show some n.toUInt32.toUInt64.toUInt32.toUInt64 = _
      rw [hback]
    have hhex : IsHexOf (hexField (utf8 "8") .native n.toUInt32.toUInt64).bytes 8 n.toNat := by
      rw [← hnarrow]
      exact isHexOf_unsigned .native (by decide) (hnarrow ▸ hsmall) (hnarrow ▸ hsmall)
    have hshort : (hexField (utf8 "8") .native n.toUInt32.toUInt64).bytes.length ≤ 16 := by
      rw [hhex.length_eq]
      decide
    rw [events_printHex_eq, if_pos hsmall, if_pos hsmall]
    exact ⟨_, events_printf_hexLine hsink segments_shortHexTemplate hargument hshort, hhex⟩
  · have hhex : IsHexOf (hexField (utf8 "16") .longLong n).bytes 16 n.toNat :=
      isHexOf_unsigned .longLong (by decide) n.toNat_lt n.toNat_lt
    have hshort : (hexField (utf8 "16") .longLong n).bytes.length ≤ 16 :=
      Nat.le_of_eq hhex.length_eq
    rw [events_printHex_eq, if_neg hsmall, if_neg hsmall]
    exact ⟨_, events_printf_hexLine hsink segments_longHexTemplate rfl hshort, hhex⟩

/-- Addresses and numbers read back from what is written for them. An address has one text, which
shows it; a pointer conversion anywhere in a template that finds an argument with this address, a
pointer or an unsigned integer of either width, writes this text, padded with spaces, and of its
place only the side of the spaces and the width have a part in that. Printed in hexadecimal on a
host with a sink, a number reaches the sink in one call, with eight digits or sixteen. -/
theorem addresses_and_hexLines_read_back :
    (∀ address : UInt64, ∃ (text : Bytes) (padded : Bool → Nat → Bytes),
      ShowsAddress text address.toNat ∧
      (∀ (flags : Flags) (width : Nat),
        LaysOutText flags width text (padded flags.leftJustify width)) ∧
      ∀ (template : Bytes) (arguments : List Argument) (i : Nat) (argument : Argument)
        (place : Placement),
        Converts template arguments i .pointer argument place →
          CarriesAddress argument address.toNat →
            (contributions template arguments)[i]? =
              some (padded place.flags.leftJustify place.width)) ∧
    ∀ (host : Host) (sink : Sink) (n : UInt64), host.sink = some sink →
      ∃ digits, (Report.printHex n host).events =
          [.write sink (utf8 "0x" ++ digits ++ [Ascii.newline])] ∧
        IsHexOf digits (if n.toNat < 2 ^ 32 then 8 else 16) n.toNat := by
  refine ⟨fun address => ?_, fun host sink n hsink => events_printHex hsink n⟩
  refine ⟨addressText address,
    fun left width => paddedLayout { leftJustify := left } width (addressText address),
    showsAddress_addressText address, fun flags width => ?_, ?_⟩
  · exact laysOutText_paddedLayout flags width (addressText address)
  · intro template arguments i argument place hconverts hcarries
    exact hconverts.contribution_pointer hcarries.address?_eq

/-- An address of 32 bits with every flag and a precision, `%-0+ 14.3p`, and in front of it the
address zero; and the least number that takes sixteen digits. -/
theorem addresses_and_hexLines_read_back_with_all_flags :
    let template := utf8 "%6p at %-0+ 14.3p"
    let arguments : List Argument := [.pointer 0, .uint32 0xdeadbeef]
    let sink : Sink := ⟨"uart"⟩
    Converts template arguments 0 .pointer (.pointer 0) ⟨{}, 6, none⟩ ∧
      CarriesAddress (.pointer 0) 0 ∧
      (contributions template arguments)[0]? = some (utf8 " (nil)") ∧
      Converts template arguments 2 .pointer (.uint32 0xdeadbeef)
        ⟨⟨true, true, true, true⟩, 14, some 3⟩ ∧
      CarriesAddress (.uint32 0xdeadbeef) 0xdeadbeef ∧
      (contributions template arguments)[2]? = some (utf8 "0xdeadbeef    ") ∧
      ∃ digits, (Report.printHex 0x100000000 { sink := some sink }).events =
          [.write sink (utf8 "0x" ++ digits ++ utf8 "\n")] ∧ IsHexOf digits 16 0x100000000 := by
  intro template arguments sink
  have hsegments : segments template = [
      .directive ⟨[], .digits (utf8 "6"), none, .native, some 0x70⟩, .literal (utf8 " at "),
      .directive ⟨utf8 "-0+ ", .digits (utf8 "14"), some (.digits (utf8 "3")), .native,
        some 0x70⟩] := by
    rw [segments_eq_cutWithin]
    rfl
  have hslots : slots template = [⟨0, .value⟩, ⟨2, .value⟩] := by
    rw [slots, hsegments]
    rfl
  have hzero : Converts template arguments 0 .pointer (.pointer 0) ⟨{}, 6, none⟩ := by
    refine ⟨_, by rw [hsegments]; rfl, rfl, ?_, by decide⟩
    rw [found, hslots]
    rfl
  have hflags : Converts template arguments 2 .pointer (.uint32 0xdeadbeef)
      ⟨⟨true, true, true, true⟩, 14, some 3⟩ := by
    refine ⟨_, by rw [hsegments]; rfl, rfl, ?_, by decide⟩
    rw [found, hslots]
    rfl
  have hnil : CarriesAddress (.pointer 0) 0 := .pointer 0
  have hnarrow : CarriesAddress (.uint32 0xdeadbeef) 0xdeadbeef := .uint32 0xdeadbeef
  obtain ⟨haddresses, hlines⟩ := addresses_and_hexLines_read_back
  refine ⟨hzero, hnil, ?_, hflags, hnarrow, ?_,
    hlines { sink := some sink } sink 0x100000000 rfl⟩
  · obtain ⟨text, padded, hshows, hpadded, hcontribution⟩ := haddresses 0
    obtain rfl := hshows.eq_nil_iff.2 rfl
    rw [hcontribution template arguments 0 _ _ hzero hnil, (hpadded {} 6).right rfl]
    rfl
  · obtain ⟨text, padded, hshows, hpadded, hcontribution⟩ := haddresses 0xdeadbeef
    obtain ⟨digits, rfl, hnumeral⟩ := hshows.eq_hexadecimal (by decide)
    have hdigits : utf8 "deadbeef" = digits :=
      (Radix.isNumeral_iff.1 ⟨by decide +kernel, by decide, by decide, by decide⟩).trans
        (Radix.isNumeral_iff.1 hnumeral).symm
    subst hdigits
    have hleft := (hpadded { leftJustify := true } 14).left rfl
    rw [hcontribution template arguments 2 _ _ hflags hnarrow, hleft]
    rfl

end BoundedFormat
