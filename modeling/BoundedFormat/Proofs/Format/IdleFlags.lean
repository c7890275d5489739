import BoundedFormat.Proofs.Plan.Pointer
import BoundedFormat.Proofs.Template.Flagging

/-!
# Flags without effect

`Directive.IsIdle` lists the flags that a directive has no use for: signs where none is written, a
space beside a plus sign, zeros where nothing is filled with zeros, and either kind of filling where
there is nothing to fill. Where such a flag is put into a directive, the call does what it did
(`idle_flags_have_no_effect`).

Flags reach an effect in three places only: they choose a sign, they choose the side of the spaces,
and they choose zeros instead of spaces. `Conversion.plain_effect?_withFlags` says for each
conversion which of these it looks at.
-/

namespace BoundedFormat

/-! ## Effects that come to the same -/

/-- The effect with its bytes as they are written. -/
def Effect.plain : Effect → Effect
  | write emission => write (.run emission.bytes)
  | storeCount index => storeCount index
  | nothing => nothing

/-- Written plainly, an effect has the same bytes. -/
theorem Effect.bytes_plain (effect : Effect) : effect.plain.bytes = effect.bytes := by
  cases effect <;> rfl

/-- Written plainly, a row of effects has the same bytes. -/
theorem flatMap_bytes_plain (effects : List Effect) :
    (effects.map Effect.plain).flatMap Effect.bytes = effects.flatMap Effect.bytes := by
  rw [List.flatMap_map]
  exact congrArg effects.flatMap (funext Effect.bytes_plain)

/-- Written plainly, a row of effects makes the same stores. -/
theorem storesFrom_plain (offset : Nat) (effects : List Effect) :
    storesFrom offset (effects.map Effect.plain) = storesFrom offset effects := by
  induction effects generalizing offset with
  | nil => rfl
  | cons effect rest ih =>
    rw [List.map_cons]
    cases effect with
    | write emission => exact ih _
    | storeCount index => exact congrArg (List.cons _) (ih offset)
    | nothing => exact ih _

/-! ## Flags that are looked at -/

/-- What an emission writes apart from what fills it up to its width. -/
def Emission.unpadded : Emission → Bytes
  | field shape digits => shape.sign.toList ++ shape.body digits
  | padded _ _ bytes => bytes
  | emission => emission.bytes

namespace Conversion

/-- Does the conversion write the sign that the flags ask for? -/
def isSigned : Conversion → Bool
  | signedDecimal | fixedPoint => true
  | _ => false

/-- Does the conversion fill its field with zeros where the flags ask for it? -/
def fillsWithZeros (conversion : Conversion) (precision : Option Nat) : Bool :=
  match conversion with
  | signedDecimal | unsignedDecimal | hexadecimal => precision.isNone
  | fixedPoint => true
  | _ => false

end Conversion

/-- A directive that finds these arguments has no use for the flag of this byte. -/
inductive Directive.IsIdle (directive : Directive) (found : Reader → Option Argument) :
    UInt8 → Prop where
  /-- The conversion writes no sign that a flag asks for. -/
  | sign {b : UInt8} (hb : b = Ascii.plus ∨ b = Ascii.space)
      (h : directive.conversion.isSigned = false) : IsIdle directive found b
  /-- A plus sign goes before a space. -/
  | besidePlus (h : directive.flags.forceSign = true) : IsIdle directive found Ascii.space
  /-- A field that is left-justified has no zeros in front, by its flags or by the sign of a width
  from the arguments. -/
  | leftJustified
      (h : directive.flags.leftJustify = true ∨ directive.width.amount (found .width) < 0) :
      IsIdle directive found Ascii.zero
  /-- Texts, characters and addresses are padded with spaces. -/
  | spacesOnly (h : directive.conversion = .text ∨ directive.conversion = .character ∨
      directive.conversion = .pointer) : IsIdle directive found Ascii.zero
  /-- With a precision the zero flag does not count for an integer. -/
  | withPrecision (h : directive.conversion = .signedDecimal ∨
      directive.conversion = .unsignedDecimal ∨ directive.conversion = .hexadecimal)
      (hprecision : directive.precision ≠ .unspecified) : IsIdle directive found Ascii.zero
  /-- What the directive writes reaches its width without any filling. -/
  | full {b : UInt8} (hb : b = Ascii.minus ∨ b = Ascii.zero)
      (h : ∀ emission, (directive.settle found).effect = .write emission →
        (directive.placeOf found).width ≤ emission.unpadded.length) : IsIdle directive found b

/-! ## What a conversion makes of other flags -/

/-- Written plainly, values come to the same if the bytes of each of them do. -/
theorem map_plain_congr {α : Type} {read : Option α} {first second : α → Emission}
    (h : ∀ value, read = some value → (first value).bytes = (second value).bytes) :
    (read.map fun value => Effect.write (first value)).map Effect.plain =
      (read.map fun value => Effect.write (second value)).map Effect.plain := by
  rcases read with _ | value
  · rfl
  · exact congrArg (fun bytes => some (Effect.write (.run bytes))) (h value rfl)

section

variable {place : Placement} {flags : Flags}

/-- A number comes to the same with other flags if there is nothing to fill or they fill it alike. -/
theorem Placement.layout_field_withFlags {sign : Option UInt8} {isZero : Bool} {digits : Bytes}
    (h : place.width ≤ (Emission.field (place.field sign isZero) digits).unpadded.length ∨
      place.flags.FillsAlike (place.precision.isNone = true) flags) :
    ({ place with flags := flags }.field sign isZero).layout digits =
      (place.field sign isZero).layout digits := by
  have hfill : (place.field sign isZero).width ≤
        ((place.field sign isZero).sign.toList ++ (place.field sign isZero).body digits).length ∨
      (place.field sign isZero).flags.FillsAlike
        ((place.field sign isZero).precisionGiven = false) flags := by
    refine h.imp_right fun halike => halike.imp fun hgiven => ?_
    rw [← Option.not_isSome, Bool.not_eq_true']
    exact hgiven
  exact Field.layout_withFlags hfill

/-- What an address fills up to its width is its text. -/
theorem Placement.unpadded_pointer (address : UInt64) :
    (place.pointer address).unpadded = addressText address := by
  rw [pointer]
  by_cases hzero : address = 0
  · rw [if_pos hzero, hzero]
    rfl
  · rw [if_neg hzero, Emission.unpadded, Field.body_of_no_precision ⟨rfl, rfl⟩,
      digits_pushAll_prefix, List.reverse_append, addressText_of_ne_zero hzero]
    rfl

/-- A conversion comes to the same with other flags if these ask for the same sign where it writes
one, and if there is nothing to fill or they fill it alike. -/
theorem Conversion.plain_effect?_withFlags {conversion : Conversion} {length : Length}
    {argument : Argument}
    (hsign : conversion.isSigned = true → ∀ negative,
      signByte? negative flags = signByte? negative place.flags)
    (hfill : (∀ emission, conversion.effect? place length argument = some (.write emission) →
        place.width ≤ emission.unpadded.length) ∨
      place.flags.FillsAlike (conversion.fillsWithZeros place.precision = true) flags) :
    (conversion.effect? { place with flags := flags } length argument).map Effect.plain =
      (conversion.effect? place length argument).map Effect.plain := by
  cases conversion with
  | signedDecimal =>
    refine map_plain_congr fun n hn => ?_
    rw [effect?, hn] at hfill
    rw [Placement.signedDecimal, Placement.signedDecimal, hsign rfl]
    exact Placement.layout_field_withFlags (hfill.imp_left fun h => h _ rfl)
  | unsignedDecimal | hexadecimal =>
    refine map_plain_congr fun n hn => ?_
    rw [effect?, hn] at hfill
    exact Placement.layout_field_withFlags (hfill.imp_left fun h => h _ rfl)
  | fixedPoint =>
    refine map_plain_congr fun x hx => ?_
    rw [effect?, hx] at hfill
    rw [Placement.fixedPoint, Placement.fixedPoint, hsign rfl]
    -- The digits carry the places, so the field itself has no precision.
    exact @Placement.layout_field_withFlags { place with precision := none } flags _ _ _
      (hfill.imp (fun h => h _ rfl) fun halike => halike.imp fun _ => rfl)
  | text =>
    refine map_plain_congr fun bytes hbytes => ?_
    rw [effect?, hbytes] at hfill
    exact paddedLayout_withFlags (hfill.imp (fun h => h _ rfl) (·.leftJustify_eq))
  | character =>
    refine map_plain_congr fun bits hbits => ?_
    rw [effect?, hbits] at hfill
    exact paddedLayout_withFlags (hfill.imp (fun h => h _ rfl) (·.leftJustify_eq))
  | pointer =>
    refine map_plain_congr fun address haddress => ?_
    rw [effect?, haddress] at hfill
    rw [Placement.bytes_pointer, Placement.bytes_pointer]
    refine paddedLayout_withFlags (hfill.imp (fun h => ?_) (·.leftJustify_eq))
    rw [← place.unpadded_pointer]
    exact h _ rfl
  | writeCount | errorNumber | percent | unknown _ | truncated => rfl

end

/-- A conversion that is handed what it finds comes to the same and reports the same at another
place, if it makes the same of every argument there. -/
theorem Conversion.resolve_handed_congr {conversion : Conversion} {place other : Placement}
    {length : Length} {found : Option Argument}
    (h : ∀ argument, found = some argument →
      (conversion.effect? other length argument).map Effect.plain =
        (conversion.effect? place length argument).map Effect.plain) :
    let handed : ArgumentCursor := .ofList found.toList
    (conversion.resolve other length handed).value.plain =
        (conversion.resolve place length handed).value.plain ∧
      (conversion.resolve other length handed).diagnostics =
        (conversion.resolve place length handed).diagnostics := by
  intro handed
  rcases hconstant : conversion.constantEffect? with _ | effect
  · simp only [resolve, hconstant, readValue_eq_readOne]
    rcases found with _ | argument
    · exact ⟨rfl, rfl⟩
    · have hargument := h argument rfl
      have hsome : (conversion.effect? other length argument).isSome =
          (conversion.effect? place length argument).isSome := by
        simpa using congrArg Option.isSome hargument
      refine ⟨?_, ?_⟩
      · show ((conversion.effect? other length argument).getD .nothing).plain =
          ((conversion.effect? place length argument).getD .nothing).plain
        rw [← Option.getD_map Effect.plain, hargument, Option.getD_map]
      · show (if (conversion.effect? other length argument).isSome then _ else _) = _
        rw [hsome]
        rfl
  · -- Without an argument the place does not matter.
    cases conversion with
    | errorNumber | percent | unknown _ | truncated => exact ⟨rfl, rfl⟩
    | _ => cases hconstant

/-! ## What a directive makes of an idle flag -/

namespace Directive

variable {directive : Directive} {found : Reader → Option Argument} {b : UInt8}

/-- One flag more in a directive is one more at the place of its value. -/
theorem placeOf_withFlag (directive : Directive) (found : Reader → Option Argument) (b : UInt8) :
    (directive.withFlag b).placeOf found =
      { directive.placeOf found with flags := (directive.placeOf found).flags.add b } := by
  rw [placeOf, placeOf]
  by_cases hwidth : directive.width.amount (found .width) < 0
  · simp [withFlag, hwidth, Flags.add, Union.union, Flags.union]
  · simp [withFlag, hwidth]

/-- The place asks for a plus sign where the directive does. -/
theorem forceSign_placeOf : (directive.placeOf found).flags.forceSign = directive.flags.forceSign := by
  rw [placeOf]
  split <;> rfl

/-- A minus among the flags asks for left justification, and so does a negative width. -/
theorem leftJustify_placeOf
    (h : directive.flags.leftJustify = true ∨ directive.width.amount (found .width) < 0) :
    (directive.placeOf found).flags.leftJustify = true := by
  rw [placeOf]
  split
  · rfl
  · next hwidth => exact h.resolve_right hwidth

/-- A precision that is given has a number at the place. -/
theorem isNone_precision_placeOf (h : directive.precision ≠ .unspecified) :
    (directive.placeOf found).precision.isNone = false := by
  rw [placeOf]
  rcases hprecision : directive.precision with _ | _ | _
  · exact absurd hprecision h
  · rfl
  · rfl

/-- An idle flag does not ask for another sign where one is written. -/
theorem IsIdle.signByte?_eq (h : directive.IsIdle found b)
    (hsigned : directive.conversion.isSigned = true) (negative : Bool) :
    signByte? negative ((directive.placeOf found).flags.add b) =
      signByte? negative (directive.placeOf found).flags := by
  cases h with
  | sign _ hnot => exact absurd hsigned (by rw [hnot]; decide)
  | besidePlus hplus =>
    have hforce : (directive.placeOf found).flags.forceSign = true :=
      forceSign_placeOf.trans hplus
    have hadd : (directive.placeOf found).flags.add Ascii.space =
        { (directive.placeOf found).flags with spaceSign := true } := rfl
    simp only [signByte?, hadd, hforce, if_true]
  | leftJustified | spacesOnly | withPrecision => rfl
  | full hb _ =>
    obtain rfl | rfl := hb <;> rfl

/-- Where an idle flag asks for another filling there is nothing to fill. -/
theorem IsIdle.fills (h : directive.IsIdle found b) {argument : Argument}
    (hvalue : found .value = some argument) :
    (∀ emission, directive.conversion.effect? (directive.placeOf found) directive.length argument =
        some (.write emission) → (directive.placeOf found).width ≤ emission.unpadded.length) ∨
      (directive.placeOf found).flags.FillsAlike
        (directive.conversion.fillsWithZeros (directive.placeOf found).precision = true)
        ((directive.placeOf found).flags.add b) := by
  cases h with
  | sign hb _ =>
    obtain rfl | rfl := hb <;> exact .inr ⟨rfl, fun _ => .inr rfl⟩
  | besidePlus _ => exact .inr ⟨rfl, fun _ => .inr rfl⟩
  | leftJustified h => exact .inr ⟨rfl, fun _ => .inl (leftJustify_placeOf h)⟩
  | spacesOnly h =>
    refine .inr ⟨rfl, fun hzeros => ?_⟩
    obtain h | h | h := h <;> rw [h] at hzeros <;> cases hzeros
  | withPrecision h hprecision =>
    refine .inr ⟨rfl, fun hzeros => ?_⟩
    have hnone : (directive.placeOf found).precision.isNone = false :=
      isNone_precision_placeOf hprecision
    obtain h | h | h := h <;> rw [h, Conversion.fillsWithZeros, hnone] at hzeros <;> cases hzeros
  | full _ h => exact .inl fun emission heffect => h emission (effect_settle_of_effect? hvalue heffect)

end Directive

/-- The settlement with its bytes as they are written. -/
def Settlement.plain (settlement : Settlement) : Settlement :=
  { settlement with effect := settlement.effect.plain }

/-- What a width reports does not depend on the flags. -/
theorem Width.diagnostics_resolve (width : Width) (flags other : Flags)
    (cursor : ArgumentCursor) :
    (width.resolve other cursor).diagnostics = (width.resolve flags cursor).diagnostics := by
  cases width <;> rfl

/-- A directive comes to the same with an idle flag. -/
theorem Directive.IsIdle.settle_eq {directive : Directive} {found : Reader → Option Argument}
    {b : UInt8} (h : directive.IsIdle found b) :
    ((directive.withFlag b).settle found).plain = (directive.settle found).plain := by
  obtain ⟨hvalue, hdiagnostics⟩ :=
    Conversion.resolve_handed_congr fun argument (hargument : found .value = some argument) =>
      Conversion.plain_effect?_withFlags h.signByte?_eq (h.fills hargument)
  simp only [Directive.settle_eq, placeOf_withFlag, Settlement.plain]
  rw [Settlement.mk.injEq]
  refine ⟨hvalue, ?_⟩
  exact congr (congrArg _ (congrArg (· ++ _) (directive.width.diagnostics_resolve ..))) hdiagnostics

/-! ## A template with an idle flag -/

/-- Templates whose segments come to the same, written plainly, and have as many slots, cannot be
told apart by calls. -/
theorem calls_eq_of_plain_settlements {template other : Bytes} {arguments : List Argument}
    (hslots : (slots other).length = (slots template).length)
    (h : (settlements other arguments).map Settlement.plain =
      (settlements template arguments).map Settlement.plain) :
    output other arguments = output template arguments ∧
      ∀ (cells : Array UInt8) (counters : Counters),
        formatInto cells other arguments counters = formatInto cells template arguments counters ∧
          ∀ host, (Report.formatInto cells other arguments counters host).events =
            (Report.formatInto cells template arguments counters host).events := by
  have hvalue : ((plan other arguments).value.map Effect.plain) =
      (plan template arguments).value.map Effect.plain := by
    have heffects := congrArg (List.map Settlement.effect) h
    rw [List.map_map, List.map_map] at heffects
    rw [value_plan_eq_settlements, value_plan_eq_settlements, List.map_map, List.map_map]
    exact heffects
  have hdiagnostics :
      (plan other arguments).diagnostics = (plan template arguments).diagnostics := by
    have hreports := congrArg (List.flatMap Settlement.diagnostics) h
    rw [List.flatMap_map, List.flatMap_map] at hreports
    rw [diagnostics_plan_eq_settlements, diagnostics_plan_eq_settlements]
    exact hreports
  have houtput : output other arguments = output template arguments := by
    rw [output, output, ← flatMap_bytes_plain, hvalue, flatMap_bytes_plain]
  have hstores : stores other arguments = stores template arguments := by
    rw [stores, stores, ← storesFrom_plain, hvalue, storesFrom_plain]
  have hconsumed : (plan other arguments).arguments.consumed =
      (plan template arguments).arguments.consumed := by
    rw [consumed_plan, consumed_plan, ← length_slots, ← length_slots, hslots]
  exact ⟨houtput, formatInto_congr houtput hstores hdiagnostics hconsumed⟩

section

variable {template : Bytes} {i k : Nat} {s : Spelling} {b : UInt8}
  (hsegment : (segments template)[i]? = some (.directive s)) (hk : k ≤ s.flags.length)
  (hb : b ∈ flagBytes)
include hsegment hk hb

/-- A flag more changes no slot. -/
theorem slots_withFlag : slots (withFlag template i k b) = slots template := by
  rw [slots, segments_withFlag hsegment hk hb]
  refine slotsFrom_set 0 hsegment ?_
  rw [Segment.readers, s.directive_withFlag hk]
  rfl

/-- With an idle flag in one directive every segment comes to the same. -/
theorem settlements_withFlag {arguments : List Argument}
    (hidle : s.directive.IsIdle (found template arguments i) b) :
    (settlements (withFlag template i k b) arguments).map Settlement.plain =
      (settlements template arguments).map Settlement.plain := by
  have hfound : found (withFlag template i k b) arguments = found template arguments := by
    funext n reader
    rw [found, found, slots_withFlag hsegment hk hb]
  rw [settlements, settlements, segments_withFlag hsegment hk hb, hfound]
  refine List.ext_getElem? fun n => ?_
  simp only [List.getElem?_map, List.getElem?_mapIdx]
  by_cases hn : i = n
  · subst hn
    rw [List.getElem?_set_self (List.getElem?_eq_some_iff.1 hsegment).1, hsegment]
    refine congrArg some ?_
    show ((s.withFlag k b).directive.settle _).plain = (s.directive.settle _).plain
    rw [s.directive_withFlag hk, hidle.settle_eq]
  · rw [List.getElem?_set_ne hn]

end

/-- An idle flag is a flag byte. -/
theorem Directive.IsIdle.mem_flagBytes {directive : Directive}
    {found : Reader → Option Argument} {b : UInt8} (h : directive.IsIdle found b) :
    b ∈ flagBytes := by
  cases h with
  | sign hb _ | full hb _ => obtain rfl | rfl := hb <;> decide
  | besidePlus | leftJustified | spacesOnly | withPrecision => decide

/-- Flags without effect have none. Let a directive of a template be handed any arguments, and let
it have no use for a flag: because it writes no sign, because a plus sign goes before a space, because
its field is left-justified, because nothing is filled with zeros there, or because there is nothing
to fill. Put anywhere among the flags of this directive, the byte of this flag is read as one flag
more of it, and every call does what it did: it writes the same bytes and reports the same length,
leaves the same cells and counters behind, takes the same arguments, and logs the same lines. -/
theorem idle_flags_have_no_effect (template : Bytes) (arguments : List Argument) {i : Nat}
    {s : Spelling} (hsegment : (segments template)[i]? = some (.directive s)) {k : Nat}
    (hk : k ≤ s.flags.length) {b : UInt8}
    (hidle : s.directive.IsIdle (found template arguments i) b) :
    let flagged := withFlag template i k b
    (segments flagged = (segments template).set i (.directive (s.withFlag k b)) ∧
        (s.withFlag k b).directive = s.directive.withFlag b) ∧
      output flagged arguments = output template arguments ∧
      ∀ (cells : Array UInt8) (counters : Counters),
        formatInto cells flagged arguments counters =
            formatInto cells template arguments counters ∧
          ∀ host, (Report.formatInto cells flagged arguments counters host).events =
            (Report.formatInto cells template arguments counters host).events := by
  intro flagged
  have hb := hidle.mem_flagBytes
  refine ⟨⟨segments_withFlag hsegment hk hb, s.directive_withFlag hk b⟩, ?_⟩
  refine calls_eq_of_plain_settlements ?_ (settlements_withFlag hsegment hk hb hidle)
  rw [slots_withFlag hsegment hk hb]

/-- A zero put behind the space of `% *d`, which finds the width -6. -/
theorem idle_flags_have_no_effect_beside_negative_width :
    let template := utf8 "<% *d>"
    let arguments : List Argument := [.int32 (-6), .int32 42]
    let spelling : Spelling := ⟨[Ascii.space], .star, none, .native, some 0x64⟩
    (segments template)[1]? = some (.directive spelling) ∧
      1 ≤ spelling.flags.length ∧
      spelling.directive.IsIdle (found template arguments 1) Ascii.zero ∧
      withFlag template 1 1 Ascii.zero = utf8 "<% 0*d>" ∧
      output template arguments = utf8 "< 42   >" ∧
      output (utf8 "<% 0*d>") arguments = utf8 "< 42   >" := by
  intro template arguments spelling
  have hsegments : segments template =
      [.literal (utf8 "<"), .directive spelling, .literal (utf8 ">")] := by
    rw [segments_eq_cutWithin]
    rfl
  have hsegment : (segments template)[1]? = some (.directive spelling) := by
    rw [hsegments]
    rfl
  have hk : 1 ≤ spelling.flags.length := Nat.le_refl 1
  have hfound : found template arguments 1 .width = some (.int32 (-6)) := by
    rw [found, slots, hsegments]
    rfl
  have hidle : spelling.directive.IsIdle (found template arguments 1) Ascii.zero := by
    refine .leftJustified (.inr ?_)
    rw [hfound]
    decide
  have hflagged : withFlag template 1 1 Ascii.zero = utf8 "<% 0*d>" := by
    rw [withFlag, hsegments]
    rfl
  have houtput : output template arguments = utf8 "< 42   >" := by
    rw [output, plan, hsegments]
    decide +kernel
  obtain ⟨-, hsame, -⟩ := idle_flags_have_no_effect template arguments hsegment hk hidle
  rw [hflagged, houtput] at hsame
  exact ⟨hsegment, hk, hidle, hflagged, houtput, hsame⟩

end BoundedFormat
