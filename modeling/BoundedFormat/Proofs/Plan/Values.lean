import BoundedFormat.Proofs.Plan.Alignment
import BoundedFormat.Proofs.Plan.Stars

/-!
# What a conversion adds to the output

A directive writes its value to a place that its flags and the arguments of its stars settle
(`Directive.placeOf`). `Converts` says of a segment which conversion it is, what argument it finds
for its value and what the place is; what it adds to the output is then what the conversion makes of
that argument at that place (`Converts.contribution_eq`), whatever else the template and the
arguments hold.
-/

namespace BoundedFormat

/-- Where the value of a directive goes whose stars find these arguments. -/
def Directive.placeOf (directive : Directive) (found : Reader → Option Argument) : Placement :=
  let width := directive.width.amount (found .width)
  { flags := if width < 0 then { directive.flags with leftJustify := true } else directive.flags
    width := width.natAbs
    precision := directive.precision.amount? (found .precision) }

/-- A directive comes to what its conversion does at that place, behind what its stars report. -/
theorem Directive.settle_eq (directive : Directive) (found : Reader → Option Argument) :
    directive.settle found =
      let handed (reader : Reader) : ArgumentCursor := .ofList (found reader).toList
      let conversion := directive.conversion.resolve (directive.placeOf found) directive.length
        (handed .value)
      ⟨conversion.value,
        (directive.width.resolve directive.flags (handed .width)).diagnostics ++
          (directive.precision.resolve (handed .precision)).diagnostics ++
            conversion.diagnostics⟩ := by
  have hhead : ∀ reader,
      (ArgumentCursor.ofList (found reader).toList).rest.head? = found reader := by
    intro reader
    cases found reader <;> rfl
  simp only [settle, Width.value_resolve, Precision.value_resolve, hhead]
  rfl

/-- A directive has the effect of its conversion at that place. -/
theorem Directive.effect_settle (directive : Directive) (found : Reader → Option Argument) :
    (directive.settle found).effect =
      (directive.conversion.resolve (directive.placeOf found) directive.length
        (.ofList (found .value).toList)).value := by
  rw [settle_eq]

/-- A directive has the effect that its conversion makes of its argument. -/
theorem Directive.effect_settle_of_effect? {directive : Directive}
    {found : Reader → Option Argument} {argument : Argument} {effect : Effect}
    (hvalue : found .value = some argument)
    (heffect : directive.conversion.effect? (directive.placeOf found) directive.length argument =
      some effect) : (directive.settle found).effect = effect := by
  rw [effect_settle, hvalue]
  exact congrArg Reading.value (Conversion.resolve_of_effect? rfl heffect)

/-- Segment `i` is a directive with this conversion. It finds `argument` for its value and writes it
to `place`. -/
def Converts (template : Bytes) (arguments : List Argument) (i : Nat) (conversion : Conversion)
    (argument : Argument) (place : Placement) : Prop :=
  ∃ spelling, (segments template)[i]? = some (.directive spelling) ∧
    spelling.directive.conversion = conversion ∧
      found template arguments i .value = some argument ∧
        spelling.directive.placeOf (found template arguments i) = place

section

variable {template : Bytes} {arguments : List Argument} {i : Nat} {conversion : Conversion}
  {argument : Argument} {place : Placement}

/-- A directive adds to the output what its conversion makes of its argument. -/
theorem Converts.contribution_eq (h : Converts template arguments i conversion argument place)
    {effect : Effect}
    (heffect : ∀ length, conversion.effect? place length argument = some effect) :
    (contributions template arguments)[i]? = some effect.bytes := by
  obtain ⟨spelling, hsegment, rfl, hargument, rfl⟩ := h
  rw [getElem?_contributions, hsegment]
  exact congrArg (fun effect : Effect => some effect.bytes)
    (Directive.effect_settle_of_effect? hargument (heffect _))

end

end BoundedFormat
