import BoundedFormat.Proofs.Argument.Integer
import BoundedFormat.Proofs.Plan.Slots

/-!
# Width and precision from the arguments

A star takes its number from the argument in its slot: the low 32 bits as two's complement, and zero
where there is no integer. With that number known, a directive with stars is settled like one whose
width and precision stand in the template; `Directive.place` is where its value then goes. What its
conversion makes of the argument behind the stars is what it adds to the output
(`output_eq_of_effect?`).
-/

namespace BoundedFormat

/-- The number that a star finds in its slot. -/
def starValue (found : Option Argument) : Int :=
  ((found.bind Argument.integer?).map Length.native.readSigned).getD 0

/-- What is read for a star is the number in its slot. -/
theorem toInt_value_readStar (cursor : ArgumentCursor) :
    (readStar cursor).value.toInt = starValue cursor.rest.head? := by
  rw [readStar, cursor.next_eq]
  rcases cursor.rest.head? with _ | argument
  · rfl
  · rcases hinteger : argument.integer? with _ | x
    · have hnone : argument.signed? .native = none := by
        rw [Argument.signed?, Argument.integerBits?_of_integer?_eq_none hinteger]
        rfl
      simp only [hnone, starValue, Option.bind_some, hinteger]
      rfl
    · obtain ⟨n, hn, hvalue⟩ := Argument.signed?_of_integer? .native hinteger
      simp only [hn, starValue, Option.bind_some, hinteger, Option.map_some, Option.getD_some]
      -- The number has 32 bits already, so the narrow word keeps it.
      rw [Int64.toInt_toInt32, hvalue, Length.readSigned]
      exact Int.bmod_bmod

/-- The width that a directive asks for; a negative one asks for left justification too. -/
def Width.amount (width : Width) (found : Option Argument) : Int :=
  match width with
  | fixed n => n.toNat
  | fromArgument => starValue found

/-- The precision that a directive asks for, if it gives one. -/
def Precision.amount? (precision : Precision) (found : Option Argument) : Option Nat :=
  match precision with
  | unspecified => none
  | fixed n => some n.toNat
  | fromArgument => some (starValue found).toNat

/-- The width as settled. -/
theorem Width.value_resolve (width : Width) (flags : Flags) (cursor : ArgumentCursor) :
    (width.resolve flags cursor).value =
      (if width.amount cursor.rest.head? < 0 then { flags with leftJustify := true } else flags,
        (width.amount cursor.rest.head?).natAbs) := by
  cases width with
  | fixed n =>
    have hnonneg : ¬ (n.toNat : Int) < 0 := by omega
    rw [resolve, amount, if_neg hnonneg, Int.natAbs_natCast]
  | fromArgument =>
    rw [resolve, amount, ← toInt_value_readStar]
    simp only [Int32.lt_iff_toInt_lt, Int32.toInt_zero]

/-- The precision as settled. -/
theorem Precision.value_resolve (precision : Precision) (cursor : ArgumentCursor) :
    (precision.resolve cursor).value = precision.amount? cursor.rest.head? := by
  cases precision with
  | unspecified => rfl
  | fixed n => rfl
  | fromArgument => rw [resolve, amount?, ← toInt_value_readStar]

namespace Directive

/-- How many stars a directive has; its value is in the slot behind theirs. -/
def stars (directive : Directive) : Nat :=
  directive.width.demands.length + directive.precision.demands.length

/-- Where the value of a directive goes that has given arguments before it. -/
def place (directive : Directive) (arguments : List Argument) : Placement :=
  let width := directive.width.amount arguments.head?
  { flags := if width < 0 then { directive.flags with leftJustify := true } else directive.flags
    width := width.natAbs
    precision := directive.precision.amount? arguments[directive.width.demands.length]? }

/-- A directive does what its conversion does at that place. -/
theorem value_resolve (directive : Directive) (cursor : ArgumentCursor) :
    (directive.resolve cursor).value =
      (directive.conversion.resolve (directive.place cursor.rest) directive.length
        (cursor.skip directive.stars)).value := by
  have hwidth := (directive.width.resolve_takes directive.flags).arguments_eq cursor
  have hprecision := directive.precision.resolve_takes.arguments_eq
    (cursor.skip directive.width.demands.length)
  rw [ArgumentCursor.skip_skip] at hprecision
  simp only [resolve, hwidth, hprecision, Width.value_resolve, Precision.value_resolve,
    ArgumentCursor.rest_skip, List.head?_drop]
  rfl

end Directive

/-! ## Directives in the output -/

/-- A conversion does what it makes of the argument in its slot, if it makes anything of it, and
then has nothing to report. -/
theorem Conversion.resolve_of_effect? {conversion : Conversion} {place : Placement}
    {length : Length} {cursor : ArgumentCursor} {argument : Argument} {effect : Effect}
    (hargument : cursor.rest.head? = some argument)
    (heffect : conversion.effect? place length argument = some effect) :
    conversion.resolve place length cursor = ⟨effect, cursor.skip 1, []⟩ := by
  -- A conversion that takes no argument makes nothing of one.
  have hnone : conversion.constantEffect? = none := by
    cases conversion with
    | errorNumber | percent | unknown _ | truncated => exact nomatch heffect
    | _ => rfl
  rw [resolve, hnone]
  simp only [readValue, cursor.next_eq, hargument, heffect]

/-- A directive adds to the output what its conversion makes of the argument in the slot behind its
stars. -/
theorem output_eq_of_effect? (template : Bytes) (arguments : List Argument) {i : Nat}
    {spelling : Spelling} {argument : Argument} {effect : Effect}
    (hsegment : (segments template)[i]? = some (.directive spelling))
    (hargument : arguments[firstSlot (segments template) i + spelling.directive.stars]? =
      some argument)
    (heffect : spelling.directive.conversion.effect?
      (spelling.directive.place (arguments.drop (firstSlot (segments template) i)))
      spelling.directive.length argument = some effect) :
    output template arguments =
      ((plan template arguments).value.take i).flatMap Effect.bytes ++ effect.bytes ++
        ((plan template arguments).value.drop (i + 1)).flatMap Effect.bytes := by
  refine output_eq_of_getElem? template arguments ?_
  rw [plan, getElem?_value_planSegments, hsegment]
  refine congrArg some ?_
  show (spelling.directive.resolve _).value = effect
  rw [Directive.value_resolve, ArgumentCursor.skip_skip]
  refine congrArg Reading.value (Conversion.resolve_of_effect? ?_ heffect)
  rw [ArgumentCursor.rest_skip, List.head?_drop]
  exact hargument

end BoundedFormat
