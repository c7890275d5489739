import BoundedFormat.Plan.Basic

/-!
# What the counters receive

A `%n` stores the count of the bytes in front of it, whether a buffer kept them or not. Which counts
go where is therefore settled by the plan alone: `storesFrom` lists the stores of a row of effects
in order, and a counter ends up with the last one made to it.
-/

namespace BoundedFormat

/-- A count on its way to a counter. -/
structure Store where
  /-- The number of the counter. -/
  index : Nat
  /-- The count, kept to 32 bits and read as signed. -/
  count : Int32
  deriving DecidableEq, Repr

/-- Make a store. A counter that does not exist receives nothing. -/
def Store.apply (counters : Counters) (store : Store) : Counters :=
  counters.setIfInBounds store.index store.count

/-- The stores of a row of effects, in front of which `offset` bytes were written. -/
def storesFrom (offset : Nat) : List Effect → List Store
  | [] => []
  | .storeCount index :: rest => ⟨index, Int32.ofNat offset⟩ :: storesFrom offset rest
  | effect :: rest => storesFrom (offset + effect.bytes.length) rest

/-- The stores of a template with its arguments. -/
def stores (template : Bytes) (arguments : List Argument) : List Store :=
  storesFrom 0 (plan template arguments).value

/-- The stores of two rows of effects, one after the other: the second row starts behind the bytes
of the first. -/
theorem storesFrom_append (offset : Nat) (first second : List Effect) :
    storesFrom offset (first ++ second) =
      storesFrom offset first ++
        storesFrom (offset + (first.flatMap Effect.bytes).length) second := by
  induction first generalizing offset with
  | nil => rfl
  | cons effect rest ih =>
    cases effect with
    | write emission =>
      simp [storesFrom, ih, Effect.bytes, Nat.add_assoc]
    | storeCount index => simp [storesFrom, ih, Effect.bytes]
    | nothing => simp [storesFrom, ih, Effect.bytes]

end BoundedFormat
