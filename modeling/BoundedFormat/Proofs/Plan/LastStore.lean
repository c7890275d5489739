import BoundedFormat.Plan.Stores

/-!
# The last store counts

After a row of stores a counter holds the last count that was stored into it, and what it held
before where there is none (`getElem?_foldl_apply`). Making the same row of stores again therefore
changes nothing (`foldl_apply_foldl_apply`).
-/

namespace BoundedFormat

/-- The last count that goes to a counter. -/
def lastCount? (stores : List Store) (index : Nat) : Option Int32 :=
  (stores.reverse.find? fun store => store.index == index).map Store.count

/-- The last count with one store more in front. -/
theorem lastCount?_cons (store : Store) (rest : List Store) (index : Nat) :
    lastCount? (store :: rest) index =
      (lastCount? rest index).or (if store.index = index then some store.count else none) := by
  rw [lastCount?, lastCount?, List.reverse_cons, List.find?_append, Option.map_or]
  by_cases h : store.index = index <;> simp [h]

/-- One store changes its own counter only. -/
theorem getElem?_apply (counters : Counters) (store : Store) (index : Nat) :
    (store.apply counters)[index]? =
      counters[index]?.map fun n => if store.index = index then store.count else n := by
  rw [Store.apply, Array.getElem?_setIfInBounds]
  split
  · next h =>
    subst h
    split
    · next hlt => rw [Array.getElem?_eq_getElem hlt, Option.map_some]
    · next hge => rw [Array.getElem?_eq_none (Nat.not_lt.1 hge), Option.map_none]
  · rw [Option.map_id']

/-- After a row of stores a counter holds the last count stored into it, if there is one. -/
theorem getElem?_foldl_apply (stores : List Store) (counters : Counters) (index : Nat) :
    (stores.foldl Store.apply counters)[index]? =
      counters[index]?.map fun n => (lastCount? stores index).getD n := by
  induction stores generalizing counters with
  | nil => exact Option.map_id'.symm
  | cons store rest ih =>
    rw [List.foldl_cons, ih, getElem?_apply, Option.map_map, lastCount?_cons]
    congr 1
    funext n
    rcases lastCount? rest index with _ | last
    · by_cases h : store.index = index <;> simp [h]
    · rfl

/-- A row of stores made twice leaves the counters as it does when it is made once. -/
theorem foldl_apply_foldl_apply (stores : List Store) (counters : Counters) :
    stores.foldl Store.apply (stores.foldl Store.apply counters) =
      stores.foldl Store.apply counters := by
  refine Array.ext_getElem? fun index => ?_
  rw [getElem?_foldl_apply, getElem?_foldl_apply, Option.map_map]
  congr 1
  funext n
  show (lastCount? stores index).getD ((lastCount? stores index).getD n) = _
  rcases lastCount? stores index with _ | last <;> rfl

end BoundedFormat
