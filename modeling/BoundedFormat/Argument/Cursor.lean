import BoundedFormat.Argument.Basic

/-!
# Reading arguments in order

A cursor walks a list of arguments once. It counts what it has handed out, and at the end of the
list it stays where it is.
-/

namespace BoundedFormat

/-- A place in a list of arguments. -/
structure ArgumentCursor where
  /-- How many arguments have been taken. -/
  consumed : Nat
  /-- The arguments not taken yet. -/
  rest : List Argument
  deriving DecidableEq, Repr

namespace ArgumentCursor

/-- The cursor in front of the first argument. -/
def ofList (arguments : List Argument) : ArgumentCursor := ⟨0, arguments⟩

/-- Take the next argument, if there is one. -/
def next (cursor : ArgumentCursor) : Option Argument × ArgumentCursor :=
  match cursor.rest with
  | [] => (none, cursor)
  | argument :: rest => (some argument, ⟨cursor.consumed + 1, rest⟩)

/-- How many arguments the list had. -/
def supplied (cursor : ArgumentCursor) : Nat := cursor.consumed + cursor.rest.length

/-- A new cursor has the whole list before it. -/
@[simp]
theorem supplied_ofList (arguments : List Argument) :
    (ofList arguments).supplied = arguments.length := by
  simp [supplied, ofList]

end ArgumentCursor

end BoundedFormat
