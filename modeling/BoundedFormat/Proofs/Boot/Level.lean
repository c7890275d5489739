import BoundedFormat.Boot.Config

/-!
# The level that a command line asks for

Reading a command line word by word keeps the level of the last word that asks for one. `lastOr` is
the last of a row of values, and `foldl_getD` says that a fold which lets each value replace the one
before it ends with that; `level_ofCommandLine` is the case of a command line.
-/

namespace BoundedFormat

/-- The last value of a row, or `fallback` where there is none. -/
def lastOr {α : Type} (fallback : α) (row : List α) : α := row.getLast?.getD fallback

theorem lastOr_append {α : Type} (fallback : α) (first second : List α) :
    lastOr fallback (first ++ second) = lastOr (lastOr fallback first) second := by
  rw [lastOr, lastOr, lastOr, List.getLast?_append]
  cases second.getLast? <;> rfl

/-- Where each value replaces the one before it, the last one is left. -/
theorem foldl_getD {α β : Type} (value? : α → Option β) (row : List α) (fallback : β) :
    row.foldl (fun current a => (value? a).getD current) fallback =
      lastOr fallback (row.filterMap value?) := by
  induction row generalizing fallback with
  | nil => rfl
  | cons a rest ih =>
    have hsplit : (a :: rest).filterMap value? =
        (value? a).toList ++ rest.filterMap value? := by
      cases hvalue : value? a <;> simp [hvalue]
    rw [List.foldl_cons, ih, hsplit, lastOr_append]
    cases value? a <;> rfl

/-- The level that a word of a command line asks for: `loglevel=` and the name of a level. -/
def askedLevel? (word : String) : Option Level := (valueOf? "loglevel" word).bind Level.ofName?

/-- The level that a command line asks for, if there is one: that of the last word that asks for a
level, and `info` where no word does. -/
def requestedLevel (line : Option String) : Level :=
  lastOr .info ((line.elim [] words).filterMap askedLevel?)

/-- The level of a boot configuration is the one that the command line asks for. -/
theorem level_ofCommandLine (line : Option String) :
    (BootConfig.ofCommandLine line).level = requestedLevel line := by
  have hread : BootConfig.readLevel = fun level word => (askedLevel? word).getD level := by
    funext level word
    rw [BootConfig.readLevel, askedLevel?]
    cases valueOf? "loglevel" word <;> rfl
  cases line with
  | none => rfl
  | some line =>
    rw [BootConfig.ofCommandLine, hread]
    exact foldl_getD askedLevel? (words line) .info

end BoundedFormat
