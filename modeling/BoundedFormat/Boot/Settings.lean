import BoundedFormat.Text.AsciiCase
import BoundedFormat.Text.Blank

/-!
# The words of a command line

A command line is a list of words, some of which are settings `key=value`. This module reads the
values; words with another key, and values that mean nothing, are left to the caller to ignore.
-/

namespace BoundedFormat

/-- The value of a word `key=value`. -/
def valueOf? (key word : String) : Option String :=
  let front := key.toList ++ ['=']
  if front.isPrefixOf word.toList then some (.ofList (word.toList.drop front.length)) else none

/-- A word has a value for the key exactly when it is the key, an equals sign and the value. -/
theorem valueOf?_eq_some_iff {key word value : String} :
    valueOf? key word = some value ↔ word.toList = key.toList ++ '=' :: value.toList := by
  simp only [valueOf?, Option.ite_none_right_eq_some, List.isPrefixOf_iff_prefix,
    Option.some.injEq]
  constructor
  · rintro ⟨⟨rest, hrest⟩, hvalue⟩
    rw [← hrest, List.drop_left] at hvalue
    rw [← hrest, ← hvalue, String.toList_ofList, List.append_assoc]
    rfl
  · intro h
    have hfront : key.toList ++ ['='] ++ value.toList = word.toList := by simp [h]
    exact ⟨⟨_, hfront⟩, by rw [← hfront, List.drop_left, String.ofList_toList]⟩

/-- The names that switch something on. -/
def onNames : List String := ["on", "true", "yes", "enabled", "1"]

/-- The names that switch something off. -/
def offNames : List String := ["off", "false", "no", "disabled", "0"]

/-- The meaning of a switch, in any case. -/
def switch? (value : String) : Option Bool :=
  if onNames.any (sameName · value) then some true
  else if offNames.any (sameName · value) then some false
  else none

/-- How much a test run tells. -/
inductive Verbosity where
  /-- Failures only. -/
  | quiet
  /-- Failures and skipped tests. -/
  | summary
  /-- Every test. -/
  | verbose
  deriving DecidableEq, Repr

namespace Verbosity

/-- The name of the verbosity. -/
def name : Verbosity → String
  | quiet => "quiet"
  | summary => "summary"
  | verbose => "verbose"

/-- The verbosity of a name, in any case; any other name means a summary. -/
def ofName (name : String) : Verbosity :=
  if sameName name "quiet" then quiet
  else if sameName name "verbose" then verbose
  else summary

end Verbosity

end BoundedFormat
