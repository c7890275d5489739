import BoundedFormat.Proofs.Boot.Level

/-!
# The test configuration that a command line asks for

One key is the beginning of another, but a word has a value for one key at most, since no key has an
equals sign (`key_eq_of_valueOf?`). So each word asks for one setting, or for none, and of the words
that ask for the same setting the last one decides (`tests_ofCommandLine`).
-/

namespace BoundedFormat

/-- What stands in front of the first equals sign is the key. -/
theorem takeWhile_key {key : String} (hkey : '=' ∉ key.toList) (value : List Char) :
    (key.toList ++ '=' :: value).takeWhile (· != '=') = key.toList := by
  rw [List.takeWhile_append_of_pos fun c hc => ?_, List.takeWhile_cons_of_neg (by decide),
    List.append_nil]
  rw [bne_iff_ne]
  rintro rfl
  exact hkey hc

/-- A word has a value for one key at most. -/
theorem key_eq_of_valueOf? {key other word value decoy : String} (hkey : '=' ∉ key.toList)
    (hother : '=' ∉ other.toList) (h : valueOf? key word = some value)
    (hdecoy : valueOf? other word = some decoy) : key = other := by
  rw [valueOf?_eq_some_iff] at h hdecoy
  refine String.toList_inj.1 ?_
  rw [← takeWhile_key hkey value.toList, ← h, hdecoy, takeWhile_key hother]

/-- Whether a word of a command line asks for tests: `fmtests=` and a switch, or any other value for
yes. -/
def askedSwitch? (word : String) : Option Bool :=
  (valueOf? "fmtests" word).map fun value => (switch? value).getD true

/-- The verbosity that a word of a command line asks for: `fmtests.verbosity=` and a name, where a
name that is none asks for a summary. -/
def askedVerbosity? (word : String) : Option Verbosity :=
  (valueOf? "fmtests.verbosity" word).map Verbosity.ofName

/-- A word replaces the setting that it asks for. -/
theorem TestConfig.readWord_eq (config : TestConfig) (word : String) :
    config.readWord word =
      { enabled := (askedSwitch? word).getD config.enabled
        verbosity := (askedVerbosity? word).getD config.verbosity } := by
  rw [readWord, askedSwitch?, askedVerbosity?]
  rcases hswitch : valueOf? "fmtests" word with _ | value
  · cases valueOf? "fmtests.verbosity" word <;> rfl
  · rcases hverbosity : valueOf? "fmtests.verbosity" word with _ | other
    · rfl
    · exact absurd (key_eq_of_valueOf? (by decide) (by decide) hswitch hverbosity) (by decide)

/-- The test configuration that words of a command line ask for. -/
def requestedTests (row : List String) : TestConfig where
  enabled := lastOr false (row.filterMap askedSwitch?)
  verbosity := lastOr .summary (row.filterMap askedVerbosity?)

/-- Words read one after the other leave the last setting of each kind. -/
theorem TestConfig.foldl_readWord (row : List String) (config : TestConfig) :
    row.foldl readWord config =
      { enabled := lastOr config.enabled (row.filterMap askedSwitch?)
        verbosity := lastOr config.verbosity (row.filterMap askedVerbosity?) } := by
  rw [← foldl_getD, ← foldl_getD]
  induction row generalizing config with
  | nil => rfl
  | cons word rest ih =>
    rw [List.foldl_cons, List.foldl_cons, List.foldl_cons, ih, readWord_eq]

/-- The test configuration of a command line is the one that its words ask for. -/
theorem tests_ofCommandLine (line : Option String) :
    TestConfig.ofCommandLine line = requestedTests (line.elim [] words) := by
  cases line with
  | none => rfl
  | some line => exact TestConfig.foldl_readWord (words line) {}

end BoundedFormat
