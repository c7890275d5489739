import BoundedFormat.Proofs.Boot.Tests

/-!
# Malformed words on a command line

A word is malformed if its value means nothing to its key, or if it has none of the known keys. Such
a word put into a command line never changes the level and never turns tests on or off. It leaves
the verbosity alone as well unless it names a verbosity that there is none of: this counts as a
summary, so it undoes what words in front of it asked for, and only words behind it that ask for a
verbosity make up for it (`malformed_words_ask_for_a_summary_at_most`).
-/

namespace BoundedFormat

/-- The word is malformed. -/
inductive IsMalformed (word : String) : Prop where
  /-- It asks for a level that there is none of. -/
  | level {value : String} (h : valueOf? "loglevel" word = some value)
      (hvalue : ∀ level : Level, sameName level.name value = false) : IsMalformed word
  /-- It asks for a verbosity that there is none of. -/
  | verbosity {value : String} (h : valueOf? "fmtests.verbosity" word = some value)
      (hvalue : ∀ verbosity : Verbosity, sameName value verbosity.name = false) : IsMalformed word
  /-- It has none of the keys. -/
  | noKey (hlevel : valueOf? "loglevel" word = none) (htests : valueOf? "fmtests" word = none)
      (hverbosity : valueOf? "fmtests.verbosity" word = none) : IsMalformed word

/-- A word with another key has no value for this one. -/
theorem valueOf?_eq_none {key other word value : String} (hkey : '=' ∉ key.toList)
    (hother : '=' ∉ other.toList) (hne : key ≠ other) (h : valueOf? key word = some value) :
    valueOf? other word = none := by
  rcases hdecoy : valueOf? other word with _ | decoy
  · rfl
  · exact absurd (key_eq_of_valueOf? hkey hother h hdecoy) hne

namespace IsMalformed

variable {word : String} (h : IsMalformed word)
include h

/-- A malformed word asks for no level. -/
theorem askedLevel?_eq_none : askedLevel? word = none := by
  rw [askedLevel?]
  cases h with
  | level h hvalue =>
    rw [h, Option.bind_some, Level.ofName?, List.find?_eq_none]
    intro level _
    rw [hvalue level]
    decide
  | verbosity h _ =>
    rw [valueOf?_eq_none (by decide) (by decide) (by decide) h]
    rfl
  | noKey hlevel _ _ =>
    rw [hlevel]
    rfl

/-- A malformed word does not ask whether there are tests. -/
theorem askedSwitch?_eq_none : askedSwitch? word = none := by
  rw [askedSwitch?]
  cases h with
  | level h _ =>
    rw [valueOf?_eq_none (by decide) (by decide) (by decide) h]
    rfl
  | verbosity h _ =>
    rw [valueOf?_eq_none (by decide) (by decide) (by decide) h]
    rfl
  | noKey _ htests _ =>
    rw [htests]
    rfl

/-- A malformed word asks for no verbosity, unless it has the key for it and asks for a summary. -/
theorem askedVerbosity?_eq :
    askedVerbosity? word =
      if (valueOf? "fmtests.verbosity" word).isSome then some .summary else none := by
  rw [askedVerbosity?]
  cases h with
  | level h _ =>
    rw [valueOf?_eq_none (by decide) (by decide) (by decide) h]
    rfl
  | verbosity h hvalue =>
    have hquiet : sameName _ "quiet" = false := hvalue .quiet
    have hverbose : sameName _ "verbose" = false := hvalue .verbose
    rw [h, Option.map_some, Verbosity.ofName, hquiet, hverbose]
    rfl
  | noKey _ _ hverbosity =>
    rw [hverbosity]
    rfl

end IsMalformed

/-- A value put into a row leaves its last value as it is if values come behind it, or if the row in
front of it ends with the same value. -/
theorem lastOr_insert_eq_iff {α : Type} (fallback value : α) (before after : List α) :
    lastOr fallback (before ++ value :: after) = lastOr fallback (before ++ after) ↔
      after ≠ [] ∨ lastOr fallback before = value := by
  have hcons : lastOr (lastOr fallback before) (value :: after) = lastOr value after := by
    exact lastOr_append _ [value] after
  rw [lastOr_append, lastOr_append, hcons]
  rcases after with _ | ⟨first, rest⟩
  · exact ⟨fun h => .inr h.symm, fun h => (h.resolve_left (absurd rfl)).symm⟩
  · refine ⟨fun _ => .inl (List.cons_ne_nil _ _), fun _ => ?_⟩
    rw [lastOr, lastOr, List.getLast?_cons]
    rfl

section

variable {word : String} (hword : IsMalformed word) (before after : List String)
include hword

/-- A malformed word does not change the level that the words ask for. -/
theorem IsMalformed.levels_eq :
    (before ++ word :: after).filterMap askedLevel? = (before ++ after).filterMap askedLevel? := by
  rw [List.filterMap_append, List.filterMap_append,
    List.filterMap_cons_none hword.askedLevel?_eq_none]

/-- A malformed word does not change whether the words ask for tests. -/
theorem IsMalformed.enabled_eq :
    (requestedTests (before ++ word :: after)).enabled =
      (requestedTests (before ++ after)).enabled := by
  have henabled : ∀ row, (requestedTests row).enabled =
      lastOr false (row.filterMap askedSwitch?) := fun _ => rfl
  rw [henabled, henabled, List.filterMap_append, List.filterMap_append,
    List.filterMap_cons_none hword.askedSwitch?_eq_none]

/-- A malformed word changes the verbosity that the words ask for only if it has the key of the
verbosity and no word behind it has, where the words in front of it ask for no summary. -/
theorem IsMalformed.verbosity_eq_iff :
    (requestedTests (before ++ word :: after)).verbosity =
        (requestedTests (before ++ after)).verbosity ↔
      valueOf? "fmtests.verbosity" word = none ∨
        (∃ later ∈ after, (valueOf? "fmtests.verbosity" later).isSome = true) ∨
        (requestedTests before).verbosity = .summary := by
  have hasked := hword.askedVerbosity?_eq
  have hverbosity : ∀ row, (requestedTests row).verbosity =
      lastOr .summary (row.filterMap askedVerbosity?) := fun _ => rfl
  rw [hverbosity, hverbosity, hverbosity, List.filterMap_append, List.filterMap_append]
  rcases hvalue : valueOf? "fmtests.verbosity" word with _ | value
  · rw [hvalue] at hasked
    rw [List.filterMap_cons_none hasked]
    exact ⟨fun _ => .inl rfl, fun _ => rfl⟩
  · rw [hvalue] at hasked
    have hlater : after.filterMap askedVerbosity? ≠ [] ↔
        ∃ later ∈ after, (valueOf? "fmtests.verbosity" later).isSome = true := by
      simp [List.filterMap_eq_nil_iff, askedVerbosity?, Option.isSome_iff_ne_none]
    rw [List.filterMap_cons_some hasked, lastOr_insert_eq_iff, hlater]
    exact ⟨.inr, fun h => h.resolve_left (Option.some_ne_none value)⟩

end

/-- A malformed word between the words of a command line, or at either end, does not change the
level, nor whether there are tests. It changes the configuration only if it has the key of the
verbosity and no word behind it has, where the words in front of it ask for another verbosity than
a summary. -/
theorem malformed_words_ask_for_a_summary_at_most {line other word : String}
    {before after : List String} (hline : words line = before ++ after)
    (hother : words other = before ++ word :: after) (hword : IsMalformed word) :
    let booted := BootConfig.ofCommandLine (some line)
    let changed := BootConfig.ofCommandLine (some other)
    let isIgnored := valueOf? "fmtests.verbosity" word = none ∨
      (∃ later ∈ after, (valueOf? "fmtests.verbosity" later).isSome = true) ∨
      (requestedTests before).verbosity = .summary
    changed.level = booted.level ∧ changed.tests.enabled = booted.tests.enabled ∧
      (changed = booted ↔ isIgnored) ∧
      (TestConfig.ofCommandLine (some other) = TestConfig.ofCommandLine (some line) ↔
        isIgnored) := by
  intro booted changed isIgnored
  have hlevel : changed.level = booted.level := by
    rw [level_ofCommandLine, level_ofCommandLine, requestedLevel, requestedLevel, Option.elim_some,
      Option.elim_some, hline, hother, hword.levels_eq]
  have hbooted : TestConfig.ofCommandLine (some line) = requestedTests (before ++ after) := by
    rw [tests_ofCommandLine, Option.elim_some, hline]
  have hchanged : TestConfig.ofCommandLine (some other) =
      requestedTests (before ++ word :: after) := by
    rw [tests_ofCommandLine, Option.elim_some, hother]
  have henabled := hword.enabled_eq before after
  have htests : TestConfig.ofCommandLine (some other) = TestConfig.ofCommandLine (some line) ↔
      isIgnored := by
    rw [hbooted, hchanged]
    refine Iff.trans ⟨congrArg _, fun hverbosity => ?_⟩ (hword.verbosity_eq_iff before after)
    exact TestConfig.ext henabled hverbosity
  refine ⟨hlevel, ?_, ?_, htests⟩
  · show (TestConfig.ofCommandLine (some other)).enabled = _
    rw [hchanged, henabled, ← hbooted]
    rfl
  · rw [← htests]
    exact ⟨congrArg BootConfig.tests, fun hsame => BootConfig.ext hlevel hsame⟩

/-- A verbosity that there is none of, put between a level and a verbosity. -/
theorem malformed_words_ask_for_a_summary_at_most_in_front :
    let line := "loglevel=warn fmtests.verbosity=quiet"
    let other := "loglevel=warn\tfmtests.verbosity=loud  fmtests.verbosity=quiet"
    words line = ["loglevel=warn"] ++ ["fmtests.verbosity=quiet"] ∧
      words other = ["loglevel=warn"] ++ "fmtests.verbosity=loud" :: ["fmtests.verbosity=quiet"] ∧
      IsMalformed "fmtests.verbosity=loud" ∧
      BootConfig.ofCommandLine (some other) = BootConfig.ofCommandLine (some line) := by
  intro line other
  have hline : words line = ["loglevel=warn"] ++ ["fmtests.verbosity=quiet"] := by decide
  have hother : words other =
      ["loglevel=warn"] ++ "fmtests.verbosity=loud" :: ["fmtests.verbosity=quiet"] := by decide
  have hvalue : valueOf? "fmtests.verbosity" "fmtests.verbosity=loud" = some "loud" := by decide
  have hword : IsMalformed "fmtests.verbosity=loud" := by
    refine .verbosity hvalue fun verbosity => ?_
    cases verbosity <;> decide
  obtain ⟨-, -, hsame, -⟩ := malformed_words_ask_for_a_summary_at_most hline hother hword
  refine ⟨hline, hother, hword, hsame.2 (.inr (.inl ⟨_, List.mem_cons_self, ?_⟩))⟩
  decide

/-- A verbosity that there is none of, put behind a verbosity: what was asked for before is undone,
while a level that there is none of leaves the level as it is. -/
theorem malformed_verbosity_undoes_verbose :
    IsMalformed "fmtests.verbosity=??" ∧
      words "fmtests.verbosity=verbose fmtests.verbosity=??" =
        words "fmtests.verbosity=verbose" ++ ["fmtests.verbosity=??"] ∧
      BootConfig.ofCommandLine (some "fmtests.verbosity=verbose") =
        { tests := { verbosity := .verbose } } ∧
      BootConfig.ofCommandLine (some "fmtests.verbosity=verbose fmtests.verbosity=??") = {} ∧
      BootConfig.ofCommandLine (some "loglevel=debug loglevel=??") = { level := .debug } := by
  refine ⟨?_, by decide, by decide, by decide, by decide⟩
  have hvalue : valueOf? "fmtests.verbosity" "fmtests.verbosity=??" = some "??" := by decide
  refine .verbosity hvalue fun verbosity => ?_
  cases verbosity <;> decide

end BoundedFormat
