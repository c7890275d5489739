import BoundedFormat.Proofs.Boot.Tests
import BoundedFormat.Proofs.Boot.Words

/-!
# The last word decides

What each word of a command line asks for is said by its key and by what the value behind it means
(`Asks`); of the words that ask for a setting the last one has it (`IsAskedLast`). A command line
leads to the configuration that its words ask for in this way and to no other. So it does not matter
how the words are spaced out, nor in which order words with different keys stand, and of two command
lines put together the second one decides whatever it asks for at all
(`settings_are_those_asked_for_last`).
-/

namespace BoundedFormat

/-! ## The last of the words that ask -/

/-- The word is the key, an equals sign and a value that means the setting. -/
def Asks {α : Type} (key : String) (Means : String → α → Prop) (word : String) (setting : α) :
    Prop :=
  ∃ value : String, word.toList = key.toList ++ '=' :: value.toList ∧ Means value setting

variable {α : Type} {Requests : String → α → Prop} {fallback : α}

/-- The setting is what the last of the words asks for that ask for anything, or the fallback where
none of them does. -/
inductive IsAskedLast (Requests : String → α → Prop) (fallback : α) (row : List String) : α → Prop
  /-- A word asks for the setting, and no word behind it asks for any. -/
  | asked {before after : List String} {word : String} {setting : α}
      (hrow : row = before ++ word :: after) (hword : Requests word setting)
      (hlater : ∀ later ∈ after, ∀ other, ¬ Requests later other) :
      IsAskedLast Requests fallback row setting
  /-- No word asks for anything. -/
  | unasked (h : ∀ word ∈ row, ∀ setting, ¬ Requests word setting) :
      IsAskedLast Requests fallback row fallback

section

variable {asked? : String → Option α}
  (hasked : ∀ word setting, asked? word = some setting ↔ Requests word setting)
include hasked

/-- A word asks for nothing exactly if it has no setting. -/
theorem asked?_eq_none_iff (word : String) :
    asked? word = none ↔ ∀ setting, ¬ Requests word setting := by
  rw [Option.eq_none_iff_forall_ne_some]
  exact forall_congr' fun setting => not_congr (hasked word setting)

/-- Where no word asks for anything there are no settings. -/
theorem filterMap_asked?_eq_nil_iff (row : List String) :
    row.filterMap asked? = [] ↔ ∀ word ∈ row, ∀ setting, ¬ Requests word setting := by
  rw [List.filterMap_eq_nil_iff]
  exact forall₂_congr fun word _ => asked?_eq_none_iff hasked word

/-- What is asked for last is the last of the settings. -/
theorem IsAskedLast.eq_lastOr {row : List String} {setting : α}
    (h : IsAskedLast Requests fallback row setting) :
    lastOr fallback (row.filterMap asked?) = setting := by
  cases h with
  | @asked before after word setting hrow hword hlater =>
    rw [hrow, List.filterMap_append, List.filterMap_cons_some ((hasked word setting).2 hword),
      (filterMap_asked?_eq_nil_iff hasked after).2 hlater, lastOr_append]
    rfl
  | unasked h =>
    rw [(filterMap_asked?_eq_nil_iff hasked row).2 h]
    rfl

/-- Something is asked for last. -/
theorem exists_isAskedLast (fallback : α) (row : List String) :
    ∃ setting, IsAskedLast Requests fallback row setting := by
  induction row with
  | nil => exact ⟨fallback, .unasked fun _ hmem => absurd hmem List.not_mem_nil⟩
  | cons word rest ih =>
    obtain ⟨setting, h⟩ := ih
    cases h with
    | asked hrow hword hlater =>
      exact ⟨setting, .asked (by rw [hrow, List.cons_append]) hword hlater⟩
    | unasked h =>
      rcases hword : asked? word with _ | own
      · refine ⟨fallback, .unasked ?_⟩
        exact List.forall_mem_cons.2 ⟨(asked?_eq_none_iff hasked word).1 hword, h⟩
      · exact ⟨own, .asked (List.nil_append _).symm ((hasked word own).1 hword) h⟩

/-- Exactly one setting is asked for last: the last one that a word has. -/
theorem isAskedLast_iff (fallback : α) (row : List String) (setting : α) :
    lastOr fallback (row.filterMap asked?) = setting ↔
      IsAskedLast Requests fallback row setting := by
  refine ⟨?_, fun h => h.eq_lastOr hasked⟩
  rintro rfl
  obtain ⟨setting, h⟩ := exists_isAskedLast hasked fallback row
  rwa [h.eq_lastOr hasked]

end

/-! ## What the values mean -/

/-- The value names the level, in any case. -/
def MeansLevel (value : String) (level : Level) : Prop := sameName value level.name = true

/-- The value is the name of a switch in this position, in any case. -/
def IsSwitch (value : String) (on : Bool) : Prop :=
  ∃ name ∈ (if on then onNames else offNames), sameName value name = true

/-- The value is a switch in this position, or no switch, which is as good as one that is on. -/
def MeansTests (value : String) (enabled : Bool) : Prop :=
  IsSwitch value enabled ∨ (enabled = true ∧ ∀ on, ¬ IsSwitch value on)

/-- The value names the verbosity, in any case, or it names none, which is as good as a summary. -/
def MeansVerbosity (value : String) (verbosity : Verbosity) : Prop :=
  sameName value verbosity.name = true ∨
    (verbosity = .summary ∧ ∀ other : Verbosity, sameName value other.name = false)

/-- The same name either way. -/
theorem sameName_comm (a b : String) : sameName a b = sameName b a := by
  rw [sameName, sameName, Bool.beq_comm]

/-- What names two things alike has the name of both. -/
theorem foldCase_eq_of_sameName {value first second : String}
    (hfirst : sameName value first = true) (hsecond : sameName value second = true) :
    foldCase first = foldCase second :=
  (sameName_iff.1 hfirst).symm.trans (sameName_iff.1 hsecond)

/-- A value names one level at most. -/
theorem level_eq_of_sameName {value : String} {level other : Level}
    (h : MeansLevel value level) (hother : MeansLevel value other) : level = other := by
  have hnames : ∀ level other : Level,
      foldCase level.name = foldCase other.name → level = other := by
    intro level other
    cases level <;> cases other <;> decide
  exact hnames level other (foldCase_eq_of_sameName h hother)

/-- A level is found by what names it. -/
theorem Level.ofName?_eq_some_iff (value : String) (level : Level) :
    Level.ofName? value = some level ↔ MeansLevel value level := by
  have hfind {level : Level} (h : Level.ofName? value = some level) : MeansLevel value level := by
    have hname := List.find?_some h
    rwa [sameName_comm] at hname
  refine ⟨hfind, fun h => ?_⟩
  have hmem : level ∈ Level.all := by cases level <;> decide
  rcases hfound : Level.ofName? value with _ | found
  · rw [MeansLevel, sameName_comm] at h
    exact absurd h (List.find?_eq_none.1 hfound level hmem)
  · rw [level_eq_of_sameName (hfind hfound) h]

/-- No switch is on and off. -/
theorem not_isSwitch_false_of_true {value : String} (h : IsSwitch value true) :
    ¬ IsSwitch value false := by
  rintro ⟨offName, hoff, hvalue⟩
  obtain ⟨onName, hon, hname⟩ := h
  have hnames : ∀ onName ∈ onNames, ∀ offName ∈ offNames, foldCase onName ≠ foldCase offName := by
    decide
  exact hnames onName hon offName hoff (foldCase_eq_of_sameName hname hvalue)

/-- A switch is read as what it is. -/
theorem switch?_eq_some_iff (value : String) (on : Bool) :
    switch? value = some on ↔ IsSwitch value on := by
  have hany (names : List String) : names.any (sameName · value) = true ↔
      ∃ name ∈ names, sameName value name = true := by
    rw [List.any_eq_true]
    exact exists_congr fun name => and_congr_right' (by rw [sameName_comm])
  have hon : onNames.any (sameName · value) = true ↔ IsSwitch value true := hany onNames
  have hoff : offNames.any (sameName · value) = true ↔ IsSwitch value false := hany offNames
  unfold switch?
  split
  · next h =>
    have htrue := hon.1 h
    cases on with
    | true => exact iff_of_true rfl htrue
    | false => exact iff_of_false (by decide) (not_isSwitch_false_of_true htrue)
  · next h =>
    have htrue : ¬ IsSwitch value true := fun hswitch => h (hon.2 hswitch)
    split
    · next h =>
      cases on with
      | true => exact iff_of_false (by decide) htrue
      | false => exact iff_of_true rfl (hoff.1 h)
    · next h =>
      have hfalse : ¬ IsSwitch value false := fun hswitch => h (hoff.2 hswitch)
      cases on with
      | true => exact iff_of_false (by decide) htrue
      | false => exact iff_of_false (by decide) hfalse

/-- What is no switch turns the tests on. -/
theorem switch?_getD_eq_iff (value : String) (enabled : Bool) :
    (switch? value).getD true = enabled ↔ MeansTests value enabled := by
  rw [MeansTests]
  rcases hswitch : switch? value with _ | on
  · have hnone (on : Bool) : ¬ IsSwitch value on := by
      rw [← switch?_eq_some_iff, hswitch]
      exact Option.some_ne_none on ∘ Eq.symm
    rw [Option.getD_none, or_iff_right (hnone enabled), and_iff_left hnone, eq_comm]
  · have hsome : ¬ ∀ on, ¬ IsSwitch value on :=
      fun hnone => hnone on ((switch?_eq_some_iff value on).1 hswitch)
    rw [or_iff_left fun h => hsome h.2, ← switch?_eq_some_iff, hswitch, Option.getD_some,
      Option.some.injEq]

/-- A value means one verbosity. -/
theorem verbosity_eq_of_means {value : String} {verbosity other : Verbosity}
    (h : MeansVerbosity value verbosity) (hother : MeansVerbosity value other) :
    verbosity = other := by
  have hnames : ∀ verbosity other : Verbosity,
      foldCase verbosity.name = foldCase other.name → verbosity = other := by
    intro verbosity other
    cases verbosity <;> cases other <;> decide
  obtain hname | ⟨rfl, hnone⟩ := h
  · obtain hname' | ⟨-, hnone⟩ := hother
    · exact hnames verbosity other (foldCase_eq_of_sameName hname hname')
    · rw [hnone verbosity] at hname
      cases hname
  · obtain hname | ⟨rfl, -⟩ := hother
    · rw [hnone other] at hname
      cases hname
    · rfl

/-- A verbosity is read as what the value means. -/
theorem Verbosity.ofName_eq_iff (value : String) (verbosity : Verbosity) :
    Verbosity.ofName value = verbosity ↔ MeansVerbosity value verbosity := by
  have hread : MeansVerbosity value (.ofName value) := by
    unfold Verbosity.ofName
    split
    · next h => exact .inl h
    · next hquiet =>
      split
      · next h => exact .inl h
      · next hverbose =>
        by_cases hsummary : sameName value "summary" = true
        · exact .inl hsummary
        · refine .inr ⟨rfl, fun other => Bool.eq_false_iff.2 ?_⟩
          cases other with
          | quiet => exact hquiet
          | summary => exact hsummary
          | verbose => exact hverbose
  constructor
  · rintro rfl
    exact hread
  · intro h
    exact verbosity_eq_of_means hread h

/-! ## What a command line asks for -/

/-- The word asks for the level. -/
def AsksForLevel : String → Level → Prop := Asks "loglevel" MeansLevel

/-- The word asks whether there are tests. -/
def AsksForTests : String → Bool → Prop := Asks "fmtests" MeansTests

/-- The word asks for the verbosity. -/
def AsksForVerbosity : String → Verbosity → Prop := Asks "fmtests.verbosity" MeansVerbosity

/-- The configuration is what the words ask for last; where none of them asks, the level is `info`,
there are no tests and the verbosity is a summary. -/
structure BootConfig.IsAskedBy (config : BootConfig) (row : List String) : Prop where
  level : IsAskedLast AsksForLevel .info row config.level
  enabled : IsAskedLast AsksForTests false row config.tests.enabled
  verbosity : IsAskedLast AsksForVerbosity .summary row config.tests.verbosity

/-- A word has a setting if its value is read as one. -/
theorem bind_valueOf?_eq_some_iff {α : Type} {Means : String → α → Prop} {read? : String → Option α}
    (hread : ∀ value setting, read? value = some setting ↔ Means value setting)
    (key word : String) (setting : α) :
    (valueOf? key word).bind read? = some setting ↔ Asks key Means word setting := by
  rw [Option.bind_eq_some_iff]
  exact exists_congr fun value => and_congr valueOf?_eq_some_iff (hread value setting)

theorem askedLevel?_eq_some_iff (word : String) (level : Level) :
    askedLevel? word = some level ↔ AsksForLevel word level :=
  bind_valueOf?_eq_some_iff Level.ofName?_eq_some_iff "loglevel" word level

theorem askedSwitch?_eq_some_iff (word : String) (enabled : Bool) :
    askedSwitch? word = some enabled ↔ AsksForTests word enabled := by
  rw [askedSwitch?, Option.map_eq_bind]
  refine bind_valueOf?_eq_some_iff (fun value on => ?_) "fmtests" word enabled
  rw [Function.comp_apply, Option.some.injEq]
  exact switch?_getD_eq_iff value on

theorem askedVerbosity?_eq_some_iff (word : String) (verbosity : Verbosity) :
    askedVerbosity? word = some verbosity ↔ AsksForVerbosity word verbosity := by
  rw [askedVerbosity?, Option.map_eq_bind]
  refine bind_valueOf?_eq_some_iff (fun value other => ?_) "fmtests.verbosity" word verbosity
  rw [Function.comp_apply, Option.some.injEq]
  exact Verbosity.ofName_eq_iff value other

/-- The configuration that words of a command line ask for. -/
def requestedConfig (row : List String) : BootConfig where
  level := lastOr .info (row.filterMap askedLevel?)
  tests := requestedTests row

/-- The configuration of a command line is the one that its words ask for. -/
theorem ofCommandLine_eq_requestedConfig (line : Option String) :
    BootConfig.ofCommandLine line = requestedConfig (line.elim [] words) :=
  BootConfig.ext (level_ofCommandLine line) (tests_ofCommandLine line)

/-- Words ask for one configuration. -/
theorem requestedConfig_eq_iff (row : List String) (config : BootConfig) :
    requestedConfig row = config ↔ config.IsAskedBy row := by
  have hlevel := isAskedLast_iff askedLevel?_eq_some_iff .info row config.level
  have henabled := isAskedLast_iff askedSwitch?_eq_some_iff false row config.tests.enabled
  have hverbosity :=
    isAskedLast_iff askedVerbosity?_eq_some_iff .summary row config.tests.verbosity
  rw [BootConfig.ext_iff, TestConfig.ext_iff]
  refine Iff.trans (and_congr hlevel (and_congr henabled hverbosity)) ?_
  exact ⟨fun h => ⟨h.1, h.2.1, h.2.2⟩, fun h => ⟨h.level, h.enabled, h.verbosity⟩⟩

/-! ## The order of the words -/

/-- The keys that mean something. -/
def knownKeys : List String := ["loglevel", "fmtests", "fmtests.verbosity"]

/-- The words that have the key, in order. -/
def withKey (key : String) (row : List String) : List String :=
  row.filter fun word => (valueOf? key word).isSome

/-- The words with each key that means something are the same and in the same order: only words with
different keys have changed places. -/
def AgreeByKey (row other : List String) : Prop :=
  ∀ key ∈ knownKeys, withKey key row = withKey key other

/-- What takes a key to be asked for is asked for by the words that have it. -/
theorem filterMap_withKey {key : String} {asked? : String → Option α}
    (hkey : ∀ word, valueOf? key word = none → asked? word = none) (row : List String) :
    (withKey key row).filterMap asked? = row.filterMap asked? := by
  rw [withKey, List.filterMap_filter]
  congr 1
  funext word
  rcases hvalue : valueOf? key word with _ | value
  · rw [hkey word hvalue]
    rfl
  · rfl

/-- Words that agree by key ask for the same settings of each key. -/
theorem AgreeByKey.filterMap_eq {row other : List String} (h : AgreeByKey row other) (key : String)
    (hknown : key ∈ knownKeys) {asked? : String → Option α}
    (hkey : ∀ word, valueOf? key word = none → asked? word = none) :
    row.filterMap asked? = other.filterMap asked? := by
  rw [← filterMap_withKey hkey row, ← filterMap_withKey hkey other, h key hknown]

/-- They ask for the same configuration. -/
theorem AgreeByKey.requestedConfig_eq {row other : List String} (h : AgreeByKey row other) :
    requestedConfig row = requestedConfig other := by
  have hlevel : row.filterMap askedLevel? = other.filterMap askedLevel? :=
    h.filterMap_eq "loglevel" (by decide) fun word hnone => by
      rw [askedLevel?, hnone, Option.bind_none]
  have henabled : row.filterMap askedSwitch? = other.filterMap askedSwitch? :=
    h.filterMap_eq "fmtests" (by decide) fun word hnone => by
      rw [askedSwitch?, hnone, Option.map_none]
  have hverbosity : row.filterMap askedVerbosity? = other.filterMap askedVerbosity? :=
    h.filterMap_eq "fmtests.verbosity" (by decide) fun word hnone => by
      rw [askedVerbosity?, hnone, Option.map_none]
  rw [requestedConfig, requestedConfig, requestedTests, requestedTests, hlevel, henabled, hverbosity]

/-! ## Two command lines put together -/

/-- Of two command lines put together the second one, with the words in the row, decides on the
setting if a word of it asks for any. -/
def Overrides (Requests : String → α → Prop) (row : List String) (front behind joined : α) : Prop :=
  ((∃ word ∈ row, ∃ setting, Requests word setting) ∧ joined = behind) ∨
    ((∀ word ∈ row, ∀ setting, ¬ Requests word setting) ∧ joined = front)

/-- The last value of a row that is not empty needs no fallback. -/
theorem lastOr_of_ne_nil {row : List α} (h : row ≠ []) (first second : α) :
    lastOr first row = lastOr second row := by
  rw [lastOr, lastOr, List.getLast?_eq_some_getLast h]
  rfl

/-- Behind other settings the last one of a row is left, if there is one. -/
theorem overrides_lastOr {asked? : String → Option α}
    (hasked : ∀ word setting, asked? word = some setting ↔ Requests word setting)
    (first second : List String) :
    Overrides Requests second (lastOr fallback (first.filterMap asked?))
      (lastOr fallback (second.filterMap asked?))
      (lastOr fallback ((first ++ second).filterMap asked?)) := by
  rw [List.filterMap_append, lastOr_append]
  by_cases hnil : second.filterMap asked? = []
  · refine .inr ⟨(filterMap_asked?_eq_nil_iff hasked second).1 hnil, ?_⟩
    rw [hnil]
    rfl
  · obtain ⟨setting, hsetting⟩ := List.exists_mem_of_ne_nil _ hnil
    obtain ⟨word, hword, hrequest⟩ := List.mem_filterMap.1 hsetting
    refine .inl ⟨⟨word, hword, setting, (hasked word setting).1 hrequest⟩, ?_⟩
    exact lastOr_of_ne_nil hnil _ fallback

/-- A command line leads to the configuration that its words ask for last, each setting on its own,
and to no other; the tests are set as they are read from the same line alone. The words are those
that the line is spaced out from: more blanks or other blanks change nothing, nor does another order
of words with different keys. Of two command lines put together the second one decides on each
setting that a word of it asks for, and the first one on the others. -/
theorem settings_are_those_asked_for_last (line : Option String) (first second : String) :
    (∀ config, BootConfig.ofCommandLine line = config ↔ config.IsAskedBy (line.elim [] words)) ∧
      TestConfig.ofCommandLine line = (BootConfig.ofCommandLine line).tests ∧
      (IsSpacedOut first.toList (words first) ∧
        ∀ other : String, IsSpacedOut other.toList (words first) →
          BootConfig.ofCommandLine (some other) = BootConfig.ofCommandLine (some first)) ∧
      (∀ other : String, AgreeByKey (words other) (words first) →
        BootConfig.ofCommandLine (some other) = BootConfig.ofCommandLine (some first)) ∧
      (let front := BootConfig.ofCommandLine (some first)
       let behind := BootConfig.ofCommandLine (some second)
       let joined := BootConfig.ofCommandLine (some (first ++ " " ++ second))
       Overrides AsksForLevel (words second) front.level behind.level joined.level ∧
         Overrides AsksForTests (words second) front.tests.enabled behind.tests.enabled
           joined.tests.enabled ∧
         Overrides AsksForVerbosity (words second) front.tests.verbosity behind.tests.verbosity
           joined.tests.verbosity) := by
  have hconfig (text : String) : BootConfig.ofCommandLine (some text) = requestedConfig (words text) :=
    ofCommandLine_eq_requestedConfig (some text)
  refine ⟨fun config => ?_, rfl, ⟨words_eq_iff.1 rfl, fun other hother => ?_⟩,
    fun other hother => ?_, ?_⟩
  · rw [ofCommandLine_eq_requestedConfig]
    exact requestedConfig_eq_iff _ config
  · rw [hconfig, hconfig, words_eq_iff.2 hother]
  · rw [hconfig, hconfig, hother.requestedConfig_eq]
  · intro front behind joined
    have hjoined : joined = requestedConfig (words first ++ words second) := by
      rw [← words_append_space_append]
      exact hconfig _
    have hfront : front = requestedConfig (words first) := hconfig first
    have hbehind : behind = requestedConfig (words second) := hconfig second
    rw [hjoined, hfront, hbehind]
    exact ⟨overrides_lastOr askedLevel?_eq_some_iff _ _,
      overrides_lastOr askedSwitch?_eq_some_iff _ _,
      overrides_lastOr askedVerbosity?_eq_some_iff _ _⟩

/-- The first line asks for debug lines and turns the tests on and off again. Said with other blanks
and with the keys in another order it leads to the same. A second line behind it turns the tests on,
but names no level. -/
theorem settings_are_those_asked_for_last_of_two_lines :
    let first := "fmtests=all loglevel=DEBUG fmtests=off"
    let spaced := "\tfmtests=all\u2003loglevel=DEBUG  fmtests=off\n"
    let reordered := "loglevel=DEBUG fmtests=all quiet fmtests=off"
    let second := "loglevel=loud fmtests=some"
    let config : BootConfig := { level := .debug }
    IsSpacedOut spaced.toList (words first) ∧ AgreeByKey (words reordered) (words first) ∧
      config.IsAskedBy (words first) ∧
      BootConfig.ofCommandLine (some spaced) = config ∧
      BootConfig.ofCommandLine (some reordered) = config ∧
      Overrides AsksForTests (words second) false true
        (BootConfig.ofCommandLine (some (first ++ " " ++ second))).tests.enabled := by
  intro first spaced reordered second config
  have hspaced : IsSpacedOut spaced.toList (words first) := words_eq_iff.1 (by decide +kernel)
  have horder : AgreeByKey (words reordered) (words first) := by
    unfold AgreeByKey
    decide +kernel
  have hconfig : BootConfig.ofCommandLine (some first) = config := by decide +kernel
  have hbehind : (BootConfig.ofCommandLine (some second)).tests.enabled = true := by decide +kernel
  obtain ⟨hasked, -, ⟨-, hblanks⟩, hkeys, -, htests, -⟩ :=
    settings_are_those_asked_for_last (some first) first second
  rw [hconfig, hbehind] at htests
  exact ⟨hspaced, horder, (hasked config).1 hconfig, (hblanks spaced hspaced).trans hconfig,
    (hkeys reordered horder).trans hconfig, htests⟩

end BoundedFormat
