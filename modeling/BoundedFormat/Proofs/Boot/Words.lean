import BoundedFormat.Text.Blank

/-!
# The words of a line

A line has the words that it is spaced out from, however many blanks of whatever kind stand around
and between them: `words_eq_iff` says so without splitting anything. All of it follows from what
`words` does at one blank (`words_append_cons`).
-/

namespace BoundedFormat

/-- The text is a word: there is something in it, and nothing of it is blank. -/
structure IsWord (text : List Char) : Prop where
  ne_nil : text ≠ []
  not_blank : ∀ c ∈ text, isBlank c = false

/-- The line is made of the words in the row, in order, with any blanks around them and at least one
between each and the next. -/
inductive IsSpacedOut : (line : List Char) → (row : List String) → Prop where
  /-- There is nothing. -/
  | nil : IsSpacedOut [] []
  /-- A blank stands in front. -/
  | blank {c : Char} {line : List Char} {row : List String} (hc : isBlank c = true)
      (h : IsSpacedOut line row) : IsSpacedOut (c :: line) row
  /-- A word stands in front, set apart by a blank. -/
  | word {word : String} {c : Char} {line : List Char} {row : List String}
      (hword : IsWord word.toList) (hc : isBlank c = true) (h : IsSpacedOut line row) :
      IsSpacedOut (word.toList ++ c :: line) (word :: row)
  /-- The line ends with a word. -/
  | last {word : String} (hword : IsWord word.toList) : IsSpacedOut word.toList [word]

/-- At a blank the words of a line are those in front of it and those behind it. -/
theorem words_append_cons (front line : List Char) {c : Char} (hc : isBlank c = true) :
    words (.ofList (front ++ c :: line)) = words (.ofList front) ++ words (.ofList line) := by
  rw [words, words, words, String.toList_ofList, String.toList_ofList, String.toList_ofList,
    List.splitOnP_append_cons front line hc, List.filter_append, List.map_append]

/-- Characters that are not blank make a word. -/
theorem isWord_ofList {text : List Char} (hne : text ≠ [])
    (hblank : ∀ c ∈ text, isBlank c = false) : IsWord (String.ofList text).toList := by
  rw [String.toList_ofList]
  exact ⟨hne, hblank⟩

/-- A word is its own only word. -/
theorem IsWord.words_eq {word : String} (h : IsWord word.toList) : words word = [word] := by
  have hne : word.toList.isEmpty = false := List.isEmpty_eq_false_iff.2 h.ne_nil
  rw [words, List.splitOnP_eq_singleton h.not_blank, List.filter_cons_of_pos (by rw [hne]; rfl),
    List.filter_nil, List.map_singleton, String.ofList_toList]

/-- A line that is spaced out from words has these words. -/
theorem IsSpacedOut.words_eq {line : List Char} {row : List String} (h : IsSpacedOut line row) :
    words (.ofList line) = row := by
  induction h with
  | nil => rfl
  | @blank c line row hc h ih =>
    rw [← List.nil_append (c :: line), words_append_cons [] line hc, ih]
    rfl
  | @word word c line row hword hc h ih =>
    rw [words_append_cons _ line hc, ih, String.ofList_toList, hword.words_eq]
    rfl
  | last hword => rw [String.ofList_toList, hword.words_eq]

/-- A line is spaced out from its words. The induction reads it character by character, `front` is
what has been read of a word. -/
theorem isSpacedOut_words_append (front line : List Char) (hfront : ∀ c ∈ front, isBlank c = false) :
    IsSpacedOut (front ++ line) (words (.ofList (front ++ line))) := by
  induction line generalizing front with
  | nil =>
    rw [List.append_nil]
    by_cases hne : front = []
    · subst hne
      exact .nil
    · have hword := isWord_ofList hne hfront
      have hlast := IsSpacedOut.last hword
      rwa [String.toList_ofList, ← hword.words_eq] at hlast
  | cons c rest ih =>
    by_cases hc : isBlank c = true
    · have hrest : IsSpacedOut rest (words (.ofList rest)) :=
        ih [] fun _ hmem => absurd hmem List.not_mem_nil
      rw [words_append_cons front rest hc]
      by_cases hne : front = []
      · subst hne
        exact .blank hc hrest
      · have hword := isWord_ofList hne hfront
        have hnext := IsSpacedOut.word hword hc hrest
        rw [String.toList_ofList] at hnext
        rw [hword.words_eq]
        exact hnext
    · have hlonger : ∀ d ∈ front ++ [c], isBlank d = false := by
        intro d hd
        obtain hd | hd := List.mem_append.1 hd
        · exact hfront d hd
        · rw [List.mem_singleton.1 hd]
          exact Bool.eq_false_iff.2 hc
      rw [List.append_cons]
      exact ih (front ++ [c]) hlonger

/-- The words of a line are those that it is spaced out from. -/
theorem words_eq_iff {line : String} {row : List String} :
    words line = row ↔ IsSpacedOut line.toList row := by
  constructor
  · rintro rfl
    have h := isSpacedOut_words_append [] line.toList fun _ hmem => absurd hmem List.not_mem_nil
    rwa [List.nil_append, String.ofList_toList] at h
  · intro h
    rw [← h.words_eq, String.ofList_toList]

/-- Two lines set apart by a space have the words of both. -/
theorem words_append_space_append (first second : String) :
    words (first ++ " " ++ second) = words first ++ words second := by
  have hspace : isBlank ' ' = true := by decide
  have hline : (first ++ " " ++ second).toList = first.toList ++ ' ' :: second.toList := by
    rw [String.toList_append, String.toList_append, List.append_assoc]
    rfl
  have hwords := words_append_cons first.toList second.toList hspace
  rwa [← hline, String.ofList_toList, String.ofList_toList, String.ofList_toList] at hwords

end BoundedFormat
