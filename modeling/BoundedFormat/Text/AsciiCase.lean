/-!
# Names without case

Level names, verbosity names and switches are compared without regard to the case of the letters
`A` to `Z`. Every other character stands for itself: no accented letter has a case here.
-/

namespace BoundedFormat

/-- The text with the letters `A` to `Z` made small. -/
def foldCase (text : String) : List Char := text.toList.map Char.toLower

/-- Are the two texts equal up to the case of ASCII letters? -/
def sameName (a b : String) : Bool := foldCase a == foldCase b

/-- Two texts have the same name exactly when their folded forms agree. -/
theorem sameName_iff {a b : String} : sameName a b = true ↔ foldCase a = foldCase b := by
  simp [sameName]

end BoundedFormat
