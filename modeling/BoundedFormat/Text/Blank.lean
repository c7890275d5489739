/-!
# Blanks and words

The characters with the Unicode property `White_Space` separate the words of a command line. There
are twenty-five of them; a character that only looks blank, such as U+200B or the information
separators U+001C to U+001F, is part of a word.
-/

namespace BoundedFormat

/-- Has the character the property `White_Space`? -/
def isBlank (c : Char) : Bool :=
  let n := c.toNat
  (0x09 ≤ n && n ≤ 0x0d) || n == 0x20 || n == 0x85 || n == 0xa0 || n == 0x1680 ||
    (0x2000 ≤ n && n ≤ 0x200a) || n == 0x2028 || n == 0x2029 || n == 0x202f || n == 0x205f ||
    n == 0x3000

/-- The words of a text: its maximal runs of characters that are not blank, in order. -/
def words (text : String) : List String :=
  ((text.toList.splitOnP isBlank).filter (!·.isEmpty)).map String.ofList

example : words " a\u00a0b\u200bc\n" = ["a", "b\u200bc"] := by cbv

end BoundedFormat
