import BoundedFormat.Text.Concealed

/-!
# Quoted text

A text inside a message stands between double quotes, with the quote, the backslash and whatever
cannot be seen written as escapes, so that two different texts never look alike.
-/

namespace BoundedFormat

/-- The written form of one character: a short escape where there is one, `\u{…}` with the code
point in small hexadecimal digits for a concealed character, else the character itself. -/
def quotedChar (c : Char) : List Char :=
  if c = '\x00' then ['\\', '0']
  else if c = '\t' then ['\\', 't']
  else if c = '\r' then ['\\', 'r']
  else if c = '\n' then ['\\', 'n']
  else if c = '"' then ['\\', '"']
  else if c = '\\' then ['\\', '\\']
  else if isConcealed c then ['\\', 'u', '\x7b'] ++ Nat.toDigits 16 c.toNat ++ ['\x7d']
  else [c]

/-- The text between double quotes, with escapes. -/
def quoted (text : String) : String :=
  String.ofList (['"'] ++ text.toList.flatMap quotedChar ++ ['"'])

end BoundedFormat
