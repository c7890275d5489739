/-!
# Byte strings

Templates, text arguments and output are byte strings, with no promise of an encoding. The bytes
that the template grammar and the field layout speak of are named in `Ascii`; a byte that has to
appear in a message stands for the code point of the same number (`charOfByte`).
-/

namespace BoundedFormat

/-- A byte string. -/
abbrev Bytes := List UInt8

/-- The UTF-8 encoding of a text. -/
def utf8 (text : String) : Bytes := text.toUTF8.data.toList

/-- The character whose code point is the value of the byte. -/
def charOfByte (b : UInt8) : Char := Char.ofNat b.toNat

/-! ## Named bytes -/

namespace Ascii

/-- The byte that ends a text, `0x00`. -/
def nul : UInt8 := 0x00
/-- The line feed. -/
def newline : UInt8 := 0x0a
/-- The space. -/
def space : UInt8 := 0x20
/-- The percent sign, which opens a directive. -/
def percent : UInt8 := 0x25
/-- The asterisk, which takes a width or a precision from the arguments. -/
def star : UInt8 := 0x2a
/-- The plus sign. -/
def plus : UInt8 := 0x2b
/-- The hyphen, also the minus sign. -/
def minus : UInt8 := 0x2d
/-- The full stop, which opens a precision and a fraction. -/
def point : UInt8 := 0x2e
/-- The digit zero. -/
def zero : UInt8 := 0x30
/-- The letter `l`, the length modifier. -/
def letterL : UInt8 := 0x6c
/-- The letter `x`, the second byte of a hexadecimal prefix. -/
def letterX : UInt8 := 0x78

/-- Is the byte a decimal digit? -/
def isDigit (b : UInt8) : Bool := 0x30 ≤ b && b ≤ 0x39

/-- The value of a decimal digit. -/
def digitValue (b : UInt8) : Nat := b.toNat - 0x30

end Ascii

end BoundedFormat
