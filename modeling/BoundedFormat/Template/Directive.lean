import BoundedFormat.Template.Flags

/-!
# Directives

A directive says how one argument is written: flags, a minimal width, a precision, the width of the
integer that is read, and the conversion. Nothing here reads an argument; a width or a precision
that comes from the arguments is only recorded as such.
-/

namespace BoundedFormat

/-- The minimal width of a field. -/
inductive Width where
  /-- A number in the template; none written is zero. -/
  | fixed (n : UInt32)
  /-- `*`: the next argument. -/
  | fromArgument
  deriving DecidableEq, Repr

/-- The precision of a field. -/
inductive Precision where
  /-- No point in the directive. -/
  | unspecified
  /-- A number after the point; none written is zero. -/
  | fixed (n : UInt32)
  /-- `.*`: the next argument. -/
  | fromArgument
  deriving DecidableEq, Repr

/-- How wide an integer argument is read. -/
inductive Length where
  /-- No modifier: 32 bits. -/
  | native
  /-- `l`: 64 bits. -/
  | long
  /-- `ll`: 64 bits. -/
  | longLong
  deriving DecidableEq, Repr

/-- What a directive writes. -/
inductive Conversion where
  /-- `d`, `i` -/
  | signedDecimal
  /-- `u` -/
  | unsignedDecimal
  /-- `x` -/
  | hexadecimal
  /-- `s` -/
  | text
  /-- `c` -/
  | character
  /-- `p` -/
  | pointer
  /-- `n`: store the count of bytes written so far. -/
  | writeCount
  /-- `m`: the error number of a hosted system; there is none, so nothing is written. -/
  | errorNumber
  /-- `%%` -/
  | percent
  /-- `f` -/
  | fixedPoint
  /-- Any other byte; the directive is discarded. -/
  | unknown (b : UInt8)
  /-- The template ended inside the directive. -/
  | truncated
  deriving DecidableEq, Repr

namespace Conversion

/-- The conversion that a byte stands for. -/
def ofByte (b : UInt8) : Conversion :=
  if b = 0x64 || b = 0x69 then signedDecimal
  else if b = 0x75 then unsignedDecimal
  else if b = 0x78 then hexadecimal
  else if b = 0x73 then text
  else if b = 0x63 then character
  else if b = 0x70 then pointer
  else if b = 0x6e then writeCount
  else if b = 0x6d then errorNumber
  else if b = Ascii.percent then percent
  else if b = 0x66 then fixedPoint
  else unknown b

/-- The byte that names the conversion in messages: `d` for both spellings of a signed decimal, and
NUL for a directive that the template cut off. -/
def byte : Conversion → UInt8
  | signedDecimal => 0x64
  | unsignedDecimal => 0x75
  | hexadecimal => 0x78
  | text => 0x73
  | character => 0x63
  | pointer => 0x70
  | writeCount => 0x6e
  | errorNumber => 0x6d
  | percent => Ascii.percent
  | fixedPoint => 0x66
  | unknown b => b
  | truncated => Ascii.nul

/-- The letters that spell the conversion. -/
def letters : Conversion → Bytes
  | signedDecimal => utf8 "di"
  | unsignedDecimal => utf8 "u"
  | hexadecimal => utf8 "x"
  | text => utf8 "s"
  | character => utf8 "c"
  | pointer => utf8 "p"
  | writeCount => utf8 "n"
  | errorNumber => utf8 "m"
  | percent => utf8 "%"
  | fixedPoint => utf8 "f"
  | unknown _ | truncated => []

/-- A byte stands for the conversion that it spells. -/
theorem ofByte_of_mem_letters {conversion : Conversion} {b : UInt8}
    (h : b ∈ conversion.letters) : ofByte b = conversion := by
  have hrow : ∀ letter ∈ conversion.letters, ofByte letter = conversion := by
    cases conversion with
    | unknown _ | truncated => exact List.forall_mem_nil _
    | _ => decide +kernel
  exact hrow b h

/-- A byte that spells no conversion stands for itself. -/
theorem ofByte_eq_unknown_iff (b : UInt8) :
    ofByte b = unknown b ↔ ∀ conversion : Conversion, b ∉ conversion.letters := by
  constructor
  · intro h conversion hmem
    obtain rfl : unknown b = conversion := h.symm.trans (ofByte_of_mem_letters hmem)
    exact List.not_mem_nil hmem
  · intro h
    have hall : ∀ n : Fin 256, UInt8.ofFin n ∈ (ofByte (UInt8.ofFin n)).letters ∨
        ofByte (UInt8.ofFin n) = unknown (UInt8.ofFin n) := by
      decide +kernel
    exact (hall b.toFin).resolve_left (h _)

/-- The naming byte of a conversion that was spelled spells the same conversion. -/
theorem ofByte_byte_ofByte (b : UInt8) : ofByte (ofByte b).byte = ofByte b := by
  have : ∀ n : Fin 256, ofByte (ofByte (UInt8.ofFin n)).byte = ofByte (UInt8.ofFin n) := by
    decide +kernel
  exact this b.toFin

end Conversion

/-- A directive, without its percent sign. -/
structure Directive where
  flags : Flags
  width : Width
  precision : Precision
  length : Length
  conversion : Conversion
  deriving DecidableEq, Repr

end BoundedFormat
