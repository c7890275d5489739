import BoundedFormat.Numeral.FixedPoint
import BoundedFormat.Output.Emission
import BoundedFormat.Plan.Reading
import BoundedFormat.Text.NulTerminated

/-!
# What a conversion does

Once its width and precision are known, a conversion and its argument determine one effect: bytes to
write, a counter to store into, or nothing. Effects do not depend on the buffer, on its capacity or
on what was written before.
-/

namespace BoundedFormat

/-- What one segment of a template does. -/
inductive Effect where
  | write (emission : Emission)
  /-- Store the count of bytes offered so far into the counter of this number. -/
  | storeCount (index : Nat)
  | nothing
  deriving DecidableEq, Repr

/-- The bytes that the effect adds to the output. -/
def Effect.bytes : Effect → Bytes
  | write emission => emission.bytes
  | storeCount _ => []
  | nothing => []

/-- Where a value goes in its field, with every star resolved. -/
structure Placement where
  flags : Flags
  width : Nat
  /-- The precision, if one was given. -/
  precision : Option Nat
  deriving DecidableEq, Repr

/-- The sign of a signed number: minus when it is negative, else what the flags ask for. -/
def signByte? (negative : Bool) (flags : Flags) : Option UInt8 :=
  if negative then some Ascii.minus
  else if flags.forceSign then some Ascii.plus
  else if flags.spaceSign then some Ascii.space
  else none

/-- Scratch cells for the digits of an integer, with a prefix. -/
def integerScratch : Nat := 32

/-- Scratch cells for a fixed-point number: twenty integer digits, the point and `maxPlaces`
fraction digits fit. -/
def fixedPointScratch : Nat := 64

/-- The places of a fixed-point number when no precision is given. -/
def defaultPlaces : Nat := 6

/-- What is written for the address zero. -/
def nilText : Bytes := utf8 "(nil)"

/-- The digits of an integer, written in the arithmetic of its width. -/
def integerDigits (length : Length) (radix : Radix) (n : UInt64) : Bytes :=
  let run := DigitRun.ofCapacity integerScratch
  match length with
  | .native => (run.writeWord32 radix n.toUInt32).digits
  | .long | .longLong => (run.writeWord64 radix n).digits

namespace Placement

/-- A numeric field at this place. -/
def field (place : Placement) (sign : Option UInt8) (isZero : Bool) : Field where
  flags := place.flags
  width := place.width
  precision := place.precision.getD 0
  precisionGiven := place.precision.isSome
  sign := sign
  isZero := isZero

/-- A signed decimal. -/
def signedDecimal (place : Placement) (length : Length) (n : Int64) : Emission :=
  let magnitude := UInt64.ofNat n.toInt.natAbs
  .field (place.field (signByte? (n < 0) place.flags) (magnitude == 0))
    (integerDigits length .decimal magnitude)

/-- An unsigned number; it has no sign. -/
def unsigned (place : Placement) (length : Length) (radix : Radix) (n : UInt64) : Emission :=
  .field (place.field none (n == 0)) (integerDigits length radix n)

/-- The text up to its end or to the precision. -/
def text (place : Placement) (bytes : Bytes) : Emission :=
  .padded place.flags place.width (boundedText bytes place.precision)

/-- The low byte of an integer. -/
def character (place : Placement) (bits : UInt64) : Emission :=
  .padded place.flags place.width [bits.toUInt8]

/-- An address in hexadecimal behind `0x`, padded with spaces only. -/
def pointer (place : Placement) (address : UInt64) : Emission :=
  if address = 0 then .padded place.flags place.width nilText
  else
    -- Pushed behind the digits, `x` and `0` read as the front of the number.
    let run := ((DigitRun.ofCapacity integerScratch).writeWord64 .hexadecimal address).pushAll
      [Ascii.letterX, Ascii.zero]
    let place := { place with flags := { place.flags with zeroPad := false }, precision := none }
    .field (place.field none false) run.digits

/-- A fixed-point number. The digits carry the places that the precision asks for, so the field
itself has no precision; negative zero and not-a-number have no minus sign. -/
def fixedPoint (place : Placement) (x : Float) : Emission :=
  let negative : Bool := x < 0
  let run := (DigitRun.ofCapacity fixedPointScratch).writeFloat (if negative then -x else x)
    (place.precision.getD defaultPlaces)
  .field ({ place with precision := none }.field (signByte? negative place.flags) false) run.digits

end Placement

namespace Conversion

/-- What the conversion makes of its argument, `none` for an argument that it cannot take. A
conversion that takes no argument makes nothing of one. -/
def effect? (conversion : Conversion) (place : Placement) (length : Length)
    (argument : Argument) : Option Effect :=
  match conversion with
  | signedDecimal =>
    (argument.signed? length).map fun n => .write (place.signedDecimal length n)
  | unsignedDecimal =>
    (argument.unsigned? length).map fun n => .write (place.unsigned length .decimal n)
  | hexadecimal =>
    (argument.unsigned? length).map fun n => .write (place.unsigned length .hexadecimal n)
  | text => argument.text?.map fun bytes => .write (place.text bytes)
  | character => argument.integerBits?.map fun bits => .write (place.character bits)
  | pointer => argument.address?.map fun address => .write (place.pointer address)
  | writeCount => argument.counter?.map .storeCount
  | fixedPoint => argument.float?.map fun x => .write (place.fixedPoint x)
  | errorNumber | percent | unknown _ | truncated => none

/-- What a conversion does that takes no argument; `none` for one that takes an argument. -/
def constantEffect? : Conversion → Option Effect
  | errorNumber | unknown _ | truncated => some .nothing
  | percent => some (.write (.byte Ascii.percent))
  | _ => none

/-- Read what the conversion needs and say what it does. -/
def resolve (conversion : Conversion) (place : Placement) (length : Length)
    (arguments : ArgumentCursor) : Reading Effect :=
  match conversion.constantEffect? with
  | none => readValue conversion.byte .nothing (conversion.effect? place length) arguments
  | some effect =>
    match conversion with
    | unknown b => ⟨effect, arguments, [.unknownConversion b]⟩
    | _ => ⟨effect, arguments, []⟩

end Conversion

end BoundedFormat
