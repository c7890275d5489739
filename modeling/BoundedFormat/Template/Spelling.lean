import BoundedFormat.Template.Directive

/-!
# The spelling of a directive

After its percent sign a directive is spelled

    FLAGS* WIDTH? ('.' PRECISION?)? LENGTH? CONVERSION

and each part is read greedily, left to right. A `Spelling` keeps the bytes of every part, so that
`Spelling.text` gives back exactly what was read, and `Spelling.directive` says what it means.
-/

namespace BoundedFormat

/-- How a width or a precision is spelled. -/
inductive Amount where
  /-- `*` -/
  | star
  /-- A run of decimal digits, possibly empty. -/
  | digits (run : Bytes)
  deriving DecidableEq, Repr

namespace Amount

/-- The bytes of the amount. -/
def text : Amount → Bytes
  | star => [Ascii.star]
  | digits run => run

/-- The number a run of decimal digits stands for, kept to 32 bits. -/
def wrappedValue (run : Bytes) : UInt32 :=
  run.foldl (fun n b => n * 10 + UInt32.ofNat (Ascii.digitValue b)) 0

/-- Read a star or the longest run of digits. -/
def read (bytes : Bytes) : Amount × Bytes :=
  match bytes with
  | [] => (digits [], [])
  | b :: rest =>
    if b = Ascii.star then (star, rest)
    else (digits (bytes.takeWhile Ascii.isDigit), bytes.dropWhile Ascii.isDigit)

/-- The amount read and the rest are the bytes there were. -/
theorem text_read (bytes : Bytes) : (read bytes).1.text ++ (read bytes).2 = bytes := by
  unfold read
  split
  · rfl
  · split
    · next h => simp [text, h]
    · simp [text, List.takeWhile_append_dropWhile]

/-- The width that the amount asks for. -/
def width : Amount → Width
  | star => .fromArgument
  | digits run => .fixed (wrappedValue run)

/-- The precision that the amount asks for. -/
def precision : Amount → Precision
  | star => .fromArgument
  | digits run => .fixed (wrappedValue run)

end Amount

namespace Length

/-- The bytes of the modifier. -/
def text : Length → Bytes
  | native => []
  | long => [Ascii.letterL]
  | longLong => [Ascii.letterL, Ascii.letterL]

/-- Read the longest modifier. -/
def read (bytes : Bytes) : Length × Bytes :=
  match bytes with
  | [] => (native, [])
  | [a] => if a = Ascii.letterL then (long, []) else (native, bytes)
  | a :: b :: rest =>
    if a = Ascii.letterL then
      if b = Ascii.letterL then (longLong, rest) else (long, b :: rest)
    else (native, bytes)

/-- The modifier read and the rest are the bytes there were. -/
theorem text_read (bytes : Bytes) : (read bytes).1.text ++ (read bytes).2 = bytes := by
  unfold read
  repeat' split
  all_goals simp_all [text]

end Length

/-- The parts of a directive as they are spelled. -/
structure Spelling where
  /-- The run of flag bytes. -/
  flags : Bytes
  /-- The width; no digit is the empty run. -/
  width : Amount
  /-- What follows the point, if there is one. -/
  precision : Option Amount
  /-- The length modifier. -/
  length : Length
  /-- The conversion byte, unless the template ended before it. -/
  letter : Option UInt8
  deriving DecidableEq, Repr

namespace Spelling

/-- The bytes of a precision, its point included. -/
def precisionText : Option Amount → Bytes
  | none => []
  | some amount => Ascii.point :: amount.text

/-- Read a point and the amount behind it, if the point is there. -/
def readPrecision (bytes : Bytes) : Option Amount × Bytes :=
  match bytes with
  | [] => (none, [])
  | b :: rest =>
    if b = Ascii.point then
      let (amount, rest) := Amount.read rest
      (some amount, rest)
    else (none, bytes)

/-- The precision read and the rest are the bytes there were. -/
theorem text_readPrecision (bytes : Bytes) :
    precisionText (readPrecision bytes).1 ++ (readPrecision bytes).2 = bytes := by
  unfold readPrecision
  split
  · rfl
  · split
    · next h => simp [precisionText, Amount.text_read, h]
    · rfl

/-- Read one directive, after its percent sign; what is left over is the second part. -/
def read (bytes : Bytes) : Spelling × Bytes :=
  let flags := bytes.takeWhile Flags.isFlag
  let (width, rest) := Amount.read (bytes.dropWhile Flags.isFlag)
  let (precision, rest) := readPrecision rest
  let (length, rest) := Length.read rest
  ({ flags, width, precision, length, letter := rest.head? }, rest.tail)

/-- The bytes of the spelling. -/
def text (s : Spelling) : Bytes :=
  s.flags ++ s.width.text ++ precisionText s.precision ++ s.length.text ++ s.letter.toList

/-- Reading loses no byte: the spelling and the rest are the bytes there were. -/
theorem text_read (bytes : Bytes) : (read bytes).1.text ++ (read bytes).2 = bytes := by
  have hletter : ∀ rest : Bytes, rest.head?.toList ++ rest.tail = rest := by
    intro rest
    cases rest <;> rfl
  simp only [read, text, List.append_assoc, hletter, Length.text_read, text_readPrecision,
    Amount.text_read, List.takeWhile_append_dropWhile]

/-- Reading leaves no more than there was. -/
theorem length_read_le (bytes : Bytes) : (read bytes).2.length ≤ bytes.length := by
  have := congrArg List.length (text_read bytes)
  simp only [List.length_append] at this
  omega

/-- What the spelling means. -/
def directive (s : Spelling) : Directive where
  flags := Flags.ofBytes s.flags
  width := s.width.width
  precision := s.precision.elim .unspecified Amount.precision
  length := s.length
  conversion := s.letter.elim .truncated Conversion.ofByte

end Spelling

/-- The directive spelled in a byte string from a position on, and the position behind it. -/
def directiveAt (bytes : Bytes) (position : Nat) : Directive × Nat :=
  let spelling := (Spelling.read (bytes.drop position)).1
  (spelling.directive, position + spelling.text.length)

end BoundedFormat
