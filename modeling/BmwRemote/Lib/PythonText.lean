import BmwRemote.Lib.Binary64
import BmwRemote.Lib.Text

/-! The texts of Python: their white space, and the numbers that `float` reads. -/
namespace BmwRemote.Lib.PythonText

def isSpace (character : Char) : Bool :=
  [0x9, 0xA, 0xB, 0xC, 0xD, 0x1C, 0x1D, 0x1E, 0x1F, 0x20, 0x85, 0xA0, 0x1680, 0x2000, 0x2001,
    0x2002, 0x2003, 0x2004, 0x2005, 0x2006, 0x2007, 0x2008, 0x2009, 0x200A, 0x2028, 0x2029,
    0x202F, 0x205F, 0x3000].contains character.toNat

def strip (text : List Char) : List Char := (text.dropWhile isSpace).rdropWhile isSpace

/-- The zeros of the scripts that have digits of their own, each before its nine others. -/
def zeros : List Nat :=
  [0x30, 0x660, 0x6F0, 0x7C0, 0x966, 0x9E6, 0xA66, 0xAE6, 0xB66, 0xBE6, 0xC66, 0xCE6, 0xD66,
    0xDE6, 0xE50, 0xED0, 0xF20, 0x1040, 0x1090, 0x17E0, 0x1810, 0x1946, 0x19D0, 0x1A80, 0x1A90,
    0x1B50, 0x1BB0, 0x1C40, 0x1C50, 0xA620, 0xA8D0, 0xA900, 0xA9D0, 0xA9F0, 0xAA50, 0xABF0,
    0xFF10, 0x104A0, 0x10D30, 0x11066, 0x110F0, 0x11136, 0x111D0, 0x112F0, 0x11450, 0x114D0,
    0x11650, 0x116C0, 0x11730, 0x118E0, 0x11950, 0x11C50, 0x11D50, 0x11DA0, 0x16A60, 0x16AC0,
    0x16B50, 0x1D7CE, 0x1D7D8, 0x1D7E2, 0x1D7EC, 0x1D7F6, 0x1E140, 0x1E2F0, 0x1E950, 0x1FBF0]

/-- The character that `float` takes another for: digits of all scripts are digits, and what is
neither ASCII nor a digit has no place in a number. -/
def toAscii (character : Char) : UInt8 :=
  if character.toNat < 128 then character.toUInt8
  else
    let code := character.toNat
    match zeros.find? fun first => decide (first ≤ code ∧ code < first + 10) with
    | some first => UInt8.ofNat (0x30 + (code - first))
    | none => 0x3F

def underscore : UInt8 := 0x5F

/-- The text without its underscores, each of which must stand between two digits. -/
def withoutUnderscores : Option UInt8 → Text → Option Text
  | _, [] => some []
  | previous, character :: rest =>
    if character = underscore then
      if previous.any (Text.isDigit 10) && (rest.head?.any (Text.isDigit 10)) then
        withoutUnderscores (some character) rest
      else none
    else (withoutUnderscores (some character) rest).map (character :: ·)

def signed : Text → Bool × Text
  | 0x2D :: rest => (true, rest)
  | 0x2B :: rest => (false, rest)
  | text => (false, text)

def lower (character : UInt8) : UInt8 :=
  if 0x41 ≤ character ∧ character ≤ 0x5A then character + 0x20 else character

def exponent : Text → Option ℤ
  | [] => some 0
  | _ :: text =>
    let (negative, digits) := signed text
    (Text.number 10 digits).map fun value => if negative then -value else value

def mantissa (text : Text) : Option (Nat × Nat) :=
  let whole := text.takeWhile (Text.isDigit 10)
  match text.drop whole.length with
  | [] => (Text.number 10 whole).map fun value => (value, 0)
  | point :: fraction =>
    if point = 0x2E then
      (Text.number 10 (whole ++ fraction)).map fun value => (value, fraction.length)
    else none

def decimal (text : Text) : Option ℚ := do
  let digits := text.takeWhile fun character => lower character ≠ 0x65
  let (value, places) ← mantissa digits
  let power ← exponent (text.drop digits.length)
  return value * (10 : ℚ) ^ (power - places)

/-- `float`, for a text without white space at its ends: `none` is a `ValueError`. -/
def float (text : List Char) : Option FloatValue := do
  let plain ← withoutUnderscores none (text.map toAscii)
  let (negative, unsigned) := signed plain
  let word := unsigned.map lower
  if word = Text.ascii "inf" ∨ word = Text.ascii "infinity" then
    return .infinite negative
  else if word = Text.ascii "nan" then
    return .nan
  else
    let value ← decimal unsigned
    return .ofRat (if negative then -value else value)

end BmwRemote.Lib.PythonText
