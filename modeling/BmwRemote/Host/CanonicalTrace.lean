import BmwRemote.Host.CanTraceCsv
import BmwRemote.Lib.Raising
import BmwRemote.Lib.Utf8
import Mathlib.Data.List.DropRight

/-! The host tools' own reader and writer of canonical traces. A text of theirs is a list of
characters, and an error that ends a reading is the message of the exception. -/
namespace BmwRemote.Host.CanonicalTrace

open BmwRemote.Infrastructure BmwRemote.Lib

def header : List Char := "timestamp_ms,identifier,extended,dlc,data_hex".toList

def uint32Maximum : Nat := 0xFFFFFFFF
def standardIdentifierMaximum : Nat := 0x7FF
def extendedIdentifierMaximum : Nat := 0x1FFFFFFF

structure CanonicalFrame where
  timestampMs : Nat
  identifier : Nat
  extended : Bool
  data : List UInt8
  deriving DecidableEq, Repr

namespace CanonicalFrame

def maximumIdentifier (frame : CanonicalFrame) : Nat :=
  if frame.extended then extendedIdentifierMaximum else standardIdentifierMaximum

def toCanFrame (frame : CanonicalFrame) : CanFrame where
  timestampUs := UInt64.ofNat (frame.timestampMs * 1000)
  identifier := UInt32.ofNat frame.identifier
  dataLength := UInt8.ofNat frame.data.length
  extended := frame.extended
  data := Vector.ofFn fun index => frame.data.getD index 0

end CanonicalFrame

/-! Strings. -/

def isDigit (character : Char) : Bool := character.isDigit

def isHexDigit (character : Char) : Bool :=
  character.isDigit || (decide ('a' ≤ character) && decide (character ≤ 'f')) ||
    (decide ('A' ≤ character) && decide (character ≤ 'F'))

/-- The digits that `int` takes of a number in base 10 before it refuses it. -/
def maximumStrDigits : Nat := 4300

def int (base : Nat) (text : List Char) : Nat :=
  text.foldl (fun value character =>
    value * base + ((Text.digit base character.toUInt8).getD 0)) 0

/-- `str.lower`, where it is compared with `0x`: no other character has these two as its
lower case. -/
def lower (text : List Char) : List Char := text.map Char.toLower

def isLineEnd (character : Char) : Bool := character == '\r' || character == '\n'

def rstrip (line : List Char) : List Char := line.rdropWhile isLineEnd

def byteOrderMark : Char := '\uFEFF'

def removeByteOrderMark (line : List Char) : List Char :=
  if line.head? = some byteOrderMark then line.tail else line

/-- The lines of a text that is opened with `newline=""`, with what ends them. -/
def rawLines : List Char → List (List Char)
  | [] => []
  | '\r' :: '\n' :: rest => ['\r', '\n'] :: rawLines rest
  | '\r' :: rest => ['\r'] :: rawLines rest
  | '\n' :: rest => ['\n'] :: rawLines rest
  | character :: rest =>
    match rawLines rest with
    | [] => [[character]]
    | line :: others => (character :: line) :: others

/-! Fields. -/

def parseDecimal (text : List Char) : Except String Nat :=
  if text = [] ∨ text.all isAscii = false ∨ text.all isDigit = false then
    .error "invalid decimal integer"
  else if text.length > maximumStrDigits then
    .error ("Exceeds the limit (" ++ toString maximumStrDigits ++
      " digits) for integer string conversion: value has " ++ toString text.length ++
      " digits; use sys.set_int_max_str_digits() to increase the limit")
  else .ok (int 10 text)

def parseIdentifier (text : List Char) : Except String Nat :=
  if text.length ≤ 2 ∨ lower (text.take 2) ≠ ['0', 'x'] then
    .error "identifier must use hexadecimal 0x notation"
  else if (text.drop 2).all isAscii = false ∨ (text.drop 2).all isHexDigit = false then
    .error "invalid hexadecimal identifier"
  else .ok (int 16 (text.drop 2))

def parseExtended (text : List Char) : Except String Bool :=
  if text = ['1'] ∨ text = "true".toList then .ok true
  else if text = ['0'] ∨ text = "false".toList then .ok false
  else .error "extended must be 0 or 1"

def fromHex : List Char → List UInt8
  | high :: low :: rest => UInt8.ofNat (int 16 [high, low]) :: fromHex rest
  | _ => []

def parseData (text : List Char) (dataLength : Nat) : Except String (List UInt8) :=
  if dataLength > 8 ∨ text.length ≠ dataLength * 2 then
    .error "CAN data length is inconsistent"
  else if text.all isHexDigit = false then .error "CAN data is not hexadecimal"
  else .ok (fromHex text)

/-! Lines. -/

def parseFields (fields : List (List Char)) : Except String CanonicalFrame :=
  match fields with
  | [timestamp, identifier, extended, dataLength, data] => do
    let timestampMs ← parseDecimal timestamp
    let identifier ← parseIdentifier identifier
    let extended ← parseExtended extended
    let dataLength ← parseDecimal dataLength
    let data ← parseData data dataLength
    return { timestampMs, identifier, extended, data }
  | _ => .error "invalid field count"

def parseLine (line : List Char) : Except String CanonicalFrame := do
  let frame ← parseFields (line.splitOn ',')
  if frame.timestampMs > uint32Maximum then .error "timestamp is outside uint32 range"
  else if frame.identifier > frame.maximumIdentifier then
    .error "CAN identifier is outside its declared range"
  else return frame

def parseLines (maximumFrames : Int) (lineNumber : Nat) (frames : List CanonicalFrame) :
    List (List Char) → Except String (List CanonicalFrame)
  | [] => .ok frames
  | rawLine :: rest =>
    let line := rstrip rawLine
    if line = [] then parseLines maximumFrames (lineNumber + 1) frames rest
    else if maximumFrames ≤ frames.length then
      .error (CanTraceCsv.lineError lineNumber "maximum frame count exceeded")
    else
      match parseLine line with
      | .error message => .error (CanTraceCsv.lineError lineNumber message)
      | .ok frame =>
        match frames.getLast? with
        | none =>
          if frame.timestampMs ≠ 0 then
            .error (CanTraceCsv.lineError lineNumber "first timestamp must be zero")
          else parseLines maximumFrames (lineNumber + 1) (frames ++ [frame]) rest
        | some last =>
          if frame.timestampMs < last.timestampMs then
            .error (CanTraceCsv.lineError lineNumber "timestamps must be monotonic")
          else parseLines maximumFrames (lineNumber + 1) (frames ++ [frame]) rest

def parseCanonicalTrace (source : List Char) (maximumFrames : Int) :
    Except String (List CanonicalFrame) :=
  if maximumFrames ≤ 0 then .error "maximum frame count must be greater than zero"
  else
    match rawLines source with
    | [] => .error "trace is empty"
    | first :: rest =>
      if removeByteOrderMark (rstrip first) ≠ header then .error "line 1: invalid header"
      else
        match parseLines maximumFrames 2 [] rest with
        | .error message => .error message
        | .ok [] => .error "trace contains no CAN frames"
        | .ok frames => .ok frames

/-! Writing. -/

def upperDigit (digit : Nat) : Char :=
  Char.ofNat (if digit < 10 then 48 + digit else 55 + digit)

def toHex (data : List UInt8) : List Char :=
  data.flatMap fun byte => [upperDigit (byte.toNat / 16), upperDigit (byte.toNat % 16)]

def upperHex (value : Nat) : List Char := (Nat.toDigits 16 value).map Char.toUpper

def row (fields : List (List Char)) : List Char := [','].intercalate fields ++ ['\n']

def frameFields (frame : CanonicalFrame) : List (List Char) :=
  [Nat.toDigits 10 frame.timestampMs, ['0', 'x'] ++ upperHex frame.identifier,
    [if frame.extended then '1' else '0'], Nat.toDigits 10 frame.data.length, toHex frame.data]

def writeCanonicalCsv (frames : List CanonicalFrame) : List Char :=
  row (header.splitOn ',') ++ frames.flatMap fun frame => row (frameFields frame)

end BmwRemote.Host.CanonicalTrace
