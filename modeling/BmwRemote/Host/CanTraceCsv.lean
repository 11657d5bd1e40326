import BmwRemote.Infrastructure.CanFrame
import BmwRemote.Lib.Text

/-! The reader of canonical CAN traces. Its stores into the data of a frame carry no
check of their own: a store outside the array ends the run here, since the source says
nothing of what happens then. -/
namespace BmwRemote.Host

open BmwRemote.Infrastructure BmwRemote.Lib

namespace CanTraceCsv

/-- A store at an index that the array does not have. -/
structure OutOfBounds where
  index : Nat
  deriving DecidableEq

def header : Text := .ascii "timestamp_ms,identifier,extended,dlc,data_hex"

def byteOrderMark : Text := [0xEF, 0xBB, 0xBF]

def lineError (lineNumber : Nat) (message : String) : String :=
  "line " ++ toString lineNumber ++ ": " ++ message

def comma : UInt8 := 44

def splitFields (line : Text) : Option (Vector Text 5) := do
  let (timestamp, line) ← line.cut comma
  let (identifier, line) ← line.cut comma
  let (extended, line) ← line.cut comma
  let (dataLength, line) ← line.cut comma
  if comma ∈ line then none
  else some #v[timestamp, identifier, extended, dataLength, line]

def parseUnsigned (text : Text) (base : Nat) (maximum : UInt64) : Option UInt64 :=
  if text = [] then none
  else
    match Text.fromChars base text with
    | (some parsed, rest) => if rest ≠ [] ∨ parsed > maximum then none else some parsed
    | (none, _) => none

def parseIdentifier (text : Text) : Option UInt32 :=
  match text with
  | zero :: mark :: rest =>
    if rest = [] ∨ zero ≠ 48 ∨ (mark ≠ 120 ∧ mark ≠ 88) then none
    else (parseUnsigned rest 16 0xFFFFFFFF).map UInt64.toUInt32
  | _ => none

def parseBoolean (text : Text) : Option Bool :=
  if text = .ascii "1" ∨ text = .ascii "true" then some true
  else if text = .ascii "0" ∨ text = .ascii "false" then some false
  else none

def hexNibble (character : UInt8) : Option UInt8 :=
  if 48 ≤ character ∧ character ≤ 57 then some (character - 48)
  else if 97 ≤ character ∧ character ≤ 102 then some (character - 97 + 10)
  else if 65 ≤ character ∧ character ≤ 70 then some (character - 65 + 10)
  else none

def storeByte (frame : CanFrame) (index : Nat) (value : UInt8) : Except OutOfBounds CanFrame :=
  if h : index < 8 then .ok { frame with data := frame.data.set index value } else .error ⟨index⟩

def storeBytes (index : Nat) (frame : CanFrame) : Text → Except OutOfBounds (Option CanFrame)
  | high :: low :: rest =>
    match hexNibble high, hexNibble low with
    | some high, some low => do
      let frame ← storeByte frame index ((high <<< 4) ||| low)
      storeBytes (index + 1) frame rest
    | _, _ => .ok none
  | _ => .ok (some frame)

def parseData (text : Text) (dataLength : UInt8) (frame : CanFrame) :
    Except OutOfBounds (Option CanFrame) :=
  if text.length ≠ dataLength.toNat * 2 then .ok none else storeBytes 0 frame text

/-- The fields before the data, none if one of them is not a value of its type. -/
def parsePrefix (fields : Vector Text 5) : Option CanFrame := do
  let timestampMs ← parseUnsigned fields[0] 10 0xFFFFFFFF
  let identifier ← parseIdentifier fields[1]
  let extended ← parseBoolean fields[2]
  let dataLength ← parseUnsigned fields[3] 10 0xFF
  some {
    timestampUs := timestampMs * 1000
    identifier := identifier
    dataLength := dataLength.toUInt8
    extended := extended }

def parseFrame (fields : Vector Text 5) : Except OutOfBounds (Option CanFrame) :=
  match parsePrefix fields with
  | none => .ok none
  | some frame => do
    let parsed ← parseData fields[4] frame.dataLength frame
    return parsed.filter CanFrame.isValid

def stripCarriageReturn (line : Text) : Text :=
  if line.getLast? = some Text.carriageReturn then line.dropLast else line

/-! The fields, of which the last two say how much a line stores, and what. -/

def timestampField (fields : Vector Text 5) : Text := fields[0]

def identifierField (fields : Vector Text 5) : Text := fields[1]

def extendedField (fields : Vector Text 5) : Text := fields[2]

def lengthField (fields : Vector Text 5) : Text := fields[3]

def dataField (fields : Vector Text 5) : Text := fields[4]

/-- The answer of the reader and what it leaves to its caller. -/
structure Answer where
  succeeded : Bool
  frames : List CanFrame
  error : String
  deriving DecidableEq

def parseLine (line : Text) : Except OutOfBounds (Option CanFrame) :=
  match splitFields line with
  | none => .ok none
  | some fields => parseFrame fields

/-- The loop over the lines behind the header, with the number of the next line: the
frames, or the error that ends it. -/
def parseLines (maximumFrames : Nat) (lineNumber : Nat) (parsedFrames : List CanFrame) :
    List Text → Except OutOfBounds (Except String (List CanFrame))
  | [] => .ok (.ok parsedFrames)
  | line :: rest =>
    let line := stripCarriageReturn line
    if line = [] then parseLines maximumFrames (lineNumber + 1) parsedFrames rest
    else if parsedFrames.length ≥ maximumFrames then
      .ok (.error (lineError lineNumber "maximum frame count exceeded"))
    else do
      match ← parseLine line with
      | none => return .error (lineError lineNumber "invalid CAN frame")
      | some frame =>
        match parsedFrames.getLast? with
        | none =>
          if frame.timestampUs ≠ 0 then
            return .error (lineError lineNumber "first timestamp must be zero")
          else parseLines maximumFrames (lineNumber + 1) (parsedFrames ++ [frame]) rest
        | some last =>
          if frame.timestampUs < last.timestampUs then
            return .error (lineError lineNumber "timestamps must be monotonic")
          else parseLines maximumFrames (lineNumber + 1) (parsedFrames ++ [frame]) rest

def isHeader (line : Text) : Bool :=
  let line := stripCarriageReturn line
  line == header || line == byteOrderMark ++ header

def parseCanonicalCanTrace (text : Text) (frames : List CanFrame) (maximumFrames : Nat) :
    Except OutOfBounds Answer :=
  if maximumFrames = 0 then
    .ok ⟨false, frames, "maximum frame count must be greater than zero"⟩
  else
    match text.lines with
    | [] => .ok ⟨false, frames, "trace is empty"⟩
    | first :: rest =>
      if !isHeader first then .ok ⟨false, frames, lineError 1 "invalid header"⟩
      else do
        match ← parseLines maximumFrames 2 [] rest with
        | .error message => return ⟨false, frames, message⟩
        | .ok [] => return ⟨false, frames, "trace contains no CAN frames"⟩
        | .ok parsedFrames => return ⟨true, parsedFrames, ""⟩

end CanTraceCsv

end BmwRemote.Host
