import BmwRemote.Host.CanTraceCsv
import BmwRemote.Lib.Sequence
import Mathlib.Data.List.Forall2

/-! Where the trace reader stores. The loop that stores runs over the length that the
line announces; the check of that length comes after it. -/
namespace BmwRemote.Host.CanTraceCsv

open BmwRemote.Infrastructure BmwRemote.Lib

def isHex (character : UInt8) : Bool := (hexNibble character).isSome

/-! The loop over the data of one line. -/

theorem storeByte_inBounds (frame : CanFrame) {index : Nat} (h : index < 8) (value : UInt8) :
    ∃ stored, storeByte frame index value = .ok stored :=
  ⟨_, dif_pos h⟩

theorem exists_pair {text : Text} (h : 2 ≤ text.length) :
    ∃ high low, ∃ rest : List UInt8, text = high :: low :: rest ∧ text.length = rest.length + 2 := by
  match text with
  | [] => simp at h
  | [_] => simp at h
  | high :: low :: rest => exact ⟨high, low, rest, rfl, rfl⟩

theorem storeBytes_of_not_hex (index : Nat) (frame : CanFrame) {high low : UInt8}
    (rest : List UInt8) (h : (isHex high && isHex low) = false) :
    storeBytes index frame (high :: low :: rest) = .ok none := by
  rw [storeBytes]
  unfold isHex at h
  split
  · simp_all
  · rfl

theorem storeBytes_of_hex (index : Nat) (frame : CanFrame) {high low : UInt8}
    (rest : List UInt8) (h : (isHex high && isHex low) = true) :
    ∃ value, storeBytes index frame (high :: low :: rest) =
      storeByte frame index value >>= fun stored => storeBytes (index + 1) stored rest := by
  unfold isHex at h
  rw [Bool.and_eq_true, Option.isSome_iff_exists, Option.isSome_iff_exists] at h
  obtain ⟨⟨first, hfirst⟩, second, hsecond⟩ := h
  refine ⟨(first <<< 4) ||| second, ?_⟩
  rw [storeBytes, hfirst, hsecond]

theorem storeBytes_inBounds (count : Nat) {index : Nat} (hindex : index + count ≤ 8)
    (frame : CanFrame) {text : Text} (hlength : text.length = 2 * count) :
    ∃ parsed, storeBytes index frame text = .ok parsed := by
  induction count generalizing index frame text with
  | zero =>
    rw [List.length_eq_zero_iff.1 hlength]
    exact ⟨some frame, rfl⟩
  | succ count ih =>
    obtain ⟨high, low, rest, rfl, hrest⟩ := exists_pair (by omega : 2 ≤ text.length)
    cases hhex : isHex high && isHex low with
    | false => exact ⟨none, storeBytes_of_not_hex index frame rest hhex⟩
    | true =>
      obtain ⟨value, hstep⟩ := storeBytes_of_hex index frame rest hhex
      obtain ⟨stored, hstored⟩ := storeByte_inBounds frame (by omega : index < 8) value
      rw [hstep, hstored]
      exact ih (by omega) stored (by omega)

/-- With more pairs than the array has bytes left, the loop stores behind the array,
unless a character before stops it. -/
theorem storeBytes_overflow (left : Nat) {index : Nat} (hindex : index + left = 8)
    (frame : CanFrame) {text : Text} (hlength : 2 * (left + 1) ≤ text.length) :
    storeBytes index frame text =
      if (text.take (2 * (left + 1))).all isHex then .error ⟨8⟩ else .ok none := by
  induction left generalizing index frame text with
  | zero =>
    obtain ⟨high, low, rest, rfl, -⟩ := exists_pair hlength
    have hindex : index = 8 := hindex
    subst hindex
    have hall : ((high :: low :: rest).take 2).all isHex = (isHex high && isHex low) := by simp
    rw [hall]
    cases hhex : isHex high && isHex low with
    | false => exact storeBytes_of_not_hex 8 frame rest hhex
    | true =>
      obtain ⟨value, hstep⟩ := storeBytes_of_hex 8 frame rest hhex
      rw [hstep]
      rfl
  | succ left ih =>
    obtain ⟨high, low, rest, rfl, hrest⟩ := exists_pair (by omega : 2 ≤ text.length)
    have hall : ((high :: low :: rest).take (2 * (left + 1 + 1))).all isHex =
        (isHex high && isHex low && (rest.take (2 * (left + 1))).all isHex) := by
      rw [show 2 * (left + 1 + 1) = 2 * (left + 1) + 1 + 1 by omega, List.take_succ_cons,
        List.take_succ_cons, List.all_cons, List.all_cons, Bool.and_assoc]
    rw [hall]
    cases hhex : isHex high && isHex low with
    | false => exact storeBytes_of_not_hex index frame rest hhex
    | true =>
      obtain ⟨value, hstep⟩ := storeBytes_of_hex index frame rest hhex
      obtain ⟨stored, hstored⟩ := storeByte_inBounds frame (by omega : index < 8) value
      rw [hstep, hstored]
      exact ih (by omega) stored (by omega)

/-! One line. -/

/-- The number in the length field of a line, of any size. -/
def declaredLength (line : Text) : Option Nat :=
  (splitFields line).bind fun fields => Text.number 10 (lengthField fields)

/-- The data announces nine bytes or more, has two characters for each of them, and the
first eighteen are hexadecimal. -/
def DataOverflows (text : Text) (dataLength : UInt8) : Prop :=
  8 < dataLength.toNat ∧ text.length = dataLength.toNat * 2 ∧ (text.take 18).all isHex

/-- The data of the line overflows and the fields before it are values. -/
def Overflows (line : Text) : Prop :=
  ∃ fields frame, splitFields line = some fields ∧ parsePrefix fields = some frame ∧
    DataOverflows (dataField fields) frame.dataLength

theorem parseData_cases (text : Text) (dataLength : UInt8) (frame : CanFrame) :
    (DataOverflows text dataLength ∧ parseData text dataLength frame = .error ⟨8⟩) ∨
    (¬ DataOverflows text dataLength ∧ ∃ parsed, parseData text dataLength frame = .ok parsed ∧
      (8 < dataLength.toNat → parsed = none)) := by
  unfold DataOverflows parseData
  by_cases hlength : text.length = dataLength.toNat * 2
  · rw [if_neg (not_not_intro hlength)]
    by_cases hlong : 8 < dataLength.toNat
    · rw [storeBytes_overflow 8 rfl frame (by omega)]
      cases hhex : (text.take 18).all isHex with
      | true => exact .inl ⟨⟨hlong, hlength, rfl⟩, rfl⟩
      | false => exact .inr ⟨by simp, none, rfl, fun _ => rfl⟩
    · obtain ⟨parsed, hparsed⟩ := storeBytes_inBounds dataLength.toNat
        (by omega : 0 + dataLength.toNat ≤ 8) frame (hlength.trans (Nat.mul_comm ..))
      exact .inr ⟨fun h => hlong h.1, parsed, hparsed, fun h => absurd h hlong⟩
  · rw [if_pos hlength]
    exact .inr ⟨fun h => hlength h.2.1, none, rfl, fun _ => rfl⟩

theorem parseUnsigned_eq_some {text : Text} {base : Nat} {maximum parsed : UInt64}
    (h : parseUnsigned text base maximum = some parsed) :
    Text.number base text = some parsed.toNat ∧ parsed ≤ maximum := by
  unfold parseUnsigned at h
  split at h
  · cases h
  rename_i hne
  cases hnumber : Text.number base text with
  | none =>
    have hrest := Text.fromChars_rest hne hnumber
    split at h
    · simp_all
    · cases h
  | some value =>
    rw [Text.fromChars_of_number hnumber] at h
    by_cases hvalue : value < 2 ^ 64
    · simp only [hvalue, ↓reduceIte, ne_eq, not_true_eq_false, false_or] at h
      split at h
      · cases h
      · rename_i hmaximum
        cases h
        rw [UInt64.toNat_ofNat_of_lt' hvalue]
        exact ⟨rfl, UInt64.not_lt.1 hmaximum⟩
    · rw [if_neg hvalue] at h
      simp at h

theorem parseUnsigned_eq_some_iff {text : Text} {base : Nat} {maximum parsed : UInt64} :
    parseUnsigned text base maximum = some parsed ↔
      Text.number base text = some parsed.toNat ∧ parsed ≤ maximum := by
  refine ⟨parseUnsigned_eq_some, ?_⟩
  rintro ⟨hnumber, hmaximum⟩
  have hne : text ≠ [] :=
    ((Text.number_isSome_iff base text).1 (Option.isSome_of_eq_some hnumber)).1
  unfold parseUnsigned
  rw [if_neg hne, Text.fromChars_of_number hnumber, if_pos parsed.toNat_lt, UInt64.ofNat_toNat]
  dsimp only
  rw [if_neg]
  simpa using hmaximum

theorem parsePrefix_dataLength {fields : Vector Text 5} {frame : CanFrame}
    (h : parsePrefix fields = some frame) :
    Text.number 10 (lengthField fields) = some frame.dataLength.toNat := by
  unfold parsePrefix at h
  simp only [Option.bind_eq_bind, Option.bind_eq_some_iff] at h
  obtain ⟨timestampMs, -, identifier, -, extended, -, dataLength, hlength, hframe⟩ := h
  obtain ⟨hnumber, hmaximum⟩ := parseUnsigned_eq_some hlength
  cases hframe
  rw [lengthField, hnumber]
  have hsmall : dataLength.toNat ≤ 255 := UInt64.le_iff_toNat_le.1 hmaximum
  rw [UInt64.toNat_toUInt8]
  congr 1
  omega

/-- What one line can do: overflow, or yield an answer that is no frame when the line
announces nine bytes or more. -/
theorem parseLine_cases (line : Text) :
    (Overflows line ∧ parseLine line = .error ⟨8⟩) ∨
    (¬ Overflows line ∧ ∃ parsed, parseLine line = .ok parsed ∧
      ∀ length ∈ declaredLength line, 8 < length → parsed = none) := by
  unfold Overflows parseLine declaredLength parseFrame
  cases hsplit : splitFields line with
  | none => exact .inr ⟨by simp, none, rfl, fun _ _ _ => rfl⟩
  | some fields =>
    dsimp only
    cases hseen : parsePrefix fields with
    | none => exact .inr ⟨by simp [hseen], none, rfl, fun _ _ _ => rfl⟩
    | some frame =>
      have hlength := parsePrefix_dataLength hseen
      rcases parseData_cases (dataField fields) frame.dataLength frame with
        ⟨hover, hdata⟩ | ⟨hfits, parsed, hdata, hlong⟩
      · refine .inl ⟨⟨fields, frame, rfl, hseen, hover⟩, ?_⟩
        dsimp only
        unfold dataField at hdata
        rw [hdata]
        rfl
      · refine .inr ⟨?_, parsed.filter CanFrame.isValid, ?_, ?_⟩
        · rintro ⟨_, other, hfields, hother, hover⟩
          cases hfields
          rw [hseen] at hother
          cases hother
          exact hfits hover
        · dsimp only
          unfold dataField at hdata
          rw [hdata]
          rfl
        · intro length hmem hgt
          rw [Option.bind_some, hlength, Option.mem_some_iff] at hmem
          rw [hlong (by omega)]
          rfl

/-! The loop over the lines. -/

def frameLines (lines : List Text) : List Text :=
  (lines.map stripCarriageReturn).filter (· ≠ [])

/-- Frames that begin at time zero and never go back, few enough. -/
structure Chronological (maximumFrames : Nat) (frames : List CanFrame) : Prop where
  start : ∀ frame ∈ frames.head?, frame.timestampUs = 0
  ordered : frames.Pairwise fun earlier later => earlier.timestampUs ≤ later.timestampUs
  fits : frames.length ≤ maximumFrames

def ReadsAs (lines : List Text) (frames : List CanFrame) : Prop :=
  List.Forall₂ (fun line frame => parseLine line = .ok (some frame)) (frameLines lines) frames

def Follows (frames : List CanFrame) (frame : CanFrame) : Prop :=
  match frames.getLast? with
  | none => frame.timestampUs = 0
  | some last => last.timestampUs ≤ frame.timestampUs

section Lines

variable {maximumFrames : Nat} {frames : List CanFrame} {frame : CanFrame}

theorem Chronological.sequence (h : Chronological maximumFrames frames) :
    Sequence (fun frame => frame.timestampUs = 0)
      (fun earlier later => earlier.timestampUs ≤ later.timestampUs) frames :=
  ⟨h.start, h.ordered⟩

theorem follows_iff : Follows frames frame ↔ Succeeds (fun frame => frame.timestampUs = 0)
    (fun earlier later => earlier.timestampUs ≤ later.timestampUs) frames frame := by
  unfold Follows
  split
  · rename_i hlast
    rw [List.getLast?_eq_none_iff] at hlast
    subst hlast
    exact ⟨fun hzero => ⟨fun _ => hzero, by simp⟩, fun h => h.start rfl⟩
  · rename_i last hlast
    refine ⟨fun hle => ⟨?_, ?_⟩, fun h => h.ordered last hlast⟩
    · rintro rfl
      cases hlast
    · intro other hother
      rw [hlast, Option.mem_some_iff] at hother
      rwa [← hother]

theorem Chronological.follows {others : List CanFrame}
    (h : Chronological maximumFrames (frames ++ frame :: others)) : Follows frames frame :=
  follows_iff.2 h.sequence.succeeds

theorem Chronological.concat (h : Chronological maximumFrames frames)
    (hfits : frames.length < maximumFrames) (hfollows : Follows frames frame) :
    Chronological maximumFrames (frames ++ [frame]) := by
  have hsequence := h.sequence.concat (follows_iff.1 hfollows) UInt64.le_trans
  exact ⟨hsequence.start, hsequence.ordered, by rw [List.length_append]; exact hfits⟩

variable {lineNumber : Nat} {line : Text} {rest : List Text}

theorem parseLines_blank (hline : stripCarriageReturn line = []) :
    parseLines maximumFrames lineNumber frames (line :: rest) =
      parseLines maximumFrames (lineNumber + 1) frames rest := by
  rw [parseLines]
  exact if_pos hline

theorem parseLines_line (hline : stripCarriageReturn line ≠ [])
    (hfits : frames.length < maximumFrames) :
    parseLines maximumFrames lineNumber frames (line :: rest) =
      match parseLine (stripCarriageReturn line) with
      | .error outOfBounds => .error outOfBounds
      | .ok none => .ok (.error (lineError lineNumber "invalid CAN frame"))
      | .ok (some frame) =>
        match frames.getLast? with
        | none =>
          if frame.timestampUs ≠ 0 then
            .ok (.error (lineError lineNumber "first timestamp must be zero"))
          else parseLines maximumFrames (lineNumber + 1) (frames ++ [frame]) rest
        | some last =>
          if frame.timestampUs < last.timestampUs then
            .ok (.error (lineError lineNumber "timestamps must be monotonic"))
          else parseLines maximumFrames (lineNumber + 1) (frames ++ [frame]) rest := by
  rw [parseLines, if_neg hline, if_neg (by omega)]
  rcases parseLine (stripCarriageReturn line) with outOfBounds | _ | frame
  · rfl
  · rfl
  · rfl

theorem parseLines_frame (hline : stripCarriageReturn line ≠ [])
    (hfits : frames.length < maximumFrames)
    (hparsed : parseLine (stripCarriageReturn line) = .ok (some frame)) :
    (Follows frames frame ∧ parseLines maximumFrames lineNumber frames (line :: rest) =
      parseLines maximumFrames (lineNumber + 1) (frames ++ [frame]) rest) ∨
    (¬ Follows frames frame ∧ ∃ message,
      parseLines maximumFrames lineNumber frames (line :: rest) = .ok (.error message)) := by
  rw [parseLines_line hline hfits, hparsed]
  unfold Follows
  cases frames.getLast? with
  | none =>
    by_cases hzero : frame.timestampUs = 0
    · exact .inl ⟨hzero, if_neg (not_not_intro hzero)⟩
    · exact .inr ⟨hzero, _, if_pos hzero⟩
  | some last =>
    by_cases hless : frame.timestampUs < last.timestampUs
    · exact .inr ⟨UInt64.not_le.2 hless, _, if_pos hless⟩
    · exact .inl ⟨UInt64.not_lt.1 hless, if_neg hless⟩

theorem parseLines_reads {lines : List Text} {read : List CanFrame}
    (hreads : ReadsAs lines read) (htrace : Chronological maximumFrames (frames ++ read)) :
    parseLines maximumFrames lineNumber frames (lines ++ rest) =
      parseLines maximumFrames (lineNumber + lines.length) (frames ++ read) rest := by
  induction lines generalizing lineNumber frames read with
  | nil =>
    have hnil : read = [] := List.forall₂_nil_left_iff.1 hreads
    rw [hnil, List.append_nil]
    rfl
  | cons line lines ih =>
    rw [List.cons_append, List.length_cons, ← Nat.add_assoc, Nat.add_right_comm]
    by_cases hline : stripCarriageReturn line = []
    · rw [parseLines_blank hline]
      unfold ReadsAs frameLines at hreads
      rw [List.map_cons, List.filter_cons_of_neg (by simpa using hline)] at hreads
      exact ih hreads htrace
    · unfold ReadsAs frameLines at hreads
      rw [List.map_cons, List.filter_cons_of_pos (by simpa using hline)] at hreads
      obtain ⟨frame, others, hparsed, hothers, rfl⟩ := List.forall₂_cons_left_iff.1 hreads
      have hfits : frames.length < maximumFrames := by
        have hlength := htrace.fits
        rw [List.length_append, List.length_cons] at hlength
        omega
      rcases parseLines_frame hline hfits hparsed with ⟨-, hstep⟩ | ⟨hnot, -⟩
      · rw [hstep, List.append_cons frames frame others]
        exact ih hothers (List.append_cons frames frame others ▸ htrace)
      · exact absurd htrace.follows hnot

theorem overflow_of_parseLines {lines : List Text} {outOfBounds : OutOfBounds}
    (h : parseLines maximumFrames lineNumber frames lines = .error outOfBounds)
    (htrace : Chronological maximumFrames frames) :
    ∃ before line after read, lines = before ++ line :: after ∧ ReadsAs before read ∧
      Chronological maximumFrames (frames ++ read) ∧
      (frames ++ read).length < maximumFrames ∧ Overflows (stripCarriageReturn line) := by
  induction lines generalizing lineNumber frames with
  | nil => cases h
  | cons line lines ih =>
    by_cases hline : stripCarriageReturn line = []
    · rw [parseLines_blank hline] at h
      obtain ⟨before, found, after, read, rfl, hreads, hfound⟩ := ih h htrace
      refine ⟨line :: before, found, after, read, rfl, ?_, hfound⟩
      unfold ReadsAs frameLines
      rw [List.map_cons, List.filter_cons_of_neg (by simpa using hline)]
      exact hreads
    by_cases hfits : frames.length < maximumFrames
    · rcases parseLine_cases (stripCarriageReturn line) with
        ⟨hover, -⟩ | ⟨-, parsed, hparsed, -⟩
      · exact ⟨[], line, lines, [], rfl, .nil, by rwa [List.append_nil],
          by rwa [List.append_nil], hover⟩
      cases parsed with
      | none =>
        rw [parseLines_line hline hfits, hparsed] at h
        cases h
      | some frame =>
        rcases parseLines_frame hline hfits hparsed with ⟨hfollows, hstep⟩ | ⟨-, message, hstep⟩
        · rw [hstep] at h
          obtain ⟨before, found, after, read, rfl, hreads, hfound⟩ :=
            ih h (htrace.concat hfits hfollows)
          refine ⟨line :: before, found, after, frame :: read, rfl, ?_,
            by rwa [← List.append_cons] at hfound⟩
          unfold ReadsAs frameLines
          rw [List.map_cons, List.filter_cons_of_pos (by simpa using hline)]
          exact .cons hparsed hreads
        · rw [hstep] at h
          cases h
    · rw [parseLines, if_neg hline, if_pos (Nat.not_lt.1 hfits)] at h
      cases h

end Lines

/-! The whole text. -/

/-- The reader gets to the line of this number: the lines before it are a header and a
trace that has room for another frame. -/
def Reaches (text : Text) (maximumFrames lineNumber : Nat) (line : Text) : Prop :=
  ∃ header before after read, text.lines = header :: (before ++ line :: after) ∧
    lineNumber = before.length + 2 ∧ isHeader header = true ∧ ReadsAs before read ∧
    Chronological maximumFrames read ∧ read.length < maximumFrames

/-- No store is out of bounds, and a line that announces nine bytes or more is rejected
as any other invalid line is, with the frames of the caller as they were. -/
structure StoresInBounds (text : Text) (maximumFrames : Nat) : Prop where
  inBounds : ∀ frames, ∃ answer, parseCanonicalCanTrace text frames maximumFrames = .ok answer
  rejected : ∀ frames lineNumber line, Reaches text maximumFrames lineNumber line →
    ∀ length ∈ declaredLength (stripCarriageReturn line), 8 < length →
      parseCanonicalCanTrace text frames maximumFrames =
        .ok ⟨false, frames, lineError lineNumber "invalid CAN frame"⟩

section Text

variable {text : Text} {maximumFrames lineNumber : Nat} {frames : List CanFrame} {line : Text}

theorem parse_reaches (h : Reaches text maximumFrames lineNumber line) :
    ∃ header rest read after, text.lines = header :: rest ∧ isHeader header = true ∧
      read.length < maximumFrames ∧
      parseLines maximumFrames 2 [] rest = parseLines maximumFrames lineNumber read (line :: after) := by
  obtain ⟨header, before, after, read, hlines, rfl, hheader, hreads, htrace, hroom⟩ := h
  refine ⟨header, _, read, after, hlines, hheader, hroom, ?_⟩
  rw [parseLines_reads hreads (by exact htrace), Nat.add_comm 2]
  rfl

theorem parse_eq (hmaximum : 0 < maximumFrames) {header : Text} {rest : List Text}
    (hlines : text.lines = header :: rest) (hheader : isHeader header = true) :
    parseCanonicalCanTrace text frames maximumFrames =
      match parseLines maximumFrames 2 [] rest with
      | .error outOfBounds => .error outOfBounds
      | .ok (.error message) => .ok ⟨false, frames, message⟩
      | .ok (.ok []) => .ok ⟨false, frames, "trace contains no CAN frames"⟩
      | .ok (.ok parsedFrames) => .ok ⟨true, parsedFrames, ""⟩ := by
  rw [parseCanonicalCanTrace, if_neg (by omega), hlines]
  dsimp only
  rw [hheader]
  rcases parseLines maximumFrames 2 [] rest with outOfBounds | message | _ | ⟨frame, others⟩
  all_goals rfl

theorem parse_overflow (hmaximum : 0 < maximumFrames)
    (hreaches : Reaches text maximumFrames lineNumber line)
    (hover : Overflows (stripCarriageReturn line)) :
    parseCanonicalCanTrace text frames maximumFrames = .error ⟨8⟩ := by
  obtain ⟨header, rest, read, after, hlines, hheader, hroom, hloop⟩ := parse_reaches hreaches
  rcases parseLine_cases (stripCarriageReturn line) with ⟨-, hparsed⟩ | ⟨hnot, -⟩
  · have hline : stripCarriageReturn line ≠ [] := by
      intro hblank
      rw [hblank] at hparsed
      cases hparsed
    rw [parse_eq hmaximum hlines hheader, hloop, parseLines_line hline hroom, hparsed]
  · exact absurd hover hnot

theorem parse_rejected (hmaximum : 0 < maximumFrames)
    (hreaches : Reaches text maximumFrames lineNumber line)
    (hfits : ¬ Overflows (stripCarriageReturn line)) {length : Nat}
    (hlength : length ∈ declaredLength (stripCarriageReturn line)) (hlong : 8 < length) :
    parseCanonicalCanTrace text frames maximumFrames =
      .ok ⟨false, frames, lineError lineNumber "invalid CAN frame"⟩ := by
  obtain ⟨header, rest, read, after, hlines, hheader, hroom, hloop⟩ := parse_reaches hreaches
  have hline : stripCarriageReturn line ≠ [] := by
    intro hblank
    rw [hblank] at hlength
    cases hlength
  rcases parseLine_cases (stripCarriageReturn line) with ⟨hover, -⟩ | ⟨-, parsed, hparsed, hnone⟩
  · exact absurd hover hfits
  · have hnone := hnone length hlength hlong
    subst hnone
    rw [parse_eq hmaximum hlines hheader, hloop, parseLines_line hline hroom, hparsed]

theorem parse_inBounds (hmaximum : 0 < maximumFrames)
    (h : ∀ lineNumber line, Reaches text maximumFrames lineNumber line →
      ¬ Overflows (stripCarriageReturn line)) (frames : List CanFrame) :
    ∃ answer, parseCanonicalCanTrace text frames maximumFrames = .ok answer := by
  cases hlines : text.lines with
  | nil =>
    rw [parseCanonicalCanTrace, if_neg (by omega), hlines]
    exact ⟨_, rfl⟩
  | cons header rest =>
    cases hheader : isHeader header with
    | false =>
      rw [parseCanonicalCanTrace, if_neg (by omega), hlines]
      dsimp only
      rw [hheader]
      exact ⟨_, rfl⟩
    | true =>
      rw [parse_eq hmaximum hlines hheader]
      cases hloop : parseLines maximumFrames 2 [] rest with
      | error outOfBounds =>
        obtain ⟨before, line, after, read, rfl, hreads, htrace, hroom, hover⟩ :=
          overflow_of_parseLines hloop ⟨by simp, .nil, Nat.zero_le _⟩
        exact absurd hover (h (before.length + 2) line
          ⟨header, before, after, read, hlines, rfl, hheader, hreads, htrace, hroom⟩)
      | ok result =>
        rcases result with message | _ | ⟨frame, others⟩
        · exact ⟨_, rfl⟩
        · exact ⟨_, rfl⟩
        · exact ⟨_, rfl⟩

end Text

/-- The reader stores in bounds exactly if it gets to no line that overflows. -/
theorem stores_in_bounds_iff (text : Text) {maximumFrames : Nat} (hmaximum : 0 < maximumFrames) :
    StoresInBounds text maximumFrames ↔
      ∀ lineNumber line, Reaches text maximumFrames lineNumber line →
        ¬ Overflows (stripCarriageReturn line) := by
  constructor
  · intro h lineNumber line hreaches hover
    obtain ⟨answer, hanswer⟩ := h.inBounds []
    rw [parse_overflow hmaximum hreaches hover] at hanswer
    cases hanswer
  · intro h
    refine ⟨parse_inBounds hmaximum h, ?_⟩
    intro frames lineNumber line hreaches length hlength hlong
    exact parse_rejected hmaximum hreaches (h lineNumber line hreaches) hlength hlong

def traceText (line : String) : Text := header ++ .ascii ("\n" ++ line ++ "\n")

theorem stores_in_bounds_iff_oneFrame :
    StoresInBounds (traceText "0,0x123,0,2,0AFF") 10 ↔
      ∀ lineNumber line, Reaches (traceText "0,0x123,0,2,0AFF") 10 lineNumber line →
        ¬ Overflows (stripCarriageReturn line) :=
  stores_in_bounds_iff _ (by decide)

/-- A line that announces nine bytes and gives them. -/
theorem nine_bytes_overflow :
    parseCanonicalCanTrace (traceText "0,0x0,0,9,000000000000000000") [] 1 = .error ⟨8⟩ ∧
      ¬ StoresInBounds (traceText "0,0x0,0,9,000000000000000000") 1 := by
  have hover :
      parseCanonicalCanTrace (traceText "0,0x0,0,9,000000000000000000") [] 1 = .error ⟨8⟩ := by
    rfl
  refine ⟨hover, fun h => ?_⟩
  obtain ⟨answer, hanswer⟩ := h.inBounds []
  rw [hover] at hanswer
  cases hanswer

end BmwRemote.Host.CanTraceCsv
