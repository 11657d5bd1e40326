import BmwRemote.Host.TraceAgreement
import BmwRemote.Lib.TextWriting

/-! What the host tools write is a trace again, the one that was written. -/
namespace BmwRemote.Host.CanonicalTrace

open BmwRemote.Infrastructure BmwRemote.Lib
open CanTraceCsv (comma hexNibble splitFields)

/-! Numbers. -/

section Digits

variable {base : Nat} {write : Char → Char}

def Writes (base : Nat) (write : Char → Char) : Prop :=
  ∀ digit < base, isAscii (write digit.digitChar) = true ∧
    Text.digit base (write digit.digitChar).toUInt8 = some digit

theorem writes_decimal : Writes 10 id := by
  unfold Writes
  decide

theorem writes_upperHex : Writes 16 Char.toUpper := by
  unfold Writes
  decide

theorem ascii_toDigits (hbase : 1 < base) (hwrites : Writes base write) (value : Nat) :
    ∀ character ∈ (Nat.toDigits base value).map write, isAscii character = true := by
  rw [List.forall_mem_map]
  exact Text.forall_toDigits hbase (fun digit hlt => (hwrites digit hlt).1) value

theorem number_toDigits (hbase : 1 < base) (hwrites : Writes base write) (value : Nat) :
    Text.number base (utf8 ((Nat.toDigits base value).map write)) = some value := by
  rw [utf8_ascii (ascii_toDigits hbase hwrites value), List.map_map]
  exact Text.number_toDigits hbase (fun digit hlt => (hwrites digit hlt).2) value

theorem number_decimal (value : Nat) :
    Text.number 10 (utf8 (Nat.toDigits 10 value)) = some value := by
  simpa using number_toDigits (by decide) writes_decimal value

end Digits

theorem length_decimal {value : Nat} (h : value ≤ uint32Maximum) :
    (utf8 (Nat.toDigits 10 value)).length ≤ maximumStrDigits := by
  have hascii := ascii_toDigits (by decide) writes_decimal value
  rw [List.map_id] at hascii
  rw [length_utf8 hascii]
  have hshort : (Nat.toDigits 10 value).length ≤ 10 :=
    (Nat.length_toDigits_le_iff (by decide) (by decide)).mpr (Nat.lt_of_le_of_lt h (by decide))
  exact hshort.trans (by decide)

/-! Data. -/

theorem upperDigit_spec : ∀ digit < 16, isAscii (upperDigit digit) = true ∧
    Text.digit 16 (upperDigit digit).toUInt8 = some digit := by
  decide

theorem hexBytes_toHex (data : List UInt8) : hexBytes (utf8 (toHex data)) = some data := by
  induction data with
  | nil => rfl
  | cons byte data ih =>
    have hbyte := byte.toNat_lt
    obtain ⟨hhigh, hhighDigit⟩ := upperDigit_spec (byte.toNat / 16) (by omega)
    obtain ⟨hlow, hlowDigit⟩ := upperDigit_spec (byte.toNat % 16) (by omega)
    change hexBytes (utf8 (upperDigit (byte.toNat / 16) :: upperDigit (byte.toNat % 16) ::
      toHex data)) = _
    rw [utf8_cons, utf8_cons, utf8EncodeChar_ascii hhigh, utf8EncodeChar_ascii hlow]
    refine hexBytes_pair.mpr ⟨UInt8.ofNat (byte.toNat / 16), UInt8.ofNat (byte.toNat % 16), data,
      ?_, ?_, ih, ?_⟩
    · rw [hexNibble_eq, hhighDigit, Option.map_some]
    · rw [hexNibble_eq, hlowDigit, Option.map_some]
    · rw [byte_of_nibbles _ (by omega) _ (by omega), Nat.div_add_mod', UInt8.ofNat_toNat]

/-! Rows. -/

theorem frameFields_spells (frame : CanonicalFrame) :
    SpellsFields #v[utf8 (Nat.toDigits 10 frame.timestampMs),
      utf8 (['0', 'x'] ++ upperHex frame.identifier),
      utf8 [if frame.extended then '1' else '0'],
      utf8 (Nat.toDigits 10 frame.data.length), utf8 (toHex frame.data)] frame where
  timestampMs := number_decimal frame.timestampMs
  identifier := ⟨120, utf8 (upperHex frame.identifier), rfl, .inl rfl,
    number_toDigits (by decide) writes_upperHex frame.identifier⟩
  extended := by
    cases hflag : frame.extended with
    | true => exact .inl rfl
    | false => exact .inl rfl
  dataLength := number_decimal frame.data.length
  data := hexBytes_toHex frame.data

def frameLine (frame : CanonicalFrame) : List Char := [','].intercalate (frameFields frame)

theorem utf8_frameLine (frame : CanonicalFrame) : utf8 (frameLine frame) =
    joinFields #v[utf8 (Nat.toDigits 10 frame.timestampMs),
      utf8 (['0', 'x'] ++ upperHex frame.identifier),
      utf8 [if frame.extended then '1' else '0'],
      utf8 (Nat.toDigits 10 frame.data.length), utf8 (toHex frame.data)] :=
  utf8_intercalate ..

section Frame

variable {frame : CanonicalFrame}

theorem CanonicalFrame.Valid.spells (h : frame.Valid) : Spells (utf8 (frameLine frame)) frame :=
  ⟨h, _, utf8_frameLine frame, frameFields_spells frame⟩

theorem CanonicalFrame.Valid.short (h : frame.Valid) :
    ¬ HasLongNumber (utf8 (frameLine frame)) := by
  rw [utf8_frameLine, hasLongNumber_joinFields (frameFields_spells frame), not_or]
  exact ⟨Nat.not_lt.mpr (length_decimal h.timestampMs),
    Nat.not_lt.mpr (length_decimal (h.data.trans (by decide)))⟩

theorem CanonicalFrame.Valid.oneLine (h : frame.Valid) :
    ∀ character ∈ frameLine frame, isLineEnd character = false := by
  intro character hmem
  have hnone {other : Char} (hother : other.toUInt8 ∈ String.utf8EncodeChar other)
      (hcomma : other.toUInt8 ≠ comma) (hcode : other.toUInt8.toNat < 48) :
      character ≠ other := by
    rintro rfl
    rcases h.spells.bytes _ (List.mem_flatMap.mpr ⟨character, hmem, hother⟩) with hsep | ⟨hle, -⟩
    · exact hcomma hsep
    · omega
  have hreturn : character ≠ '\r' := hnone (by decide) (by decide) (by decide)
  have hnewline : character ≠ '\n' := hnone (by decide) (by decide) (by decide)
  simp [isLineEnd, hreturn, hnewline]

end Frame

theorem rawLines_line {line : List Char} (h : ∀ character ∈ line, isLineEnd character = false)
    (rest : List Char) : rawLines (line ++ '\n' :: rest) = (line ++ ['\n']) :: rawLines rest := by
  induction line with
  | nil => rfl
  | cons character line ih =>
    rw [List.forall_mem_cons] at h
    rw [List.cons_append, rawLines_cons h.1, ih h.2]
    rfl

theorem rstrip_line {line : List Char} (h : ∀ character ∈ line, isLineEnd character = false) :
    rstrip (line ++ ['\n']) = line := by
  induction line with
  | nil => rfl
  | cons character line ih =>
    rw [List.forall_mem_cons] at h
    rw [List.cons_append, rstrip_cons h.1, ih h.2]

theorem sourceLines_line {line : List Char} (h : ∀ character ∈ line, isLineEnd character = false)
    (rest : List Char) : sourceLines (line ++ '\n' :: rest) = utf8 line :: sourceLines rest := by
  rw [sourceLines, rawLines_line h, List.map_cons, rstrip_line h]
  rfl

/-! The whole text. -/

theorem writeCanonicalCsv_eq (frames : List CanonicalFrame) : writeCanonicalCsv frames =
    header ++ '\n' :: frames.flatMap fun frame => frameLine frame ++ ['\n'] := by
  unfold writeCanonicalCsv row
  rw [List.intercalate_splitOn]
  simp [frameLine]

theorem header_lineEnd : ∀ character ∈ header, isLineEnd character = false := by
  have hnone : header.any isLineEnd = false := by decide
  simpa using hnone

section Written

variable {frames : List CanonicalFrame}

theorem sourceLines_frames (h : ∀ frame ∈ frames, frame.Valid) :
    sourceLines (frames.flatMap fun frame => frameLine frame ++ ['\n']) =
      frames.map fun frame => utf8 (frameLine frame) := by
  induction frames with
  | nil => rfl
  | cons frame frames ih =>
    rw [List.forall_mem_cons] at h
    rw [List.flatMap_cons, List.append_assoc, List.singleton_append, sourceLines_line h.1.oneLine,
      ih h.2, List.map_cons]

theorem sourceLines_written (h : ∀ frame ∈ frames, frame.Valid) :
    sourceLines (writeCanonicalCsv frames) =
      CanTraceCsv.header :: frames.map fun frame => utf8 (frameLine frame) := by
  rw [writeCanonicalCsv_eq, sourceLines_line header_lineEnd, sourceLines_frames h, utf8_header]

theorem written_return (h : ∀ frame ∈ frames, frame.Valid) :
    ¬ StrayReturn (writeCanonicalCsv frames) := by
  have hline {line : List Char} (hend : ∀ character ∈ line, isLineEnd character = false) :
      '\r' ∉ line := fun hmem => absurd (hend '\r' hmem) (by decide)
  rintro ⟨before, next, after, htext, -⟩
  have hreturn : '\r' ∈ writeCanonicalCsv frames := by
    rw [htext]
    simp
  rw [writeCanonicalCsv_eq, List.mem_append, List.mem_cons, List.mem_flatMap] at hreturn
  rcases hreturn with hheader | hnewline | ⟨frame, hframe, hmem⟩
  · exact hline header_lineEnd hheader
  · exact absurd hnewline (by decide)
  · rw [List.mem_append] at hmem
    rcases hmem with hmem | hnewline
    · exact hline (h frame hframe).oneLine hmem
    · exact absurd hnewline (by decide)

theorem written_isTrace (hsome : frames ≠ []) (h : ∀ frame ∈ frames, frame.Valid)
    (hordered : InOrder frames) {maximumFrames : Nat} (hfits : frames.length ≤ maximumFrames) :
    IsTrace maximumFrames (sourceLines (writeCanonicalCsv frames)) frames := by
  rw [sourceLines_written h]
  refine ⟨⟨_, rfl, .inl rfl⟩, ?_, hsome, hfits, hordered⟩
  have hlines : (frames.map fun frame => utf8 (frameLine frame)).filter (· ≠ []) =
      frames.map fun frame => utf8 (frameLine frame) := by
    rw [List.filter_eq_self, List.forall_mem_map]
    exact fun frame hmem => decide_eq_true (h frame hmem).spells.ne_nil
  rw [List.tail_cons, hlines, List.forall₂_map_left_iff, List.forall₂_same]
  exact fun frame hmem => (h frame hmem).spells

theorem written_short (h : ∀ frame ∈ frames, frame.Valid) :
    ¬ ∃ line ∈ sourceLines (writeCanonicalCsv frames), HasLongNumber line := by
  rw [sourceLines_written h]
  simp only [not_exists, not_and]
  rw [List.forall_mem_cons, List.forall_mem_map]
  exact ⟨fun hlong => absurd hlong.length (by decide), fun frame hmem => (h frame hmem).short⟩

end Written

end BmwRemote.Host.CanonicalTrace
