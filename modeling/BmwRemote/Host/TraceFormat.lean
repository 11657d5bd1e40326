import BmwRemote.Host.CanTraceStores
import BmwRemote.Host.CanonicalTrace

/-! What a canonical trace is, apart from who reads it: lines that spell frames, behind a
header. -/
namespace BmwRemote.Host.CanonicalTrace

open BmwRemote.Infrastructure BmwRemote.Lib
open CanTraceCsv (comma hexNibble splitFields timestampField identifierField extendedField
  lengthField dataField)

/-- The limits that a frame keeps. -/
structure CanonicalFrame.Valid (frame : CanonicalFrame) : Prop where
  timestampMs : frame.timestampMs ≤ uint32Maximum
  identifier : frame.identifier ≤ frame.maximumIdentifier
  data : frame.data.length ≤ 8

structure SameFrame (frame : CanonicalFrame) (replayed : CanFrame) : Prop where
  timestampUs : replayed.timestampUs.toNat = frame.timestampMs * 1000
  identifier : replayed.identifier.toNat = frame.identifier
  extended : replayed.extended = frame.extended
  dataLength : replayed.dataLength.toNat = frame.data.length
  data : replayed.data.toList.take frame.data.length = frame.data

def hexBytes : Text → Option (List UInt8)
  | [] => some []
  | [_] => none
  | high :: low :: rest =>
    match hexNibble high, hexNibble low, hexBytes rest with
    | some high, some low, some bytes => some (((high <<< 4) ||| low) :: bytes)
    | _, _, _ => none

def SpellsIdentifier (text : Text) (identifier : Nat) : Prop :=
  ∃ mark digits, text = 48 :: mark :: digits ∧ (mark = 120 ∨ mark = 88) ∧
    Text.number 16 digits = some identifier

def SpellsFlag (text : Text) (flag : Bool) : Prop :=
  text = (if flag then .ascii "1" else .ascii "0") ∨
    text = (if flag then .ascii "true" else .ascii "false")

structure SpellsFields (fields : Vector Text 5) (frame : CanonicalFrame) : Prop where
  timestampMs : Text.number 10 (timestampField fields) = some frame.timestampMs
  identifier : SpellsIdentifier (identifierField fields) frame.identifier
  extended : SpellsFlag (extendedField fields) frame.extended
  dataLength : Text.number 10 (lengthField fields) = some frame.data.length
  data : hexBytes (dataField fields) = some frame.data

def joinFields (fields : Vector Text 5) : Text :=
  timestampField fields ++ comma :: (identifierField fields ++ comma :: (extendedField fields ++
    comma :: (lengthField fields ++ comma :: dataField fields)))

/-- A line spells a frame that keeps the limits. -/
def Spells (line : Text) (frame : CanonicalFrame) : Prop :=
  frame.Valid ∧ ∃ fields, line = joinFields fields ∧ SpellsFields fields frame

/-- A number of the line has more digits than `int` takes. -/
def HasLongNumber (line : Text) : Prop :=
  ∃ fields ∈ splitFields line, maximumStrDigits < (timestampField fields).length ∨
    maximumStrDigits < (lengthField fields).length

def InOrder (frames : List CanonicalFrame) : Prop :=
  Sequence (fun frame => frame.timestampMs = 0)
    (fun earlier later => earlier.timestampMs ≤ later.timestampMs) frames

/-- Lines that are a header and frames from time zero on, some but not too many. -/
structure IsTrace (maximumFrames : Nat) (lines : List Text) (frames : List CanonicalFrame) :
    Prop where
  header : ∃ first ∈ lines.head?, first = CanTraceCsv.header ∨
    first = CanTraceCsv.byteOrderMark ++ CanTraceCsv.header
  reads : List.Forall₂ Spells (lines.tail.filter (· ≠ [])) frames
  some : frames ≠ []
  fits : frames.length ≤ maximumFrames
  ordered : InOrder frames

theorem InOrder.concat {frames : List CanonicalFrame} {frame : CanonicalFrame}
    (h : InOrder frames) (hstart : frames = [] → frame.timestampMs = 0)
    (hnext : ∀ last ∈ frames.getLast?, last.timestampMs ≤ frame.timestampMs) :
    InOrder (frames ++ [frame]) :=
  Sequence.concat h ⟨hstart, hnext⟩ Nat.le_trans

theorem valid_of_reads {lines : List Text} {frames : List CanonicalFrame}
    (h : List.Forall₂ Spells lines frames) : ∀ frame ∈ frames, frame.Valid := by
  induction h with
  | nil => simp
  | cons hspells _ ih => exact List.forall_mem_cons.mpr ⟨hspells.1, ih⟩

theorem spells_of_reads {lines : List Text} {frames : List CanonicalFrame}
    (h : List.Forall₂ Spells lines frames) : ∀ line ∈ lines, ∃ frame, Spells line frame := by
  induction h with
  | nil => simp
  | cons hspells _ ih => exact List.forall_mem_cons.mpr ⟨⟨_, hspells⟩, ih⟩

/-! Fields and lines. -/

theorem exists_five (fields : Vector Text 5) : ∃ timestamp identifier extended dataLength data,
    fields = #v[timestamp, identifier, extended, dataLength, data] := by
  refine ⟨fields[0], fields[1], fields[2], fields[3], fields[4], ?_⟩
  apply Vector.ext
  intro index hindex
  rcases index with _ | _ | _ | _ | _ | index
  · rfl
  · rfl
  · rfl
  · rfl
  · rfl
  · omega

theorem splitFields_eq_some_iff {line : Text} {fields : Vector Text 5} :
    splitFields line = some fields ↔
      line = joinFields fields ∧ ∀ field ∈ fields.toList, comma ∉ field := by
  obtain ⟨timestamp, identifier, extended, dataLength, data, rfl⟩ := exists_five fields
  unfold splitFields
  simp only [Option.bind_eq_bind, Option.bind_eq_some_iff, Prod.exists, Text.cut_eq_some_iff]
  constructor
  · rintro ⟨first, _, ⟨rfl, hfirst⟩, second, _, ⟨rfl, hsecond⟩, third, _, ⟨rfl, hthird⟩, fourth,
      last, ⟨rfl, hfourth⟩, h⟩
    split at h
    · cases h
    · rename_i hlast
      obtain ⟨rfl, rfl, rfl, rfl, rfl⟩ := by simpa using h
      exact ⟨rfl, by simp [hfirst, hsecond, hthird, hfourth, hlast]⟩
  · rintro ⟨rfl, hcommas⟩
    simp only [Vector.toList_mk, List.forall_mem_cons, List.not_mem_nil] at hcommas
    obtain ⟨hfirst, hsecond, hthird, hfourth, hlast, -⟩ := hcommas
    exact ⟨_, _, ⟨rfl, hfirst⟩, _, _, ⟨rfl, hsecond⟩, _, _, ⟨rfl, hthird⟩, _, _,
      ⟨rfl, hfourth⟩, if_neg hlast⟩

def Plain (text : Text) : Prop := ∀ byte ∈ text, 48 ≤ byte.toNat ∧ byte.toNat ≤ 122

theorem digit_range {base : Nat} {byte : UInt8} (h : Text.isDigit base byte = true) :
    48 ≤ byte.toNat ∧ byte.toNat ≤ 122 := by
  unfold Text.isDigit Text.digit at h
  dsimp only at h
  split_ifs at h <;> first | omega | simp at h

theorem plain_of_number {base value : Nat} {text : Text}
    (h : Text.number base text = some value) : Plain text := by
  intro byte hmem
  exact digit_range
    (((Text.number_isSome_iff base text).mp (Option.isSome_of_eq_some h)).2 byte hmem)

theorem hexNibble_eq (byte : UInt8) : hexNibble byte = (Text.digit 16 byte).map UInt8.ofNat := by
  unfold hexNibble Text.digit
  simp only [UInt8.le_iff_toNat_le]
  split_ifs <;> simp [← UInt8.toNat_inj, UInt8.toNat_sub] <;> simp_all <;> omega

theorem hexBytes_pair {high low : UInt8} {rest : Text} {bytes : List UInt8} :
    hexBytes (high :: low :: rest) = some bytes ↔
      ∃ first second others, hexNibble high = some first ∧ hexNibble low = some second ∧
        hexBytes rest = some others ∧ bytes = ((first <<< 4) ||| second) :: others := by
  rw [hexBytes]
  constructor
  · intro h
    split at h
    · rename_i first second others hhigh hlow hrest
      exact ⟨first, second, others, hhigh, hlow, hrest, (Option.some.inj h).symm⟩
    · cases h
  · rintro ⟨first, second, others, hhigh, hlow, hrest, rfl⟩
    rw [hhigh, hlow, hrest]

theorem digits_of_hexBytes : {text : Text} → {bytes : List UInt8} →
    hexBytes text = some bytes → ∀ byte ∈ text, Text.isDigit 16 byte = true
  | [], _, _ => by simp
  | [_], _, h => by cases h
  | high :: low :: rest, bytes, h => by
    obtain ⟨first, second, others, hhigh, hlow, hrest, -⟩ := hexBytes_pair.mp h
    have hdigits := digits_of_hexBytes hrest
    rw [hexNibble_eq] at hhigh hlow
    simp only [List.forall_mem_cons, Text.isDigit]
    refine ⟨?_, ?_, hdigits⟩
    · rw [← Option.isSome_map, hhigh, Option.isSome_some]
    · rw [← Option.isSome_map, hlow, Option.isSome_some]

theorem plain_of_hexBytes {text : Text} {bytes : List UInt8} (h : hexBytes text = some bytes) :
    Plain text :=
  fun byte hmem => digit_range (digits_of_hexBytes h byte hmem)

theorem length_of_hexBytes : {text : Text} → {bytes : List UInt8} →
    hexBytes text = some bytes → text.length = bytes.length * 2
  | [], _, h => by cases h; rfl
  | [_], _, h => by cases h
  | high :: low :: rest, bytes, h => by
    obtain ⟨first, second, others, -, -, hrest, rfl⟩ := hexBytes_pair.mp h
    have := length_of_hexBytes hrest
    simp only [List.length_cons]
    omega

theorem SpellsIdentifier.plain {text : Text} {identifier : Nat}
    (h : SpellsIdentifier text identifier) : Plain text := by
  obtain ⟨mark, digits, rfl, hmark, hdigits⟩ := h
  simp only [Plain, List.forall_mem_cons]
  refine ⟨by decide, ?_, plain_of_number hdigits⟩
  rcases hmark with rfl | rfl <;> decide

theorem plain_of_all {text : Text}
    (h : text.all (fun byte => decide (48 ≤ byte.toNat ∧ byte.toNat ≤ 122)) = true) : Plain text :=
  fun byte hmem => of_decide_eq_true (List.all_eq_true.mp h byte hmem)

theorem SpellsFlag.plain {text : Text} {flag : Bool} (h : SpellsFlag text flag) :
    Plain text := by
  unfold SpellsFlag at h
  cases flag <;> rcases h with rfl | rfl <;> exact plain_of_all (by decide)

theorem SpellsFields.plain {fields : Vector Text 5} {frame : CanonicalFrame}
    (h : SpellsFields fields frame) : ∀ field ∈ fields.toList, Plain field := by
  obtain ⟨timestamp, identifier, extended, dataLength, data, rfl⟩ := exists_five fields
  simp only [Vector.toList_mk, List.forall_mem_cons, List.not_mem_nil]
  exact ⟨plain_of_number h.timestampMs, h.identifier.plain, h.extended.plain,
    plain_of_number h.dataLength, plain_of_hexBytes h.data, by simp⟩

theorem Plain.comma_notMem {text : Text} (h : Plain text) : comma ∉ text := by
  intro hmem
  have := (h comma hmem).1
  simp [comma] at this

theorem SpellsFields.splitFields {fields : Vector Text 5} {frame : CanonicalFrame}
    (h : SpellsFields fields frame) : splitFields (joinFields fields) = some fields :=
  splitFields_eq_some_iff.mpr ⟨rfl, fun field hmem => (h.plain field hmem).comma_notMem⟩

theorem Spells.bytes {line : Text} {frame : CanonicalFrame} (h : Spells line frame) :
    ∀ byte ∈ line, byte = comma ∨ (48 ≤ byte.toNat ∧ byte.toNat ≤ 122) := by
  obtain ⟨-, fields, rfl, hspells⟩ := h
  have hplain := hspells.plain
  obtain ⟨timestamp, identifier, extended, dataLength, data, rfl⟩ := exists_five fields
  simp only [Vector.toList_mk, List.forall_mem_cons] at hplain
  obtain ⟨htime, hnumber, hflag, hlength, hdata, -⟩ := hplain
  intro byte hmem
  change byte ∈ timestamp ++ comma :: (identifier ++ comma :: (extended ++ comma ::
    (dataLength ++ comma :: data))) at hmem
  simp only [List.mem_append, List.mem_cons] at hmem
  rcases hmem with hmem | hmem | hmem | hmem | hmem | hmem | hmem | hmem | hmem
  · exact .inr (htime byte hmem)
  · exact .inl hmem
  · exact .inr (hnumber byte hmem)
  · exact .inl hmem
  · exact .inr (hflag byte hmem)
  · exact .inl hmem
  · exact .inr (hlength byte hmem)
  · exact .inl hmem
  · exact .inr (hdata byte hmem)

theorem Spells.ne_nil {line : Text} {frame : CanonicalFrame} (h : Spells line frame) :
    line ≠ [] := by
  obtain ⟨-, fields, rfl, -⟩ := h
  simp [joinFields]

end BmwRemote.Host.CanonicalTrace
