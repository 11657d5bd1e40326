import BmwRemote.Infrastructure.Ports
import BmwRemote.Infrastructure.SettingsPayload
import BmwRemote.Lib.Journal
import BmwRemote.Lib.Transcript

/-! The settings journal: records of fifty-six bytes in two slots of a storage
that is read and written in blocks. -/
namespace BmwRemote.Infrastructure

open BmwRemote.Application BmwRemote.Lib

/-- A storage whose calls may fail and always leave it in some state. -/
structure SettingsByteStorage (S : Type) where
  capacity : S → Nat
  read : Nat → (size : Nat) → S → Option (Vector UInt8 size) × S
  write : {size : Nat} → Nat → Vector UInt8 size → S → Bool × S
  commit : S → Bool × S

structure DecodedRecord where
  settings : UserSettings
  generation : UInt32
  deriving DecidableEq

def generationIsNewer (candidate reference : UInt32) : Bool :=
  decide ((candidate - reference).toInt32 > 0)

theorem generationIsNewer_next (generation : UInt32) :
    generationIsNewer (generation + 1) generation = true := by
  have hdistance : generation + 1 - generation = 1 := by grind
  unfold generationIsNewer
  rw [hdistance]
  decide

theorem not_generationIsNewer_next (generation : UInt32) :
    generationIsNewer generation (generation + 1) = false := by
  have hdistance : generation - (generation + 1) = 0xFFFFFFFF := by grind
  unfold generationIsNewer
  rw [hdistance]
  decide

def generations : Generations DecodedRecord UInt32 where
  generation := DecodedRecord.generation
  newer := generationIsNewer
  initial := 1
  next := (· + 1)
  newer_next := generationIsNewer_next
  not_newer_next := not_generationIsNewer_next

namespace JournaledUserSettingsStore

def schemaVersion : UInt16 := 1
def slotSize : Nat := 64
def slotCount : Nat := 2
def requiredCapacity : Nat := slotSize * slotCount
def recordSize : Nat := 56

def magic : List UInt8 := [0x42, 0x4D, 0x52, 0x43]
def versionOffset : Nat := 4
def payloadSizeOffset : Nat := 6
def generationOffset : Nat := 8
def payloadOffset : Nat := 12
def crcOffset : Nat := payloadOffset + userSettingsPayloadSize

abbrev Record := Vector UInt8 recordSize

def recordBody (generation : UInt32) (payload : UserSettingsPayload) : List UInt8 :=
  magic ++ (writeU16 schemaVersion ++ (writeU16 (UInt16.ofNat userSettingsPayloadSize) ++
    (writeU32 generation ++ payload.toList)))

theorem length_recordBody (generation : UInt32) (payload : UserSettingsPayload) :
    (recordBody generation payload).length = crcOffset := by
  simp only [recordBody, magic, List.length_append, List.length_cons, List.length_nil,
    length_writeU16, length_writeU32, Vector.length_toList]
  rfl

def recordOf (generation : UInt32) (payload : UserSettingsPayload) : Record :=
  let body := recordBody generation payload
  ⟨(body ++ writeU32 (crc32 body)).toArray, by
    rw [List.size_toArray, List.length_append, length_recordBody, length_writeU32]
    rfl⟩

def encodeRecord (settings : UserSettings) (generation : UInt32) : Option Record :=
  (encodeUserSettingsPayload settings).map (recordOf generation)

def decodeRecord (record : Record) : Option DecodedRecord :=
  let bytes := record.toList
  if bytes.take magic.length ≠ magic then none
  else
    let version := readU16 bytes versionOffset
    let storedPayloadSize := (readU16 bytes payloadSizeOffset).toNat
    let supportedVersion :=
      version == schemaVersion && storedPayloadSize == userSettingsPayloadSize
    let storedCrcOffset := payloadOffset + storedPayloadSize
    if !supportedVersion || decide (storedCrcOffset + 4 > recordSize) ||
        readU32 bytes storedCrcOffset != crc32 (bytes.take storedCrcOffset) then none
    else
      (decodeUserSettingsPayload (block _ bytes payloadOffset) storedPayloadSize).map
        fun settings => { settings, generation := readU32 bytes generationOffset }

theorem read_recordBody (generation : UInt32) (payload : UserSettingsPayload) (rest : List UInt8) :
    (recordBody generation payload ++ rest).take magic.length = magic ∧
      readU16 (recordBody generation payload ++ rest) versionOffset = schemaVersion ∧
      readU16 (recordBody generation payload ++ rest) payloadSizeOffset =
        UInt16.ofNat userSettingsPayloadSize ∧
      readU32 (recordBody generation payload ++ rest) generationOffset = generation ∧
      block userSettingsPayloadSize (recordBody generation payload ++ rest) payloadOffset =
        payload := by
  refine ⟨?_, ?_⟩
  · rw [recordBody, List.append_assoc, List.take_left]
  · simp (disch := simp) only [recordBody, magic, versionOffset, payloadSizeOffset,
      generationOffset, payloadOffset, List.append_assoc, readU16_skip, readU32_skip, block_skip,
      List.length_cons, List.length_nil, length_writeU16, length_writeU32, Nat.reduceAdd,
      Nat.reduceSub, readU16_write, readU32_write, block_toList, and_self]

theorem decodeRecord_recordOf {settings : UserSettings} {payload : UserSettingsPayload}
    (h : encodeUserSettingsPayload settings = some payload) (generation : UInt32) :
    decodeRecord (recordOf generation payload) = some { settings, generation } := by
  have hbody := length_recordBody generation payload
  have hbytes : (recordOf generation payload).toList =
      recordBody generation payload ++ writeU32 (crc32 (recordBody generation payload)) := rfl
  have hchecksum : readU32 (recordOf generation payload).toList crcOffset =
      crc32 (recordBody generation payload) := by
    rw [hbytes, readU32_skip _ _ (Nat.le_of_eq hbody), hbody, Nat.sub_self]
    have hread := readU32_write (crc32 (recordBody generation payload)) []
    rwa [List.append_nil] at hread
  have htake : (recordOf generation payload).toList.take crcOffset =
      recordBody generation payload := by
    rw [hbytes, ← hbody, List.take_left]
  obtain ⟨hmagic, hversion, hsize, hgeneration, hpayload⟩ := read_recordBody generation payload
    (writeU32 (crc32 (recordBody generation payload)))
  rw [← hbytes] at hmagic hversion hsize hgeneration hpayload
  have hstored : (UInt16.ofNat userSettingsPayloadSize).toNat = userSettingsPayloadSize := rfl
  unfold decodeRecord
  dsimp only
  generalize (recordOf generation payload).toList = bytes at *
  have hcrcOffset : payloadOffset + userSettingsPayloadSize = crcOffset := rfl
  rw [if_neg (not_not_intro hmagic), hversion, hsize, hgeneration, hstored, hpayload, hcrcOffset,
    hchecksum, htake, decode_encodeUserSettingsPayload h, if_neg]
  · rfl
  · simp [crcOffset, payloadOffset, recordSize, userSettingsPayloadSize]

variable {S : Type}

/-- Whether the slot could be read, and its record when it holds a valid one. -/
def readRecord (storage : SettingsByteStorage S) (slot : Nat) (state : S) :
    (Bool × Option DecodedRecord) × S :=
  match storage.read (slot * slotSize) recordSize state with
  | (none, after) => ((false, none), after)
  | (some record, after) => ((true, decodeRecord record), after)

theorem readRecord_none {storage : SettingsByteStorage S} {slot : Nat} {state after : S}
    (h : storage.read (slot * slotSize) recordSize state = (none, after)) :
    readRecord storage slot state = ((false, none), after) := by
  rw [readRecord, h]

theorem readRecord_some {storage : SettingsByteStorage S} {slot : Nat} {state after : S}
    {record : Record}
    (h : storage.read (slot * slotSize) recordSize state = (some record, after)) :
    readRecord storage slot state = ((true, decodeRecord record), after) := by
  rw [readRecord, h]

def selectedSlot (first second : Option DecodedRecord) : Slot :=
  match first, second with
  | none, _ => .second
  | some _, none => .first
  | some first, some second =>
      if !generationIsNewer second.generation first.generation then .first else .second

def load (storage : SettingsByteStorage S) (state : S) : Option UserSettings × S :=
  if storage.capacity state < requiredCapacity then (none, state)
  else
    let ((firstReadable, first), state) := readRecord storage 0 state
    let ((secondReadable, second), state) := readRecord storage 1 state
    let selected :=
      if (!firstReadable || first.isNone) && (!secondReadable || second.isNone) then none
      else Journal.get ⟨first, second⟩ (selectedSlot first second)
    (selected.map DecodedRecord.settings, state)

def targetOf (first second : Option DecodedRecord) : Nat × UInt32 :=
  match first, second with
  | some first, some second =>
      let secondIsNewer := generationIsNewer second.generation first.generation
      (if secondIsNewer then 0 else 1,
        (if secondIsNewer then second.generation else first.generation) + 1)
  | some first, none => (1, first.generation + 1)
  | none, some second => (0, second.generation + 1)
  | none, none => (0, 1)

def storeRecord (storage : SettingsByteStorage S) (settings : UserSettings) (targetSlot : Nat)
    (nextGeneration : UInt32) (record : Record) (state : S) : Bool × S :=
  let (written, state) := storage.write (targetSlot * slotSize) record state
  if !written then (false, state)
  else
    let (committed, state) := storage.commit state
    if !committed then (false, state)
    else
      let ((readable, verified), state) := readRecord storage targetSlot state
      (readable && verified.any fun verified =>
        verified.generation == nextGeneration && userSettingsEqual verified.settings settings, state)

def save (storage : SettingsByteStorage S) (settings : UserSettings) (state : S) : Bool × S :=
  if decide (storage.capacity state < requiredCapacity) || !(validateUserSettings settings).valid then
    (false, state)
  else
    let ((firstReadable, first), state) := readRecord storage 0 state
    if !firstReadable then (false, state)
    else
      let ((secondReadable, second), state) := readRecord storage 1 state
      if !secondReadable then (false, state)
      else
        let (targetSlot, nextGeneration) := targetOf first second
        match encodeRecord settings nextGeneration with
        | none => (false, state)
        | some record => storeRecord storage settings targetSlot nextGeneration record state

/-! The two slots as a journal. -/

def slotIndex : Slot → Nat
  | .first => 0
  | .second => 1

def journalOf {size : Nat} (area : Vector UInt8 size) : Journal DecodedRecord where
  first := decodeRecord (block recordSize area.toList (0 * slotSize))
  second := decodeRecord (block recordSize area.toList (1 * slotSize))

theorem targetOf_eq (first second : Option DecodedRecord) :
    targetOf first second =
      (slotIndex (Journal.target generations ⟨first, second⟩),
        Journal.nextGeneration generations ⟨first, second⟩) := by
  cases first with
  | none => cases second <;> rfl
  | some first =>
    cases second with
    | none => rfl
    | some second =>
      cases hnewer : generationIsNewer second.generation first.generation <;>
        simp [targetOf, Journal.target, Journal.nextGeneration, Journal.current, Journal.newest,
          Journal.get, generations, hnewer, slotIndex, Slot.other]

theorem newest_eq (first second : Option DecodedRecord) :
    Journal.newest generations ⟨first, second⟩ =
      if first.isNone && second.isNone then none else some (selectedSlot first second) := by
  cases first with
  | none => cases second <;> rfl
  | some first =>
    cases second with
    | none => rfl
    | some second =>
      cases hnewer : generationIsNewer second.generation first.generation <;>
        simp [Journal.newest, selectedSlot, generations, hnewer]

theorem selected_eq (first second : Option DecodedRecord) :
    (if (!true || first.isNone) && (!true || second.isNone) then none
      else Journal.get ⟨first, second⟩ (selectedSlot first second)) =
      Journal.current generations ⟨first, second⟩ := by
  unfold Journal.current
  rw [newest_eq]
  cases first with
  | none => cases second <;> rfl
  | some first => rfl

theorem journalOf_patch {size : Nat} (hsize : requiredCapacity ≤ size) (area : Vector UInt8 size)
    (slot : Slot) (record : Record) :
    journalOf (patch area (slotIndex slot * slotSize) record) =
      (journalOf area).put slot (decodeRecord record) := by
  have hcapacity : 2 * slotSize ≤ size := hsize
  have hroom : recordSize ≤ slotSize := by decide
  cases slot with
  | first =>
    have hsame : block recordSize (patch area (0 * slotSize) record).toList (0 * slotSize) =
        record := block_patch area record (by omega)
    have hother : block recordSize (patch area (0 * slotSize) record).toList (1 * slotSize) =
        block recordSize area.toList (1 * slotSize) :=
      block_patch_disjoint area record (by omega)
    simp only [journalOf, slotIndex, Journal.put, hsame, hother]
  | second =>
    have hsame : block recordSize (patch area (1 * slotSize) record).toList (1 * slotSize) =
        record := block_patch area record (by omega)
    have hother : block recordSize (patch area (1 * slotSize) record).toList (0 * slotSize) =
        block recordSize area.toList (0 * slotSize) :=
      block_patch_disjoint area record (by omega)
    simp only [journalOf, slotIndex, Journal.put, hsame, hother]

def nextRecord (journal : Journal DecodedRecord) (settings : UserSettings) : DecodedRecord :=
  ⟨settings, journal.nextGeneration generations⟩

theorem generation_nextRecord (journal : Journal DecodedRecord) (settings : UserSettings) :
    generations.generation (nextRecord journal settings) = journal.nextGeneration generations := rfl

def loaded (journal : Journal DecodedRecord) : Option UserSettings :=
  (journal.current generations).map DecodedRecord.settings

theorem loaded_put_nextRecord (journal : Journal DecodedRecord) (settings : UserSettings) :
    loaded (journal.put (journal.target generations) (some (nextRecord journal settings))) =
      some settings := by
  unfold loaded
  rw [Journal.current_put_next (generation_nextRecord journal settings)]
  rfl

/-- A load never takes the slot that a save would write. -/
theorem selectedSlot_ne_target {journal : Journal DecodedRecord}
    (h : (loaded journal).isSome = true) :
    selectedSlot journal.first journal.second ≠ journal.target generations := by
  intro hslot
  have hnewest := newest_eq journal.first journal.second
  cases hempty : journal.first.isNone && journal.second.isNone with
  | true =>
    rw [hempty, if_pos rfl] at hnewest
    simp [loaded, Journal.current, hnewest] at h
  | false =>
    rw [hempty, if_neg (by decide), hslot] at hnewest
    exact Journal.newest_ne_target hnewest

structure ReadsSlots (storage : SettingsByteStorage S) (journal : Journal DecodedRecord)
    (state after : S) : Prop where
  capacity : requiredCapacity ≤ storage.capacity state
  reads : ∃ first second between,
    storage.read (0 * slotSize) recordSize state = (some first, between) ∧
      storage.read (1 * slotSize) recordSize between = (some second, after) ∧
      journal = ⟨decodeRecord first, decodeRecord second⟩

theorem load_of_reads {storage : SettingsByteStorage S} {journal : Journal DecodedRecord}
    {state after : S} (h : ReadsSlots storage journal state after) :
    load storage state = (loaded journal, after) := by
  obtain ⟨first, second, between, hfirst, hsecond, hjournal⟩ := h.reads
  unfold load
  rw [if_neg (Nat.not_lt.2 h.capacity), readRecord_some hfirst]
  dsimp only
  rw [readRecord_some hsecond, hjournal]
  dsimp only
  rw [selected_eq]
  rfl

/-- A save of valid settings over working reads stores their next record. -/
theorem save_of_reads {storage : SettingsByteStorage S} {journal : Journal DecodedRecord}
    {state after : S} {settings : UserSettings}
    (hvalid : (validateUserSettings settings).valid = true)
    (h : ReadsSlots storage journal state after) :
    ∃ record, decodeRecord record = some (nextRecord journal settings) ∧
      save storage settings state =
        storeRecord storage settings (slotIndex (journal.target generations))
          (journal.nextGeneration generations) record after := by
  obtain ⟨first, second, between, hfirst, hsecond, hjournal⟩ := h.reads
  obtain ⟨payload, hpayload⟩ := exists_payload_of_valid hvalid
  refine ⟨recordOf (journal.nextGeneration generations) payload,
    decodeRecord_recordOf hpayload _, ?_⟩
  simp [save, hvalid, Nat.not_lt.2 h.capacity, readRecord_some hfirst, readRecord_some hsecond,
    targetOf_eq, encodeRecord, hpayload, ← hjournal]

theorem save_of_refused {storage : SettingsByteStorage S} {state : S} {settings : UserSettings}
    (h : (validateUserSettings settings).valid = false) :
    save storage settings state = (false, state) := by
  unfold save
  rw [if_pos (by simp [h])]

/-! A save ends at the first call that fails. -/

theorem save_of_first_unreadable {storage : SettingsByteStorage S} {state after : S}
    {settings : UserSettings} (hcapacity : requiredCapacity ≤ storage.capacity state)
    (hvalid : (validateUserSettings settings).valid = true)
    (h : storage.read (0 * slotSize) recordSize state = (none, after)) :
    save storage settings state = (false, after) := by
  simp [save, hvalid, Nat.not_lt.2 hcapacity, readRecord_none h]

theorem save_of_second_unreadable {storage : SettingsByteStorage S} {state between after : S}
    {settings : UserSettings} {first : Record}
    (hcapacity : requiredCapacity ≤ storage.capacity state)
    (hvalid : (validateUserSettings settings).valid = true)
    (hfirst : storage.read (0 * slotSize) recordSize state = (some first, between))
    (hsecond : storage.read (1 * slotSize) recordSize between = (none, after)) :
    save storage settings state = (false, after) := by
  simp [save, hvalid, Nat.not_lt.2 hcapacity, readRecord_some hfirst, readRecord_none hsecond]

theorem storeRecord_of_works {storage : SettingsByteStorage S} {settings : UserSettings}
    {slot : Nat} {generation : UInt32} {record : Record} {state written committed after : S}
    (hrecord : decodeRecord record = some ⟨settings, generation⟩)
    (hwrite : storage.write (slot * slotSize) record state = (true, written))
    (hcommit : storage.commit written = (true, committed))
    (hread : storage.read (slot * slotSize) recordSize committed = (some record, after)) :
    storeRecord storage settings slot generation record state = (true, after) := by
  simp [storeRecord, hwrite, hcommit, readRecord_some hread, hrecord, userSettingsEqual_iff]

theorem storeRecord_of_unwritten {storage : SettingsByteStorage S} {settings : UserSettings}
    {slot : Nat} {generation : UInt32} {record : Record} {state after : S}
    (hwrite : storage.write (slot * slotSize) record state = (false, after)) :
    storeRecord storage settings slot generation record state = (false, after) := by
  unfold storeRecord
  rw [hwrite]
  rfl

theorem storeRecord_of_uncommitted {storage : SettingsByteStorage S} {settings : UserSettings}
    {slot : Nat} {generation : UInt32} {record : Record} {state written after : S}
    (hwrite : storage.write (slot * slotSize) record state = (true, written))
    (hcommit : storage.commit written = (false, after)) :
    storeRecord storage settings slot generation record state = (false, after) := by
  simp [storeRecord, hwrite, hcommit]

theorem storeRecord_of_unreadable {storage : SettingsByteStorage S} {settings : UserSettings}
    {slot : Nat} {generation : UInt32} {record : Record} {state written committed after : S}
    (hwrite : storage.write (slot * slotSize) record state = (true, written))
    (hcommit : storage.commit written = (true, committed))
    (hread : storage.read (slot * slotSize) recordSize committed = (none, after)) :
    storeRecord storage settings slot generation record state = (false, after) := by
  simp [storeRecord, hwrite, hcommit, readRecord_none hread]

def store (storage : SettingsByteStorage S) : UserSettingsStore S where
  load := load storage
  save := save storage

end JournaledUserSettingsStore

/-- Whether valid settings were loaded, and the settings to run with. -/
def loadUserSettingsFailSafe {W : Type} (store : UserSettingsStore W) (world : W) :
    (Bool × UserSettings) × W :=
  let (candidate, after) := store.load world
  match candidate with
  | none => ((false, { remoteStartEnabled := false }), after)
  | some candidate =>
      if (validateUserSettings candidate).valid then ((true, candidate), after)
      else ((false, { remoteStartEnabled := false }), after)

end BmwRemote.Infrastructure
