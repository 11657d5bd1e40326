import BmwRemote.Infrastructure.SettingsStorage

/-! The settings journal over a storage that works, and over one whose calls fail
and leave the slot that was being written in some state. -/
namespace BmwRemote.Infrastructure

open BmwRemote.Application BmwRemote.Lib JournaledUserSettingsStore

variable {size count : Nat}

theorem slot_inside (hsize : requiredCapacity ≤ size) (slot : Slot) :
    slotIndex slot * slotSize + recordSize ≤ size := by
  have hcapacity : 128 ≤ size := hsize
  cases slot with
  | first => exact Nat.le_trans (by decide) hcapacity
  | second => exact Nat.le_trans (by decide) hcapacity

/-- A storage that works: it always holds an area of bytes, which its reads give
and its writes change. -/
structure WorkingStorage {S : Type} (size : Nat) (storage : SettingsByteStorage S)
    (area : S → Vector UInt8 size) : Prop where
  capacity : ∀ state, storage.capacity state = size
  read : ∀ {offset count}, offset + count ≤ size → ∀ state, ∃ after,
    storage.read offset count state = (some (block count (area state).toList offset), after) ∧
      area after = area state
  write : ∀ {offset count}, offset + count ≤ size → ∀ (bytes : Vector UInt8 count) state, ∃ after,
    storage.write offset bytes state = (true, after) ∧
      area after = patch (area state) offset bytes
  commit : ∀ state, ∃ after, storage.commit state = (true, after) ∧ area after = area state

namespace WorkingStorage

variable {S : Type} {storage : SettingsByteStorage S} {area : S → Vector UInt8 size}

theorem readsSlots (h : WorkingStorage size storage area) (hsize : requiredCapacity ≤ size)
    (state : S) :
    ∃ after, ReadsSlots storage (journalOf (area state)) state after ∧
      area after = area state := by
  obtain ⟨between, hfirst, hbetween⟩ := h.read (slot_inside hsize .first) state
  obtain ⟨after, hsecond, hafter⟩ := h.read (slot_inside hsize .second) between
  rw [hbetween] at hsecond hafter
  exact ⟨after, ⟨(h.capacity state).symm ▸ hsize, _, _, between, hfirst, hsecond, rfl⟩, hafter⟩

theorem load_eq (h : WorkingStorage size storage area) (hsize : requiredCapacity ≤ size)
    (state : S) :
    ∃ after, load storage state = (loaded (journalOf (area state)), after) ∧
      area after = area state := by
  obtain ⟨after, hreads, hafter⟩ := h.readsSlots hsize state
  exact ⟨after, load_of_reads hreads, hafter⟩

/-- A save puts the next record into the slot that is not the newest. -/
theorem save_eq (h : WorkingStorage size storage area) (hsize : requiredCapacity ≤ size)
    {settings : UserSettings} (hvalid : (validateUserSettings settings).valid = true) (state : S) :
    ∃ record after,
      decodeRecord record = some (nextRecord (journalOf (area state)) settings) ∧
      save storage settings state = (true, after) ∧
      area after = patch (area state)
        (slotIndex ((journalOf (area state)).target generations) * slotSize) record := by
  obtain ⟨between, hreads, hbetween⟩ := h.readsSlots hsize state
  obtain ⟨record, hrecord, hsave⟩ := save_of_reads hvalid hreads
  have hinside := slot_inside hsize ((journalOf (area state)).target generations)
  obtain ⟨written, hwrite, hwritten⟩ := h.write hinside record between
  obtain ⟨committed, hcommit, hcommitted⟩ := h.commit written
  obtain ⟨after, hread, hafter⟩ := h.read hinside committed
  rw [hcommitted, hwritten, hbetween] at hread hafter
  rw [block_patch (area state) record hinside] at hread
  refine ⟨record, after, hrecord, ?_, hafter⟩
  rw [hsave]
  exact storeRecord_of_works hrecord hwrite hcommit hread

theorem loaded_save (h : WorkingStorage size storage area) (hsize : requiredCapacity ≤ size)
    {settings : UserSettings} (hvalid : (validateUserSettings settings).valid = true) (state : S) :
    ∃ after, save storage settings state = (true, after) ∧
      loaded (journalOf (area after)) = some settings := by
  obtain ⟨record, after, hrecord, hsave, hafter⟩ := h.save_eq hsize hvalid state
  refine ⟨after, hsave, ?_⟩
  rw [hafter, journalOf_patch hsize, hrecord, loaded_put_nextRecord]

end WorkingStorage

namespace MemorySettingsStorage

def storage (size : Nat) : SettingsByteStorage (Vector UInt8 size) where
  capacity := fun _ => size
  read := fun offset count area =>
    if offset > size ∨ count > size - offset then (none, area)
    else (some (block count area.toList offset), area)
  write := fun offset bytes area =>
    if offset > size ∨ bytes.size > size - offset then (false, area)
    else (true, patch area offset bytes)
  commit := fun area => (true, area)

theorem read_inside {offset : Nat} (h : offset + count ≤ size) (area : Vector UInt8 size) :
    (storage size).read offset count area = (some (block count area.toList offset), area) := by
  unfold storage
  dsimp only
  rw [if_neg (by omega)]

theorem write_inside {offset : Nat} (h : offset + count ≤ size) (bytes : Vector UInt8 count)
    (area : Vector UInt8 size) :
    (storage size).write offset bytes area = (true, patch area offset bytes) := by
  unfold storage
  dsimp only
  rw [if_neg (by simp [Vector.size]; omega)]

theorem works (size : Nat) : WorkingStorage size (storage size) id where
  capacity := fun _ => rfl
  read := fun h area => ⟨area, read_inside h area, rfl⟩
  write := fun h bytes area => ⟨_, write_inside h bytes area, rfl⟩
  commit := fun area => ⟨area, rfl, rfl⟩

theorem load_eq (hsize : requiredCapacity ≤ size) (area : Vector UInt8 size) :
    load (storage size) area = (loaded (journalOf area), area) := by
  obtain ⟨after, hload, hafter⟩ := (works size).load_eq hsize area
  rw [hload]
  exact congrArg _ hafter

def machine (size : Nat) : Machine (Vector UInt8 size) UserSettings Bool :=
  fun area settings => save (storage size) settings area

theorem machine_eq (hsize : requiredCapacity ≤ size) {settings : UserSettings}
    (hvalid : (validateUserSettings settings).valid = true) (area : Vector UInt8 size) :
    ∃ record, decodeRecord record = some (nextRecord (journalOf area) settings) ∧
      machine size area settings =
        (true, patch area (slotIndex ((journalOf area).target generations) * slotSize) record) := by
  obtain ⟨record, after, hrecord, hsave, hafter⟩ := (works size).save_eq hsize hvalid area
  exact ⟨record, hrecord, hsave.trans (congrArg _ hafter)⟩

/-- Whatever the area holds, and whatever was saved before: a save of valid
settings succeeds, the next load returns them, and only the slot that a load
would not have taken has changed. -/
theorem saves_persist (hsize : requiredCapacity ≤ size) (area : Vector UInt8 size)
    (earlier : List UserSettings) (settings : UserSettings)
    (hvalid : (validateUserSettings settings).valid = true) :
    let before := (machine size).final area earlier
    let after := (machine size).final area (earlier ++ [settings])
    (machine size before settings).1 = true ∧
      (load (storage size) after).1 = some settings ∧
      ∃ slot, ((load (storage size) before).1.isSome = true →
          selectedSlot (journalOf before).first (journalOf before).second ≠ slot) ∧
        ∀ index (hindex : index < size),
          index < slotIndex slot * slotSize ∨ slotIndex slot * slotSize + recordSize ≤ index →
            after[index] = before[index] := by
  intro before after
  obtain ⟨record, hrecord, hsave⟩ := machine_eq hsize hvalid before
  have hafter : after =
      patch before (slotIndex ((journalOf before).target generations) * slotSize) record := by
    have hfinal : after = (machine size before settings).2 :=
      (machine size).final_concat area earlier settings
    rw [hfinal, hsave]
  clear_value before after
  refine ⟨by rw [hsave], ?_, (journalOf before).target generations, ?_, ?_⟩
  · rw [load_eq hsize after, hafter, journalOf_patch hsize, hrecord, loaded_put_nextRecord]
  · intro hloaded
    rw [load_eq hsize before] at hloaded
    exact selectedSlot_ne_target hloaded
  · intro index hindex houtside
    simp only [hafter, getElem_patch before record hindex houtside]

/-- Two saves into an erased area. -/
theorem saves_persist_erased :
    let area : Vector UInt8 128 := Vector.replicate 128 0xFF
    let settings : UserSettings := { lockPressCount := 4 }
    let before := (machine 128).final area [({} : UserSettings)]
    let after := (machine 128).final area ([({} : UserSettings)] ++ [settings])
    (machine 128 before settings).1 = true ∧
      (load (storage 128) after).1 = some settings ∧
      ∃ slot, ((load (storage 128) before).1.isSome = true →
          selectedSlot (journalOf before).first (journalOf before).second ≠ slot) ∧
        ∀ index (hindex : index < 128),
          index < slotIndex slot * slotSize ∨ slotIndex slot * slotSize + recordSize ≤ index →
            after[index] = before[index] := by
  intro area settings
  exact saves_persist (by decide) area [{}] settings (by decide)

end MemorySettingsStorage

/-- What a failed call leaves of the block that was written last: its bytes
before, the bytes that were given, or bytes that hold no valid record. -/
inductive Aftermath where
  | unchanged
  | complete
  | torn (bytes : Record) (invalid : decodeRecord bytes = none)

structure Written (size : Nat) where
  offset : Nat
  before : Vector UInt8 size
  after : Vector UInt8 size

/-- A storage whose next calls work or fail as its list says; beyond the list all work. -/
structure FaultySettingsStorage (size : Nat) where
  area : Vector UInt8 size
  written : Option (Written size) := none
  faults : List (Option Aftermath) := []

namespace FaultySettingsStorage

def fail (state : FaultySettingsStorage size) (aftermath : Aftermath) :
    FaultySettingsStorage size :=
  match state.written, aftermath with
  | none, _ => state
  | some written, .unchanged => { state with area := written.before }
  | some written, .complete => { state with area := written.after }
  | some written, .torn bytes _ => { state with area := patch written.before written.offset bytes }

def fault (state : FaultySettingsStorage size) : Option Aftermath := state.faults.head?.join

def next (state : FaultySettingsStorage size) : FaultySettingsStorage size :=
  { state with faults := state.faults.tail }

def storage (size : Nat) : SettingsByteStorage (FaultySettingsStorage size) where
  capacity := fun _ => size
  read := fun offset count state =>
    match state.fault with
    | some aftermath => (none, state.next.fail aftermath)
    | none =>
        if offset > size ∨ count > size - offset then (none, state.next)
        else (some (block count state.area.toList offset), state.next)
  write := fun offset bytes state =>
    if offset > size ∨ bytes.size > size - offset then (false, state.next)
    else
      let after := patch state.area offset bytes
      let written := { state.next with area := after, written := some ⟨offset, state.area, after⟩ }
      match state.fault with
      | some aftermath => (false, written.fail aftermath)
      | none => (true, written)
  commit := fun state =>
    match state.fault with
    | some aftermath => (false, state.next.fail aftermath)
    | none => (true, state.next)

variable {state : FaultySettingsStorage size} {aftermath : Aftermath} {offset : Nat}

theorem read_works (hfault : state.fault = none) (h : offset + count ≤ size) :
    (storage size).read offset count state =
      (some (block count state.area.toList offset), state.next) := by
  unfold storage
  dsimp only
  rw [hfault]
  dsimp only
  rw [if_neg (by omega)]

theorem read_fails (count offset : Nat) (hfault : state.fault = some aftermath) :
    (storage size).read offset count state = (none, state.next.fail aftermath) := by
  unfold storage
  dsimp only
  rw [hfault]

def put (state : FaultySettingsStorage size) (offset : Nat) (bytes : Vector UInt8 count) :
    FaultySettingsStorage size :=
  { state.next with
    area := patch state.area offset bytes
    written := some ⟨offset, state.area, patch state.area offset bytes⟩ }

theorem write_works (hfault : state.fault = none) (h : offset + count ≤ size)
    (bytes : Vector UInt8 count) :
    (storage size).write offset bytes state = (true, state.put offset bytes) := by
  unfold storage
  dsimp only
  rw [hfault, if_neg (by simp [Vector.size]; omega)]
  rfl

theorem write_fails (hfault : state.fault = some aftermath) (h : offset + count ≤ size)
    (bytes : Vector UInt8 count) :
    (storage size).write offset bytes state =
      (false, (state.put offset bytes).fail aftermath) := by
  unfold storage
  dsimp only
  rw [hfault, if_neg (by simp [Vector.size]; omega)]
  rfl

theorem commit_works (hfault : state.fault = none) :
    (storage size).commit state = (true, state.next) := by
  unfold storage
  dsimp only
  rw [hfault]

theorem commit_fails (hfault : state.fault = some aftermath) :
    (storage size).commit state = (false, state.next.fail aftermath) := by
  unfold storage
  dsimp only
  rw [hfault]

theorem fail_unwritten (h : state.written = none) : (state.fail aftermath).area = state.area := by
  unfold fail
  rw [h]

theorem fail_attempted (hsize : requiredCapacity ≤ size) {area : Vector UInt8 size}
    {record : Record} {entry : DecodedRecord} (hrecord : decodeRecord record = some entry)
    {target : Nat} (htarget : target = slotIndex ((journalOf area).target generations) * slotSize)
    (hwritten : state.written = some ⟨target, area, patch area target record⟩) :
    Journal.Attempted generations (journalOf area) entry
      (journalOf (state.fail aftermath).area) := by
  unfold fail
  rw [hwritten]
  cases aftermath with
  | unchanged => exact .unchanged
  | complete =>
    dsimp only
    rw [htarget, journalOf_patch hsize, hrecord]
    exact .complete
  | torn bytes invalid =>
    dsimp only
    rw [htarget, journalOf_patch hsize, invalid]
    exact .torn

/-- What a save does to a journal, and when it says so. -/
structure SaveOf (settings : UserSettings) (before : Journal DecodedRecord) (saved : Bool)
    (after : Journal DecodedRecord) : Prop where
  attempted : Journal.Attempted generations before (nextRecord before settings) after
  complete : saved = true →
    after = before.put (before.target generations) (some (nextRecord before settings))

theorem SaveOf.failed {settings : UserSettings} {before after : Journal DecodedRecord}
    (h : Journal.Attempted generations before (nextRecord before settings) after) :
    SaveOf settings before false after :=
  ⟨h, fun hsaved => Bool.noConfusion hsaved⟩

theorem storeRecord_saves (hsize : requiredCapacity ≤ size) {area : Vector UInt8 size}
    (harea : state.area = area) {settings : UserSettings} {record : Record}
    (hrecord : decodeRecord record = some (nextRecord (journalOf area) settings)) :
    let stored := storeRecord (storage size) settings
      (slotIndex ((journalOf area).target generations))
      ((journalOf area).nextGeneration generations) record state
    SaveOf settings (journalOf area) stored.1 (journalOf stored.2.area) := by
  rw [← harea] at hrecord ⊢
  have hinside := slot_inside hsize ((journalOf state.area).target generations)
  generalize htarget : slotIndex ((journalOf state.area).target generations) = target at hinside
  cases hwrite : state.fault with
  | some aftermath =>
    rw [storeRecord_of_unwritten (write_fails hwrite hinside record)]
    exact .failed (fail_attempted hsize hrecord (by rw [htarget]) rfl)
  | none =>
    have hwritten := write_works hwrite hinside record
    cases hcommit : (state.put (target * slotSize) record).fault with
    | some aftermath =>
      rw [storeRecord_of_uncommitted hwritten (commit_fails hcommit)]
      exact .failed (fail_attempted hsize hrecord (by rw [htarget]) rfl)
    | none =>
      have hcommitted := commit_works hcommit
      cases hread : (state.put (target * slotSize) record).next.fault with
      | some aftermath =>
        rw [storeRecord_of_unreadable hwritten hcommitted (read_fails _ _ hread)]
        exact .failed (fail_attempted hsize hrecord (by rw [htarget]) rfl)
      | none =>
        have hverified := read_works hread hinside
        have hblock : block recordSize
            (state.put (target * slotSize) record).next.area.toList (target * slotSize) = record :=
          block_patch state.area record hinside
        have hjournal : journalOf (patch state.area (target * slotSize) record) =
            (journalOf state.area).put ((journalOf state.area).target generations)
              (some (nextRecord (journalOf state.area) settings)) := by
          rw [← htarget, journalOf_patch hsize, hrecord]
        rw [hblock] at hverified
        rw [storeRecord_of_works hrecord hwritten hcommitted hverified]
        change SaveOf settings _ true (journalOf (patch state.area (target * slotSize) record))
        rw [hjournal]
        exact ⟨.complete, fun _ => rfl⟩

theorem save_saves (hsize : requiredCapacity ≤ size) (state : FaultySettingsStorage size)
    (settings : UserSettings) (hfresh : state.written = none) :
    let saved := save (storage size) settings state
    SaveOf settings (journalOf state.area) saved.1 (journalOf saved.2.area) := by
  cases hvalid : (validateUserSettings settings).valid with
  | false =>
    rw [save_of_refused hvalid]
    exact .failed .unchanged
  | true =>
    cases hfirst : state.fault with
    | some aftermath =>
      have hnext : state.next.written = none := hfresh
      rw [save_of_first_unreadable hsize hvalid (read_fails _ _ hfirst)]
      dsimp only
      rw [fail_unwritten hnext]
      exact .failed .unchanged
    | none =>
      have hread := read_works hfirst (slot_inside hsize .first)
      cases hsecond : state.next.fault with
      | some aftermath =>
        have hnext : state.next.next.written = none := hfresh
        rw [save_of_second_unreadable hsize hvalid hread (read_fails _ _ hsecond)]
        dsimp only
        rw [fail_unwritten hnext]
        exact .failed .unchanged
      | none =>
        have hreads : ReadsSlots (storage size) (journalOf state.area) state state.next.next :=
          ⟨hsize, _, _, state.next, hread, read_works hsecond (slot_inside hsize .second), rfl⟩
        obtain ⟨record, hrecord, hsave⟩ := save_of_reads hvalid hreads
        have harea : state.next.next.area = state.area := rfl
        have hstored := storeRecord_saves hsize harea hrecord
        rw [hsave]
        exact hstored

/-- A save, and which of its calls to the storage fail. -/
structure Attempt where
  settings : UserSettings
  faults : List (Option Aftermath)

def machine (size : Nat) : Machine (Vector UInt8 size) Attempt Bool :=
  fun area attempt =>
    let (saved, after) := save (storage size) attempt.settings { area, faults := attempt.faults }
    (saved, after.area)

def loads (area : Vector UInt8 size) : Option UserSettings := (load (storage size) { area }).1

theorem loads_eq (hsize : requiredCapacity ≤ size) (area : Vector UInt8 size) :
    loads area = loaded (journalOf area) := by
  have hreads : ReadsSlots (storage size) (journalOf area) { area } { area } :=
    ⟨hsize, _, _, { area }, read_works rfl (slot_inside hsize .first),
      read_works rfl (slot_inside hsize .second), rfl⟩
  rw [loads, load_of_reads hreads]

/-- What a load returns after one more attempt. -/
theorem loads_step (hsize : requiredCapacity ≤ size) (area : Vector UInt8 size)
    (attempt : Attempt) :
    (loads (machine size area attempt).2 = loads area ∨
        loads (machine size area attempt).2 = some attempt.settings) ∧
      ((machine size area attempt).1 = true →
        loads (machine size area attempt).2 = some attempt.settings) := by
  have hsaves : SaveOf attempt.settings (journalOf area) (machine size area attempt).1
      (journalOf (machine size area attempt).2) :=
    save_saves hsize { area, faults := attempt.faults } attempt.settings rfl
  rw [loads_eq hsize, loads_eq hsize]
  generalize machine size area attempt = result at hsaves
  constructor
  · have hcurrent := hsaves.attempted.current (generation_nextRecord _ _)
    unfold loaded
    cases hcurrent with
    | inl hsame => exact .inl (by rw [hsame])
    | inr hnext => exact .inr (by rw [hnext]; rfl)
  · intro hsaved
    rw [hsaves.complete hsaved, loaded_put_nextRecord]

abbrev Call (size : Nat) := Step (Vector UInt8 size) Attempt Bool

def settingsOf (call : Call size) : UserSettings := call.input.settings

/-- A load returns settings of a save that is not older than any successful one. -/
def Recent (area : Vector UInt8 size) (past : List (Call size)) : Prop :=
  ∀ earlier saved since, past = earlier ++ saved :: since → saved.output = true →
    ∃ settings, loads area = some settings ∧ settings ∈ (saved :: since).map settingsOf

theorem Recent.step (hsize : requiredCapacity ≤ size) {area : Vector UInt8 size}
    {past : List (Call size)} (h : Recent area past) (attempt : Attempt) :
    Recent (machine size area attempt).2 (past ++ [(machine size).stepOf area attempt]) := by
  obtain ⟨hkept, hsuccess⟩ := loads_step hsize area attempt
  intro earlier saved since hpast houtput
  cases concat_eq_append_cons hpast with
  | inl hlast =>
    rw [← hlast.1] at houtput ⊢
    exact ⟨attempt.settings, hsuccess houtput, List.mem_cons_self⟩
  | inr hmore =>
    obtain ⟨between, hsince, hbefore⟩ := hmore
    rw [hsince, ← List.cons_append, List.map_append]
    cases hkept with
    | inl hsame =>
      obtain ⟨settings, hloads, hmem⟩ := h earlier saved between hbefore houtput
      exact ⟨settings, hsame.trans hloads, List.mem_append_left _ hmem⟩
    | inr hnew =>
      exact ⟨attempt.settings, hnew, List.mem_append_right _ List.mem_cons_self⟩

/-- Whatever the area held and whichever calls fail: after a successful save a
load returns settings of that save or of a later one, and a save that fails
leaves what was loaded before or its own settings. -/
theorem survives_power_loss (hsize : requiredCapacity ≤ size) (area : Vector UInt8 size)
    (attempts : List Attempt) :
    (∀ earlier saved since,
        (machine size).transcript area attempts = earlier ++ saved :: since →
        saved.output = true →
        ∃ settings, loads ((machine size).final area attempts) = some settings ∧
          settings ∈ (saved :: since).map settingsOf) ∧
      ∀ call ∈ (machine size).transcript area attempts, call.output = false →
        loads call.after = loads call.before ∨ loads call.after = some (settingsOf call) := by
  constructor
  · apply (machine size).history_induction Recent
    · intro earlier saved since hpast
      simp at hpast
    · intro area past h attempt
      exact h.step hsize attempt
  · intro call hcall houtput
    obtain ⟨past, future, hsplit⟩ := List.append_of_mem hcall
    obtain ⟨earlier, attempt, later, -, -, hstep⟩ := (machine size).transcript_split hsplit
    rw [hstep]
    exact (loads_step hsize _ attempt).1

/-- A save into an erased area, and one that tears its slot while it commits. -/
theorem survives_power_loss_tornCommit :
    let area : Vector UInt8 128 := Vector.replicate 128 0xFF
    let torn : Aftermath := .torn (Vector.replicate 56 0) (by decide)
    let attempts : List Attempt :=
      [⟨{}, []⟩, ⟨{ lockPressCount := 4 }, [none, none, none, some torn]⟩]
    (∀ earlier saved since,
        (machine 128).transcript area attempts = earlier ++ saved :: since →
        saved.output = true →
        ∃ settings, loads ((machine 128).final area attempts) = some settings ∧
          settings ∈ (saved :: since).map settingsOf) ∧
      ∀ call ∈ (machine 128).transcript area attempts, call.output = false →
        loads call.after = loads call.before ∨ loads call.after = some (settingsOf call) := by
  intro area torn attempts
  exact survives_power_loss (by decide) area attempts

end FaultySettingsStorage

end BmwRemote.Infrastructure
