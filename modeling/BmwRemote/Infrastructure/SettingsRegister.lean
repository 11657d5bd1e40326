import BmwRemote.Infrastructure.EspIdfSettings
import BmwRemote.Infrastructure.SettingsRefinement

/-! What the journal over flash is for: one register that survives a restart. The
journal, its slots, its two images and their commits refine it. -/
namespace BmwRemote.Infrastructure

open BmwRemote.Application BmwRemote.Lib JournaledUserSettingsStore

/-- The settings that survive a restart, and what this power session loads, if its
storage could be opened. -/
structure SettingsRegister where
  durable : Option UserSettings
  session : Option (Option UserSettings) := none
  outcome : NvsOutcome := ⟨true, true, true⟩

namespace SettingsRegister

def save (settings : UserSettings) (register : SettingsRegister) : Bool × SettingsRegister :=
  if register.session.isNone || !(validateUserSettings settings).valid then (false, register)
  else if register.outcome.works then
    (true, { register with durable := some settings, session := some (some settings) })
  else
    (false, { register with
      durable := if register.outcome.storesGiven then some settings else register.durable })

def store : UserSettingsStore SettingsRegister where
  load register := (register.session.join, register)
  save := save

def restart (opened readable : Bool) (register : SettingsRegister) : SettingsRegister :=
  { register with session := if opened && readable then some register.durable else none }

end SettingsRegister

namespace NvsWorld

variable {world : NvsWorld} {durable image : StorageImage} {outcome : NvsOutcome}
  {settings : UserSettings}

/-- A new power session: a new storage object, which may fail to begin. -/
def restart (opened readable : Bool) (world : NvsWorld) : NvsWorld :=
  { world with
    storage := (EspIdfNvsSettingsStorage.begin opened
      (if readable then .found requiredCapacity world.durable else .failed) {}).2 }

theorem restart_of_works (world : NvsWorld) : world.restart true true = world.reboot := rfl

theorem restart_of_fails {opened readable : Bool} (h : (opened && readable) = false)
    (world : NvsWorld) : (world.restart opened readable).storage.ready = false := by
  unfold restart EspIdfNvsSettingsStorage.begin
  cases opened with
  | false => rfl
  | true =>
    rw [Bool.true_and] at h
    rw [h]
    rfl

theorem not_ready_read (h : world.storage.ready = false) (offset size : Nat) :
    byteStorage.read offset size world = (none, world) := by
  change world.read offset size = _
  simp [read, h]

theorem load_of_not_ready (h : world.storage.ready = false) :
    load byteStorage world = (none, world) := by
  have hcapacity : ¬ byteStorage.capacity world < requiredCapacity :=
    Nat.not_lt.2 (Nat.le_refl requiredCapacity)
  unfold load
  rw [if_neg hcapacity, readRecord_none (not_ready_read h _ _)]
  dsimp only
  rw [readRecord_none (not_ready_read h _ _)]
  rfl

theorem save_of_not_ready (h : world.storage.ready = false) (settings : UserSettings) :
    save byteStorage settings world = (false, world) := by
  cases hvalid : (validateUserSettings settings).valid with
  | false => exact save_of_refused hvalid
  | true => exact save_of_first_unreadable (Nat.le_refl _) hvalid (not_ready_read h _ _)

theorem save_of_valid (durable image : StorageImage) (outcome : NvsOutcome)
    (hvalid : (validateUserSettings settings).valid = true) :
    ∃ record, decodeRecord record = some (nextRecord (journalOf image) settings) ∧
      save byteStorage settings ⟨durable, .holding image, outcome⟩ =
        if outcome.works then
          (true, ⟨given image record, .holding (given image record), outcome⟩)
        else
          (false, ⟨if outcome.storesGiven then given image record else durable,
            .holding image, outcome⟩) := by
  have hreads : ReadsSlots byteStorage (journalOf image) ⟨durable, .holding image, outcome⟩
      ⟨durable, .holding image, outcome⟩ :=
    readsSlots ⟨durable, .holding image, outcome⟩ rfl
  obtain ⟨record, hrecord, hsave⟩ := save_of_reads hvalid hreads
  have hinside := slot_inside (Nat.le_refl requiredCapacity)
    ((journalOf image).target generations)
  have hwrite := write_holding durable image outcome hinside record
  have hcommit := commit_writing durable image (given image record) outcome
  refine ⟨record, hrecord, ?_⟩
  rw [hsave]
  cases hworks : outcome.works with
  | false =>
    rw [hworks, if_neg (by decide)] at hcommit
    rw [storeRecord_of_uncommitted hwrite hcommit]
    rfl
  | true =>
    rw [hworks, if_pos rfl] at hcommit
    have hblock : block recordSize (given image record).toList
        (slotIndex ((journalOf image).target generations) * slotSize) = record :=
      block_patch image record hinside
    have hread : byteStorage.read (slotIndex ((journalOf image).target generations) * slotSize)
        recordSize ⟨given image record, .holding (given image record), outcome⟩ =
        (some record, ⟨given image record, .holding (given image record), outcome⟩) := by
      rw [read_inside rfl hinside]
      dsimp only [EspIdfNvsSettingsStorage.holding]
      rw [hblock]
    rw [storeRecord_of_works hrecord hwrite hcommit hread, if_pos rfl]

def register (world : NvsWorld) : SettingsRegister where
  durable := loaded (journalOf world.durable)
  session := if world.storage.ready then some (loaded (journalOf world.storage.committed)) else none
  outcome := world.outcome

def Settled (world : NvsWorld) : Prop := world.storage.ready = true → world.Clean

/-- The flash is settled, and stands for this register. -/
def Refines (world : NvsWorld) (register : SettingsRegister) : Prop :=
  world.Settled ∧ world.register = register

theorem settled_holding (durable image : StorageImage) (outcome : NvsOutcome) :
    Settled ⟨durable, .holding image, outcome⟩ := fun _ => rfl

theorem Settled.cases (h : world.Settled) :
    world.storage.ready = false ∨
      ∃ durable image outcome, world = ⟨durable, .holding image, outcome⟩ := by
  cases hready : world.storage.ready with
  | false => exact .inl rfl
  | true =>
    obtain ⟨durable, storage, outcome⟩ := world
    exact .inr ⟨durable, storage.committed, outcome, congrArg (NvsWorld.mk durable · outcome) (h hready)⟩

theorem load_refines {register : SettingsRegister} (h : world.Refines register) :
    Alike Refines (load byteStorage world) (SettingsRegister.store.load register) := by
  obtain ⟨hsettled, rfl⟩ := h
  cases hready : world.storage.ready with
  | false =>
    have hsession : world.register.session = none := by simp [NvsWorld.register, hready]
    rw [load_of_not_ready hready]
    refine ⟨?_, hsettled, rfl⟩
    change none = world.register.session.join
    rw [hsession]
    rfl
  | true =>
    have hsession : world.register.session = some (loaded (journalOf world.storage.committed)) := by
      simp [NvsWorld.register, hready]
    rw [load_eq world hready]
    refine ⟨?_, hsettled, rfl⟩
    change _ = world.register.session.join
    rw [hsession]
    rfl

theorem save_refines {register : SettingsRegister} (h : world.Refines register)
    (settings : UserSettings) :
    Alike Refines (save byteStorage settings world) (register.save settings) := by
  obtain ⟨hsettled, rfl⟩ := h
  rcases hsettled.cases with hready | ⟨durable, image, outcome, rfl⟩
  · have hsession : world.register.session = none := by simp [NvsWorld.register, hready]
    rw [save_of_not_ready hready]
    unfold SettingsRegister.save
    rw [hsession]
    exact ⟨rfl, hsettled, rfl⟩
  unfold SettingsRegister.save
  cases hvalid : (validateUserSettings settings).valid with
  | false =>
    rw [save_of_refused hvalid]
    exact ⟨rfl, hsettled, rfl⟩
  | true =>
    obtain ⟨record, hrecord, hsave⟩ := save_of_valid durable image outcome hvalid
    have hloaded := loaded_given hrecord
    have hsession : (register ⟨durable, .holding image, outcome⟩).session.isNone = false := rfl
    have houtcome : (register ⟨durable, .holding image, outcome⟩).outcome = outcome := rfl
    rw [hsave, hsession, houtcome]
    cases outcome.works with
    | true =>
      refine ⟨rfl, settled_holding _ _ _, ?_⟩
      simp [register, EspIdfNvsSettingsStorage.holding, hloaded]
    | false =>
      refine ⟨rfl, settled_holding _ _ _, ?_⟩
      cases outcome.storesGiven with
      | true => simp [register, EspIdfNvsSettingsStorage.holding, hloaded]
      | false => simp [register, EspIdfNvsSettingsStorage.holding]

/-- The journal over the flash answers as the register does. -/
theorem store_simulates :
    (JournaledUserSettingsStore.store byteStorage).Simulates Refines SettingsRegister.store where
  load _ _ h := load_refines h
  save settings _ _ h := save_refines h settings

theorem restart_refines {register : SettingsRegister} (h : world.Refines register)
    (opened readable : Bool) :
    (world.restart opened readable).Refines (register.restart opened readable) := by
  obtain ⟨-, rfl⟩ := h
  cases hworks : opened && readable with
  | false =>
    have hready := restart_of_fails hworks world
    refine ⟨fun hready' => absurd hready' (by simp [hready]), ?_⟩
    simp [NvsWorld.register, SettingsRegister.restart, hready, hworks]
    exact ⟨rfl, rfl⟩
  | true =>
    obtain ⟨rfl, rfl⟩ := Bool.and_eq_true_iff.1 hworks
    have hstorage := reboot_storage world
    rw [restart_of_works]
    constructor
    · intro _
      unfold Clean
      rw [hstorage]
      rfl
    · simp [NvsWorld.register, SettingsRegister.restart, hstorage, EspIdfNvsSettingsStorage.holding]
      exact ⟨rfl, rfl⟩

end NvsWorld

end BmwRemote.Infrastructure
