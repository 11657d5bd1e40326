import BmwRemote.Infrastructure.SettingsJournal

/-! The settings journal over a blob in flash: one image that is committed, one
that is being written, and the durable one, across failures and reboots. -/
namespace BmwRemote.Infrastructure

open BmwRemote.Application BmwRemote.Lib JournaledUserSettingsStore

abbrev StorageImage := Vector UInt8 requiredCapacity

structure EspIdfNvsSettingsStorage where
  committed : StorageImage := Vector.replicate _ 0
  pending : StorageImage := Vector.replicate _ 0
  ready : Bool := false
  dirty : Bool := false

inductive NvsBlob where
  | found (size : Nat) (bytes : Vector UInt8 size)
  | notFound
  | failed

namespace EspIdfNvsSettingsStorage

def erased : StorageImage := Vector.replicate _ 0xFF

def holding (image : StorageImage) : EspIdfNvsSettingsStorage where
  committed := image
  pending := image
  ready := true
  dirty := false

def begin (opened : Bool) (blob : NvsBlob) (storage : EspIdfNvsSettingsStorage) :
    Bool × EspIdfNvsSettingsStorage :=
  if storage.ready then (true, storage)
  else if !opened then (false, storage)
  else
    match blob with
    | .failed => (false, { storage with committed := erased })
    | .notFound => (true, holding erased)
    | .found size bytes =>
        let committed := patch erased 0 bytes
        if size ≠ requiredCapacity then (false, { storage with committed })
        else (true, holding committed)

def validRange (offset size : Nat) : Bool :=
  decide (offset ≤ requiredCapacity) && decide (size ≤ requiredCapacity - offset)

end EspIdfNvsSettingsStorage

/-- What the flash makes of one commit. When one of the two calls fails, the
durable blob is the given one or the old one. -/
structure NvsOutcome where
  blobSet : Bool
  committed : Bool
  storesGiven : Bool

def NvsOutcome.works (outcome : NvsOutcome) : Bool := outcome.blobSet && outcome.committed

/-- The durable blob, the storage over it, and what the flash will answer next. -/
structure NvsWorld where
  durable : StorageImage
  storage : EspIdfNvsSettingsStorage
  outcome : NvsOutcome := ⟨true, true, true⟩

namespace NvsWorld

def read (offset size : Nat) (world : NvsWorld) : Option (Vector UInt8 size) × NvsWorld :=
  if !world.storage.ready || !EspIdfNvsSettingsStorage.validRange offset size then (none, world)
  else (some (block size world.storage.committed.toList offset), world)

def write {size : Nat} (offset : Nat) (source : Vector UInt8 size) (world : NvsWorld) :
    Bool × NvsWorld :=
  if !world.storage.ready || !EspIdfNvsSettingsStorage.validRange offset size then (false, world)
  else
    (true, { world with storage :=
      { world.storage with
        pending := patch world.storage.pending offset source
        dirty := world.storage.dirty || size != 0 } })

def commit (world : NvsWorld) : Bool × NvsWorld :=
  if !world.storage.ready then (false, world)
  else if !world.storage.dirty then (true, world)
  else if !world.outcome.works then
    (false, { world with
      durable := if world.outcome.storesGiven then world.storage.pending else world.durable
      storage := { world.storage with pending := world.storage.committed, dirty := false } })
  else
    (true, { world with
      durable := world.storage.pending
      storage := { world.storage with committed := world.storage.pending, dirty := false } })

def byteStorage : SettingsByteStorage NvsWorld where
  capacity := fun _ => requiredCapacity
  read := read
  write := write
  commit := commit

def reboot (world : NvsWorld) : NvsWorld :=
  { world with
    storage :=
      (EspIdfNvsSettingsStorage.begin true (.found requiredCapacity world.durable) {}).2 }

/-- Between its calls the storage holds one image, with nothing to commit. -/
def Clean (world : NvsWorld) : Prop :=
  world.storage = EspIdfNvsSettingsStorage.holding world.storage.committed

variable {world : NvsWorld} {image : StorageImage} {size offset : Nat}

theorem validRange_inside (h : offset + size ≤ requiredCapacity) :
    EspIdfNvsSettingsStorage.validRange offset size = true := by
  unfold EspIdfNvsSettingsStorage.validRange
  rw [Bool.and_eq_true, decide_eq_true_eq, decide_eq_true_eq]
  omega

theorem read_inside (hready : world.storage.ready = true) (h : offset + size ≤ requiredCapacity) :
    byteStorage.read offset size world =
      (some (block size world.storage.committed.toList offset), world) := by
  change world.read offset size = _
  unfold read
  rw [hready, validRange_inside h]
  rfl

theorem readsSlots (world : NvsWorld) (hready : world.storage.ready = true) :
    ReadsSlots byteStorage (journalOf world.storage.committed) world world where
  capacity := Nat.le_refl requiredCapacity
  reads := ⟨_, _, world, read_inside hready (slot_inside (Nat.le_refl _) .first),
    read_inside hready (slot_inside (Nat.le_refl _) .second), rfl⟩

theorem reboot_storage (world : NvsWorld) :
    world.reboot.storage = EspIdfNvsSettingsStorage.holding world.durable := by
  have hpatch : patch EspIdfNvsSettingsStorage.erased 0 world.durable = world.durable := by
    apply Vector.ext
    intro index hindex
    simp [patch]
  unfold reboot EspIdfNvsSettingsStorage.begin
  simp [hpatch]

def given (image : StorageImage) (record : Record) : StorageImage :=
  patch image (slotIndex ((journalOf image).target generations) * slotSize) record

theorem loaded_given {settings : UserSettings} {record : Record}
    (hrecord : decodeRecord record = some (nextRecord (journalOf image) settings)) :
    loaded (journalOf (given image record)) = some settings := by
  unfold given
  rw [journalOf_patch (Nat.le_refl _), hrecord, loaded_put_nextRecord]

inductive Saved (settings : UserSettings) (world : NvsWorld) : Bool × NvsWorld → Prop
  | refused : Saved settings world (false, world)
  | failed (record : Record)
      (hrecord : decodeRecord record =
        some (nextRecord (journalOf world.storage.committed) settings))
      (durable : StorageImage)
      (hdurable : durable = world.durable ∨ durable = given world.storage.committed record) :
      Saved settings world (false, { world with durable })
  | stored (record : Record)
      (hrecord : decodeRecord record =
        some (nextRecord (journalOf world.storage.committed) settings)) :
      Saved settings world (true, { world with
        durable := given world.storage.committed record
        storage := EspIdfNvsSettingsStorage.holding (given world.storage.committed record) })

def writing (image record : StorageImage) : EspIdfNvsSettingsStorage where
  committed := image
  pending := record
  ready := true
  dirty := true

theorem write_holding (durable image : StorageImage) (outcome : NvsOutcome)
    (h : offset + recordSize ≤ requiredCapacity) (record : Record) :
    byteStorage.write offset record ⟨durable, .holding image, outcome⟩ =
      (true, ⟨durable, writing image (patch image offset record), outcome⟩) := by
  change write offset record _ = _
  unfold write
  rw [validRange_inside h]
  rfl

theorem commit_writing (durable image pending : StorageImage) (outcome : NvsOutcome) :
    byteStorage.commit ⟨durable, writing image pending, outcome⟩ =
      if outcome.works then (true, ⟨pending, .holding pending, outcome⟩)
      else (false, ⟨if outcome.storesGiven then pending else durable, .holding image, outcome⟩) := by
  unfold byteStorage commit
  cases hworks : outcome.works with
  | false => simp [writing, hworks, EspIdfNvsSettingsStorage.holding]
  | true => simp [writing, hworks, EspIdfNvsSettingsStorage.holding]

theorem save_holding (durable image : StorageImage) (outcome : NvsOutcome) (settings : UserSettings) :
    Saved settings ⟨durable, .holding image, outcome⟩
      (save byteStorage settings ⟨durable, .holding image, outcome⟩) := by
  cases hvalid : (validateUserSettings settings).valid with
  | false =>
    rw [save_of_refused hvalid]
    exact .refused
  | true =>
    have hreads : ReadsSlots byteStorage (journalOf image) ⟨durable, .holding image, outcome⟩
        ⟨durable, .holding image, outcome⟩ :=
      readsSlots ⟨durable, .holding image, outcome⟩ rfl
    obtain ⟨record, hrecord, hsave⟩ := save_of_reads hvalid hreads
    have hinside := slot_inside (Nat.le_refl requiredCapacity)
      ((journalOf image).target generations)
    have hwrite := write_holding durable image outcome hinside record
    have hcommit := commit_writing durable image (given image record) outcome
    rw [hsave]
    cases hworks : outcome.works with
    | false =>
      rw [hworks, if_neg (by decide)] at hcommit
      rw [storeRecord_of_uncommitted hwrite hcommit]
      have hdurable : (if outcome.storesGiven then given image record else durable) = durable ∨
          (if outcome.storesGiven then given image record else durable) = given image record := by
        cases outcome.storesGiven with
        | false => exact .inl rfl
        | true => exact .inr rfl
      exact @Saved.failed settings ⟨durable, .holding image, outcome⟩ record hrecord _ hdurable
    | true =>
      rw [hworks, if_pos rfl] at hcommit
      have hread : byteStorage.read (slotIndex ((journalOf image).target generations) * slotSize)
          recordSize ⟨given image record, .holding (given image record), outcome⟩ =
          (some record, ⟨given image record, .holding (given image record), outcome⟩) := by
        have hblock : block recordSize (given image record).toList
            (slotIndex ((journalOf image).target generations) * slotSize) = record :=
          block_patch image record hinside
        rw [read_inside rfl hinside]
        dsimp only [EspIdfNvsSettingsStorage.holding]
        rw [hblock]
      rw [storeRecord_of_works hrecord hwrite hcommit hread]
      exact .stored record hrecord

inductive Input where
  | save (settings : UserSettings) (outcome : NvsOutcome)
  | load
  | reboot

inductive Answer where
  | saved (result : Bool)
  | loaded (settings : Option UserSettings)
  | rebooted
  deriving DecidableEq

def machine : Machine NvsWorld Input Answer
  | world, .save settings outcome =>
      let (result, after) := save byteStorage settings { world with outcome }
      (.saved result, after)
  | world, .load =>
      let (settings, after) := load byteStorage world
      (.loaded settings, after)
  | world, .reboot => (.rebooted, world.reboot)

def loads (world : NvsWorld) : Option UserSettings := (load byteStorage world).1

theorem load_eq (world : NvsWorld) (hready : world.storage.ready = true) :
    load byteStorage world = (loaded (journalOf world.storage.committed), world) :=
  load_of_reads (readsSlots world hready)

abbrev Call := Step NvsWorld Input Answer

def Attempts (settings : UserSettings) (call : Call) : Prop :=
  ∃ outcome, call.input = .save settings outcome

/-- The image holds settings that one of the calls attempted to save. -/
def Recent (image : StorageImage) (calls : List Call) : Prop :=
  ∃ settings, loaded (journalOf image) = some settings ∧ ∃ call ∈ calls, Attempts settings call

theorem Recent.more {calls : List Call} (h : Recent image calls) (call : Call) :
    Recent image (calls ++ [call]) := by
  obtain ⟨settings, hloaded, attempt, hmem, hattempt⟩ := h
  exact ⟨settings, hloaded, attempt, List.mem_append_left _ hmem, hattempt⟩

/-- Everything a call can do to the two images. -/
inductive Effect (world : NvsWorld) (input : Input) : Answer × NvsWorld → Prop
  | kept (answer : Answer) (hanswer : answer ≠ .saved true) (after : NvsWorld)
      (hstorage : after.storage = world.storage)
      (hdurable : after.durable = world.durable ∨ ∃ settings outcome,
        input = .save settings outcome ∧ loaded (journalOf after.durable) = some settings) :
      Effect world input (answer, after)
  | rebooted (hinput : input = .reboot) : Effect world input (.rebooted, world.reboot)
  | stored (settings : UserSettings) (outcome : NvsOutcome) (hinput : input = .save settings outcome)
      (image : StorageImage) (himage : loaded (journalOf image) = some settings) :
      Effect world input (.saved true, ⟨image, .holding image, outcome⟩)

theorem machine_effect (hclean : world.Clean) (input : Input) :
    Effect world input (machine world input) := by
  obtain ⟨durable, storage, last⟩ := world
  have hstorage : storage = .holding storage.committed := hclean
  generalize storage.committed = image at hstorage
  subst hstorage
  cases input with
  | load =>
    have hload := load_eq ⟨durable, .holding image, last⟩ rfl
    unfold machine
    dsimp only
    rw [hload]
    exact .kept _ (by simp) _ rfl (.inl rfl)
  | reboot => exact .rebooted rfl
  | save settings outcome =>
    have hsave := save_holding durable image outcome settings
    unfold machine
    dsimp only
    generalize save byteStorage settings ⟨durable, .holding image, outcome⟩ = result at hsave
    cases hsave with
    | refused => exact .kept _ (by simp) _ rfl (.inl rfl)
    | failed record hrecord after hdurable =>
      refine .kept _ (by simp) _ rfl ?_
      cases hdurable with
      | inl hsame => exact .inl hsame
      | inr hgiven =>
        right
        refine ⟨settings, outcome, rfl, ?_⟩
        dsimp only
        rw [hgiven]
        exact loaded_given hrecord
    | stored record hrecord => exact .stored settings outcome rfl _ (loaded_given hrecord)

/-- What the storage and the flash hold after some calls. -/
structure Holds (world : NvsWorld) (past : List Call) : Prop where
  clean : world.Clean
  /-- After a successful save both images hold it or a later attempt. -/
  recent : ∀ earlier saved since, past = earlier ++ saved :: since →
    saved.output = .saved true →
    Recent world.storage.committed (saved :: since) ∧ Recent world.durable (saved :: since)
  /-- Until the next one, and without a reboot, it is the one that is loaded. -/
  latest : ∀ earlier saved since settings, past = earlier ++ saved :: since →
    Attempts settings saved → saved.output = .saved true →
    (∀ call ∈ since, call.input ≠ .reboot ∧ call.output ≠ .saved true) →
    loaded (journalOf world.storage.committed) = some settings

theorem Holds.kept {past : List Call} {call : Call} {after : NvsWorld} (h : Holds world past)
    (hanswer : call.output ≠ .saved true) (hstorage : after.storage = world.storage)
    (hdurable : after.durable = world.durable ∨ ∃ settings outcome,
      call.input = .save settings outcome ∧ loaded (journalOf after.durable) = some settings) :
    Holds after (past ++ [call]) := by
  constructor
  · unfold Clean
    rw [hstorage]
    exact h.clean
  · intro earlier saved since hpast houtput
    cases concat_eq_append_cons hpast with
    | inl hlast =>
      rw [← hlast.1] at houtput
      exact absurd houtput hanswer
    | inr hmore =>
      obtain ⟨between, hsince, hbefore⟩ := hmore
      obtain ⟨hcommitted, hflash⟩ := h.recent earlier saved between hbefore houtput
      rw [hsince, hstorage, ← List.cons_append]
      refine ⟨hcommitted.more call, ?_⟩
      cases hdurable with
      | inl hsame =>
        rw [hsame]
        exact hflash.more call
      | inr hnew =>
        obtain ⟨settings, outcome, hinput, hloaded⟩ := hnew
        exact ⟨settings, hloaded, call, by simp, outcome, hinput⟩
  · intro earlier saved since settings hpast hattempt houtput hquiet
    cases concat_eq_append_cons hpast with
    | inl hlast =>
      rw [← hlast.1] at houtput
      exact absurd houtput hanswer
    | inr hmore =>
      obtain ⟨between, hsince, hbefore⟩ := hmore
      rw [hstorage]
      apply h.latest earlier saved between settings hbefore hattempt houtput
      intro later hlater
      exact hquiet later (hsince ▸ List.mem_append_left _ hlater)

theorem Holds.rebooted {past : List Call} {call : Call} (h : Holds world past)
    (hinput : call.input = .reboot) (hanswer : call.output = .rebooted) :
    Holds world.reboot (past ++ [call]) := by
  have hstorage := reboot_storage world
  have hcommitted : world.reboot.storage.committed = world.durable := by
    rw [hstorage]
    rfl
  have hdurable : world.reboot.durable = world.durable := rfl
  constructor
  · unfold Clean
    rw [hcommitted, hstorage]
  · intro earlier saved since hpast houtput
    cases concat_eq_append_cons hpast with
    | inl hlast => simp [← hlast.1, hanswer] at houtput
    | inr hmore =>
      obtain ⟨between, hsince, hbefore⟩ := hmore
      have hflash := (h.recent earlier saved between hbefore houtput).2
      rw [hsince, hcommitted, hdurable, ← List.cons_append]
      exact ⟨hflash.more call, hflash.more call⟩
  · intro earlier saved since settings hpast hattempt houtput hquiet
    cases concat_eq_append_cons hpast with
    | inl hlast => simp [← hlast.1, hanswer] at houtput
    | inr hmore =>
      obtain ⟨between, hsince, -⟩ := hmore
      exact absurd hinput (hquiet call (by simp [hsince])).1

theorem holds_stored {call : Call} {settings : UserSettings} {outcome : NvsOutcome}
    (past : List Call) (hinput : call.input = .save settings outcome)
    (hanswer : call.output = .saved true) (himage : loaded (journalOf image) = some settings) :
    Holds ⟨image, .holding image, outcome⟩ (past ++ [call]) := by
  have hattempts : Attempts settings call := ⟨outcome, hinput⟩
  constructor
  · rfl
  · intro earlier saved since hpast houtput
    have hrecent : Recent image (saved :: since) := by
      refine ⟨settings, himage, call, ?_, hattempts⟩
      cases concat_eq_append_cons hpast with
      | inl hlast => simp [hlast.1]
      | inr hmore =>
        obtain ⟨between, hsince, -⟩ := hmore
        simp [hsince]
    exact ⟨hrecent, hrecent⟩
  · intro earlier saved since latest hpast hattempt houtput hquiet
    cases concat_eq_append_cons hpast with
    | inl hlast =>
      obtain ⟨other, hother⟩ := hattempt
      rw [← hlast.1, hinput] at hother
      cases hother
      exact himage
    | inr hmore =>
      obtain ⟨between, hsince, -⟩ := hmore
      exact absurd hanswer (hquiet call (by simp [hsince])).2

theorem Holds.step {past : List Call} (h : Holds world past) (input : Input) :
    Holds (machine world input).2 (past ++ [machine.stepOf world input]) := by
  have heffect := machine_effect h.clean input
  unfold Machine.stepOf
  generalize machine world input = result at heffect
  cases heffect with
  | kept answer hanswer after hstorage hdurable => exact h.kept hanswer hstorage hdurable
  | rebooted hinput => exact h.rebooted hinput rfl
  | stored settings outcome hinput image himage => exact holds_stored past hinput rfl himage

def boot (blob : StorageImage) : NvsWorld := reboot { durable := blob, storage := {} }

theorem boot_clean (blob : StorageImage) : (boot blob).Clean := by
  have hstorage := reboot_storage { durable := blob, storage := {} }
  unfold Clean boot
  rw [hstorage]
  rfl

theorem holds (blob : StorageImage) (inputs : List Input) :
    Holds (machine.final (boot blob) inputs) (machine.transcript (boot blob) inputs) := by
  apply machine.history_induction Holds
  · refine ⟨boot_clean blob, ?_, ?_⟩
    · intro earlier saved since hpast
      simp at hpast
    · intro earlier saved since settings hpast
      simp at hpast
  · intro world past h input
    exact h.step input

theorem failed_save (hclean : world.Clean) {input : Input}
    (h : (machine world input).1 = .saved false) :
    (machine world input).2.storage = world.storage := by
  have heffect := machine_effect hclean input
  generalize machine world input = result at heffect h
  cases heffect with
  | kept answer hanswer after hstorage hdurable => exact hstorage
  | rebooted hinput => cases h
  | stored settings outcome hinput image himage => cases h

theorem save_gives (hclean : world.Clean) (settings : UserSettings) (outcome : NvsOutcome) :
    (machine world (.save settings outcome)).2.durable = world.durable ∨
      ∃ record, decodeRecord record =
          some (nextRecord (journalOf world.storage.committed) settings) ∧
        (machine world (.save settings outcome)).2.durable =
          given world.storage.committed record := by
  obtain ⟨durable, storage, last⟩ := world
  have hstorage : storage = .holding storage.committed := hclean
  generalize storage.committed = image at hstorage
  subst hstorage
  have hsave := save_holding durable image outcome settings
  unfold machine
  dsimp only
  generalize save byteStorage settings ⟨durable, .holding image, outcome⟩ = result at hsave
  cases hsave with
  | refused => exact .inl rfl
  | failed record hrecord after hdurable =>
    cases hdurable with
    | inl hsame => exact .inl hsame
    | inr hgiven => exact .inr ⟨record, hrecord, hgiven⟩
  | stored record hrecord => exact .inr ⟨record, hrecord, rfl⟩

theorem loads_eq (h : world.Clean) :
    loads world = loaded (journalOf world.storage.committed) := by
  have hready : world.storage.ready = true := by
    rw [h]
    rfl
  unfold loads
  rw [load_eq world hready]

/-- Over any calls, failures of the flash and reboots: a failed save changes
nothing that is loaded, a successful one is loaded until the next one and after
any reboot unless a later attempt is, and the image being written is neither
read nor committed by a later call. -/
theorem durable_settings (blob : StorageImage) (inputs : List Input) :
    let world := machine.final (boot blob) inputs
    let calls := machine.transcript (boot blob) inputs
    (∀ call ∈ calls, call.output = .saved false →
        loads call.after = loads call.before ∧ call.after.storage = call.before.storage) ∧
      (∀ earlier saved since settings, calls = earlier ++ saved :: since →
        Attempts settings saved → saved.output = .saved true →
        ((∀ call ∈ since, call.input ≠ .reboot ∧ call.output ≠ .saved true) →
            loads world = some settings) ∧
          ∃ recent, loads world = some recent ∧
            ∃ call ∈ saved :: since, Attempts recent call) ∧
      (∀ call ∈ calls, ∀ settings, Attempts settings call →
        call.after.durable = call.before.durable ∨
          ∃ record, decodeRecord record =
              some (nextRecord (journalOf call.before.storage.committed) settings) ∧
            call.after.durable = given call.before.storage.committed record) ∧
      world.storage.pending = world.storage.committed ∧ world.storage.dirty = false ∧
      ∀ pending dirty,
        loads { world with storage := { world.storage with pending, dirty } } = loads world := by
  intro world calls
  have hholds : Holds world calls := holds blob inputs
  have hcalls : ∀ call ∈ calls, call.before.Clean ∧
      call = machine.stepOf call.before call.input := by
    intro call hcall
    obtain ⟨past, future, hsplit⟩ := List.append_of_mem hcall
    have hat := machine.history_at Holds (holds blob []) (fun _ _ h => h.step) hsplit
    exact ⟨hat.1.clean, hat.2⟩
  refine ⟨?_, ?_, ?_, ?_, ?_, ?_⟩
  · intro call hcall houtput
    obtain ⟨hclean, hstep⟩ := hcalls call hcall
    have hafter : call.after.storage = call.before.storage := by
      rw [hstep] at houtput ⊢
      exact failed_save hclean houtput
    refine ⟨?_, hafter⟩
    have hclean' : call.after.Clean := by
      unfold Clean
      rw [hafter]
      exact hclean
    rw [loads_eq hclean', loads_eq hclean, hafter]
  · intro earlier saved since settings hsplit hattempt houtput
    rw [loads_eq hholds.clean]
    exact ⟨hholds.latest earlier saved since settings hsplit hattempt houtput,
      (hholds.recent earlier saved since hsplit houtput).1⟩
  · intro call hcall settings hattempt
    obtain ⟨hclean, hstep⟩ := hcalls call hcall
    obtain ⟨outcome, hinput⟩ := hattempt
    rw [hinput] at hstep
    have hgives := save_gives hclean settings outcome
    rw [hstep]
    exact hgives
  · rw [hholds.clean]
    rfl
  · rw [hholds.clean]
    rfl
  · intro pending dirty
    have hready : world.storage.ready = true := by
      rw [hholds.clean]
      rfl
    have hwriting := load_eq
      { world with storage := { world.storage with pending, dirty } } hready
    unfold loads
    rw [hwriting, load_eq world hready]

end NvsWorld

end BmwRemote.Infrastructure
