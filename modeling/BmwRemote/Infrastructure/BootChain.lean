import BmwRemote.Application.UserConfiguration
import BmwRemote.Infrastructure.SettingsStorage

/-! The boot: settings are loaded from the journal, validated again, and become
the configuration of the controller. Whatever the storage holds, the result is
within the limits, and only a valid record can enable the remote start. -/
namespace BmwRemote.Infrastructure.JournaledUserSettingsStore

open BmwRemote.Domain BmwRemote.Application BmwRemote.Lib

/-- A record with the magic, the version, the size and the checksum of the
format, whose payload decodes to `settings`. -/
structure Holds (record : Record) (settings : UserSettings) : Prop where
  magic : record.toList.take 4 = magic
  version : readU16 record.toList versionOffset = schemaVersion
  payloadSize : (readU16 record.toList payloadSizeOffset).toNat = userSettingsPayloadSize
  checksum : readU32 record.toList crcOffset = crc32 (record.toList.take crcOffset)
  payload : decodeUserSettingsPayload (block _ record.toList payloadOffset)
    userSettingsPayloadSize = some settings

theorem holds_of_decodeRecord {record : Record} {decoded : DecodedRecord}
    (h : decodeRecord record = some decoded) : Holds record decoded.settings := by
  unfold decodeRecord at h
  dsimp only at h
  split at h
  · cases h
  rename_i hmagic
  split at h
  · cases h
  rename_i hheader
  rw [Bool.or_eq_true, Bool.or_eq_true, not_or, not_or] at hheader
  have hsupported := hheader.1.1
  have hchecksum := hheader.2
  simp only [Bool.not_eq_true', Bool.not_eq_false, Bool.and_eq_true, beq_iff_eq] at hsupported
  simp only [bne_iff_ne, ne_eq, Decidable.not_not] at hchecksum
  rw [hsupported.2] at h hchecksum
  rw [Option.map_eq_some_iff] at h
  obtain ⟨settings, hpayload, hdecoded⟩ := h
  rw [← hdecoded]
  exact ⟨Decidable.not_not.1 hmagic, hsupported.1, hsupported.2, hchecksum, hpayload⟩

variable {S : Type}

def readableRecords (storage : SettingsByteStorage S) (state : S) : List Record :=
  let first := storage.read (0 * slotSize) recordSize state
  let second := storage.read (1 * slotSize) recordSize first.2
  first.1.toList ++ second.1.toList

theorem readRecord_eq (storage : SettingsByteStorage S) (slot : Nat) (state : S) :
    readRecord storage slot state =
      (((storage.read (slot * slotSize) recordSize state).1.isSome,
        (storage.read (slot * slotSize) recordSize state).1.bind decodeRecord),
        (storage.read (slot * slotSize) recordSize state).2) := by
  unfold readRecord
  cases storage.read (slot * slotSize) recordSize state with
  | mk record after => cases record <;> rfl

theorem holds_of_load {storage : SettingsByteStorage S} {state : S} {settings : UserSettings}
    (h : (load storage state).1 = some settings) :
    ∃ record ∈ readableRecords storage state, Holds record settings := by
  unfold load at h
  split at h
  · cases h
  simp only [readRecord_eq] at h
  unfold readableRecords
  dsimp only
  generalize storage.read (0 * slotSize) recordSize state = first at h ⊢
  generalize storage.read (1 * slotSize) recordSize first.2 = second at h ⊢
  rw [Option.map_eq_some_iff] at h
  have hdecoded := h.choose_spec
  generalize h.choose = decoded at hdecoded
  rw [← hdecoded.2]
  have hselected := hdecoded.1
  split at hselected
  · cases hselected
  have hread : ∃ record ∈ first.1.toList ++ second.1.toList,
      decodeRecord record = some decoded := by
    cases hslot : selectedSlot (first.1.bind decodeRecord) (second.1.bind decodeRecord) with
    | first =>
      rw [hslot, Journal.get, Option.bind_eq_some_iff] at hselected
      obtain ⟨record, hrecord, hdecode⟩ := hselected
      exact ⟨record, by simp [hrecord], hdecode⟩
    | second =>
      rw [hslot, Journal.get, Option.bind_eq_some_iff] at hselected
      obtain ⟨record, hrecord, hdecode⟩ := hselected
      exact ⟨record, by simp [hrecord], hdecode⟩
  obtain ⟨record, hmem, hdecode⟩ := hread
  exact ⟨record, hmem, holds_of_decodeRecord hdecode⟩

theorem loadUserSettingsFailSafe_cases {W : Type} (store : UserSettingsStore W) (world : W) :
    (∃ settings, (store.load world).1 = some settings ∧
      (validateUserSettings settings).valid = true ∧
      (loadUserSettingsFailSafe store world).1 = (true, settings)) ∨
    (loadUserSettingsFailSafe store world).1 = (false, { remoteStartEnabled := false }) := by
  unfold loadUserSettingsFailSafe
  dsimp only
  cases (store.load world).1 with
  | none => exact .inr rfl
  | some settings =>
    dsimp only
    split
    · rename_i hvalid
      exact .inl ⟨settings, rfl, hvalid, rfl⟩
    · exact .inr rfl

theorem boot_cases (storage : SettingsByteStorage S) (state : S) :
    (∃ settings, (loadUserSettingsFailSafe (store storage) state).1 = (true, settings) ∧
      (validateUserSettings settings).valid = true ∧
      ∃ record ∈ readableRecords storage state, Holds record settings) ∨
    (loadUserSettingsFailSafe (store storage) state).1 =
      (false, { remoteStartEnabled := false }) := by
  cases loadUserSettingsFailSafe_cases (store storage) state with
  | inl hloaded =>
    obtain ⟨settings, hload, hvalid, hresult⟩ := hloaded
    exact .inl ⟨settings, hresult, hvalid, holds_of_load hload⟩
  | inr hfallback => exact .inr hfallback

open UserSettingsLimits Controller in
/-- For every storage, in any state and with any reads failing: the boot yields
valid settings, claims success only for those of a readable record, keeps the
session times within their limits, and drives nothing unless a readable record
enables the remote start. -/
theorem fail_safe_boot (storage : SettingsByteStorage S) (state : S)
    (profile : Option VehicleProfile) :
    let boot := (loadUserSettingsFailSafe (store storage) state).1
    let config := (makeUserConfiguration boot.2 profile).controller
    (validateUserSettings boot.2).valid = true ∧
    (boot.1 = true → ∃ record ∈ readableRecords storage state, Holds record boot.2) ∧
    (minimumRemoteRunTimeMs ≤ config.maximumRemoteRunTimeMs ∧
      config.maximumRemoteRunTimeMs ≤ maximumRemoteRunTimeMs) ∧
    (minimumTakeoverTimeoutMs ≤ config.driverTakeoverTimeoutMs ∧
      config.driverTakeoverTimeoutMs ≤ maximumTakeoverTimeoutMs) ∧
    ((∀ record ∈ readableRecords storage state, ∀ settings, Holds record settings →
        settings.remoteStartEnabled = false) →
      ∀ inputs,
        (∀ call ∈ machine.transcript (new config) inputs,
          call.output.contains .enableIgnition = false ∧
            call.output.contains .engageStarter = false) ∧
        ((∀ input ∈ inputs, input.1.type ≠ .infrastructureFailure) →
          (machine.final (new config) inputs).state = .idle)) := by
  have hcases := boot_cases storage state
  dsimp only
  generalize (loadUserSettingsFailSafe (store storage) state).1 = boot at hcases ⊢
  have hvalid : (validateUserSettings boot.2).valid = true := by
    cases hcases with
    | inl hloaded =>
      obtain ⟨settings, hboot, hvalid, -⟩ := hloaded
      rw [hboot]
      exact hvalid
    | inr hfallback =>
      rw [hfallback]
      decide
  have htimes := makeUserConfiguration_times boot.2 profile hvalid
  have hlimits := times_of_valid hvalid
  refine ⟨hvalid, ?_, htimes.1 ▸ hlimits.1, htimes.2 ▸ hlimits.2, ?_⟩
  · intro hsuccess
    cases hcases with
    | inl hloaded =>
      obtain ⟨settings, hboot, -, hrecord⟩ := hloaded
      rw [hboot]
      exact hrecord
    | inr hfallback =>
      rw [hfallback] at hsuccess
      cases hsuccess
  · intro hrecords inputs
    have hdisabled : boot.2.remoteStartEnabled = false := by
      cases hcases with
      | inl hloaded =>
        obtain ⟨settings, hboot, -, record, hmem, hholds⟩ := hloaded
        rw [hboot]
        exact hrecords record hmem settings hholds
      | inr hfallback => rw [hfallback]
    have hinhibited :
        Inhibited (new (makeUserConfiguration boot.2 profile).controller) := by
      left
      change (makeUserConfiguration boot.2 profile).controller.remoteStartEnabled = false
      rw [makeUserConfiguration_remoteStartEnabled, hdisabled, Bool.and_false]
    have hrun := inhibited_run hinhibited inputs
    refine ⟨fun call hmem => ?_, hrun.2⟩
    exact ⟨hrun.1 call hmem _ (by decide), hrun.1 call hmem _ (by decide)⟩

end BmwRemote.Infrastructure.JournaledUserSettingsStore
