import BmwRemote.Application.UserSettings
import BmwRemote.Lib.Bytes
import Mathlib.Data.Set.Function

/-! User settings as a payload of forty bytes: only settings within their limits
are written, and only such settings are read back. -/
namespace BmwRemote.Infrastructure

open BmwRemote.Application BmwRemote.Lib

def userSettingsPayloadSize : Nat := 40

abbrev UserSettingsPayload := Vector UInt8 userSettingsPayloadSize

def settingsBytes (settings : UserSettings) : List UInt8 :=
  [if settings.remoteStartEnabled then 1 else 0, settings.hoodMonitoring.raw,
      settings.driverEntryMode.raw, settings.lockPressCount] ++
    (writeU32 settings.maximumRemoteRunTimeMs ++
    (writeU32 settings.driverTakeoverTimeoutMs ++
    (writeU32 settings.lockMinimumGapMs ++
    (writeU32 settings.lockMaximumGapMs ++
    (writeU32 settings.lockMaximumSequenceMs ++
    (writeU64 settings.features.mask ++
    (writeU16 settings.coldEngineMaximumRpm ++
    (writeU16 settings.engineWarmTemperatureC ++
    (writeU16 settings.transmissionOverheatTemperatureC ++
    (writeU16 settings.temperatureAlertHysteresisC ++ []))))))))))

theorem length_settingsBytes (settings : UserSettings) :
    (settingsBytes settings).length = userSettingsPayloadSize := rfl

def encodeUserSettingsPayload (settings : UserSettings) : Option UserSettingsPayload :=
  if !(validateUserSettings settings).valid then none
  else some ⟨(settingsBytes settings).toArray, length_settingsBytes settings⟩

/-- The fields at their offsets, before they are validated. -/
def readSettings (payload : List UInt8) : UserSettings where
  remoteStartEnabled := byteAt payload 0 == 1
  hoodMonitoring := ⟨byteAt payload 1⟩
  driverEntryMode := ⟨byteAt payload 2⟩
  lockPressCount := byteAt payload 3
  maximumRemoteRunTimeMs := readU32 payload 4
  driverTakeoverTimeoutMs := readU32 payload 8
  lockMinimumGapMs := readU32 payload 12
  lockMaximumGapMs := readU32 payload 16
  lockMaximumSequenceMs := readU32 payload 20
  features := ⟨readU64 payload 24⟩
  coldEngineMaximumRpm := readU16 payload 32
  engineWarmTemperatureC := readU16 payload 34
  transmissionOverheatTemperatureC := readU16 payload 36
  temperatureAlertHysteresisC := readU16 payload 38

def decodeUserSettingsPayload (payload : UserSettingsPayload) (payloadSize : Nat) :
    Option UserSettings :=
  if payloadSize ≠ userSettingsPayloadSize then none
  else if byteAt payload.toList 0 > 1 then none
  else
    let decoded := readSettings payload.toList
    if !(validateUserSettings decoded).valid then none else some decoded

def userSettingsEqual (left right : UserSettings) : Bool :=
  left.remoteStartEnabled == right.remoteStartEnabled &&
    left.hoodMonitoring == right.hoodMonitoring &&
    left.driverEntryMode == right.driverEntryMode &&
    left.maximumRemoteRunTimeMs == right.maximumRemoteRunTimeMs &&
    left.driverTakeoverTimeoutMs == right.driverTakeoverTimeoutMs &&
    left.lockPressCount == right.lockPressCount &&
    left.lockMinimumGapMs == right.lockMinimumGapMs &&
    left.lockMaximumGapMs == right.lockMaximumGapMs &&
    left.lockMaximumSequenceMs == right.lockMaximumSequenceMs &&
    left.features.mask == right.features.mask &&
    left.coldEngineMaximumRpm == right.coldEngineMaximumRpm &&
    left.engineWarmTemperatureC == right.engineWarmTemperatureC &&
    left.transmissionOverheatTemperatureC == right.transmissionOverheatTemperatureC &&
    left.temperatureAlertHysteresisC == right.temperatureAlertHysteresisC

theorem userSettingsEqual_iff {left right : UserSettings} :
    userSettingsEqual left right = true ↔ left = right := by
  rcases left with ⟨_, _, _, _, _, _, _, _, _, ⟨_⟩, _, _, _, _⟩
  rcases right with ⟨_, _, _, _, _, _, _, _, _, ⟨_⟩, _, _, _, _⟩
  simp [userSettingsEqual, and_assoc]

theorem readSettings_settingsBytes (settings : UserSettings) :
    readSettings (settingsBytes settings) = settings := by
  have hflag : ((if settings.remoteStartEnabled then (1 : UInt8) else 0) == 1) =
      settings.remoteStartEnabled := by
    cases settings.remoteStartEnabled <;> rfl
  unfold readSettings settingsBytes
  simp (disch := simp) only [readU32_skip, readU64_skip, readU16_skip, length_writeU16,
    length_writeU32, length_writeU64, List.length_cons, List.length_nil, Nat.reduceAdd,
    Nat.reduceSub, readU32_write, readU64_write, readU16_write]
  simp [byteAt, hflag]

theorem decode_encodeUserSettingsPayload {settings : UserSettings} {payload : UserSettingsPayload}
    (h : encodeUserSettingsPayload settings = some payload) :
    decodeUserSettingsPayload payload userSettingsPayloadSize = some settings := by
  unfold encodeUserSettingsPayload at h
  split at h
  · cases h
  · rename_i hvalid
    cases h
    have hflag : ¬ byteAt (settingsBytes settings) 0 > 1 := by
      change ¬ (if settings.remoteStartEnabled then (1 : UInt8) else 0) > 1
      cases settings.remoteStartEnabled <;> decide
    unfold decodeUserSettingsPayload
    rw [if_neg (not_not_intro rfl)]
    change (if byteAt (settingsBytes settings) 0 > 1 then none
      else if !(validateUserSettings (readSettings (settingsBytes settings))).valid then none
      else some (readSettings (settingsBytes settings))) = _
    rw [if_neg hflag, readSettings_settingsBytes, if_neg hvalid]

theorem exists_payload_of_valid {settings : UserSettings}
    (h : (validateUserSettings settings).valid = true) :
    ∃ payload, encodeUserSettingsPayload settings = some payload := by
  unfold encodeUserSettingsPayload
  rw [h]
  exact ⟨_, rfl⟩

theorem valid_of_decodeUserSettingsPayload {payload : UserSettingsPayload} {size : Nat}
    {settings : UserSettings} (h : decodeUserSettingsPayload payload size = some settings) :
    (validateUserSettings settings).valid = true := by
  unfold decodeUserSettingsPayload at h
  split at h
  · cases h
  split at h
  · cases h
  dsimp only at h
  split at h
  · cases h
  · rename_i hvalid
    cases h
    simpa using hvalid

/-! The functions with the argument that they write to. -/

def settingsWrites (settings : UserSettings) : Writes :=
  [(0, [if settings.remoteStartEnabled then 1 else 0]),
    (1, [settings.hoodMonitoring.raw]),
    (2, [settings.driverEntryMode.raw]),
    (3, [settings.lockPressCount]),
    (4, writeU32 settings.maximumRemoteRunTimeMs),
    (8, writeU32 settings.driverTakeoverTimeoutMs),
    (12, writeU32 settings.lockMinimumGapMs),
    (16, writeU32 settings.lockMaximumGapMs),
    (20, writeU32 settings.lockMaximumSequenceMs),
    (24, writeU64 settings.features.mask),
    (32, writeU16 settings.coldEngineMaximumRpm),
    (34, writeU16 settings.engineWarmTemperatureC),
    (36, writeU16 settings.transmissionOverheatTemperatureC),
    (38, writeU16 settings.temperatureAlertHysteresisC)]

def encodeUserSettingsPayloadInto (settings : UserSettings) (payload : UserSettingsPayload) :
    Bool × UserSettingsPayload :=
  if !(validateUserSettings settings).valid then (false, payload)
  else (true, store (Vector.replicate _ 0) (settingsWrites settings))

def decodeUserSettingsPayloadInto (payload : UserSettingsPayload) (payloadSize : Nat)
    (settings : UserSettings) : Bool × UserSettings :=
  if payloadSize ≠ userSettingsPayloadSize then (false, settings)
  else if byteAt payload.toList 0 > 1 then (false, settings)
  else
    let decoded := readSettings payload.toList
    if !(validateUserSettings decoded).valid then (false, settings) else (true, decoded)

theorem consecutive_settingsWrites (settings : UserSettings) :
    (settingsWrites settings).Consecutive 0 := by
  simp [settingsWrites, Writes.Consecutive]

theorem flatMap_settingsWrites (settings : UserSettings) :
    (settingsWrites settings).flatMap Prod.snd = settingsBytes settings := by
  simp [settingsWrites, settingsBytes]

theorem store_settingsWrites (settings : UserSettings) :
    store (Vector.replicate userSettingsPayloadSize 0) (settingsWrites settings) =
      ⟨(settingsBytes settings).toArray, length_settingsBytes settings⟩ := by
  have hblank : (Vector.replicate userSettingsPayloadSize (0 : UInt8)).toList =
      [] ++ List.replicate userSettingsPayloadSize 0 := Vector.toList_replicate
  have hconsecutive : Writes.Consecutive ([] : List UInt8).length (settingsWrites settings) :=
    consecutive_settingsWrites settings
  have hstored := toList_store (Vector.replicate userSettingsPayloadSize 0) hconsecutive hblank (by
    rw [flatMap_settingsWrites, length_settingsBytes]
    rfl)
  rw [flatMap_settingsWrites, List.nil_append] at hstored
  exact Vector.toList_inj.1 hstored

theorem encodeUserSettingsPayloadInto_eq (settings : UserSettings) (payload : UserSettingsPayload) :
    encodeUserSettingsPayloadInto settings payload =
      match encodeUserSettingsPayload settings with
      | some written => (true, written)
      | none => (false, payload) := by
  unfold encodeUserSettingsPayloadInto encodeUserSettingsPayload
  rw [store_settingsWrites]
  split <;> rfl

theorem decodeUserSettingsPayloadInto_eq (payload : UserSettingsPayload) (payloadSize : Nat)
    (settings : UserSettings) :
    decodeUserSettingsPayloadInto payload payloadSize settings =
      match decodeUserSettingsPayload payload payloadSize with
      | some decoded => (true, decoded)
      | none => (false, settings) := by
  unfold decodeUserSettingsPayloadInto decodeUserSettingsPayload
  by_cases hsize : payloadSize ≠ userSettingsPayloadSize
  · rw [if_pos hsize, if_pos hsize]
  by_cases hflag : byteAt payload.toList 0 > 1
  · rw [if_neg hsize, if_neg hsize, if_pos hflag, if_pos hflag]
  rw [if_neg hsize, if_neg hsize, if_neg hflag, if_neg hflag]
  dsimp only
  by_cases hvalid : (validateUserSettings (readSettings payload.toList)).valid = true
  · rw [hvalid]
    rfl
  · rw [Bool.not_eq_true] at hvalid
    rw [hvalid]
    rfl

theorem settingsBytes_readSettings {payload : List UInt8}
    (hlength : payload.length = userSettingsPayloadSize) (hflag : ¬ byteAt payload 0 > 1) :
    settingsBytes (readSettings payload) = payload := by
  have hfirst : (if byteAt payload 0 == 1 then 1 else 0) = byteAt payload 0 := by
    have hsmall : (byteAt payload 0).toNat ≤ 1 := UInt8.le_iff_toNat_le.1 (UInt8.not_lt.1 hflag)
    split
    · rename_i hone
      exact (eq_of_beq hone).symm
    · rename_i hother
      have hne : (byteAt payload 0).toNat ≠ 1 := fun h => hother (beq_iff_eq.2 (UInt8.toNat_inj.1 h))
      apply UInt8.toNat_inj.1
      exact (Nat.lt_one_iff.1 (by omega)).symm
  have hbytes := @take_drop_eq_map_byteAt payload 0 payload.length (by omega)
  rw [List.drop_zero, List.take_length, hlength] at hbytes
  unfold settingsBytes readSettings
  rw [hfirst]
  simp only [writeU64_readU64, writeU32_readU32, writeU16_readU16]
  exact hbytes.symm

theorem encode_decodeUserSettingsPayload {payload : UserSettingsPayload} {settings : UserSettings}
    (h : decodeUserSettingsPayload payload userSettingsPayloadSize = some settings) :
    encodeUserSettingsPayload settings = some payload := by
  have hvalid := valid_of_decodeUserSettingsPayload h
  unfold decodeUserSettingsPayload at h
  rw [if_neg (not_not_intro rfl)] at h
  split at h
  · cases h
  rename_i hflag
  dsimp only at h
  split at h
  · cases h
  cases h
  unfold encodeUserSettingsPayload
  rw [hvalid, if_neg (by decide), Option.some_inj]
  apply Vector.toList_inj.1
  exact settingsBytes_readSettings Vector.length_toList hflag

theorem encodeUserSettingsPayloadInto_some {settings : UserSettings}
    {written : UserSettingsPayload} (h : encodeUserSettingsPayload settings = some written)
    (old : UserSettingsPayload) : encodeUserSettingsPayloadInto settings old = (true, written) := by
  rw [encodeUserSettingsPayloadInto_eq, h]

theorem decodeUserSettingsPayloadInto_some {payload : UserSettingsPayload} {size : Nat}
    {decoded : UserSettings} (h : decodeUserSettingsPayload payload size = some decoded)
    (stale : UserSettings) :
    decodeUserSettingsPayloadInto payload size stale = (true, decoded) := by
  rw [decodeUserSettingsPayloadInto_eq, h]

theorem decoded_of_decodeUserSettingsPayloadInto {payload : UserSettingsPayload} {size : Nat}
    {stale : UserSettings} (h : (decodeUserSettingsPayloadInto payload size stale).1 = true) :
    ∃ decoded, decodeUserSettingsPayload payload size = some decoded ∧
      (decodeUserSettingsPayloadInto payload size stale).2 = decoded := by
  rw [decodeUserSettingsPayloadInto_eq] at h ⊢
  split at h
  · rename_i decoded hdecoded
    exact ⟨decoded, hdecoded, rfl⟩
  · cases h

theorem payload_injective {left right : UserSettings} {old : UserSettingsPayload}
    (hleft : (validateUserSettings left).valid = true)
    (hright : (validateUserSettings right).valid = true)
    (h : (encodeUserSettingsPayloadInto left old).2 = (encodeUserSettingsPayloadInto right old).2) :
    left = right := by
  rcases exists_payload_of_valid hleft with ⟨payload, hpayload⟩
  rcases exists_payload_of_valid hright with ⟨other, hother⟩
  rw [encodeUserSettingsPayloadInto_some hpayload, encodeUserSettingsPayloadInto_some hother] at h
  have hdecoded := decode_encodeUserSettingsPayload hpayload
  rw [show payload = other from h, decode_encodeUserSettingsPayload hother] at hdecoded
  exact (Option.some.inj hdecoded).symm

/-- Valid settings and accepted payloads determine each other, byte for byte. -/
theorem payload_bijection :
    (∀ settings old, (encodeUserSettingsPayloadInto settings old).1 =
      (validateUserSettings settings).valid) ∧
    (∀ settings old stale, (validateUserSettings settings).valid = true →
      decodeUserSettingsPayloadInto (encodeUserSettingsPayloadInto settings old).2
        userSettingsPayloadSize stale = (true, settings)) ∧
    (∀ payload old stale,
      (decodeUserSettingsPayloadInto payload userSettingsPayloadSize stale).1 = true →
      encodeUserSettingsPayloadInto
        (decodeUserSettingsPayloadInto payload userSettingsPayloadSize stale).2 old =
        (true, payload)) ∧
    (∀ settings old, (encodeUserSettingsPayloadInto settings old).1 = false →
      (encodeUserSettingsPayloadInto settings old).2 = old) ∧
    (∀ payload size stale, (decodeUserSettingsPayloadInto payload size stale).1 = false →
      (decodeUserSettingsPayloadInto payload size stale).2 = stale) ∧
    (∀ old stale, Set.BijOn (fun settings => (encodeUserSettingsPayloadInto settings old).2)
      {settings | (validateUserSettings settings).valid = true}
      {payload |
        (decodeUserSettingsPayloadInto payload userSettingsPayloadSize stale).1 = true}) ∧
    ∀ left right old, (validateUserSettings left).valid = true →
      (validateUserSettings right).valid = true →
      (userSettingsEqual left right = true ↔
        (encodeUserSettingsPayloadInto left old).2 =
          (encodeUserSettingsPayloadInto right old).2) := by
  refine ⟨?_, ?_, ?_, ?_, ?_, ?_, ?_⟩
  · intro settings old
    unfold encodeUserSettingsPayloadInto
    cases (validateUserSettings settings).valid <;> rfl
  · intro settings old stale hvalid
    rcases exists_payload_of_valid hvalid with ⟨payload, hpayload⟩
    rw [encodeUserSettingsPayloadInto_some hpayload]
    exact decodeUserSettingsPayloadInto_some (decode_encodeUserSettingsPayload hpayload) stale
  · intro payload old stale haccepted
    rcases decoded_of_decodeUserSettingsPayloadInto haccepted with ⟨decoded, hdecoded, hresult⟩
    rw [hresult]
    exact encodeUserSettingsPayloadInto_some (encode_decodeUserSettingsPayload hdecoded) old
  · intro settings old hfailed
    unfold encodeUserSettingsPayloadInto at hfailed ⊢
    split
    · rfl
    · rename_i hvalid
      rw [if_neg hvalid] at hfailed
      cases hfailed
  · intro payload size stale hfailed
    rw [decodeUserSettingsPayloadInto_eq] at hfailed ⊢
    split at hfailed
    · cases hfailed
    · rfl
  · intro old stale
    refine ⟨?_, ?_, ?_⟩
    · intro settings hvalid
      rcases exists_payload_of_valid hvalid with ⟨payload, hpayload⟩
      have hdecoded := decode_encodeUserSettingsPayload hpayload
      change (decodeUserSettingsPayloadInto (encodeUserSettingsPayloadInto settings old).2 _ _).1 =
        true
      rw [encodeUserSettingsPayloadInto_some hpayload, decodeUserSettingsPayloadInto_some hdecoded]
    · intro left hleft right hright hsame
      exact payload_injective hleft hright hsame
    · intro payload haccepted
      rcases decoded_of_decodeUserSettingsPayloadInto haccepted with ⟨decoded, hdecoded, -⟩
      refine ⟨decoded, valid_of_decodeUserSettingsPayload hdecoded, ?_⟩
      exact congrArg Prod.snd
        (encodeUserSettingsPayloadInto_some (encode_decodeUserSettingsPayload hdecoded) old)
  · intro left right old hleft hright
    rw [userSettingsEqual_iff]
    exact ⟨fun hsame => by rw [hsame], payload_injective hleft hright⟩

/-- The default settings, written over a payload of zeros. -/
theorem payload_bijection_defaults :
    (validateUserSettings {}).valid = true ∧
      decodeUserSettingsPayloadInto
        (encodeUserSettingsPayloadInto {} (Vector.replicate _ 0)).2 userSettingsPayloadSize
        { remoteStartEnabled := false } = (true, {}) :=
  ⟨by decide, payload_bijection.2.1 {} _ _ (by decide)⟩

end BmwRemote.Infrastructure
