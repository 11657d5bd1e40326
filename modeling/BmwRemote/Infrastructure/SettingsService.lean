import BmwRemote.Infrastructure.Ports
import BmwRemote.Infrastructure.SettingsProtocol

/-! The device's side of the settings protocol: what it is, and how it answers a
request. A request is checked before the store is touched, and the store is
written for an authorised request in `Idle` only. -/
namespace BmwRemote.Infrastructure

open BmwRemote.Application BmwRemote.Lib

/-- A target is cast from the received byte, so it is that byte. -/
structure SettingsHardwareTarget where
  raw : UInt8
  deriving DecidableEq, Repr

namespace SettingsHardwareTarget

def unspecified : SettingsHardwareTarget := ⟨0⟩
def esp32S3DevKitC1 : SettingsHardwareTarget := ⟨1⟩
def hostSimulation : SettingsHardwareTarget := ⟨0xFE⟩

end SettingsHardwareTarget

inductive SettingsDeviceCapability where
  | settingsRead
  | settingsWrite
  | persistentSettings
  deriving DecidableEq, Repr

def capabilityMask : SettingsDeviceCapability → UInt32
  | .settingsRead => (1 : UInt32) <<< 0
  | .settingsWrite => (1 : UInt32) <<< 1
  | .persistentSettings => (1 : UInt32) <<< 2

def firmwareVersionMajor : UInt8 := 0
def firmwareVersionMinor : UInt8 := 3
def firmwareVersionPatch : UInt8 := 0

structure SettingsDeviceIdentity where
  hardwareTarget : SettingsHardwareTarget := .unspecified
  firmwareMajor : UInt8 := firmwareVersionMajor
  firmwareMinor : UInt8 := firmwareVersionMinor
  firmwarePatch : UInt8 := firmwareVersionPatch
  capabilities : UInt32 := 0
  deriving DecidableEq, Repr

def hasCapability (identity : SettingsDeviceIdentity) (capability : SettingsDeviceCapability) :
    Bool :=
  (identity.capabilities &&& capabilityMask capability) != 0

def settingsPrototypeIdentity (target : SettingsHardwareTarget) : SettingsDeviceIdentity where
  hardwareTarget := target
  capabilities := capabilityMask .settingsRead ||| capabilityMask .settingsWrite |||
    capabilityMask .persistentSettings

def settingsDeviceIdentityPayloadSize : Nat := 12

def settingsDeviceProductSignature : List UInt8 := [0x45, 0x39, 0x52, 0x43]

/-- The bytes of an identity; the payload is filled with zeros behind them. -/
def identityBytes (identity : SettingsDeviceIdentity) : List UInt8 :=
  settingsDeviceProductSignature ++ ([identity.hardwareTarget.raw, identity.firmwareMajor,
    identity.firmwareMinor, identity.firmwarePatch] ++
      (writeU32 identity.capabilities ++ List.replicate 28 0))

theorem length_identityBytes (identity : SettingsDeviceIdentity) :
    (identityBytes identity).length = userSettingsPayloadSize := rfl

def encodeSettingsDeviceIdentity (identity : SettingsDeviceIdentity) :
    Option UserSettingsPayload :=
  some ⟨(identityBytes identity).toArray, length_identityBytes identity⟩

def decodeSettingsDeviceIdentity (payload : UserSettingsPayload) (payloadSize : Nat) :
    Option SettingsDeviceIdentity :=
  let bytes := payload.toList
  if payloadSize ≠ settingsDeviceIdentityPayloadSize then none
  else if bytes.take settingsDeviceProductSignature.length ≠ settingsDeviceProductSignature then
    none
  else
    some
      { hardwareTarget := ⟨byteAt bytes 4⟩
        firmwareMajor := byteAt bytes 5
        firmwareMinor := byteAt bytes 6
        firmwarePatch := byteAt bytes 7
        capabilities := readU32 bytes 8 }

theorem decode_encodeSettingsDeviceIdentity {identity : SettingsDeviceIdentity}
    {payload : UserSettingsPayload} (h : encodeSettingsDeviceIdentity identity = some payload) :
    decodeSettingsDeviceIdentity payload settingsDeviceIdentityPayloadSize = some identity := by
  cases h
  have hcapabilities : readU32 (identityBytes identity) 8 = identity.capabilities := by
    unfold identityBytes settingsDeviceProductSignature
    rw [readU32_skip _ _ (by simp), readU32_skip _ _ (by simp)]
    exact readU32_write identity.capabilities _
  have hbytes : (⟨(identityBytes identity).toArray, length_identityBytes identity⟩ :
      UserSettingsPayload).toList = identityBytes identity := rfl
  have hsignature : (identityBytes identity).take settingsDeviceProductSignature.length =
      settingsDeviceProductSignature := rfl
  unfold decodeSettingsDeviceIdentity
  dsimp only
  rw [hbytes, hcapabilities, if_neg (not_not_intro rfl), if_neg (not_not_intro hsignature)]
  rfl

theorem encodeSettingsDeviceIdentity_zeros {identity : SettingsDeviceIdentity}
    {payload : UserSettingsPayload} (h : encodeSettingsDeviceIdentity identity = some payload)
    {index : Nat} (hindex : index < userSettingsPayloadSize)
    (houtside : settingsDeviceIdentityPayloadSize ≤ index) : payload[index] = 0 := by
  cases h
  have houtside : 12 ≤ index := houtside
  rw [← byteAt_toList _ hindex]
  change byteAt (identityBytes identity) index = 0
  unfold identityBytes settingsDeviceProductSignature
  rw [byteAt_skip _ _ (by simp; omega), byteAt_skip _ _ (by simp; omega),
    byteAt_skip _ _ (by simp; omega), byteAt, List.getD_eq_getElem?_getD, List.getElem?_replicate]
  split
  · rfl
  · rfl

structure SettingsProtocolAccess where
  authorized : Bool := false
  controllerState : ControllerState := .idle
  deriving DecidableEq, Repr

def responseFor (request : SettingsProtocolFrame) (responseType : SettingsMessageType)
    (status : SettingsProtocolStatus) : SettingsProtocolFrame where
  type := responseType
  status := status
  requestId := request.requestId

structure SettingsProtocolService (W : Type) where
  store : UserSettingsStore W
  identity : SettingsDeviceIdentity := settingsPrototypeIdentity .hostSimulation

namespace SettingsProtocolService

variable {W : Type}

def responseType (type : SettingsMessageType) : Option SettingsMessageType :=
  if type = .readRequest then some .readResponse
  else if type = .writeRequest then some .writeResponse
  else if type = .identifyRequest then some .identifyResponse
  else none

def payloadSizeValid (request : SettingsProtocolFrame) : Bool :=
  if request.type = .writeRequest then request.payloadSize.toNat == userSettingsPayloadSize
  else request.payloadSize == 0

def handle (service : SettingsProtocolService W) (request : SettingsProtocolFrame)
    (access : SettingsProtocolAccess) (world : W) : SettingsProtocolFrame × W :=
  match responseType request.type with
  | none => (responseFor request .errorResponse .unsupportedMessage, world)
  | some responseType =>
      if request.status ≠ .ok ∨ payloadSizeValid request = false then
        (responseFor request responseType .invalidPayload, world)
      else if access.authorized = false then
        (responseFor request responseType .unauthorized, world)
      else if request.type = .identifyRequest then
        match encodeSettingsDeviceIdentity service.identity with
        | none => (responseFor request responseType .invalidPayload, world)
        | some payload =>
            ({ responseFor request responseType .ok with
              payloadSize := UInt16.ofNat settingsDeviceIdentityPayloadSize, payload }, world)
      else if request.type = .readRequest then
        let (settings, world) := service.store.load world
        match settings.bind encodeUserSettingsPayload with
        | none => (responseFor request responseType .settingsUnavailable, world)
        | some payload =>
            ({ responseFor request responseType .ok with
              payloadSize := UInt16.ofNat userSettingsPayloadSize, payload }, world)
      else if access.controllerState ≠ .idle then
        (responseFor request responseType .busy, world)
      else
        match decodeUserSettingsPayload request.payload request.payloadSize.toNat with
        | none => (responseFor request responseType .invalidSettings, world)
        | some settings =>
            let (saved, world) := service.store.save settings world
            if saved then (responseFor request responseType .ok, world)
            else (responseFor request responseType .storageFailure, world)

/-! The three requests that a device can serve. -/

section Served

variable {service : SettingsProtocolService W} {request : SettingsProtocolFrame}
  {access : SettingsProtocolAccess} {payload : UserSettingsPayload} {settings : UserSettings}
  {world after : W}

theorem handle_identify (htype : request.type = .identifyRequest) (hstatus : request.status = .ok)
    (hsize : request.payloadSize = 0) (haccess : access.authorized = true)
    (hidentity : encodeSettingsDeviceIdentity service.identity = some payload) :
    service.handle request access world =
      ({ responseFor request .identifyResponse .ok with
        payloadSize := UInt16.ofNat settingsDeviceIdentityPayloadSize, payload }, world) := by
  have hwrite : SettingsMessageType.identifyRequest ≠ .writeRequest := by decide
  have hform : payloadSizeValid request = true := by
    simp [payloadSizeValid, htype, hsize, hwrite]
  have hresponse : responseType .identifyRequest = some .identifyResponse := rfl
  simp [handle, hresponse, hstatus, hform, haccess, htype, hidentity]

theorem handle_write (htype : request.type = .writeRequest) (hstatus : request.status = .ok)
    (hsize : request.payloadSize.toNat = userSettingsPayloadSize)
    (hauthorized : access.authorized = true) (hidle : access.controllerState = .idle)
    (hsettings : decodeUserSettingsPayload request.payload userSettingsPayloadSize = some settings)
    (hsave : service.store.save settings world = (true, after)) :
    service.handle request access world = (responseFor request .writeResponse .ok, after) := by
  have hform : payloadSizeValid request = true := by simp [payloadSizeValid, htype, hsize]
  have hresponse : responseType .writeRequest = some .writeResponse := rfl
  have hidentify : SettingsMessageType.writeRequest ≠ .identifyRequest := by decide
  have hread : SettingsMessageType.writeRequest ≠ .readRequest := by decide
  simp [handle, hresponse, hstatus, hform, hauthorized, hidle, htype, hidentify, hread, hsize,
    hsettings, hsave]

theorem handle_read (htype : request.type = .readRequest) (hstatus : request.status = .ok)
    (hsize : request.payloadSize = 0) (haccess : access.authorized = true)
    (hload : service.store.load world = (some settings, after))
    (hsettings : encodeUserSettingsPayload settings = some payload) :
    service.handle request access world =
      ({ responseFor request .readResponse .ok with
        payloadSize := UInt16.ofNat userSettingsPayloadSize, payload }, after) := by
  have hwrite : SettingsMessageType.readRequest ≠ .writeRequest := by decide
  have hidentify : SettingsMessageType.readRequest ≠ .identifyRequest := by decide
  have hform : payloadSizeValid request = true := by
    simp [payloadSizeValid, htype, hsize, hwrite]
  have hresponse : responseType .readRequest = some .readResponse := rfl
  simp [handle, hresponse, hstatus, hform, haccess, htype, hidentify, hload, hsettings]

end Served

/-- Only a well formed request is answered `Ok`, with the response type of its own. -/
theorem handle_ok {service : SettingsProtocolService W} {request : SettingsProtocolFrame}
    {access : SettingsProtocolAccess} {world : W}
    (h : (service.handle request access world).1.status = .ok) :
    responseType request.type = some (service.handle request access world).1.type ∧
      payloadSizeValid request = true := by
  unfold handle at h ⊢
  cases hsupported : responseType request.type with
  | none =>
    rw [hsupported] at h
    cases h
  | some responseType =>
  rw [hsupported] at h
  dsimp only at h ⊢
  by_cases hform : request.status ≠ .ok ∨ payloadSizeValid request = false
  · rw [if_pos hform] at h
    cases h
  have hsize : payloadSizeValid request = true := by simpa using (not_or.1 hform).2
  refine ⟨?_, hsize⟩
  rw [if_neg hform] at h ⊢
  split
  · rfl
  split
  · split <;> rfl
  split
  · split <;> rfl
  split
  · rfl
  split
  · rfl
  split <;> rfl

theorem payloadSize_unique {left right : SettingsProtocolFrame} {type : SettingsMessageType}
    (hleft : responseType left.type = some type) (hright : responseType right.type = some type)
    (hleftSize : payloadSizeValid left = true) (hrightSize : payloadSizeValid right = true) :
    left.payloadSize = right.payloadSize := by
  have hwrite : ∀ {frame : SettingsProtocolFrame}, responseType frame.type = some type →
      (frame.type = .writeRequest ↔ type = .writeResponse) := by
    intro frame hframe
    unfold responseType at hframe
    split at hframe
    · rename_i hread
      cases hframe
      rw [hread]
      decide
    split at hframe
    · rename_i hwrite
      cases hframe
      rw [hwrite]
      decide
    split at hframe
    · rename_i hidentify
      cases hframe
      rw [hidentify]
      decide
    · cases hframe
  have hsame : left.type = .writeRequest ↔ right.type = .writeRequest :=
    (hwrite hleft).trans (hwrite hright).symm
  unfold payloadSizeValid at hleftSize hrightSize
  by_cases hrequest : left.type = .writeRequest
  · rw [if_pos hrequest, beq_iff_eq] at hleftSize
    rw [if_pos (hsame.1 hrequest), beq_iff_eq] at hrightSize
    exact UInt16.toNat_inj.1 (hleftSize.trans hrightSize.symm)
  · rw [if_neg hrequest, beq_iff_eq] at hleftSize
    rw [if_neg fun hother => hrequest (hsame.2 hother), beq_iff_eq] at hrightSize
    exact hleftSize.trans hrightSize.symm

end SettingsProtocolService

end BmwRemote.Infrastructure
