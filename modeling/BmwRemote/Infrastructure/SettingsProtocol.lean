import BmwRemote.Infrastructure.SettingsPayload

/-! The frames of the settings protocol: a magic, a header of twelve bytes, up to
forty payload bytes and a checksum over all of it. -/
namespace BmwRemote.Infrastructure

open BmwRemote.Lib

/-- Message types and statuses are cast from the received byte, so they are that byte. -/
structure SettingsMessageType where
  raw : UInt8
  deriving DecidableEq, Repr

namespace SettingsMessageType

def readRequest : SettingsMessageType := ⟨0x01⟩
def writeRequest : SettingsMessageType := ⟨0x02⟩
def identifyRequest : SettingsMessageType := ⟨0x03⟩
def readResponse : SettingsMessageType := ⟨0x81⟩
def writeResponse : SettingsMessageType := ⟨0x82⟩
def identifyResponse : SettingsMessageType := ⟨0x83⟩
def errorResponse : SettingsMessageType := ⟨0xFF⟩

end SettingsMessageType

structure SettingsProtocolStatus where
  raw : UInt8
  deriving DecidableEq, Repr

namespace SettingsProtocolStatus

def ok : SettingsProtocolStatus := ⟨0⟩
def invalidPayload : SettingsProtocolStatus := ⟨1⟩
def unsupportedMessage : SettingsProtocolStatus := ⟨2⟩
def unauthorized : SettingsProtocolStatus := ⟨3⟩
def busy : SettingsProtocolStatus := ⟨4⟩
def invalidSettings : SettingsProtocolStatus := ⟨5⟩
def storageFailure : SettingsProtocolStatus := ⟨6⟩
def settingsUnavailable : SettingsProtocolStatus := ⟨7⟩

def toString (status : SettingsProtocolStatus) : String :=
  if status = ok then "ok"
  else if status = invalidPayload then "invalid_payload"
  else if status = unsupportedMessage then "unsupported_message"
  else if status = unauthorized then "unauthorized"
  else if status = busy then "busy"
  else if status = invalidSettings then "invalid_settings"
  else if status = storageFailure then "storage_failure"
  else if status = settingsUnavailable then "settings_unavailable"
  else "unknown"

end SettingsProtocolStatus

inductive SettingsFrameDecodeStatus where
  | ok
  | tooShort
  | tooLong
  | invalidMagic
  | unsupportedVersion
  | reservedFieldSet
  | payloadTooLarge
  | sizeMismatch
  | checksumMismatch
  deriving DecidableEq, Repr

def SettingsFrameDecodeStatus.toString : SettingsFrameDecodeStatus → String
  | .ok => "ok"
  | .tooShort => "too_short"
  | .tooLong => "too_long"
  | .invalidMagic => "invalid_magic"
  | .unsupportedVersion => "unsupported_version"
  | .reservedFieldSet => "reserved_field_set"
  | .payloadTooLarge => "payload_too_large"
  | .sizeMismatch => "size_mismatch"
  | .checksumMismatch => "checksum_mismatch"

structure SettingsProtocolFrame where
  type : SettingsMessageType := .errorResponse
  status : SettingsProtocolStatus := .ok
  requestId : UInt16 := 0
  payloadSize : UInt16 := 0
  payload : UserSettingsPayload := Vector.replicate _ 0
  deriving DecidableEq

/-- The frame with zeros behind the announced payload. -/
def SettingsProtocolFrame.trimmed (frame : SettingsProtocolFrame) : SettingsProtocolFrame :=
  { frame with
    payload := Vector.ofFn fun index =>
      if index < frame.payloadSize.toNat then frame.payload[index] else 0 }

namespace SettingsProtocolFrame

variable (frame : SettingsProtocolFrame)

@[simp] theorem trimmed_type : frame.trimmed.type = frame.type := by rw [trimmed]

@[simp] theorem trimmed_status : frame.trimmed.status = frame.status := by rw [trimmed]

@[simp] theorem trimmed_requestId : frame.trimmed.requestId = frame.requestId := by rw [trimmed]

@[simp] theorem trimmed_payloadSize : frame.trimmed.payloadSize = frame.payloadSize := by
  rw [trimmed]

theorem trimmed_payload (h : ∀ index (_ : index < userSettingsPayloadSize),
    frame.payloadSize.toNat ≤ index → frame.payload[index] = 0) :
    frame.trimmed.payload = frame.payload := by
  apply Vector.ext
  intro index hindex
  by_cases hinside : index < frame.payloadSize.toNat
  · simp [trimmed, hinside]
  · simp [trimmed, hinside, h index hindex (Nat.not_lt.1 hinside)]

theorem trimmed_payload_whole (h : frame.payloadSize.toNat = userSettingsPayloadSize) :
    frame.trimmed.payload = frame.payload :=
  frame.trimmed_payload fun _ hindex houtside => absurd hindex (Nat.not_lt.2 (h ▸ houtside))

end SettingsProtocolFrame

structure SettingsFrameDecodeResult where
  status : SettingsFrameDecodeStatus := .tooShort
  frame : SettingsProtocolFrame := {}
  deriving DecidableEq

def SettingsFrameDecodeResult.valid (result : SettingsFrameDecodeResult) : Bool :=
  result.status == .ok

namespace SettingsProtocolCodec

def magic : List UInt8 := [0x42, 0x4D, 0x43, 0x46]
def version : UInt8 := 1
def headerSize : Nat := 12
def checksumSize : Nat := 4
def minimumFrameSize : Nat := headerSize + checksumSize
def maximumFrameSize : Nat := headerSize + userSettingsPayloadSize + checksumSize
def versionOffset : Nat := 4
def typeOffset : Nat := 5
def statusOffset : Nat := 6
def reservedOffset : Nat := 7
def requestIdOffset : Nat := 8
def payloadSizeOffset : Nat := 10

/-- The header, in the order of its offsets. -/
def header (frame : SettingsProtocolFrame) : List UInt8 :=
  magic ++ ([version, frame.type.raw, frame.status.raw, 0] ++
    (writeU16 frame.requestId ++ (writeU16 frame.payloadSize ++ [])))

def body (frame : SettingsProtocolFrame) : List UInt8 :=
  header frame ++ frame.payload.toList.take frame.payloadSize.toNat

def encode (frame : SettingsProtocolFrame) : Option (List UInt8) :=
  if frame.payloadSize.toNat > userSettingsPayloadSize then none
  else some (body frame ++ writeU32 (crc32 (body frame)))

def decode (encoded : List UInt8) : SettingsFrameDecodeResult :=
  let fail := fun status : SettingsFrameDecodeStatus => ({ status } : SettingsFrameDecodeResult)
  if encoded.length < minimumFrameSize then fail .tooShort
  else if encoded.length > maximumFrameSize then fail .tooLong
  else if encoded.take magic.length ≠ magic then fail .invalidMagic
  else if byteAt encoded versionOffset ≠ version then fail .unsupportedVersion
  else if byteAt encoded reservedOffset ≠ 0 then fail .reservedFieldSet
  else
    let payloadSize := readU16 encoded payloadSizeOffset
    let checksumOffset := headerSize + payloadSize.toNat
    if payloadSize.toNat > userSettingsPayloadSize then fail .payloadTooLarge
    else if checksumOffset + checksumSize ≠ encoded.length then fail .sizeMismatch
    else if readU32 encoded checksumOffset ≠ crc32 (encoded.take checksumOffset) then
      fail .checksumMismatch
    else
      { status := .ok
        frame :=
          { type := ⟨byteAt encoded typeOffset⟩
            status := ⟨byteAt encoded statusOffset⟩
            requestId := readU16 encoded requestIdOffset
            payloadSize := payloadSize
            payload := Vector.ofFn fun index =>
              if index < payloadSize.toNat then byteAt encoded (headerSize + index) else 0 } }

theorem length_header (frame : SettingsProtocolFrame) :
    (header frame).length = headerSize := by
  simp [header, magic, headerSize]

theorem readU16_header (frame : SettingsProtocolFrame) (rest : List UInt8) :
    readU16 (header frame ++ rest) requestIdOffset = frame.requestId ∧
      readU16 (header frame ++ rest) payloadSizeOffset = frame.payloadSize := by
  simp (disch := simp) only [header, magic, requestIdOffset, payloadSizeOffset, List.append_assoc,
    readU16_skip, List.length_cons, List.length_nil, length_writeU16, Nat.reduceAdd,
    Nat.reduceSub, readU16_write, and_self]

theorem take_magic_header (frame : SettingsProtocolFrame) (rest : List UInt8) :
    (header frame ++ rest).take magic.length = magic := by
  rw [header, List.append_assoc, List.take_left]

theorem byteAt_header (frame : SettingsProtocolFrame) (rest : List UInt8) :
    byteAt (header frame ++ rest) versionOffset = version ∧
      byteAt (header frame ++ rest) typeOffset = frame.type.raw ∧
      byteAt (header frame ++ rest) statusOffset = frame.status.raw ∧
      byteAt (header frame ++ rest) reservedOffset = 0 := by
  simp [header, magic, byteAt, versionOffset, typeOffset, statusOffset, reservedOffset]

theorem length_body {frame : SettingsProtocolFrame}
    (h : frame.payloadSize.toNat ≤ userSettingsPayloadSize) :
    (body frame).length = headerSize + frame.payloadSize.toNat := by
  rw [body, List.length_append, length_header, List.length_take, Vector.length_toList,
    Nat.min_eq_left h]

theorem byteAt_body {frame : SettingsProtocolFrame} (rest : List UInt8)
    (index : Fin userSettingsPayloadSize) (h : index < frame.payloadSize.toNat) :
    byteAt (body frame ++ rest) (headerSize + index) = frame.payload[index] := by
  have hskip := byteAt_skip (header frame)
    (frame.payload.toList.take frame.payloadSize.toNat ++ rest)
    (Nat.le_trans (Nat.le_of_eq (length_header frame)) (Nat.le_add_right headerSize index))
  have hshort : (index : Nat) < (frame.payload.toList.take frame.payloadSize.toNat).length := by
    rw [List.length_take, Vector.length_toList]
    exact Nat.lt_min.2 ⟨h, index.2⟩
  rw [body, List.append_assoc, hskip, length_header, Nat.add_sub_cancel_left]
  unfold byteAt
  rw [List.getD_eq_getElem?_getD, List.getElem?_append_left hshort, List.getElem?_take_of_lt h]
  simp

structure Encodes (frame : SettingsProtocolFrame) (bytes : List UInt8) : Prop where
  size : frame.payloadSize.toNat ≤ userSettingsPayloadSize
  length : bytes.length = headerSize + frame.payloadSize.toNat + checksumSize
  magic : bytes.take magic.length = magic
  payloadSize : readU16 bytes payloadSizeOffset = frame.payloadSize
  decode : decode bytes = ⟨.ok, frame.trimmed⟩

theorem Encodes.minimumFrameSize_le {frame : SettingsProtocolFrame} {bytes : List UInt8}
    (h : Encodes frame bytes) : minimumFrameSize ≤ bytes.length := by
  rw [h.length, minimumFrameSize]
  omega

theorem Encodes.le_maximumFrameSize {frame : SettingsProtocolFrame} {bytes : List UInt8}
    (h : Encodes frame bytes) : bytes.length ≤ maximumFrameSize := by
  have hsize := h.size
  rw [h.length, maximumFrameSize]
  omega

theorem Encodes.ne_nil {frame : SettingsProtocolFrame} {bytes : List UInt8}
    (h : Encodes frame bytes) : bytes ≠ [] :=
  List.ne_nil_of_length_pos (Nat.lt_of_lt_of_le (by decide) h.minimumFrameSize_le)

theorem encode_encodes {frame : SettingsProtocolFrame} {bytes : List UInt8}
    (h : encode frame = some bytes) : Encodes frame bytes := by
  unfold encode at h
  split at h
  · cases h
  rename_i hsize
  rw [Nat.not_lt] at hsize
  cases h
  have hbody := length_body hsize
  have hlength : (body frame ++ writeU32 (crc32 (body frame))).length =
      headerSize + frame.payloadSize.toNat + checksumSize := by
    rw [List.length_append, hbody, length_writeU32, checksumSize]
  have hchecksum : readU32 (body frame ++ writeU32 (crc32 (body frame)))
      (headerSize + frame.payloadSize.toNat) = crc32 (body frame) := by
    rw [readU32_skip _ _ (Nat.le_of_eq hbody), hbody, Nat.sub_self]
    have hread := readU32_write (crc32 (body frame)) []
    rwa [List.append_nil] at hread
  have htake : (body frame ++ writeU32 (crc32 (body frame))).take
      (headerSize + frame.payloadSize.toNat) = body frame := by
    rw [← hbody, List.take_left]
  generalize writeU32 (crc32 (body frame)) = checksum at hlength hchecksum htake ⊢
  have hsplit : body frame ++ checksum =
      header frame ++ (frame.payload.toList.take frame.payloadSize.toNat ++ checksum) := by
    rw [body, List.append_assoc]
  have hpayload : ∀ index : Fin userSettingsPayloadSize, index < frame.payloadSize.toNat →
      byteAt (body frame ++ checksum) (headerSize + index) = frame.payload[index] :=
    fun index hindex => byteAt_body checksum index hindex
  obtain ⟨hrequestId, hpayloadSize⟩ := readU16_header frame
    (frame.payload.toList.take frame.payloadSize.toNat ++ checksum)
  obtain ⟨hversion, htype, hstatus, hreserved⟩ := byteAt_header frame
    (frame.payload.toList.take frame.payloadSize.toNat ++ checksum)
  have hmagic := take_magic_header frame
    (frame.payload.toList.take frame.payloadSize.toNat ++ checksum)
  rw [← hsplit] at hrequestId hpayloadSize hversion htype hstatus hreserved hmagic
  generalize body frame ++ checksum = bytes at *
  refine ⟨hsize, hlength, hmagic, hpayloadSize, ?_⟩
  have hshort : ¬ bytes.length < minimumFrameSize := by
    rw [hlength, minimumFrameSize]
    omega
  have hlong : ¬ bytes.length > maximumFrameSize := by
    rw [hlength, maximumFrameSize]
    omega
  unfold decode
  dsimp only
  rw [if_neg hshort, if_neg hlong, if_neg (not_not_intro hmagic),
    if_neg (not_not_intro hversion), if_neg (not_not_intro hreserved), hpayloadSize,
    if_neg (Nat.not_lt.2 hsize), if_neg (not_not_intro hlength.symm), hchecksum, htake,
    if_neg (not_not_intro rfl), hrequestId, htype, hstatus]
  have hbytes : (Vector.ofFn fun index : Fin userSettingsPayloadSize =>
      if index < frame.payloadSize.toNat then byteAt bytes (headerSize + index) else 0) =
      frame.trimmed.payload := by
    apply Vector.ext
    intro index hindex
    rw [SettingsProtocolFrame.trimmed, Vector.getElem_ofFn, Vector.getElem_ofFn]
    split
    · rename_i hinside
      exact hpayload ⟨index, hindex⟩ hinside
    · rfl
  rw [hbytes]
  rfl

structure Reads (bytes : List UInt8) (frame : SettingsProtocolFrame) : Prop where
  magic : bytes.take magic.length = magic
  version : byteAt bytes versionOffset = version
  reserved : byteAt bytes reservedOffset = 0
  type : frame.type = ⟨byteAt bytes typeOffset⟩
  status : frame.status = ⟨byteAt bytes statusOffset⟩
  requestId : frame.requestId = readU16 bytes requestIdOffset
  payloadSize : frame.payloadSize = readU16 bytes payloadSizeOffset
  size : frame.payloadSize.toNat ≤ userSettingsPayloadSize
  length : headerSize + frame.payloadSize.toNat + checksumSize = bytes.length
  checksum : readU32 bytes (headerSize + frame.payloadSize.toNat) =
    crc32 (bytes.take (headerSize + frame.payloadSize.toNat))
  payload : ∀ index (_ : index < userSettingsPayloadSize), index < frame.payloadSize.toNat →
    frame.payload[index] = byteAt bytes (headerSize + index)

theorem passed_of_accepted {condition : Prop} [Decidable condition]
    {failure : SettingsFrameDecodeStatus} {rest : SettingsFrameDecodeResult}
    {frame : SettingsProtocolFrame}
    (h : (if condition then { status := failure } else rest) = ⟨.ok, frame⟩)
    (hfailure : failure ≠ .ok) : ¬ condition ∧ rest = ⟨.ok, frame⟩ := by
  by_cases hcondition : condition
  · rw [if_pos hcondition] at h
    exact absurd (congrArg SettingsFrameDecodeResult.status h) hfailure
  · rw [if_neg hcondition] at h
    exact ⟨hcondition, h⟩

theorem reads_of_decode {bytes : List UInt8} {frame : SettingsProtocolFrame}
    (h : decode bytes = ⟨.ok, frame⟩) : Reads bytes frame := by
  unfold decode at h
  dsimp only at h
  obtain ⟨-, h⟩ := passed_of_accepted h nofun
  obtain ⟨-, h⟩ := passed_of_accepted h nofun
  obtain ⟨hmagic, h⟩ := passed_of_accepted h nofun
  obtain ⟨hversion, h⟩ := passed_of_accepted h nofun
  obtain ⟨hreserved, h⟩ := passed_of_accepted h nofun
  obtain ⟨hsize, h⟩ := passed_of_accepted h nofun
  obtain ⟨hlength, h⟩ := passed_of_accepted h nofun
  obtain ⟨hchecksum, h⟩ := passed_of_accepted h nofun
  injection h with _ hframe
  subst hframe
  refine ⟨not_not.1 hmagic, not_not.1 hversion, not_not.1 hreserved, rfl, rfl, rfl, rfl,
    Nat.not_lt.1 hsize, not_not.1 hlength, not_not.1 hchecksum, ?_⟩
  intro index hindex hinside
  rw [Vector.getElem_ofFn, if_pos hinside]

section Reads

variable {bytes : List UInt8} {frame : SettingsProtocolFrame}

theorem Reads.headerSize_le (h : Reads bytes frame) : headerSize ≤ bytes.length := by
  rw [← h.length, Nat.add_assoc]
  exact Nat.le_add_right _ _

theorem Reads.header_eq (h : Reads bytes frame) : header frame = bytes.take headerSize := by
  have hrest : (bytes.drop 4).take 8 =
      [byteAt bytes versionOffset, byteAt bytes typeOffset, byteAt bytes statusOffset,
        byteAt bytes reservedOffset, byteAt bytes requestIdOffset,
        byteAt bytes (requestIdOffset + 1), byteAt bytes payloadSizeOffset,
        byteAt bytes (payloadSizeOffset + 1)] :=
    take_drop_eq_map_byteAt h.headerSize_le
  have hsplit : bytes.take headerSize =
      bytes.take SettingsProtocolCodec.magic.length ++ (bytes.drop 4).take 8 :=
    @List.take_add _ bytes 4 8
  rw [hsplit, h.magic, hrest, header, h.requestId, h.payloadSize, writeU16_readU16,
    writeU16_readU16, h.type, h.status, h.version, h.reserved]
  rfl

theorem Reads.take_payload (h : Reads bytes frame) :
    frame.payload.toList.take frame.payloadSize.toNat =
      (bytes.drop headerSize).take frame.payloadSize.toNat := by
  have hwhole : headerSize + frame.payloadSize.toNat ≤ bytes.length := by
    rw [← h.length]
    exact Nat.le_add_right _ _
  have hsize := h.size
  rw [take_drop_eq_map_byteAt hwhole]
  apply List.ext_getElem
  · simp
    omega
  · intro index hleft hright
    have hindex : index < frame.payloadSize.toNat := by simpa using hright
    simp [h.payload index (Nat.lt_of_lt_of_le hindex hsize) hindex]

theorem Reads.body_eq (h : Reads bytes frame) :
    body frame = bytes.take (headerSize + frame.payloadSize.toNat) := by
  rw [body, h.header_eq, h.take_payload, List.take_add]

theorem Reads.checksum_eq (h : Reads bytes frame) :
    writeU32 (crc32 (body frame)) = bytes.drop (headerSize + frame.payloadSize.toNat) := by
  have hread := take_drop_eq_map_byteAt (Nat.le_of_eq h.length)
  have hlast : (bytes.drop (headerSize + frame.payloadSize.toNat)).length ≤ checksumSize := by
    rw [List.length_drop, ← h.length]
    omega
  rw [List.take_of_length_le hlast] at hread
  rw [h.body_eq, ← h.checksum, writeU32_readU32, hread]
  rfl

end Reads

/-- The decoder accepts nothing but encodings. -/
theorem encode_of_decode {bytes : List UInt8} {frame : SettingsProtocolFrame}
    (h : decode bytes = ⟨.ok, frame⟩) : encode frame = some bytes := by
  have hreads := reads_of_decode h
  unfold encode
  rw [if_neg (Nat.not_lt.2 hreads.size), hreads.checksum_eq, hreads.body_eq,
    List.take_append_drop]

theorem encode_isSome {frame : SettingsProtocolFrame}
    (h : frame.payloadSize.toNat ≤ userSettingsPayloadSize) :
    ∃ bytes, encode frame = some bytes := by
  unfold encode
  rw [if_neg (Nat.not_lt.2 h)]
  exact ⟨_, rfl⟩

/-- Every frame with a payload that fits is read back with zeros behind the payload,
and the decoder accepts exactly the encodings of frames. -/
theorem codec_exact :
    (∀ frame, frame.payloadSize.toNat ≤ userSettingsPayloadSize →
      ∃ bytes, encode frame = some bytes ∧ decode bytes = ⟨.ok, frame.trimmed⟩) ∧
    (∀ bytes, (decode bytes).status = .ok → encode (decode bytes).frame = some bytes) ∧
    ∀ bytes, (decode bytes).status = .ok ↔ ∃ frame, encode frame = some bytes := by
  have hread : ∀ bytes, (decode bytes).status = .ok → encode (decode bytes).frame = some bytes := by
    intro bytes hok
    apply encode_of_decode
    rw [← hok]
  refine ⟨fun frame hsize => ?_, hread, fun bytes => ⟨fun hok => ⟨_, hread bytes hok⟩, ?_⟩⟩
  · rcases encode_isSome hsize with ⟨bytes, hbytes⟩
    exact ⟨bytes, hbytes, (encode_encodes hbytes).decode⟩
  · rintro ⟨frame, hframe⟩
    rw [(encode_encodes hframe).decode]

/-- A frame of one payload byte whose array holds another byte behind it. -/
theorem codec_exact_trimmed :
    ∃ bytes, encode { payloadSize := 1, payload := Vector.replicate _ 7 } = some bytes ∧
      decode bytes = ⟨.ok, SettingsProtocolFrame.trimmed
        { payloadSize := 1, payload := Vector.replicate _ 7 }⟩ :=
  codec_exact.1 _ (by decide)

end SettingsProtocolCodec

end BmwRemote.Infrastructure
