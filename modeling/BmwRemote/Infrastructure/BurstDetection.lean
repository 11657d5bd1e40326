import BmwRemote.Infrastructure.SettingsProtocol
import BmwRemote.Infrastructure.SettingsStorage
import BmwRemote.Lib.BurstErrors

/-! Frames and journal records under burst errors: both formats end with the checksum
of all that stands before it, so what their decoders accept is never a burst away
from an encoding, wherever the burst falls. -/
namespace BmwRemote.Infrastructure

open BmwRemote.Application BmwRemote.Lib

theorem SettingsProtocolCodec.checksum_of_encode {frame : SettingsProtocolFrame}
    {bytes : List UInt8} (h : encode frame = some bytes) :
    bytes = body frame ++ writeU32 (crc32 (body frame)) := by
  unfold encode at h
  split at h
  · cases h
  · exact (Option.some.inj h).symm

namespace JournaledUserSettingsStore

theorem checksum_of_encodeRecord {settings : UserSettings} {generation : UInt32} {record : Record}
    (h : encodeRecord settings generation = some record) :
    ∃ message, record.toList = message ++ writeU32 (crc32 message) := by
  rcases Option.map_eq_some_iff.1 h with ⟨payload, -, hrecord⟩
  rw [← hrecord]
  exact ⟨recordBody generation payload, rfl⟩

theorem checksum_of_decodeRecord {record : Record} {decoded : DecodedRecord}
    (h : decodeRecord record = some decoded) :
    ∃ message, record.toList = message ++ writeU32 (crc32 message) := by
  have hlength : record.toList.length = recordSize := Vector.length_toList
  unfold decodeRecord at h
  dsimp only at h
  generalize record.toList = bytes at h hlength ⊢
  split at h
  · cases h
  split at h
  · cases h
  rename_i hheader
  rw [Bool.or_eq_true, Bool.or_eq_true, not_or, not_or, Bool.not_eq_true', Bool.not_eq_false,
    Bool.and_eq_true, beq_iff_eq, beq_iff_eq, bne_iff_ne, Decidable.not_not] at hheader
  rcases hheader with ⟨⟨⟨-, hsize⟩, -⟩, hchecksum⟩
  have hoffset : payloadOffset + (readU16 bytes payloadSizeOffset).toNat = crcOffset := by
    rw [hsize]
    rfl
  rw [hoffset] at hchecksum
  have htail : writeU32 (readU32 bytes crcOffset) = bytes.drop crcOffset := by
    have hread : (bytes.drop crcOffset).take 4 = _ := take_drop_eq_map_byteAt (Nat.le_of_eq hlength.symm)
    rw [List.take_of_length_le (by rw [List.length_drop, hlength]; decide)] at hread
    rw [writeU32_readU32, hread]
    rfl
  refine ⟨bytes.take crcOffset, ?_⟩
  rw [← hchecksum, htail, List.take_append_drop]

end JournaledUserSettingsStore

/-- Whatever the frame or the record, its length and the place of the burst: no
decoder accepts the corrupted bytes. -/
theorem bursts_rejected :
    (∀ frame sent received, SettingsProtocolCodec.encode frame = some sent → Burst sent received →
      (SettingsProtocolCodec.decode received).status ≠ .ok) ∧
    ∀ settings generation record (corrupted : JournaledUserSettingsStore.Record),
      JournaledUserSettingsStore.encodeRecord settings generation = some record →
      Burst record.toList corrupted.toList →
      JournaledUserSettingsStore.decodeRecord corrupted = none := by
  constructor
  · intro frame sent received hsent hburst hok
    have haccepted : SettingsProtocolCodec.decode received =
        ⟨.ok, (SettingsProtocolCodec.decode received).frame⟩ := by
      rw [← hok]
    exact hburst.detected (SettingsProtocolCodec.checksum_of_encode hsent)
      (SettingsProtocolCodec.checksum_of_encode
        (SettingsProtocolCodec.encode_of_decode haccepted))
  · intro settings generation record corrupted hrecord hburst
    rw [Option.eq_none_iff_forall_ne_some]
    intro decoded hdecoded
    rcases JournaledUserSettingsStore.checksum_of_encodeRecord hrecord with ⟨message, hmessage⟩
    rcases JournaledUserSettingsStore.checksum_of_decodeRecord hdecoded with ⟨other, hother⟩
    exact hburst.detected hmessage hother

/-- A default frame and a record of the default settings, each with another first byte. -/
theorem bursts_rejected_magic :
    (∃ sent received, SettingsProtocolCodec.encode {} = some sent ∧ received ≠ sent ∧
      (SettingsProtocolCodec.decode received).status ≠ .ok) ∧
    ∃ record corrupted, JournaledUserSettingsStore.encodeRecord {} 1 = some record ∧
      corrupted ≠ record ∧ JournaledUserSettingsStore.decodeRecord corrupted = none := by
  constructor
  · have hburst := Burst.of_bytes [] ((SettingsProtocolCodec.body {} ++
        writeU32 (crc32 (SettingsProtocolCodec.body {}))).drop 1)
      (show [(0 : UInt8)].length = [(0x42 : UInt8)].length from rfl) (by decide) (by decide)
    exact ⟨_, _, rfl, hburst.corrupted, bursts_rejected.1 {} _ _ rfl hburst⟩
  · rcases @exists_payload_of_valid {} (by decide) with ⟨payload, hpayload⟩
    have hrecord : JournaledUserSettingsStore.encodeRecord {} 1 =
        some (JournaledUserSettingsStore.recordOf 1 payload) := by
      rw [JournaledUserSettingsStore.encodeRecord, hpayload, Option.map_some]
    have hburst : Burst (JournaledUserSettingsStore.recordOf 1 payload).toList
        ((JournaledUserSettingsStore.recordOf 1 payload).set 0 0 (by decide)).toList :=
      Burst.of_bytes [] ((JournaledUserSettingsStore.recordOf 1 payload).toList.drop 1)
        (show [(0 : UInt8)].length = [(0x42 : UInt8)].length from rfl) (by decide) (by decide)
    exact ⟨_, _, hrecord, fun hsame => hburst.corrupted (congrArg Vector.toList hsame),
      bursts_rejected.2 {} 1 _ _ hrecord hburst⟩

end BmwRemote.Infrastructure
