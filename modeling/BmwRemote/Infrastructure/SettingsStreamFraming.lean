import BmwRemote.Infrastructure.SettingsStream
import Mathlib.Data.List.GetD

/-! What the buffered bytes are between two calls: the start of a frame, whose
size is expected as soon as its header is there. -/
namespace BmwRemote.Infrastructure

open BmwRemote.Lib

def SettingsFrameDecodeStatus.Misframed (status : SettingsFrameDecodeStatus) : Prop :=
  status = .tooLong ∨ status = .tooShort ∨ status = .invalidMagic ∨ status = .sizeMismatch

theorem SettingsFrameDecodeStatus.not_misframed_ok : ¬ SettingsFrameDecodeStatus.ok.Misframed := by
  simp [Misframed]

namespace SettingsProtocolCodec

/-- Bytes with a magic and as many as their header announces are one frame. -/
theorem decode_framed {encoded : List UInt8} (hmagic : encoded.take magic.length = magic)
    (hlength : encoded.length = minimumFrameSize + (readU16 encoded payloadSizeOffset).toNat)
    (hmaximum : encoded.length ≤ maximumFrameSize) : ¬ (decode encoded).status.Misframed := by
  have hshort : ¬ encoded.length < minimumFrameSize := by omega
  have hsize : headerSize + (readU16 encoded payloadSizeOffset).toNat + checksumSize =
      encoded.length := by
    rw [hlength, minimumFrameSize]
    omega
  unfold decode
  dsimp only
  rw [if_neg hshort, if_neg (Nat.not_lt.2 hmaximum), if_neg (not_not.2 hmagic)]
  split
  · simp [SettingsFrameDecodeStatus.Misframed]
  split
  · simp [SettingsFrameDecodeStatus.Misframed]
  split
  · simp [SettingsFrameDecodeStatus.Misframed]
  rw [if_neg (not_not.2 hsize)]
  split
  · simp [SettingsFrameDecodeStatus.Misframed]
  · simp [SettingsFrameDecodeStatus.Misframed]

end SettingsProtocolCodec

namespace SettingsStreamReceiver

open SettingsProtocolCodec

/-- The buffered bytes start a frame, or are all of it. -/
structure Filling (receiver : SettingsStreamReceiver) : Prop where
  unannounced : receiver.bufferedSize < headerSize → receiver.expectedSize = 0
  announced : headerSize ≤ receiver.bufferedSize → receiver.expectedSize =
    minimumFrameSize + (readU16 receiver.buffered payloadSizeOffset).toNat
  maximum : receiver.expectedSize ≤ maximumFrameSize
  covered : headerSize ≤ receiver.bufferedSize → receiver.bufferedSize ≤ receiver.expectedSize
  magic : receiver.buffered.take magic.length = magic.take receiver.bufferedSize

structure Framed (receiver : SettingsStreamReceiver) : Prop extends Filling receiver where
  incomplete : headerSize ≤ receiver.bufferedSize → receiver.bufferedSize < receiver.expectedSize

theorem framed_empty (receiver : SettingsStreamReceiver) (hbuffered : receiver.buffered = [])
    (hexpected : receiver.expectedSize = 0) : Framed receiver := by
  have hsize : ¬ headerSize ≤ receiver.bufferedSize := by
    rw [bufferedSize, hbuffered]
    decide
  constructor
  · constructor
    · exact fun _ => hexpected
    · exact fun hheader => absurd hheader hsize
    · rw [hexpected]
      exact Nat.zero_le _
    · exact fun hheader => absurd hheader hsize
    · rw [bufferedSize, hbuffered]
      rfl
  · exact fun hheader => absurd hheader hsize

theorem framed_reset (receiver : SettingsStreamReceiver) : Framed receiver.reset :=
  framed_empty receiver.reset rfl rfl

theorem framed_magic (receiver : SettingsStreamReceiver) {count : Nat}
    (hcount : count ≤ magic.length) (hbuffered : receiver.buffered = magic.take count)
    (hexpected : receiver.expectedSize = 0) : Framed receiver := by
  have hsize : receiver.bufferedSize = count := by
    rw [bufferedSize, hbuffered, List.length_take, Nat.min_eq_left hcount]
  have hheader : ¬ headerSize ≤ receiver.bufferedSize := by
    have hmagic : magic.length < headerSize := by decide
    omega
  constructor
  · constructor
    · exact fun _ => hexpected
    · exact fun hlong => absurd hlong hheader
    · rw [hexpected]
      exact Nat.zero_le _
    · exact fun hlong => absurd hlong hheader
    · rw [hsize, hbuffered, List.take_take, Nat.min_eq_right hcount]
  · exact fun hlong => absurd hlong hheader

variable {receiver : SettingsStreamReceiver}

theorem Framed.room (h : Framed receiver) : receiver.bufferedSize < maximumFrameSize := by
  by_cases hheader : headerSize ≤ receiver.bufferedSize
  · exact Nat.lt_of_lt_of_le (h.incomplete hheader) h.maximum
  · exact Nat.lt_trans (Nat.lt_of_not_le hheader) (by decide)

theorem Filling.complete (h : Filling receiver) :
    Framed receiver.complete.2 ∧ ¬ receiver.complete.1.decodeStatus.Misframed := by
  unfold SettingsStreamReceiver.complete
  dsimp only
  split
  · rename_i hwaiting
    have hincomplete : headerSize ≤ receiver.bufferedSize →
        receiver.bufferedSize < receiver.expectedSize := by
      intro hheader
      have hannounced := h.announced hheader
      have hminimum : 0 < minimumFrameSize := by decide
      omega
    exact ⟨⟨h, hincomplete⟩, SettingsFrameDecodeStatus.not_misframed_ok⟩
  rename_i hwhole
  have hheader : headerSize ≤ receiver.bufferedSize := by
    have hunannounced := h.unannounced
    omega
  have hannounced := h.announced hheader
  have hcovered := h.covered hheader
  have hlength : receiver.bufferedSize = receiver.expectedSize := by omega
  have hmagic : receiver.buffered.take SettingsProtocolCodec.magic.length =
      SettingsProtocolCodec.magic := by
    rw [h.magic]
    exact List.take_of_length_le (Nat.le_trans (by decide) hheader)
  have hdecode : ¬ (decode receiver.buffered).status.Misframed :=
    decode_framed hmagic (hlength.trans hannounced) (hlength.trans_le h.maximum)
  split
  · exact ⟨framed_reset receiver, hdecode⟩
  · exact ⟨framed_reset receiver, SettingsFrameDecodeStatus.not_misframed_ok⟩

theorem length_received (receiver : SettingsStreamReceiver) (byte : UInt8) :
    (receiver.buffered ++ [byte]).length = receiver.bufferedSize + 1 := by
  simp [bufferedSize]

theorem Framed.magic_received (h : Framed receiver) (byte : UInt8)
    (hlong : SettingsProtocolCodec.magic.length ≤ receiver.bufferedSize) :
    (receiver.buffered ++ [byte]).take SettingsProtocolCodec.magic.length =
      SettingsProtocolCodec.magic.take (receiver.buffered ++ [byte]).length := by
  rw [length_received, List.take_append_of_le_length hlong, h.magic, List.take_of_length_le hlong,
    List.take_of_length_le (Nat.le_succ_of_le hlong)]

theorem Framed.announce (h : Framed receiver) (byte : UInt8)
    (hlong : SettingsProtocolCodec.magic.length ≤ receiver.bufferedSize)
    (hheader : receiver.bufferedSize + 1 = headerSize)
    (hsize : (readU16 (receiver.buffered ++ [byte]) payloadSizeOffset).toNat ≤
      userSettingsPayloadSize) :
    Filling { receiver with
      buffered := receiver.buffered ++ [byte]
      expectedSize := headerSize +
        (readU16 (receiver.buffered ++ [byte]) payloadSizeOffset).toNat + checksumSize } := by
  have hlength := length_received receiver byte
  constructor
  · intro hshort
    have : (receiver.buffered ++ [byte]).length < headerSize := hshort
    omega
  · intro _
    dsimp only
    rw [minimumFrameSize]
    omega
  · dsimp only
    rw [maximumFrameSize]
    omega
  · intro _
    change (receiver.buffered ++ [byte]).length ≤ headerSize + _ + checksumSize
    omega
  · exact h.magic_received byte hlong

theorem Framed.advance (h : Framed receiver) (byte : UInt8)
    (hlong : SettingsProtocolCodec.magic.length ≤ receiver.bufferedSize)
    (hheader : receiver.bufferedSize + 1 ≠ headerSize) :
    Filling { receiver with buffered := receiver.buffered ++ [byte] } := by
  have hlength := length_received receiver byte
  have hbefore : headerSize ≤ (receiver.buffered ++ [byte]).length →
      headerSize ≤ receiver.bufferedSize := by omega
  constructor
  · intro hshort
    have : (receiver.buffered ++ [byte]).length < headerSize := hshort
    exact h.unannounced (by omega)
  · intro hpast
    have hread : readU16 (receiver.buffered ++ [byte]) payloadSizeOffset =
        readU16 receiver.buffered payloadSizeOffset :=
      readU16_append [byte] (Nat.lt_of_lt_of_le (by decide) (hbefore hpast))
    dsimp only
    rw [hread]
    exact h.announced (hbefore hpast)
  · exact h.maximum
  · intro hpast
    change (receiver.buffered ++ [byte]).length ≤ receiver.expectedSize
    rw [hlength]
    exact h.incomplete (hbefore hpast)
  · exact h.magic_received byte hlong

theorem Framed.consumeSynchronized (h : Framed receiver) (byte : UInt8) :
    Framed (receiver.consumeSynchronized byte).2 ∧
      ¬ (receiver.consumeSynchronized byte).1.decodeStatus.Misframed := by
  have hquiet : ¬ ({} : SettingsStreamEvent).decodeStatus.Misframed :=
    SettingsFrameDecodeStatus.not_misframed_ok
  unfold SettingsStreamReceiver.consumeSynchronized
  dsimp only
  split
  · rename_i hshort
    have hzero := h.unannounced (Nat.lt_trans hshort (by decide))
    split
    · rename_i hbyte
      refine ⟨framed_magic _ hshort ?_ hzero, hquiet⟩
      have hbuffered : receiver.buffered = SettingsProtocolCodec.magic.take receiver.bufferedSize := by
        rw [← h.magic, List.take_of_length_le (Nat.le_of_lt hshort)]
      have hplace : byte = SettingsProtocolCodec.magic[receiver.bufferedSize] := by
        rw [hbyte, byteAt, List.getD_eq_getElem _ _ hshort]
      change receiver.buffered ++ [byte] = _
      rw [List.take_succ_eq_append_getElem hshort, ← hplace, ← hbuffered]
    split
    · rename_i hbyte
      have hfirst : byte = 0x42 := hbyte
      have hbuffered : [byte] = SettingsProtocolCodec.magic.take 1 := by
        rw [hfirst]
        rfl
      exact ⟨framed_magic _ (by decide) hbuffered hzero, hquiet⟩
    · exact ⟨framed_empty _ rfl hzero, hquiet⟩
  rename_i hlong
  rw [Nat.not_lt] at hlong
  have hreceived : bufferedSize { receiver with buffered := receiver.buffered ++ [byte] } =
      receiver.bufferedSize + 1 := length_received receiver byte
  rw [if_neg (Nat.not_le.2 h.room), hreceived]
  split
  · rename_i hheader
    split
    · exact ⟨framed_reset receiver, by simp [SettingsFrameDecodeStatus.Misframed]⟩
    · rename_i hsize
      exact (h.announce byte hlong hheader (Nat.not_lt.1 hsize)).complete
  · rename_i hheader
    exact (h.advance byte hlong hheader).complete

theorem Framed.waken (h : Framed receiver) (nowMs : UInt32) : Framed (receiver.waken nowMs) := by
  unfold SettingsStreamReceiver.waken
  dsimp only
  split
  · exact framed_empty _ rfl rfl
  · exact ⟨⟨h.unannounced, h.announced, h.maximum, h.covered, h.magic⟩, h.incomplete⟩

theorem Framed.consume (h : Framed receiver) (byte : UInt8) (nowMs : UInt32) :
    Framed (receiver.consume byte nowMs).2 ∧
      ¬ (receiver.consume byte nowMs).1.decodeStatus.Misframed := by
  obtain ⟨hafter, hevent⟩ := (h.waken nowMs).consumeSynchronized byte
  refine ⟨hafter, ?_⟩
  unfold SettingsStreamReceiver.consume
  dsimp only
  split
  · exact hevent
  split
  · exact SettingsFrameDecodeStatus.not_misframed_ok
  · exact hevent

theorem Framed.machine (h : Framed receiver) (input : Input) :
    Framed (SettingsStreamReceiver.machine receiver input).2 ∧
      ¬ (SettingsStreamReceiver.machine receiver input).1.decodeStatus.Misframed := by
  cases input with
  | consume byte nowMs => exact h.consume byte nowMs
  | poll nowMs =>
    change Framed (receiver.poll nowMs).2 ∧ ¬ (receiver.poll nowMs).1.decodeStatus.Misframed
    unfold SettingsStreamReceiver.poll
    split
    · exact ⟨h, SettingsFrameDecodeStatus.not_misframed_ok⟩
    · exact ⟨framed_reset receiver, SettingsFrameDecodeStatus.not_misframed_ok⟩
  | reset => exact ⟨framed_reset receiver, SettingsFrameDecodeStatus.not_misframed_ok⟩

theorem Framed.run (h : Framed receiver) (inputs : List Input) :
    Framed (SettingsStreamReceiver.machine.final receiver inputs) ∧
      ∀ event ∈ outputs receiver inputs, ¬ event.decodeStatus.Misframed := by
  induction inputs generalizing receiver with
  | nil => exact ⟨h, nofun⟩
  | cons input rest ih =>
    obtain ⟨hafter, hevent⟩ := h.machine input
    obtain ⟨hlast, hrest⟩ := ih hafter
    refine ⟨hlast, ?_⟩
    rw [outputs_cons]
    exact List.forall_mem_cons.2 ⟨hevent, hrest⟩

end SettingsStreamReceiver

end BmwRemote.Infrastructure
