import BmwRemote.Host.ImportCanTrace
import BmwRemote.Host.TraceWriting
import BmwRemote.Infrastructure.AcceptedReplay

/-! From a recorded log to the replay: what the import writes is read back as it was by both
readers, and it is a trace that the replay plays to its end. -/
namespace BmwRemote.Host.ImportCanTrace

open BmwRemote.Infrastructure BmwRemote.Lib CanonicalTrace
open CanTraceCsv (parseCanonicalCanTrace Chronological)

/-- The replay takes the frames for a valid trace. Whatever was asked of it before, at this
time it is complete, and a consumer that accepts the frames has had each of them once and in
order. -/
structure ReplaysWhole (frames : List CanFrame) (elapsedMs : UInt32) : Prop where
  valid : (CanTrace.array frames).validate = true
  complete : ∀ {C : Type} (consumer : CanFrameConsumer C) (state : C) (earlier : List UInt32),
    consumer.Accepts state frames →
    ∀ replay world, CanTraceReplay.advanceThrough consumer.recording earlier
        (.new (.array frames)) (state, []) = (replay, world) →
      (replay.advanceTo elapsedMs consumer.recording world).1.status = .complete ∧
      (replay.advanceTo elapsedMs consumer.recording world).2.2.2 =
        frames.map fun frame => (frame, true)

section Frames

variable {frames : List CanonicalFrame}

theorem isValid_toCanFrame {frame : CanonicalFrame} (h : frame.Valid) :
    frame.toCanFrame.isValid = true := by
  have hsame := h.sameFrame
  refine (isValid_iff rfl).mpr ⟨hsame.dataLength.trans_le h.data, ?_⟩
  rw [hsame.identifier]
  exact h.identifier

theorem validate_toCanFrame (hvalid : ∀ frame ∈ frames, frame.Valid) (hordered : InOrder frames) :
    (CanTrace.array (frames.map CanonicalFrame.toCanFrame)).validate = true := by
  have hchronological : Chronological frames.length (frames.map CanonicalFrame.toCanFrame) :=
    (chronological_iff hvalid).mpr ⟨hordered, le_rfl⟩
  refine CanTrace.validateFrames_of_ordered ?_ hchronological.ordered (by simp)
  rw [List.forall_mem_map]
  exact fun frame hmem => isValid_toCanFrame (hvalid frame hmem)

theorem le_last (hordered : InOrder frames) {last : CanonicalFrame}
    (hlast : last ∈ frames.getLast?) : ∀ frame ∈ frames, frame.timestampMs ≤ last.timestampMs := by
  obtain ⟨earlier, rfl⟩ := List.getLast?_eq_some_iff.mp hlast
  intro frame hmem
  rw [List.mem_append, List.mem_singleton] at hmem
  rcases hmem with hearlier | rfl
  · exact (List.pairwise_append.mp hordered.ordered).2.2 frame hearlier last
      (List.mem_singleton_self last)
  · exact le_rfl

theorem replaysWhole (hvalid : ∀ frame ∈ frames, frame.Valid) (hordered : InOrder frames)
    {last : CanonicalFrame} (hlast : last ∈ frames.getLast?) {elapsedMs : UInt32}
    (helapsed : elapsedMs.toNat = last.timestampMs) :
    ReplaysWhole (frames.map CanonicalFrame.toCanFrame) elapsedMs := by
  have hvalidate := validate_toCanFrame hvalid hordered
  have hdue : ∀ frame ∈ frames.map CanonicalFrame.toCanFrame,
      CanTraceReplay.due elapsedMs frame = true := by
    rw [List.forall_mem_map]
    intro frame hmem
    have hle := le_last hordered hlast frame hmem
    have hbound := elapsedMs.toNat_lt
    have hmicros : (elapsedMs.toUInt64 * 1000).toNat = elapsedMs.toNat * 1000 := by
      rw [UInt64.toNat_mul, UInt32.toNat_toUInt64, show (1000 : UInt64).toNat = 1000 from rfl]
      omega
    refine decide_eq_true (UInt64.le_iff_toNat_le.mpr ?_)
    rw [hmicros, (hvalid frame hmem).sameFrame.timestampUs, helapsed]
    exact Nat.mul_le_mul_right 1000 hle
  refine ⟨hvalidate, ?_⟩
  intro C consumer state earlier haccepts replay world hrun
  have hemitted := (CanTraceReplay.emitted_new hvalidate haccepts).advanceThrough earlier
  rw [hrun] at hemitted
  exact hemitted.complete hdue

/-- What is written is read back by both readers, and played to its end by the replay. -/
def RoundTrips (frames : List CanonicalFrame) (maximumFrames : Nat) : Prop :=
  parseCanonicalTrace (writeCanonicalCsv frames) maximumFrames = .ok frames ∧
    ∃ read, (∀ before, parseCanonicalCanTrace (utf8 (writeCanonicalCsv frames)) before
        maximumFrames = .ok ⟨true, read, ""⟩) ∧
      List.Forall₂ SameFrame frames read ∧
      ∃ last ∈ frames.getLast?, ∃ lastMs : UInt32, lastMs.toNat = last.timestampMs ∧
        ReplaysWhole read lastMs

theorem roundTrips (hsome : frames ≠ []) (hvalid : ∀ frame ∈ frames, frame.Valid)
    (hordered : InOrder frames) {maximumFrames : Nat} (hfits : frames.length ≤ maximumFrames) :
    RoundTrips frames maximumFrames := by
  have htrace := written_isTrace hsome hvalid hordered hfits
  refine ⟨tool_accepts_iff.mpr ⟨htrace, written_short hvalid⟩,
    frames.map CanonicalFrame.toCanFrame, ?_, htrace.sameFrames, ?_⟩
  · intro before
    exact simulator_accepts_iff.mpr ⟨written_return hvalid, frames, htrace, rfl⟩
  · have hlast := List.getLast?_eq_some_getLast hsome
    have htime := (hvalid _ (List.getLast_mem hsome)).timestampMs
    have hword : (UInt32.ofNat (frames.getLast hsome).timestampMs).toNat =
        (frames.getLast hsome).timestampMs :=
      UInt32.toNat_ofNat_of_lt' (Nat.lt_of_le_of_lt htime (by decide))
    exact ⟨_, hlast, _, hword, replaysWhole hvalid hordered hlast hword⟩

end Frames

/-- Import, write, read, replay. -/
theorem import_round_trip {messages : List CanMessage} {limit : Int}
    {frames : List CanonicalFrame} {maximumFrames : Nat}
    (himport : canonicalizeMessages messages limit = .ok frames)
    (hfits : frames.length ≤ maximumFrames) :
    parseCanonicalTrace (writeCanonicalCsv frames) maximumFrames = .ok frames ∧
    ∃ read, (∀ before, parseCanonicalCanTrace (utf8 (writeCanonicalCsv frames)) before
        maximumFrames = .ok ⟨true, read, ""⟩) ∧
      List.Forall₂ SameFrame frames read ∧
      ∃ last ∈ frames.getLast?, ∃ lastMs : UInt32, lastMs.toNat = last.timestampMs ∧
        ReplaysWhole read lastMs := by
  obtain ⟨hsome, hvalid, hordered⟩ := canonicalizeMessages_spec himport
  exact roundTrips hsome hvalid hordered hfits

def boundaryMessages : List CanMessage :=
  [{ timestamp := some 10, arbitrationId := 0x7FF, dlc := 0, data := [] },
    { timestamp := some (10 + 5 / 2000), arbitrationId := 0x1FFFFFFF, isExtendedId := true,
      dlc := 2, data := [0xA5, 0] }]

def boundaryFrames : List CanonicalFrame :=
  [⟨0, 0x7FF, false, []⟩, ⟨2, 0x1FFFFFFF, true, [0xA5, 0]⟩]

theorem import_round_trip_boundary :
    parseCanonicalTrace (writeCanonicalCsv boundaryFrames) 2 = .ok boundaryFrames ∧
    ∃ read, (∀ before, parseCanonicalCanTrace (utf8 (writeCanonicalCsv boundaryFrames)) before 2 =
        .ok ⟨true, read, ""⟩) ∧
      List.Forall₂ SameFrame boundaryFrames read ∧
      ∃ last ∈ boundaryFrames.getLast?, ∃ lastMs : UInt32, lastMs.toNat = last.timestampMs ∧
        ReplaysWhole read lastMs :=
  import_round_trip (by decide +kernel : canonicalizeMessages boundaryMessages 2 = .ok boundaryFrames)
    (by decide)

end BmwRemote.Host.ImportCanTrace
