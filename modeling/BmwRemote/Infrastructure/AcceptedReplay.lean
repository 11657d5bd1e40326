import BmwRemote.Infrastructure.CanTraceReplay
import Mathlib.Data.List.TakeWhile

/-! A replay whose consumer takes every frame: whatever times are asked for, each frame goes to
the consumer once and in order, and at the time of the last one all of them have. -/
namespace BmwRemote.Infrastructure

universe u

variable {C : Type u} {consumer : CanFrameConsumer C} {state : C}

def CanFrameConsumer.Accepts (consumer : CanFrameConsumer C) : C → List CanFrame → Prop
  | _, [] => True
  | state, frame :: rest =>
    (consumer.consume state frame).1 = true ∧
      consumer.Accepts (consumer.consume state frame).2 rest

namespace CanTrace

theorem validateFrames_of_ordered {frames : List CanFrame} (hvalid : ∀ frame ∈ frames, frame.isValid)
    (hordered : frames.Pairwise fun earlier later => earlier.timestampUs ≤ later.timestampUs)
    {previous : Option CanFrame}
    (hprevious : ∀ earlier ∈ previous, ∀ frame ∈ frames, earlier.timestampUs ≤ frame.timestampUs) :
    validateFrames previous frames = true := by
  induction frames generalizing previous with
  | nil => rfl
  | cons frame frames ih =>
    rw [List.forall_mem_cons] at hvalid
    rw [List.pairwise_cons] at hordered
    have hnext : (previous.any fun earlier => decide (frame.timestampUs < earlier.timestampUs)) =
        false := by
      cases previous with
      | none => rfl
      | some earlier =>
        have hle := hprevious earlier rfl frame List.mem_cons_self
        simpa using hle
    rw [validateFrames, hvalid.1, hnext, ih hvalid.2 hordered.2 (by simpa using hordered.1)]
    rfl

end CanTrace

namespace CanTraceReplay

def due (elapsedMs : UInt32) (frame : CanFrame) : Bool :=
  decide (frame.timestampUs ≤ elapsedMs.toUInt64 * 1000)

def advanceThrough (consumer : CanFrameConsumer C) :
    List UInt32 → CanTraceReplay → C → CanTraceReplay × C
  | [], replay, state => (replay, state)
  | elapsedMs :: times, replay, state =>
    let (_, replay, state) := replay.advanceTo elapsedMs consumer state
    advanceThrough consumer times replay state

/-- The loop hands on what is due. -/
theorem emit_accepting (elapsedMs : UInt32) {frames : List CanFrame}
    (h : consumer.Accepts state frames) (log : List (CanFrame × Bool)) :
    ∃ after, consumer.Accepts after (frames.drop (frames.takeWhile (due elapsedMs)).length) ∧
      emit consumer.recording (elapsedMs.toUInt64 * 1000) frames (state, log) =
        (false, (frames.takeWhile (due elapsedMs)).length, after,
          log ++ (frames.takeWhile (due elapsedMs)).map fun frame => (frame, true)) := by
  induction frames generalizing state log with
  | nil => exact ⟨state, trivial, by simp [emit]⟩
  | cons frame frames ih =>
    by_cases hdue : frame.timestampUs ≤ elapsedMs.toUInt64 * 1000
    · obtain ⟨haccepts, hrest⟩ := h
      cases hconsume : consumer.consume state frame with
      | mk accepted after =>
        rw [hconsume] at haccepts hrest
        cases haccepts
        obtain ⟨final, hfinal, hemit⟩ := ih hrest (log ++ [(frame, true)])
        have htaken : (frame :: frames).takeWhile (due elapsedMs) =
            frame :: frames.takeWhile (due elapsedMs) :=
          List.takeWhile_cons_of_pos (decide_eq_true hdue)
        rw [htaken, emit_accepted hdue (recording_consume log hconsume), hemit]
        exact ⟨final, hfinal, by simp⟩
    · have htaken : (frame :: frames).takeWhile (due elapsedMs) = [] :=
        List.takeWhile_cons_of_neg (by simpa [due] using hdue)
      rw [htaken, emit_early hdue]
      exact ⟨state, h, by simp⟩

/-- The frames up to the cursor have gone to the consumer, and it accepts the others. -/
structure Emitted (consumer : CanFrameConsumer C) (frames : List CanFrame)
    (replay : CanTraceReplay) (state : C × List (CanFrame × Bool)) : Prop where
  trace_eq : replay.trace = .array frames
  valid : replay.valid = true
  cursor : replay.cursor ≤ frames.length
  log : state.2 = (frames.take replay.cursor).map fun frame => (frame, true)
  accepts : consumer.Accepts state.1 (frames.drop replay.cursor)

variable {frames : List CanFrame} {replay : CanTraceReplay} {world : C × List (CanFrame × Bool)}

theorem emitted_new (hvalid : (CanTrace.array frames).validate = true)
    (haccepts : consumer.Accepts state frames) :
    Emitted consumer frames (new (.array frames)) (state, []) :=
  ⟨rfl, hvalid, Nat.zero_le _, rfl, haccepts⟩

def dueFrames (frames : List CanFrame) (cursor : Nat) (elapsedMs : UInt32) : Nat :=
  ((frames.drop cursor).takeWhile (due elapsedMs)).length

theorem Emitted.advanceTo (h : Emitted consumer frames replay world) (elapsedMs : UInt32) :
    ∃ batch after, replay.advanceTo elapsedMs consumer.recording world =
        (batch, { replay with cursor := replay.cursor + dueFrames frames replay.cursor elapsedMs },
          after) ∧
      Emitted consumer frames
        { replay with cursor := replay.cursor + dueFrames frames replay.cursor elapsedMs } after ∧
      batch.status = if replay.cursor + dueFrames frames replay.cursor elapsedMs = frames.length
        then .complete else .ready := by
  obtain ⟨state, log⟩ := world
  obtain ⟨after, haccepts, hemit⟩ := emit_accepting elapsedMs h.accepts log
  have htaken : (frames.drop replay.cursor).takeWhile (due elapsedMs) =
      (frames.drop replay.cursor).take (dueFrames frames replay.cursor elapsedMs) :=
    List.prefix_iff_eq_take.mp (List.takeWhile_prefix _)
  have hlog : log = (frames.take replay.cursor).map fun frame => (frame, true) := h.log
  unfold CanTraceReplay.advanceTo
  rw [h.valid, h.trace_eq]
  dsimp only [CanTrace.frames, CanTrace.frameCount, Bool.not_true, Bool.false_eq_true, if_false]
  rw [hemit]
  have hcount : dueFrames frames replay.cursor elapsedMs ≤ frames.length - replay.cursor := by
    rw [← List.length_drop]
    exact (List.takeWhile_prefix _).length_le
  have hcursor := h.cursor
  refine ⟨_, _, rfl, ⟨rfl, rfl, ?_, ?_, ?_⟩, rfl⟩
  · dsimp only
    omega
  · dsimp only
    rw [hlog, htaken, List.take_add, List.map_append]
  · dsimp only
    rw [← List.drop_drop]
    exact haccepts

theorem Emitted.advanceThrough (h : Emitted consumer frames replay world) (times : List UInt32) :
    Emitted consumer frames (advanceThrough consumer.recording times replay world).1
      (advanceThrough consumer.recording times replay world).2 := by
  induction times generalizing replay world with
  | nil => exact h
  | cons elapsedMs times ih =>
    obtain ⟨batch, after, hanswer, hafter, -⟩ := h.advanceTo elapsedMs
    rw [CanTraceReplay.advanceThrough, hanswer]
    exact ih hafter

theorem Emitted.complete (h : Emitted consumer frames replay world) {elapsedMs : UInt32}
    (hdue : ∀ frame ∈ frames, due elapsedMs frame = true) :
    (replay.advanceTo elapsedMs consumer.recording world).1.status = .complete ∧
      (replay.advanceTo elapsedMs consumer.recording world).2.2.2 =
        frames.map fun frame => (frame, true) := by
  obtain ⟨batch, after, hanswer, hafter, hstatus⟩ := h.advanceTo elapsedMs
  have hall : (frames.drop replay.cursor).takeWhile (due elapsedMs) = frames.drop replay.cursor :=
    List.takeWhile_eq_self_iff.mpr fun frame hmem => hdue frame (List.mem_of_mem_drop hmem)
  have hcount : replay.cursor + dueFrames frames replay.cursor elapsedMs = frames.length := by
    rw [dueFrames, hall, List.length_drop, Nat.add_sub_cancel' h.cursor]
  rw [hcount] at hstatus hafter
  rw [hanswer]
  refine ⟨by simpa using hstatus, ?_⟩
  have hlog := hafter.log
  dsimp only at hlog
  rw [hlog, List.take_length]

end CanTraceReplay

end BmwRemote.Infrastructure
