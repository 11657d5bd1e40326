import BmwRemote.Infrastructure.CanFrame
import Mathlib.Data.List.Basic

/-! Replay of a recorded trace: the frames that are due go to a consumer in order,
and the first one that it rejects stays where the cursor is. -/
namespace BmwRemote.Infrastructure

universe u

inductive ReplayStatus where
  | ready
  | complete
  | invalidTrace
  | consumerRejected
  | nonMonotonicTime
  deriving DecidableEq, Repr

structure ReplayBatch where
  status : ReplayStatus := .ready
  emittedFrames : Nat := 0
  nextFrameIndex : Nat := 0
  deriving DecidableEq, Repr

/-- A consumer with its state says whether it accepts a frame. -/
structure CanFrameConsumer (C : Type u) where
  consume : C → CanFrame → Bool × C

inductive CanTrace where
  | null (frameCount : Nat)
  | array (frames : List CanFrame)

namespace CanTrace

def frames : CanTrace → List CanFrame
  | null _ => []
  | array frames => frames

def frameCount : CanTrace → Nat
  | null frameCount => frameCount
  | array frames => frames.length

def validateFrames : Option CanFrame → List CanFrame → Bool
  | _, [] => true
  | previous, frame :: rest =>
    frame.isValid &&
      !(previous.any fun earlier => decide (frame.timestampUs < earlier.timestampUs)) &&
      validateFrames (some frame) rest

def validate : CanTrace → Bool
  | null frameCount => frameCount == 0
  | array frames => validateFrames none frames

end CanTrace

structure CanTraceReplay where
  trace : CanTrace
  cursor : Nat := 0
  valid : Bool

namespace CanTraceReplay

variable {C : Type u}

def new (trace : CanTrace) : CanTraceReplay where
  trace := trace
  valid := trace.validate

/-- The loop of `advanceTo`: whether a frame was rejected, and how many went before. -/
def emit (consumer : CanFrameConsumer C) (elapsedUs : UInt64) :
    List CanFrame → C → Bool × Nat × C
  | [], state => (false, 0, state)
  | frame :: rest, state =>
    if frame.timestampUs ≤ elapsedUs then
      match consumer.consume state frame with
      | (false, state) => (true, 0, state)
      | (true, state) =>
        let (rejected, emittedFrames, state) := emit consumer elapsedUs rest state
        (rejected, emittedFrames + 1, state)
    else (false, 0, state)

def advanceTo (replay : CanTraceReplay) (elapsedMs : UInt32) (consumer : CanFrameConsumer C)
    (state : C) : ReplayBatch × CanTraceReplay × C :=
  if !replay.valid then
    ({ status := .invalidTrace, nextFrameIndex := replay.cursor }, replay, state)
  else
    let elapsedUs := elapsedMs.toUInt64 * 1000
    let (rejected, emittedFrames, state) :=
      emit consumer elapsedUs (replay.trace.frames.drop replay.cursor) state
    let cursor := replay.cursor + emittedFrames
    let status :=
      if rejected then .consumerRejected
      else if cursor = replay.trace.frameCount then .complete
      else .ready
    (⟨status, emittedFrames, cursor⟩, { replay with cursor := cursor }, state)

def reset (replay : CanTraceReplay) : CanTraceReplay := { replay with cursor := 0 }

end CanTraceReplay

def CanFrameConsumer.recording {C : Type u} (consumer : CanFrameConsumer C) :
    CanFrameConsumer (C × List (CanFrame × Bool)) where
  consume state frame :=
    let (accepted, after) := consumer.consume state.1 frame
    (accepted, after, state.2 ++ [(frame, accepted)])

namespace CanTraceReplay

variable {C V : Type u} {consumer : CanFrameConsumer C} {elapsedUs : UInt64}
  {frame : CanFrame} {rest : List CanFrame} {state after : C}

theorem emit_early (hdue : ¬ frame.timestampUs ≤ elapsedUs) :
    emit consumer elapsedUs (frame :: rest) state = (false, 0, state) := by
  rw [emit, if_neg hdue]

theorem emit_rejected (hdue : frame.timestampUs ≤ elapsedUs)
    (h : consumer.consume state frame = (false, after)) :
    emit consumer elapsedUs (frame :: rest) state = (true, 0, after) := by
  rw [emit, if_pos hdue, h]

theorem emit_accepted (hdue : frame.timestampUs ≤ elapsedUs)
    (h : consumer.consume state frame = (true, after)) :
    emit consumer elapsedUs (frame :: rest) state =
      ((emit consumer elapsedUs rest after).1, (emit consumer elapsedUs rest after).2.1 + 1,
        (emit consumer elapsedUs rest after).2.2) := by
  rw [emit, if_pos hdue, h]

theorem recording_consume {accepted : Bool} (log : List (CanFrame × Bool))
    (h : consumer.consume state frame = (accepted, after)) :
    consumer.recording.consume (state, log) frame =
      (accepted, after, log ++ [(frame, accepted)]) := by
  simp [CanFrameConsumer.recording, h]

theorem emit_recording (consumer : CanFrameConsumer C) (elapsedUs : UInt64)
    (frames : List CanFrame) (state : C) (log : List (CanFrame × Bool)) :
    emit consumer elapsedUs frames state =
      ((emit consumer.recording elapsedUs frames (state, log)).1,
        (emit consumer.recording elapsedUs frames (state, log)).2.1,
        (emit consumer.recording elapsedUs frames (state, log)).2.2.1) := by
  induction frames generalizing state log with
  | nil => rfl
  | cons frame rest ih =>
    by_cases hdue : frame.timestampUs ≤ elapsedUs
    · cases hconsume : consumer.consume state frame with
      | mk accepted after =>
        have hrecorded := recording_consume log hconsume
        cases accepted with
        | false => rw [emit_rejected hdue hconsume, emit_rejected hdue hrecorded]
        | true =>
          rw [emit_accepted hdue hconsume, emit_accepted hdue hrecorded,
            ih after (log ++ [(frame, true)])]
    · rw [emit_early hdue, emit_early hdue]

/-- A consumer whose answer depends on the frame alone, and that folds the accepted
frames into the part `view` of its state, while `holds` does. -/
structure Folds (consumer : CanFrameConsumer C) (holds : C → Prop) (view : C → V)
    (accepts : CanFrame → Bool) (fold : V → CanFrame → V) : Prop where
  keeps : ∀ state frame, holds state → holds (consumer.consume state frame).2
  answer : ∀ state frame, holds state → (consumer.consume state frame).1 = accepts frame
  accepted : ∀ state frame, holds state → accepts frame = true →
    view (consumer.consume state frame).2 = fold (view state) frame
  rejected : ∀ state frame, holds state → accepts frame = false →
    view (consumer.consume state frame).2 = view state

def passes (accepts : CanFrame → Bool) (elapsedUs : UInt64) (frame : CanFrame) : Bool :=
  decide (frame.timestampUs ≤ elapsedUs) && accepts frame

def refused (accepts : CanFrame → Bool) (elapsedUs : UInt64) (frames : List CanFrame) :
    Option CanFrame :=
  (frames.find? fun frame => !passes accepts elapsedUs frame).filter
    fun frame => decide (frame.timestampUs ≤ elapsedUs)

theorem refused_eq_some {accepts : CanFrame → Bool} {frames : List CanFrame}
    (h : refused accepts elapsedUs frames = some frame) :
    frames[(frames.takeWhile (passes accepts elapsedUs)).length]? = some frame ∧
      accepts frame = false := by
  unfold refused at h
  rw [Option.filter_eq_some_iff, decide_eq_true_eq] at h
  induction frames with
  | nil => cases h.1
  | cons first rest ih =>
    by_cases hpasses : passes accepts elapsedUs first = true
    · rw [List.find?_cons_of_neg (by simp [hpasses])] at h
      simpa [hpasses] using ih h
    · rw [List.find?_cons_of_pos (by simp [hpasses])] at h
      rcases h with ⟨hfirst, hdue⟩
      cases hfirst
      simpa [hpasses] using by simpa [passes, hdue] using hpasses

/-- The loop hands on, in order and once, the frames up to the first that is not due
or not accepted, and the latter only if it is due. -/
theorem emit_recorded {holds : C → Prop} {view : C → V} {accepts : CanFrame → Bool}
    {fold : V → CanFrame → V} (h : Folds consumer holds view accepts fold) (elapsedUs : UInt64)
    (frames : List CanFrame) {state : C} (hstate : holds state)
    (log : List (CanFrame × Bool)) :
    let taken := frames.takeWhile (passes accepts elapsedUs)
    let result := emit consumer.recording elapsedUs frames (state, log)
    holds result.2.2.1 ∧ result.2.1 = taken.length ∧
      view result.2.2.1 = taken.foldl fold (view state) ∧
      result.2.2.2 = log ++ taken.map (fun frame => (frame, true)) ++
        (refused accepts elapsedUs frames).toList.map fun frame => (frame, false) := by
  induction frames generalizing state log with
  | nil => simpa [emit, refused] using hstate
  | cons frame rest ih =>
    dsimp only
    by_cases hdue : frame.timestampUs ≤ elapsedUs
    · cases hconsume : consumer.consume state frame with
      | mk accepted after =>
        have hrecorded := recording_consume log hconsume
        have hafter := h.keeps state frame hstate
        have hanswer := h.answer state frame hstate
        rw [hconsume] at hanswer hafter
        cases accepted with
        | false =>
          have hview := h.rejected state frame hstate hanswer.symm
          rw [hconsume] at hview
          rw [emit_rejected hdue hrecorded]
          simpa [refused, passes, hdue, ← hanswer, hview, Option.filter] using hafter
        | true =>
          have hview := h.accepted state frame hstate hanswer.symm
          rw [hconsume] at hview
          rw [emit_accepted hdue hrecorded]
          have hrest := ih hafter (log ++ [(frame, true)])
          dsimp only at hrest hview
          have hrefused : refused accepts elapsedUs (frame :: rest) =
              refused accepts elapsedUs rest := by
            simp [refused, passes, hdue, ← hanswer]
          have hpasses : passes accepts elapsedUs frame = true := by
            simp [passes, hdue, ← hanswer]
          rw [hrefused, List.takeWhile_cons_of_pos hpasses, hrest.2.1, hrest.2.2.1,
            hrest.2.2.2, hview]
          simpa using hrest.1
    · rw [emit_early hdue]
      simpa [refused, passes, hdue, Option.filter] using hstate

theorem takeWhile_append_drop {α : Type u} {first second : α → Bool}
    (h : ∀ item, first item = true → second item = true) (items : List α) :
    items.takeWhile first ++ (items.drop (items.takeWhile first).length).takeWhile second =
      items.takeWhile second := by
  induction items with
  | nil => rfl
  | cons item rest ih =>
    by_cases hfirst : first item = true
    · rw [List.takeWhile_cons_of_pos hfirst, List.takeWhile_cons_of_pos (h item hfirst),
        List.length_cons, List.drop_succ_cons, List.cons_append, ih]
    · rw [List.takeWhile_cons_of_neg hfirst]
      rfl

end CanTraceReplay

end BmwRemote.Infrastructure
