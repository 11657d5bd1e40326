import BmwRemote.Infrastructure.ReplayVehicleGateway
import Mathlib.Data.List.TakeWhile

/-! The gateway refines a fold: in every state of a run it has replayed a prefix of
the trace, which the last request determines, and shows what that prefix says. -/
namespace BmwRemote.Infrastructure

open BmwRemote.Domain BmwRemote.Lib

namespace ReplayVehicleGateway

variable {decoder : CanFrameDecoder} {freshness : SignalFreshnessConfig}

def storedSignal {T : Type} [Inhabited T] (cast : Int32 → T) :
    Option (Int32 × Nat) → StoredSignal T
  | none => .empty
  | some (value, time) => ⟨cast value, UInt32.ofNat time, true⟩

def storedOf (last : Readings) : StoredSignals where
  batteryMillivolts := storedSignal wordOf (last .batteryMillivolts)
  engineRpm := storedSignal wordOf (last .engineRpm)
  coolantTemperatureC := storedSignal Int32.toInt16 (last .coolantTemperatureC)
  engineOilTemperatureC := storedSignal Int32.toInt16 (last .engineOilTemperatureC)
  transmissionOilTemperatureC := storedSignal Int32.toInt16 (last .transmissionOilTemperatureC)
  dpfRegenerationActive := storedSignal flagOf (last .dpfRegenerationActive)
  hoodClosed := storedSignal flagOf (last .hoodClosed)
  doorsClosed := storedSignal flagOf (last .doorsClosed)
  trunkClosed := storedSignal flagOf (last .trunkClosed)
  brakePressed := storedSignal flagOf (last .brakePressed)
  parkingBrakeApplied := storedSignal flagOf (last .parkingBrakeApplied)
  transmission := storedSignal transmissionOf (last .transmission)
  gear := storedSignal gearOf (last .gear)
  criticalFaultPresent := storedSignal flagOf (last .criticalFaultPresent)

theorem applySignal_storedOf (last : Readings) (signal : DecodedSignal) (time : Nat) :
    (storedOf last).applySignal signal (UInt32.ofNat time) =
      storedOf (Readings.signal time last signal) := by
  rcases signal with ⟨name, value⟩
  cases name with
  | none => rfl
  | some name => cases name <;> rfl

theorem timestampMilliseconds_eq (frame : CanFrame) :
    frame.timestampMilliseconds = UInt32.ofNat (frame.timestampUs.toNat / 1000) := by
  rw [CanFrame.timestampMilliseconds, ← UInt32.toNat_inj, UInt64.toNat_toUInt32,
    UInt64.toNat_div, UInt32.toNat_ofNat']
  rfl

def storeFrame (decoder : CanFrameDecoder) (stored : StoredSignals) (frame : CanFrame) :
    StoredSignals :=
  ((decoded decoder frame).getD []).foldl
    (fun stored signal => stored.applySignal signal frame.timestampMilliseconds) stored

theorem storeFrame_storedOf (last : Readings) (frame : CanFrame) :
    storeFrame decoder (storedOf last) frame = storedOf (Readings.frame decoder last frame) := by
  unfold storeFrame Readings.frame
  rw [timestampMilliseconds_eq]
  exact List.foldl_hom storedOf fun last signal => applySignal_storedOf last signal _

theorem foldl_storeFrame (frames : List CanFrame) (last : Readings) :
    frames.foldl (storeFrame decoder) (storedOf last) =
      storedOf (frames.foldl (Readings.frame decoder) last) :=
  List.foldl_hom storedOf fun last frame => storeFrame_storedOf last frame

/-- Everything one frame can do to the assembler. -/
theorem consume_spec (assembler : VehicleStateAssembler) (frame : CanFrame) :
    (assembler.consume frame).1 = (decoded assembler.decoder frame).isSome ∧
      (assembler.consume frame).2.decoder = assembler.decoder ∧
      (assembler.consume frame).2.freshness = assembler.freshness ∧
      (assembler.consume frame).2.stored = storeFrame assembler.decoder assembler.stored frame := by
  unfold VehicleStateAssembler.consume storeFrame decoded
  dsimp only
  split
  · exact ⟨rfl, rfl, rfl, rfl⟩
  split
  · exact ⟨rfl, rfl, rfl, rfl⟩
  split
  · exact ⟨rfl, rfl, rfl, rfl⟩
  · exact ⟨rfl, rfl, rfl, rfl⟩

theorem folds (decoder : CanFrameDecoder) (freshness : SignalFreshnessConfig) :
    CanTraceReplay.Folds VehicleStateAssembler.consumer
      (fun assembler => assembler.decoder = decoder ∧ assembler.freshness = freshness)
      (fun assembler => assembler.stored) (fun frame => (decoded decoder frame).isSome)
      (storeFrame decoder) := by
  refine ⟨?_, ?_, ?_, ?_⟩
  · rintro assembler frame ⟨rfl, rfl⟩
    exact ⟨(consume_spec assembler frame).2.1, (consume_spec assembler frame).2.2.1⟩
  · rintro assembler frame ⟨rfl, rfl⟩
    exact (consume_spec assembler frame).1
  · rintro assembler frame ⟨rfl, rfl⟩ -
    exact (consume_spec assembler frame).2.2.2
  · rintro assembler frame ⟨rfl, rfl⟩ hrejected
    rw [Option.isSome_eq_false_iff, Option.isNone_iff_eq_none] at hrejected
    have hstored := (consume_spec assembler frame).2.2.2
    rw [storeFrame, hrejected] at hstored
    exact hstored

theorem passes_eq (elapsedMs : UInt32) :
    CanTraceReplay.passes (fun frame => (decoded decoder frame).isSome)
      (elapsedMs.toUInt64 * 1000) = replayable decoder elapsedMs := by
  funext frame
  have hbound := elapsedMs.toNat_lt
  have helapsed : (elapsedMs.toUInt64 * 1000).toNat = elapsedMs.toNat * 1000 := by
    rw [UInt64.toNat_mul, UInt32.toNat_toUInt64, show (1000 : UInt64).toNat = 1000 from rfl]
    omega
  simp only [CanTraceReplay.passes, replayable, UInt64.le_iff_toNat_le, helapsed]

theorem replayable_mono {earlier later : UInt32} (h : earlier ≤ later) (frame : CanFrame)
    (hframe : replayable decoder earlier frame = true) : replayable decoder later frame = true := by
  unfold replayable at hframe ⊢
  rw [Bool.and_eq_true, decide_eq_true_eq] at hframe ⊢
  rw [UInt32.le_iff_toNat_le] at h
  exact ⟨by omega, hframe.2⟩

theorem replayed_append (frames : List CanFrame) {requestedMs : Option UInt32}
    {elapsedMs : UInt32} (h : ∀ earlier ∈ requestedMs, earlier ≤ elapsedMs) :
    replayed decoder frames requestedMs ++
        (frames.drop (replayed decoder frames requestedMs).length).takeWhile
          (replayable decoder elapsedMs) =
      replayed decoder frames (some elapsedMs) := by
  cases requestedMs with
  | none => rfl
  | some earlier =>
    exact CanTraceReplay.takeWhile_append_drop (replayable_mono (h earlier rfl)) frames

theorem replayed_blocked {frames : List CanFrame} {requestedMs : Option UInt32}
    {elapsedMs : UInt32} (h : ∀ earlier ∈ requestedMs, earlier ≤ elapsedMs) {frame : CanFrame}
    (hnext : frames[(replayed decoder frames requestedMs).length]? = some frame)
    (hrejected : decoded decoder frame = none) :
    replayed decoder frames (some elapsedMs) = replayed decoder frames requestedMs := by
  have hnone : replayable decoder elapsedMs frame ≠ true := by simp [replayable, hrejected]
  rcases List.getElem?_eq_some_iff.1 hnext with ⟨hlt, hget⟩
  have hdrop := List.drop_eq_getElem_cons hlt
  rw [hget] at hdrop
  rw [← replayed_append frames h, hdrop, List.takeWhile_cons_of_neg hnone, List.append_nil]

def Readings.Until (bound : Nat) (last : Readings) : Prop :=
  ∀ name, ∀ reading ∈ last name, reading.2 ≤ bound

theorem Readings.Until.signal {bound time : Nat} {last : Readings} (h : last.Until bound)
    (htime : time ≤ bound) (signal : DecodedSignal) :
    (Readings.signal time last signal).Until bound := by
  rcases signal with ⟨changed, value⟩
  intro name reading hreading
  cases changed with
  | none => exact h name reading hreading
  | some changed =>
    dsimp only [Readings.signal] at hreading
    by_cases hname : name = changed
    · subst hname
      rw [Function.update_self, Option.mem_some_iff] at hreading
      rw [← hreading]
      exact htime
    · rw [Function.update_of_ne hname] at hreading
      exact h name reading hreading

theorem Readings.Until.frame {bound : Nat} {last : Readings} (h : last.Until bound)
    {frame : CanFrame} (hframe : frame.timestampUs.toNat / 1000 ≤ bound) :
    (Readings.frame decoder last frame).Until bound := by
  unfold Readings.frame
  generalize (decoded decoder frame).getD [] = signals
  induction signals generalizing last with
  | nil => exact h
  | cons signal rest ih => exact ih (h.signal hframe signal)

theorem readings_until {frames : List CanFrame} {bound : Nat}
    (h : ∀ frame ∈ frames, frame.timestampUs.toNat / 1000 ≤ bound) :
    (readings decoder frames).Until bound := by
  have hnone : Readings.Until bound fun _ => none := nofun
  unfold readings
  generalize (fun _ => none : Readings) = last at hnone
  induction frames generalizing last with
  | nil => exact hnone
  | cons frame rest ih =>
    exact ih (fun next hnext => h next (List.mem_cons_of_mem _ hnext)) _
      (hnone.frame (h frame List.mem_cons_self))

theorem observe_storedSignal {T : Type} [Inhabited T] (cast : Int32 → T)
    {reading : Option (Int32 × Nat)} {elapsedMs : UInt32}
    (h : ∀ last ∈ reading, last.2 ≤ elapsedMs.toNat) (maximumAgeMs : UInt32) :
    (storedSignal cast reading).observe elapsedMs maximumAgeMs =
      referenceSignal cast reading elapsedMs maximumAgeMs := by
  cases reading with
  | none => rfl
  | some last =>
    have hle := h last rfl
    have hbound := elapsedMs.toNat_lt
    have hage : (elapsedMs - UInt32.ofNat last.2).toNat = elapsedMs.toNat - last.2 := by
      rw [UInt32.toNat_sub, UInt32.toNat_ofNat']
      omega
    have hfresh : elapsedMs - UInt32.ofNat last.2 ≤ maximumAgeMs ↔
        (elapsedMs.toNat : Int) - last.2 ≤ maximumAgeMs.toNat := by
      rw [UInt32.le_iff_toNat_le, hage]
      omega
    simp only [storedSignal, StoredSignal.observe, referenceSignal, hfresh, Bool.not_true,
      Bool.false_eq_true, ↓reduceIte]

theorem snapshot_storedOf {frames : List CanFrame} {elapsedMs : UInt32}
    (h : ∀ frame ∈ frames, frame.timestampUs.toNat / 1000 ≤ elapsedMs.toNat) :
    (storedOf (readings decoder frames)).snapshot freshness elapsedMs =
      reference decoder freshness frames elapsedMs := by
  have huntil : (readings decoder frames).Until elapsedMs.toNat := readings_until h
  unfold StoredSignals.snapshot storedOf reference
  simp only [observe_storedSignal _ (huntil _)]

/-- Every state of a run: the prefix that the requests have replayed is what the cursor
counts, what the assembler consumed and what its signals say. -/
structure Replays (trace : CanTrace) (decoder : CanFrameDecoder)
    (freshness : SignalFreshnessConfig) (gateway : ReplayVehicleGateway) (timeline : Timeline)
    (consumed : List (CanFrame × Bool)) : Prop where
  trace_eq : gateway.replay.trace = trace
  valid : gateway.replay.valid = true
  decoder_eq : gateway.assembler.decoder = decoder
  freshness_eq : gateway.assembler.freshness = freshness
  elapsedMs : gateway.elapsedMs = timeline.elapsedMs
  timeIsValid : gateway.timeIsValid = !timeline.wentBack
  requestedMs : ∀ earlier ∈ timeline.requestedMs, earlier ≤ timeline.elapsedMs
  cursor : gateway.replay.cursor = (replayed decoder trace.frames timeline.requestedMs).length
  stored : gateway.assembler.stored =
    storedOf (readings decoder (replayed decoder trace.frames timeline.requestedMs))
  accepted : (consumed.filter fun entry => entry.2).map (fun entry => entry.1) =
    replayed decoder trace.frames timeline.requestedMs
  rejected : ∀ frame, (frame, false) ∈ consumed →
    trace.frames[(replayed decoder trace.frames timeline.requestedMs).length]? = some frame ∧
      decoded decoder frame = none

variable {trace : CanTrace} {gateway : ReplayVehicleGateway} {timeline : Timeline}
  {consumed : List (CanFrame × Bool)}

theorem replays_new (hvalid : trace.validate = true) :
    Replays trace decoder freshness (new trace decoder freshness) {} [] :=
  ⟨rfl, hvalid, rfl, rfl, rfl, rfl, nofun, rfl, rfl, rfl, nofun⟩

def requestLoop (gateway : ReplayVehicleGateway) :
    Bool × Nat × VehicleStateAssembler × List (CanFrame × Bool) :=
  CanTraceReplay.emit VehicleStateAssembler.consumer.recording
    (gateway.elapsedMs.toUInt64 * 1000)
    (gateway.replay.trace.frames.drop gateway.replay.cursor) (gateway.assembler, [])

theorem requestState_valid (htime : gateway.timeIsValid = true)
    (hvalid : gateway.replay.valid = true) :
    gateway.requested = gateway.requestLoop.2.2.2 ∧
      ∃ batch, gateway.requestState.2 =
        { gateway with
          replay := { gateway.replay with
            cursor := gateway.replay.cursor + gateway.requestLoop.2.1 }
          assembler := gateway.requestLoop.2.2.1
          lastBatch := batch } := by
  rcases gateway with ⟨⟨trace, cursor, valid⟩, assembler, elapsedMs, timeIsValid, lastBatch⟩
  cases htime
  cases hvalid
  have hplain := CanTraceReplay.emit_recording VehicleStateAssembler.consumer
    (elapsedMs.toUInt64 * 1000) (trace.frames.drop cursor) assembler []
  unfold requestState CanTraceReplay.advanceTo
  simp only [Bool.not_true, Bool.false_eq_true, ↓reduceIte, hplain]
  exact ⟨rfl, _, rfl⟩

theorem filter_requested (taken : List CanFrame) (refused : Option CanFrame) :
    ((taken.map (fun frame => (frame, true)) ++
      refused.toList.map fun frame => (frame, false)).filter fun entry => entry.2).map
        (fun entry => entry.1) = taken := by
  rw [List.filter_append, List.map_append]
  have hnone : (refused.toList.map fun frame => (frame, false)).filter (fun entry => entry.2) =
      [] := by
    cases refused <;> rfl
  have hall : (taken.map fun frame => (frame, true)).filter (fun entry => entry.2) =
      taken.map fun frame => (frame, true) := by
    rw [List.filter_eq_self]
    simp
  rw [hnone, hall, List.map_nil, List.append_nil, List.map_map]
  exact List.map_id taken

/-- What a request hands to the assembler: the rest of what is due, and after it the
frame that is rejected, if one is. -/
theorem Replays.requestLoop_spec
    (h : Replays trace decoder freshness gateway timeline consumed) :
    ∃ (taken : List CanFrame) (refused : Option CanFrame),
      replayed decoder trace.frames timeline.requestedMs ++ taken =
        replayed decoder trace.frames (some timeline.elapsedMs) ∧
      gateway.requestLoop.2.1 = taken.length ∧
      gateway.requestLoop.2.2.1.decoder = decoder ∧
      gateway.requestLoop.2.2.1.freshness = freshness ∧
      gateway.requestLoop.2.2.1.stored = taken.foldl (storeFrame decoder) gateway.assembler.stored ∧
      gateway.requestLoop.2.2.2 = taken.map (fun frame => (frame, true)) ++
        refused.toList.map (fun frame => (frame, false)) ∧
      ∀ frame ∈ refused, decoded decoder frame = none ∧
        trace.frames[(replayed decoder trace.frames (some timeline.elapsedMs)).length]? =
          some frame := by
  have hloop := CanTraceReplay.emit_recorded (folds decoder freshness)
    (timeline.elapsedMs.toUInt64 * 1000)
    (trace.frames.drop (replayed decoder trace.frames timeline.requestedMs).length)
    ⟨h.decoder_eq, h.freshness_eq⟩ []
  rw [passes_eq] at hloop
  have happend := @replayed_append decoder trace.frames _ _ h.requestedMs
  unfold requestLoop
  rw [h.trace_eq, h.cursor, h.elapsedMs]
  refine ⟨_, _, happend, hloop.2.1, hloop.1.1, hloop.1.2, hloop.2.2.1, hloop.2.2.2, ?_⟩
  intro frame hframe
  have hrefused := CanTraceReplay.refused_eq_some hframe
  rw [passes_eq, List.getElem?_drop, Option.isSome_eq_false_iff, Option.isNone_iff_eq_none]
    at hrefused
  rw [← happend, List.length_append]
  exact hrefused.symm

theorem Replays.request (h : Replays trace decoder freshness gateway timeline consumed)
    (hvalid : timeline.wentBack = false) :
    Replays trace decoder freshness gateway.requestState.2
      { timeline with requestedMs := some timeline.elapsedMs } (consumed ++ gateway.requested) := by
  have htime : gateway.timeIsValid = true := by rw [h.timeIsValid, hvalid]; rfl
  rcases requestState_valid htime h.valid with ⟨hrequested, batch, hafter⟩
  rcases h.requestLoop_spec with
    ⟨taken, refused, happend, hcount, hdecoder, hfreshness, hstored, hlog, hrefused⟩
  rw [hafter, hrequested, hlog]
  refine ⟨h.trace_eq, h.valid, hdecoder, hfreshness, h.elapsedMs, h.timeIsValid, ?_, ?_, ?_, ?_, ?_⟩
  · rintro _ ⟨⟩
    exact UInt32.le_refl _
  · dsimp only
    rw [h.cursor, hcount, ← happend, List.length_append]
  · dsimp only
    rw [hstored, h.stored, foldl_storeFrame, ← happend, readings, readings, List.foldl_append]
  · rw [List.filter_append, List.map_append, filter_requested, h.accepted, happend]
  · intro frame hframe
    rw [List.mem_append, List.mem_append] at hframe
    rcases hframe with hearlier | htaken | hnew
    · rcases h.rejected frame hearlier with ⟨hnext, hrejected⟩
      rw [replayed_blocked h.requestedMs hnext hrejected]
      exact ⟨hnext, hrejected⟩
    · rcases List.mem_map.1 htaken with ⟨_, -, heq⟩
      cases heq
    · rcases List.mem_map.1 hnew with ⟨next, hnext, heq⟩
      cases heq
      exact (hrefused frame (Option.mem_toList.1 hnext)).symm

theorem timeline_concat (inputs : List Call) (call : Call) :
    timelineOf (inputs ++ [call]) = (timelineOf inputs).next call := by
  rw [timelineOf, timelineOf, List.foldl_append]
  rfl

theorem Replays.wait (h : Replays trace decoder freshness gateway timeline consumed)
    (elapsedMs : UInt32) :
    Replays trace decoder freshness (gateway.setElapsedTime elapsedMs).2
      (timeline.next (.setElapsedTime elapsedMs)) consumed := by
  unfold setElapsedTime
  rw [h.elapsedMs, Timeline.next]
  by_cases hback : elapsedMs < timeline.elapsedMs
  · rw [if_pos hback, if_pos hback]
    exact { h with elapsedMs := rfl, timeIsValid := rfl }
  · rw [if_neg hback, if_neg hback]
    have hle := UInt32.not_lt.1 hback
    exact { h with
      elapsedMs := rfl
      requestedMs := fun earlier hearlier => UInt32.le_trans (h.requestedMs earlier hearlier) hle }

theorem requestState_invalid (h : gateway.timeIsValid = false) :
    gateway.requestState =
        (false, { gateway with lastBatch := nonMonotonic gateway.lastBatch }) ∧
      gateway.requested = [] := by
  unfold requestState requested
  rw [h]
  exact ⟨rfl, rfl⟩

theorem Replays.reset (h : Replays trace decoder freshness gateway timeline consumed) :
    Replays trace decoder freshness gateway.reset {} [] :=
  ⟨h.trace_eq, h.valid, h.decoder_eq, h.freshness_eq, rfl, rfl, nofun, rfl, rfl, rfl, nofun⟩

theorem replays_step (gateway : ReplayVehicleGateway)
    (calls : List (Step ReplayVehicleGateway Call Answer))
    (h : Replays trace decoder freshness gateway (timelineOf (calls.map fun call => call.input))
      (consumedFrames calls)) (input : Call) :
    Replays trace decoder freshness (machine gateway input).2
      (timelineOf ((calls ++ [machine.stepOf gateway input]).map fun call => call.input))
      (consumedFrames (calls ++ [machine.stepOf gateway input])) := by
  rw [List.map_append, List.map_singleton, timeline_concat, consumedFrames,
    List.foldl_append]
  cases input with
  | setElapsedTime elapsedMs => exact h.wait elapsedMs
  | state => exact h
  | reset => exact h.reset
  | requestState =>
    by_cases hback : (timelineOf (calls.map fun call => call.input)).wentBack = true
    · have htime : gateway.timeIsValid = false := by rw [h.timeIsValid, hback]; rfl
      rcases requestState_invalid htime with ⟨hrequest, hrequested⟩
      dsimp only [machine, Machine.stepOf, Timeline.next, List.foldl_cons, List.foldl_nil]
      rw [hrequest, hrequested, List.append_nil, if_pos hback]
      exact { h with }
    · dsimp only [machine, Machine.stepOf, Timeline.next, List.foldl_cons, List.foldl_nil]
      rw [if_neg hback]
      exact h.request (Bool.eq_false_iff.2 hback)

theorem replays_final (hvalid : trace.validate = true) (inputs : List Call) :
    Replays trace decoder freshness (machine.final (new trace decoder freshness) inputs)
      (timelineOf inputs)
      (consumedFrames
        (machine.transcript (new trace decoder freshness) inputs)) := by
  have hrun := machine.history_induction
    (fun gateway calls => Replays trace decoder freshness gateway
      (timelineOf (calls.map fun call => call.input))
      (consumedFrames calls))
    (replays_new hvalid) replays_step inputs
  rw [machine.map_input_transcript] at hrun
  exact hrun

theorem replayed_append_inputs (hvalid : trace.validate = true) (inputs : List Call)
    {frame : CanFrame}
    (hnext : trace.frames[(replayed decoder trace.frames
      (timelineOf inputs).requestedMs).length]? = some frame)
    (hrejected : decoded decoder frame = none) (later : List Call) (hlater : .reset ∉ later) :
    replayed decoder trace.frames (timelineOf (inputs ++ later)).requestedMs =
      replayed decoder trace.frames (timelineOf inputs).requestedMs := by
  induction later using List.reverseRecOn with
  | nil => rw [List.append_nil]
  | append_singleton later call ih =>
    rw [List.mem_append, not_or] at hlater
    have hsame := ih hlater.1
    have hreplays : Replays trace decoder {} _ _ _ := replays_final hvalid (inputs ++ later)
    rw [← List.append_assoc, timeline_concat]
    cases call with
    | setElapsedTime elapsedMs =>
      rw [← hsame, Timeline.next]
      split <;> rfl
    | state => exact hsame
    | reset => exact absurd (List.mem_singleton.2 rfl) hlater.2
    | requestState =>
      rw [Timeline.next]
      split
      · exact hsame
      · rw [← hsame] at hnext ⊢
        exact replayed_blocked hreplays.requestedMs hnext hrejected

theorem wentBack_append (inputs : List Call)
    (h : (timelineOf inputs).wentBack = true) (later : List Call)
    (hlater : .reset ∉ later) :
    (timelineOf (inputs ++ later)).wentBack = true := by
  induction later using List.reverseRecOn with
  | nil => rw [List.append_nil, h]
  | append_singleton later call ih =>
    rw [List.mem_append, not_or] at hlater
    have hback := ih hlater.1
    rw [← List.append_assoc, timeline_concat]
    cases call with
    | setElapsedTime elapsedMs =>
      rw [Timeline.next]
      split
      · rfl
      · exact hback
    | state => exact hback
    | reset => exact absurd (List.mem_singleton.2 rfl) hlater.2
    | requestState =>
      rw [Timeline.next, if_pos hback]
      exact hback

theorem Replays.state_eq (h : Replays trace decoder freshness gateway timeline consumed) :
    gateway.state = reference decoder freshness
      (replayed decoder trace.frames timeline.requestedMs) timeline.elapsedMs := by
  unfold state VehicleStateAssembler.snapshot
  rw [h.stored, h.freshness_eq, h.elapsedMs]
  apply snapshot_storedOf
  intro frame hframe
  cases hrequested : timeline.requestedMs with
  | none =>
    rw [hrequested] at hframe
    cases hframe
  | some requestedMs =>
    rw [hrequested] at hframe
    have hdue := List.mem_takeWhile_imp hframe
    have hle := h.requestedMs requestedMs hrequested
    unfold replayable at hdue
    rw [Bool.and_eq_true, decide_eq_true_eq] at hdue
    rw [UInt32.le_iff_toNat_le] at hle
    omega

/-- What the gateway did since the last reset is what the plain fold says: it consumed
the replayed prefix, each frame once and in order, and after it at most the frame that
was rejected and blocks it; it shows what that prefix says; how the time was split does
not matter; and time that went back stops every request. -/
theorem replay_refines_fold (trace : CanTrace) (decoder : CanFrameDecoder)
    (freshness : SignalFreshnessConfig) (hvalid : trace.validate = true) (inputs : List Call) :
    let start := new trace decoder freshness
    let gateway := machine.final start inputs
    let consumed := consumedFrames (machine.transcript start inputs)
    let timeline := timelineOf inputs
    let frames := replayed decoder trace.frames timeline.requestedMs
    ((consumed.filter fun entry => entry.2).map (fun entry => entry.1) = frames ∧
      gateway.replay.cursor = frames.length) ∧
    (∀ frame, (frame, false) ∈ consumed → trace.frames[frames.length]? = some frame ∧
      ∀ later, .reset ∉ later → (machine.final gateway later).replay.cursor = frames.length) ∧
    gateway.state = reference decoder freshness frames timeline.elapsedMs ∧
    (∀ others, (timelineOf others).requestedMs = timeline.requestedMs →
      (timelineOf others).elapsedMs = timeline.elapsedMs →
      (machine.final start others).replay.cursor = gateway.replay.cursor ∧
        (machine.final start others).state = gateway.state) ∧
    ∀ earlier elapsedMs later, inputs = earlier ++ .setElapsedTime elapsedMs :: later →
      elapsedMs < (timelineOf earlier).elapsedMs → .reset ∉ later →
      gateway.requestState.1 = false ∧ gateway.requested = [] ∧
        gateway.requestState.2.replay = gateway.replay ∧
        gateway.requestState.2.assembler = gateway.assembler := by
  have hfinal : ∀ calls, Replays trace decoder freshness
      (machine.final (new trace decoder freshness) calls) (timelineOf calls)
      (consumedFrames (machine.transcript (new trace decoder freshness) calls)) :=
    replays_final hvalid
  have hreplays := hfinal inputs
  refine ⟨⟨hreplays.accepted, hreplays.cursor⟩, ?_, hreplays.state_eq, ?_, ?_⟩
  · intro frame hframe
    rcases hreplays.rejected frame hframe with ⟨hnext, hrejected⟩
    refine ⟨hnext, fun later hlater => ?_⟩
    rw [← Machine.final_append, (hfinal (inputs ++ later)).cursor,
      replayed_append_inputs hvalid inputs hnext hrejected later hlater]
  · intro others hrequested helapsed
    have hothers := hfinal others
    rw [hothers.cursor, hreplays.cursor, hothers.state_eq, hreplays.state_eq, hrequested, helapsed]
    exact ⟨rfl, rfl⟩
  · intro earlier elapsedMs later hinputs hback hlater
    have hwentBack : (timelineOf (earlier ++ [.setElapsedTime elapsedMs])).wentBack = true := by
      rw [timeline_concat, Timeline.next, if_pos hback]
    have hstays := wentBack_append _ hwentBack later hlater
    rw [← List.append_cons, ← hinputs] at hstays
    have htime := hreplays.timeIsValid
    rw [hstays] at htime
    rcases requestState_invalid htime with ⟨hrequest, hrequested⟩
    rw [hrequest]
    exact ⟨rfl, hrequested, rfl, rfl⟩

def rpmDecoder : CanFrameDecoder where
  decode _ batch :=
    (.decoded, { batch with signals := batch.signals.set 0 ⟨some .engineRpm, 900⟩, count := 1 })

def twoFrames : CanTrace :=
  .array [{ timestampUs := 100000 }, { timestampUs := 600000, sequence := 1 }]

theorem replay_refines_fold_twoFrames :
    (machine.final (new twoFrames rpmDecoder)
      [.setElapsedTime 500, .requestState, .setElapsedTime 1200, .requestState]).replay.cursor =
        2 := by
  have hreplay := replay_refines_fold twoFrames rpmDecoder {} (by decide)
    [.setElapsedTime 500, .requestState, .setElapsedTime 1200, .requestState]
  exact hreplay.1.2.trans (by decide)

end ReplayVehicleGateway

end BmwRemote.Infrastructure
