import BmwRemote.Infrastructure.LockGesture
import Mathlib.Data.List.Range

/-! A lock press of the owner reaches the gesture: on a bus whose lock frames keep
their rhythm, the gate hears every press that follows its last one soon enough. -/
namespace BmwRemote.Infrastructure

open BmwRemote.Application BmwRemote.Lib

namespace CanCounterField

theorem one_lt_half_modulus_of_mask : ∀ mask : Fin 256, 2 ≤ bitCount ⟨0, UInt8.ofNat mask⟩ →
    1 < modulus ⟨0, UInt8.ofNat mask⟩ / 2 := by
  decide +kernel

theorem one_lt_half_modulus (field : CanCounterField) (h : 2 ≤ field.bitCount) :
    1 < field.modulus / 2 := by
  rcases field with ⟨byteIndex, mask⟩
  have hmask := one_lt_half_modulus_of_mask ⟨mask.toNat, mask.toNat_lt⟩
  rw [UInt8.ofNat_toNat] at hmask
  exact hmask h

end CanCounterField

namespace CanLockCommandPipeline

/-- A frame with the true time, in milliseconds, at which it is seen and handled. -/
structure Arrival where
  frame : CanFrame
  time : Nat

def timed : Machine CanLockCommandPipeline Arrival CanLockPipelineResult :=
  fun pipeline arrival => pipeline.process arrival.frame (UInt32.ofNat arrival.time)

abbrev TimedCall := Step CanLockCommandPipeline Arrival CanLockPipelineResult

def isLockFrame (config : CanLockCommandAdapterConfig) (frame : CanFrame) : Bool :=
  frame.isValid && frame.identifier == config.identifier && frame.extended == config.extended &&
    frame.dataLength == config.dataLength

def isForeign (config : CanLockCommandAdapterConfig) (frame : CanFrame) : Bool :=
  frame.isValid && !(frame.identifier == config.identifier && frame.extended == config.extended)

/-- Two lock frames in a row: at most a second apart, the counter one further. -/
structure Succeeds (config : CanLockCommandAdapterConfig) (earlier later : Arrival) : Prop where
  newer : earlier.time < later.time
  soon : later.time ≤ earlier.time + 1000
  counter : config.rollingCounter.distance (config.rollingCounter.extract later.frame)
    (config.rollingCounter.extract earlier.frame) = 1

/-- The lock frames keep their rhythm and carry their true times, cut to 32 bits. -/
structure Steady (config : CanLockCommandAdapterConfig) (arrivals : List Arrival) : Prop where
  stamped : ∀ arrival ∈ arrivals, isLockFrame config arrival.frame = true →
    arrival.frame.timestampMilliseconds = UInt32.ofNat arrival.time
  paced : (arrivals.filter fun arrival => isLockFrame config arrival.frame).IsChain
    (Succeeds config)

/-- The lock frame that the next one is compared with; a malformed frame loses it. -/
def lastLockFrame (config : CanLockCommandAdapterConfig) (last : Option Arrival)
    (arrival : Arrival) : Option Arrival :=
  if isLockFrame config arrival.frame then some arrival
  else if isForeign config arrival.frame then last
  else none

structure IsPressEvent (config : CanLockCommandAdapterConfig) (past : List TimedCall)
    (call : TimedCall) : Prop where
  lockFrame : isLockFrame config call.input.frame = true
  edge : ∃ last, (past.map (·.input)).foldl (lastLockFrame config) none = some last ∧
    config.lockCommand.matchesFrame last.frame = false
  command : config.lockCommand.matchesFrame call.input.frame = true
  secured : config.vehicleSecured.matchesFrame call.input.frame = true

/-- The gate took the press, or refused it as a bounce of the one before. -/
def heard (call : TimedCall) : Bool :=
  call.output.commandEvaluated &&
    (call.output.command.accepted || call.output.command.status == .rejectedTiming)

/-- What the gate compares with, in true times: when it last took the time of an
evidence, when it last heard a press, and how many lock frames came since. -/
structure GateMemory where
  clock : Option Nat := none
  press : Option (Nat × Nat) := none
  deriving DecidableEq

namespace GateMemory

def aged (memory : GateMemory) : GateMemory :=
  { memory with press := memory.press.map fun press => (press.1, press.2 + 1) }

def next (config : CanLockCommandAdapterConfig) (memory : GateMemory) (call : TimedCall) :
    GateMemory :=
  let time := call.input.time
  if isLockFrame config call.input.frame then
    if heard call then { clock := some time, press := some (time, 0) }
    else if call.output.commandEvaluated &&
        call.output.command.status != .rejectedClockRegression then
      { memory.aged with clock := some time }
    else memory.aged
  else if isForeign config call.input.frame then memory
  else {}

end GateMemory

def gateMemory (config : CanLockCommandAdapterConfig) (past : List TimedCall) : GateMemory :=
  past.foldl (GateMemory.next config) {}

/-- `distance` is less than half the range, whole ranges apart. -/
def Ahead (distance : Nat) : Prop := distance % UInt32.size < halfCounterRange.toNat

def StrictlyAhead (distance : Nat) : Prop := 0 < distance % UInt32.size ∧ Ahead distance

/-- The clock of a press is ahead of the gate's, its time and counter are strictly
ahead of those of the last press that was heard. -/
structure GateMemory.Admits (memory : GateMemory) (time : Nat) : Prop where
  clock : ∀ last ∈ memory.clock, Ahead (time - last)
  press : ∀ press ∈ memory.press, StrictlyAhead (press.2 + 1) ∧ StrictlyAhead (time - press.1)

structure GateMemory.Recent (memory : GateMemory) (time : Nat) : Prop where
  clock : ∀ last ∈ memory.clock, time < last + halfCounterRange.toNat
  press : ∀ press ∈ memory.press, time < press.1 + halfCounterRange.toNat

structure Qualified (config : CanLockCommandAdapterConfig) (gateConfig : LockCommandGateConfig) :
    Prop where
  enabled : config.enabled = true
  valid : config.isValid = true
  trust : config.trust = .verified
  gateValid : gateConfig.isValid = true

variable {config : CanLockCommandAdapterConfig} {gateConfig : LockCommandGateConfig}
  {adapter : CanLockCommandAdapter} {arrival : Arrival}

theorem process_foreign (h : Qualified adapter.config gateConfig) {frame : CanFrame}
    (hforeign : isForeign adapter.config frame = true) :
    adapter.process frame = (⟨.ignored, {}⟩, adapter) := by
  unfold isForeign at hforeign
  simp only [Bool.and_eq_true, Bool.not_eq_true', Bool.and_eq_false_iff, beq_eq_false_iff_ne]
    at hforeign
  simp [CanLockCommandAdapter.process, h.enabled, h.valid, hforeign.1, hforeign.2]

theorem process_malformed (h : Qualified adapter.config gateConfig) {frame : CanFrame}
    (hlock : isLockFrame adapter.config frame = false)
    (hforeign : isForeign adapter.config frame = false) :
    adapter.process frame = (⟨.rejectedInvalidFrame, {}⟩, adapter.reset) := by
  unfold isForeign at hforeign
  unfold isLockFrame at hlock
  simp only [CanLockCommandAdapter.process, h.enabled, h.valid]
  by_cases hvalid : frame.isValid = true
  · simp only [hvalid, Bool.true_and, Bool.not_eq_false', Bool.and_eq_true, beq_iff_eq]
      at hforeign
    simp only [hvalid, hforeign.1, hforeign.2, Bool.true_and, beq_self_eq_true,
      beq_eq_false_iff_ne] at hlock
    simp [hvalid, hforeign.1, hforeign.2, hlock, CanLockCommandAdapter.reject]
  · simp [hvalid, CanLockCommandAdapter.reject]

theorem process_lockFrame (h : Qualified adapter.config gateConfig) {frame : CanFrame}
    (hlock : isLockFrame adapter.config frame = true)
    (htime : adapter.initialized = true → (frame.timestampMilliseconds != adapter.lastTimestampMs &&
      !strictlyNewer frame.timestampMilliseconds adapter.lastTimestampMs) = false) :
    adapter.process frame = adapter.decode frame := by
  unfold isLockFrame at hlock
  simp only [Bool.and_eq_true, beq_iff_eq] at hlock
  have hregressed : (adapter.initialized && (frame.timestampMilliseconds !=
      adapter.lastTimestampMs && !strictlyNewer frame.timestampMilliseconds
        adapter.lastTimestampMs)) = false := by
    rw [Bool.and_eq_false_imp]
    exact htime
  simp [CanLockCommandAdapter.process, h.enabled, h.valid, hlock, Bool.and_assoc, hregressed]

def edgeEvidence (adapter : CanLockCommandAdapter) (frame : CanFrame) : LockCommandEvidence where
  source := .vehicleAdapter
  trust := adapter.config.trust
  sourceSequence := adapter.expandedSequence + 1
  observedAtMs := frame.timestampMilliseconds
  vehicleSecured := adapter.config.vehicleSecured.matchesFrame frame

theorem decode_next (h : Qualified adapter.config gateConfig) {frame : CanFrame}
    (hinitialized : adapter.initialized = true)
    (hcounter : adapter.config.rollingCounter.distance
      (adapter.config.rollingCounter.extract frame) adapter.lastRawCounter = 1) :
    adapter.decode frame =
      (if adapter.config.lockCommand.matchesFrame frame && !adapter.lastCommandActive then
        ⟨.evidenceProduced, edgeEvidence adapter frame⟩ else ⟨.noCommand, {}⟩,
        adapter.tracked frame 1) := by
  have hvalid := h.valid
  unfold CanLockCommandAdapterConfig.isValid at hvalid
  simp only [Bool.and_eq_true] at hvalid
  have hbits := hvalid.1.1.1.2
  unfold CanCounterField.valid at hbits
  rw [Bool.and_eq_true, decide_eq_true_eq, decide_eq_true_eq] at hbits
  have hhalf := adapter.config.rollingCounter.one_lt_half_modulus hbits.2
  have hahead : ¬ adapter.config.rollingCounter.modulus / 2 ≤ 1 := UInt16.not_le.2 hhalf
  unfold CanLockCommandAdapter.decode
  simp only [hinitialized, hcounter, hahead]
  by_cases hedge : (adapter.config.lockCommand.matchesFrame frame &&
      !adapter.lastCommandActive) = true
  · simp [hedge, edgeEvidence, CanLockCommandAdapter.tracked]
  · simp [hedge]

/-- The words of the pipeline are the true times and counts of the history. -/
structure Mirrors (config : CanLockCommandAdapterConfig) (gateConfig : LockCommandGateConfig)
    (pipeline : CanLockCommandPipeline) (last : Option Arrival) (memory : GateMemory) : Prop where
  adapterConfig : pipeline.adapter.config = config
  gateConfig_eq : pipeline.gate.config = gateConfig
  detectorConfig : pipeline.gate.detector.config = gateConfig.sequence
  initialized : pipeline.adapter.initialized = last.isSome
  frame : ∀ arrival ∈ last, pipeline.adapter.lastTimestampMs = UInt32.ofNat arrival.time ∧
    pipeline.adapter.lastRawCounter = config.rollingCounter.extract arrival.frame ∧
    pipeline.adapter.lastCommandActive = config.lockCommand.matchesFrame arrival.frame
  clockInitialized : pipeline.gate.clockInitialized = memory.clock.isSome
  clock : ∀ time ∈ memory.clock, pipeline.gate.lastNowMs = UInt32.ofNat time ∧
    ∃ arrival ∈ last, time ≤ arrival.time
  evidenceInitialized : pipeline.gate.evidenceInitialized = memory.press.isSome
  press : ∀ press ∈ memory.press,
    pipeline.gate.lastEvidenceTimestampMs = UInt32.ofNat press.1 ∧
    pipeline.adapter.expandedSequence =
      pipeline.gate.lastSourceSequence + UInt32.ofNat press.2 ∧
    ∃ arrival ∈ last, press.1 + press.2 ≤ arrival.time

theorem mirrors_new (config : CanLockCommandAdapterConfig) (gateConfig : LockCommandGateConfig) :
    Mirrors config gateConfig (new config gateConfig) none {} :=
  ⟨rfl, rfl, rfl, rfl, nofun, rfl, nofun, rfl, nofun⟩

variable {pipeline : CanLockCommandPipeline} {last : Option Arrival} {memory : GateMemory}

theorem Mirrors.clockRegressed_iff (h : Mirrors config gateConfig pipeline last memory)
    (hnewer : ∀ previous ∈ last, previous.time < arrival.time) :
    pipeline.gate.clockRegressed (UInt32.ofNat arrival.time) = false ↔
      ∀ time ∈ memory.clock, Ahead (arrival.time - time) := by
  unfold LockCommandGate.clockRegressed
  rw [h.clockInitialized, Bool.and_eq_false_imp]
  cases hclock : memory.clock with
  | none => simp
  | some time =>
    rcases h.clock time hclock with ⟨hword, previous, hprevious, hle⟩
    have hlt := hnewer previous hprevious
    rw [hword, regressed_ofNat_iff (by omega)]
    simp [Ahead]

theorem Mirrors.orderFault_iff (h : Mirrors config gateConfig pipeline last memory)
    (hnewer : ∀ previous ∈ last, previous.time < arrival.time)
    (hstamped : arrival.frame.timestampMilliseconds = UInt32.ofNat arrival.time) :
    pipeline.gate.orderFault (edgeEvidence pipeline.adapter arrival.frame) = none ↔
      ∀ press ∈ memory.press,
        StrictlyAhead (press.2 + 1) ∧ StrictlyAhead (arrival.time - press.1) := by
  rw [LockCommandGate.orderFault_eq_none_iff, h.evidenceInitialized]
  cases hpress : memory.press with
  | none => simp
  | some press =>
    rcases h.press press hpress with ⟨htime, hsequence, previous, hprevious, hle⟩
    have hlt := hnewer previous hprevious
    have hnext : pipeline.adapter.expandedSequence + 1 =
        pipeline.gate.lastSourceSequence + UInt32.ofNat (press.2 + 1) := by
      rw [hsequence, UInt32.add_assoc, UInt32.ofNat_add]
      rfl
    simp only [edgeEvidence, hnext, hstamped, htime]
    rw [strictlyNewer_add_iff, strictlyNewer_ofNat_iff (by omega)]
    simp [StrictlyAhead, Ahead]

theorem timed_foreign (hqualified : Qualified config gateConfig)
    (h : pipeline.adapter.config = config) (hforeign : isForeign config arrival.frame = true) :
    timed pipeline arrival = ({ decodeStatus := .ignored }, pipeline) := by
  subst h
  unfold timed process
  rw [process_foreign hqualified hforeign]
  rfl

theorem timed_malformed (hqualified : Qualified config gateConfig)
    (h : pipeline.adapter.config = config) (hlock : isLockFrame config arrival.frame = false)
    (hforeign : isForeign config arrival.frame = false) :
    timed pipeline arrival =
      ({ decodeStatus := .rejectedInvalidFrame }, ⟨pipeline.adapter.reset, pipeline.gate.reset⟩) := by
  subst h
  unfold timed process
  rw [process_malformed hqualified hlock hforeign]
  rfl

theorem timed_first (hqualified : Qualified config gateConfig)
    (h : pipeline.adapter.config = config) (hlock : isLockFrame config arrival.frame = true)
    (hinitialized : pipeline.adapter.initialized = false) :
    timed pipeline arrival =
      ({ decodeStatus := .primed },
        ⟨pipeline.adapter.tracked arrival.frame 0, pipeline.gate⟩) := by
  subst h
  unfold timed process
  rw [process_lockFrame hqualified hlock (by simp [hinitialized])]
  simp [CanLockCommandAdapter.decode, hinitialized, CanLockDecodeResult.hasEvidence,
    CanLockDecodeStatus.requiresGestureReset]

theorem Mirrors.timed_next (h : Mirrors config gateConfig pipeline last memory)
    (hqualified : Qualified config gateConfig) {previous : Arrival}
    (hlast : last = some previous) (hlock : isLockFrame config arrival.frame = true)
    (hstamped : arrival.frame.timestampMilliseconds = UInt32.ofNat arrival.time)
    (hsucceeds : Succeeds config previous arrival) :
    timed pipeline arrival =
      if config.lockCommand.matchesFrame arrival.frame &&
          !config.lockCommand.matchesFrame previous.frame then
        let judged := pipeline.gate.process (edgeEvidence pipeline.adapter arrival.frame)
          arrival.frame.timestampMilliseconds
        (⟨.evidenceProduced, judged.1, true⟩,
          ⟨pipeline.adapter.tracked arrival.frame 1, judged.2⟩)
      else
        ({ decodeStatus := .noCommand },
          ⟨pipeline.adapter.tracked arrival.frame 1, pipeline.gate⟩) := by
  rcases h.frame previous hlast with ⟨htime, hcounter, hactive⟩
  have hinitialized : pipeline.adapter.initialized = true := by
    rw [h.initialized, hlast]
    rfl
  have hqualified : Qualified pipeline.adapter.config gateConfig := h.adapterConfig ▸ hqualified
  have hnewer := hsucceeds.newer
  have hsoon := hsucceeds.soon
  have hhalf : halfCounterRange.toNat = 2147483648 := rfl
  have hregular : (arrival.frame.timestampMilliseconds != pipeline.adapter.lastTimestampMs &&
      !strictlyNewer arrival.frame.timestampMilliseconds
        pipeline.adapter.lastTimestampMs) = false := by
    rw [hstamped, htime, regressed_ofNat_iff (by omega), Nat.mod_eq_of_lt (by
      simp only [UInt32.size]
      omega)]
    omega
  have hdistance : pipeline.adapter.config.rollingCounter.distance
      (pipeline.adapter.config.rollingCounter.extract arrival.frame)
      pipeline.adapter.lastRawCounter = 1 := by
    rw [hcounter, h.adapterConfig]
    exact hsucceeds.counter
  have hlock : isLockFrame pipeline.adapter.config arrival.frame = true := h.adapterConfig ▸ hlock
  unfold timed process
  rw [process_lockFrame hqualified hlock fun _ => hregular,
    decode_next hqualified hinitialized hdistance, hactive, h.adapterConfig, ← hstamped]
  by_cases hedge : (config.lockCommand.matchesFrame arrival.frame &&
      !config.lockCommand.matchesFrame previous.frame) = true
  · simp [hedge, CanLockDecodeResult.hasEvidence, CanLockDecodeStatus.requiresGestureReset,
      edgeEvidence]
  · simp [hedge, CanLockDecodeResult.hasEvidence, CanLockDecodeStatus.requiresGestureReset]

theorem Mirrors.quiet (h : Mirrors config gateConfig pipeline last memory)
    (hstamped : arrival.frame.timestampMilliseconds = UInt32.ofNat arrival.time)
    (hnewer : ∀ previous ∈ last, previous.time < arrival.time) {distance : UInt16}
    (hdistance : last.isSome = true → distance = 1) :
    Mirrors config gateConfig ⟨pipeline.adapter.tracked arrival.frame distance, pipeline.gate⟩
      (some arrival) memory.aged := by
  have hconfig := h.adapterConfig
  refine ⟨hconfig, h.gateConfig_eq, h.detectorConfig, rfl, fun latest hlatest => ?_,
    h.clockInitialized, fun time htime => ?_, ?_, fun press hpress => ?_⟩
  · cases hlatest
    subst hconfig
    exact ⟨hstamped, rfl, rfl⟩
  · rcases h.clock time htime with ⟨hword, previous, hprevious, hle⟩
    have hlt := hnewer previous hprevious
    exact ⟨hword, arrival, rfl, by omega⟩
  · rw [GateMemory.aged, Option.isSome_map]
    exact h.evidenceInitialized
  · rcases Option.map_eq_some_iff.1 hpress with ⟨earlier, hearlier, rfl⟩
    rcases h.press earlier hearlier with ⟨hword, hsequence, previous, hprevious, hle⟩
    have hlt := hnewer previous hprevious
    have hone : distance = 1 := hdistance (Option.isSome_of_mem hprevious)
    refine ⟨hword, ?_, arrival, rfl, by dsimp only; omega⟩
    subst hone
    dsimp only [CanLockCommandAdapter.tracked]
    rw [hsequence, UInt32.ofNat_add, UInt32.add_assoc]
    rfl

theorem Mirrors.judged (h : Mirrors config gateConfig pipeline last memory) (call : TimedCall)
    (hstamped : call.input.frame.timestampMilliseconds = UInt32.ofNat call.input.time)
    (hnewer : ∀ previous ∈ last, previous.time < call.input.time)
    (hlock : isLockFrame config call.input.frame = true) {decision : LockCommandDecision}
    (houtput : call.output = ⟨.evidenceProduced, decision, true⟩) {gate : LockCommandGate}
    (hruled : pipeline.gate.Ruled (edgeEvidence pipeline.adapter call.input.frame)
      decision.status gate) :
    Mirrors config gateConfig ⟨pipeline.adapter.tracked call.input.frame 1, gate⟩
      (some call.input) (memory.next config call) := by
  have haged := h.quiet hstamped hnewer fun _ => rfl
  have hheard := decision.accepted_or_debounced_iff
  unfold GateMemory.next heard
  rw [houtput]
  simp only [hlock, Bool.true_and, ↓reduceIte]
  generalize hstatus : decision.status = status at hruled hheard
  cases hruled with
  | regressed =>
    have hnot : ¬ (decision.accepted = true ∨ LockCommandStatus.rejectedClockRegression =
        .rejectedTiming) := by
      rw [hheard]
      decide
    rw [not_or, Bool.not_eq_true] at hnot
    rw [hnot.1]
    exact { haged with detectorConfig := h.detectorConfig }
  | refused _ _ hclears hother =>
    have hnot : ¬ (decision.accepted = true ∨ status = .rejectedTiming) := by
      rw [hheard, hclears]
      decide
    rw [not_or, Bool.not_eq_true] at hnot
    simp only [hnot.1, beq_eq_false_iff_ne.2 hnot.2, bne_iff_ne.2 hother, Bool.or_self,
      Bool.false_eq_true, ↓reduceIte]
    refine { haged with detectorConfig := h.detectorConfig, clockInitialized := rfl, clock := ?_ }
    intro time htime
    cases htime
    exact ⟨hstamped, call.input, rfl, le_rfl⟩
  | heard _ detector _ hclears _ hdetector =>
    have hyes : (decision.accepted || status == .rejectedTiming) = true := by
      rw [Bool.or_eq_true, beq_iff_eq, hheard, hclears]
    rw [hyes, if_pos rfl]
    refine ⟨haged.adapterConfig, h.gateConfig_eq, hdetector.trans h.detectorConfig, rfl,
      haged.frame, rfl, fun time htime => ?_, rfl, fun press hpress => ?_⟩
    · cases htime
      exact ⟨hstamped, call.input, rfl, le_rfl⟩
    · cases hpress
      refine ⟨hstamped, ?_, call.input, rfl, le_rfl⟩
      dsimp only [edgeEvidence, CanLockCommandAdapter.tracked]
      simp

def Keeps (config : CanLockCommandAdapterConfig) (last : Option Arrival) (arrival : Arrival) :
    Prop :=
  isLockFrame config arrival.frame = true →
    arrival.frame.timestampMilliseconds = UInt32.ofNat arrival.time ∧
      ∀ previous ∈ last, Succeeds config previous arrival

theorem Mirrors.ruled (h : Mirrors config gateConfig pipeline last memory)
    (hqualified : Qualified config gateConfig) :
    pipeline.gate.Ruled (edgeEvidence pipeline.adapter arrival.frame)
      (pipeline.gate.process (edgeEvidence pipeline.adapter arrival.frame)
        arrival.frame.timestampMilliseconds).1.status
      (pipeline.gate.process (edgeEvidence pipeline.adapter arrival.frame)
        arrival.frame.timestampMilliseconds).2 := by
  apply LockCommandGate.process_ruled
  · rw [h.gateConfig_eq]
    exact hqualified.gateValid
  · rw [h.detectorConfig, h.gateConfig_eq]
  · rw [edgeEvidence, h.adapterConfig]
    exact hqualified.trust
  · rfl

theorem Mirrors.step (h : Mirrors config gateConfig pipeline last memory)
    (hqualified : Qualified config gateConfig) (hkeeps : Keeps config last arrival) :
    Mirrors config gateConfig (timed pipeline arrival).2 (lastLockFrame config last arrival)
      (memory.next config (timed.stepOf pipeline arrival)) := by
  unfold lastLockFrame
  by_cases hlock : isLockFrame config arrival.frame = true
  · rw [if_pos hlock]
    rcases hkeeps hlock with ⟨hstamped, hsucceeds⟩
    have hnewer : ∀ previous ∈ last, previous.time < arrival.time :=
      fun previous hprevious => (hsucceeds previous hprevious).newer
    cases hlast : last with
    | none =>
      have hinitialized : pipeline.adapter.initialized = false := by
        rw [h.initialized, hlast]
        rfl
      have hfirst := timed_first hqualified h.adapterConfig hlock hinitialized
      have hquiet : Mirrors config gateConfig
          ⟨pipeline.adapter.tracked arrival.frame 0, pipeline.gate⟩ (some arrival) memory.aged :=
        h.quiet hstamped hnewer (by simp [hlast])
      simpa [GateMemory.next, heard, hlock, hfirst] using hquiet
    | some previous =>
      have hnext := h.timed_next hqualified hlast hlock hstamped (hsucceeds previous hlast)
      split at hnext
      · have hjudged := h.judged (timed.stepOf pipeline arrival) hstamped hnewer hlock
          (congrArg Prod.fst hnext) (h.ruled hqualified)
        rw [congrArg Prod.snd hnext]
        exact hjudged
      · have hquiet : Mirrors config gateConfig
            ⟨pipeline.adapter.tracked arrival.frame 1, pipeline.gate⟩ (some arrival)
            memory.aged := h.quiet hstamped hnewer fun _ => rfl
        simpa [GateMemory.next, heard, hlock, hnext] using hquiet
  · rw [if_neg hlock]
    rw [Bool.not_eq_true] at hlock
    by_cases hforeign : isForeign config arrival.frame = true
    · have hignored := timed_foreign hqualified h.adapterConfig hforeign
      simpa [GateMemory.next, hlock, hforeign, hignored] using h
    · rw [Bool.not_eq_true] at hforeign
      have hmalformed := timed_malformed hqualified h.adapterConfig hlock hforeign
      simp only [GateMemory.next, hlock, hforeign, hmalformed, Machine.stepOf_input,
        Bool.false_eq_true, ↓reduceIte]
      exact ⟨h.adapterConfig, h.gateConfig_eq, h.detectorConfig, rfl, nofun, rfl, nofun, rfl, nofun⟩

theorem getLast?_of_lastLockFrame (arrivals : List Arrival) {previous : Arrival}
    (h : arrivals.foldl (lastLockFrame config) none = some previous) :
    (arrivals.filter fun arrival => isLockFrame config arrival.frame).getLast? = some previous := by
  induction arrivals using List.reverseRecOn with
  | nil => cases h
  | append_singleton arrivals arrival ih =>
    rw [List.foldl_append, List.foldl_cons, List.foldl_nil, lastLockFrame] at h
    rw [List.filter_append]
    split at h
    · rename_i hlock
      simpa [hlock] using h
    rename_i hlock
    split at h
    · simpa [hlock] using ih h
    · cases h

theorem Steady.left {earlier later : List Arrival} (h : Steady config (earlier ++ later)) :
    Steady config earlier := by
  have hpaced := h.paced
  rw [List.filter_append, List.isChain_append] at hpaced
  exact ⟨fun arrival hmem => h.stamped arrival (List.mem_append_left _ hmem), hpaced.1⟩

theorem Steady.cut {arrivals : List Arrival} {arrival : Arrival}
    (h : Steady config (arrivals ++ [arrival])) :
    Steady config arrivals ∧
      Keeps config (arrivals.foldl (lastLockFrame config) none) arrival := by
  have hpaced := h.paced
  rw [List.filter_append, List.isChain_append] at hpaced
  refine ⟨h.left, fun hlock => ⟨h.stamped arrival (by simp) hlock, fun previous hprevious => ?_⟩⟩
  apply hpaced.2.2 previous (getLast?_of_lastLockFrame arrivals hprevious) arrival
  simp [hlock]

/-- The gate judges every rising edge. -/
theorem Mirrors.edge_output (h : Mirrors config gateConfig pipeline last memory)
    (hqualified : Qualified config gateConfig) {previous : Arrival}
    (hlast : last = some previous) (hlock : isLockFrame config arrival.frame = true)
    (hkeeps : Keeps config last arrival)
    (hinactive : config.lockCommand.matchesFrame previous.frame = false)
    (hactive : config.lockCommand.matchesFrame arrival.frame = true) :
    (timed.stepOf pipeline arrival).output.commandEvaluated = true ∧
      ∃ after, pipeline.gate.Ruled (edgeEvidence pipeline.adapter arrival.frame)
        (timed.stepOf pipeline arrival).output.command.status after := by
  rcases hkeeps hlock with ⟨hstamped, hsucceeds⟩
  have hnext := h.timed_next hqualified hlast hlock hstamped (hsucceeds previous hlast)
  rw [hactive, hinactive, Bool.not_false, Bool.and_true, if_pos rfl] at hnext
  rw [Machine.stepOf_output, hnext]
  exact ⟨rfl, _, h.ruled hqualified⟩

theorem Mirrors.heard_iff (h : Mirrors config gateConfig pipeline last memory)
    (hqualified : Qualified config gateConfig) {previous : Arrival}
    (hlast : last = some previous) (hlock : isLockFrame config arrival.frame = true)
    (hkeeps : Keeps config last arrival)
    (hinactive : config.lockCommand.matchesFrame previous.frame = false)
    (hactive : config.lockCommand.matchesFrame arrival.frame = true)
    (hsecured : config.vehicleSecured.matchesFrame arrival.frame = true) :
    heard (timed.stepOf pipeline arrival) = true ↔ memory.Admits arrival.time := by
  rcases h.edge_output hqualified hlast hlock hkeeps hinactive hactive with
    ⟨hevaluated, after, hruled⟩
  rcases hkeeps hlock with ⟨hstamped, hsucceeds⟩
  have hnewer : ∀ previous ∈ last, previous.time < arrival.time :=
    fun previous hprevious => (hsucceeds previous hprevious).newer
  have hclock := h.clockRegressed_iff hnewer
  have horder := h.orderFault_iff hnewer hstamped
  rw [← hstamped] at hclock
  unfold heard
  rw [hevaluated, Bool.true_and, Bool.or_eq_true, beq_iff_eq,
    LockCommandDecision.accepted_or_debounced_iff]
  generalize LockCommandDecision.status _ = status at hruled ⊢
  cases hruled with
  | regressed hregressed =>
    have hbehind : ¬ memory.Admits arrival.time := by
      intro hadmits
      have hregular := hclock.2 hadmits.clock
      exact Bool.false_ne_true (hregular.symm.trans hregressed)
    simp [LockCommandStatus.clearsDetector, hbehind]
  | refused _ _ hclears _ hreason =>
    have hdisordered : ¬ memory.Admits arrival.time := by
      intro hadmits
      have hsecured : (edgeEvidence pipeline.adapter arrival.frame).vehicleSecured = true := by
        rw [edgeEvidence, h.adapterConfig]
        exact hsecured
      exact hreason hsecured (horder.2 hadmits.press)
    simp [hclears, hdisordered]
  | heard _ _ hregular hclears hordered =>
    have hadmits : memory.Admits arrival.time := ⟨hclock.1 hregular, horder.1 hordered⟩
    simp [hclears, hadmits]

theorem Mirrors.regressed (h : Mirrors config gateConfig pipeline last memory)
    (hqualified : Qualified config gateConfig) {previous : Arrival}
    (hlast : last = some previous) (hlock : isLockFrame config arrival.frame = true)
    (hkeeps : Keeps config last arrival)
    (hinactive : config.lockCommand.matchesFrame previous.frame = false)
    (hactive : config.lockCommand.matchesFrame arrival.frame = true)
    (hbehind : ¬ ∀ time ∈ memory.clock, Ahead (arrival.time - time)) :
    (timed.stepOf pipeline arrival).output.command.status = .rejectedClockRegression := by
  rcases h.edge_output hqualified hlast hlock hkeeps hinactive hactive with
    ⟨-, after, hruled⟩
  rcases hkeeps hlock with ⟨hstamped, hsucceeds⟩
  have hclock := h.clockRegressed_iff fun previous hprevious => (hsucceeds previous hprevious).newer
  rw [← hclock, ← hstamped] at hbehind
  generalize LockCommandDecision.status _ = status at hruled ⊢
  cases hruled with
  | regressed => rfl
  | refused _ hregular => exact absurd hregular hbehind
  | heard _ _ hregular => exact absurd hregular hbehind

theorem Mirrors.admits_of_recent (h : Mirrors config gateConfig pipeline last memory)
    (hnewer : ∀ previous ∈ last, previous.time < arrival.time)
    (hrecent : memory.Recent arrival.time) : memory.Admits arrival.time := by
  have hhalf : halfCounterRange.toNat = 2147483648 := rfl
  have hsize : UInt32.size = 4294967296 := rfl
  refine ⟨fun time htime => ?_, fun press hpress => ?_⟩
  · rcases h.clock time htime with ⟨-, previous, hprevious, hle⟩
    have hlt := hnewer previous hprevious
    have hclose := hrecent.clock time htime
    unfold Ahead
    rw [hsize]
    omega
  · rcases h.press press hpress with ⟨-, -, previous, hprevious, hle⟩
    have hlt := hnewer previous hprevious
    have hclose := hrecent.press press hpress
    unfold StrictlyAhead Ahead
    rw [hsize]
    omega

def Remembered (config : CanLockCommandAdapterConfig) (gateConfig : LockCommandGateConfig)
    (pipeline : CanLockCommandPipeline) (calls : List TimedCall) : Prop :=
  Steady config (calls.map (·.input)) →
    Mirrors config gateConfig pipeline
      ((calls.map (·.input)).foldl (lastLockFrame config) none) (gateMemory config calls)

theorem remembered_step (hqualified : Qualified config gateConfig)
    (pipeline : CanLockCommandPipeline) (calls : List TimedCall)
    (h : Remembered config gateConfig pipeline calls) (arrival : Arrival) :
    Remembered config gateConfig (timed pipeline arrival).2
      (calls ++ [timed.stepOf pipeline arrival]) := by
  unfold Remembered gateMemory
  rw [List.map_append, List.map_singleton, List.foldl_append, List.foldl_append]
  intro hsteady
  rcases hsteady.cut with ⟨hbefore, hkeeps⟩
  exact (h hbefore).step hqualified hkeeps

/-- On a steady run the gate hears a press event exactly when clock, time and
counter are ahead of what it remembers; a press soon enough after that always is. -/
theorem press_heard (config : CanLockCommandAdapterConfig) (gateConfig : LockCommandGateConfig)
    (hqualified : Qualified config gateConfig) {arrivals : List Arrival}
    (hsteady : Steady config arrivals) {past future : List TimedCall} {call : TimedCall}
    (hrun : timed.transcript (new config gateConfig) arrivals = past ++ call :: future)
    (hpress : IsPressEvent config past call) :
    (heard call = true ↔ (gateMemory config past).Admits call.input.time) ∧
    ((gateMemory config past).Recent call.input.time → heard call = true) := by
  rcases timed.history_at (Remembered config gateConfig)
    (fun _ => mirrors_new config gateConfig) (remembered_step hqualified) hrun with
    ⟨hremembered, hcall⟩
  have hinputs := timed.map_input_transcript (new config gateConfig) arrivals
  rw [hrun, List.map_append, List.map_cons] at hinputs
  have hcut : Steady config (past.map (·.input) ++ [call.input]) := by
    rw [← hinputs, List.append_cons] at hsteady
    exact hsteady.left
  rcases hcut.cut with ⟨hbefore, hkeeps⟩
  have hmirrors := hremembered hbefore
  rcases hpress.edge with ⟨previous, hlast, hinactive⟩
  have hnewer : ∀ last ∈ (past.map (·.input)).foldl (lastLockFrame config) none,
      last.time < call.input.time :=
    fun last hmem => ((hkeeps hpress.lockFrame).2 last hmem).newer
  have hiff := hmirrors.heard_iff hqualified hlast hpress.lockFrame hkeeps hinactive
    hpress.command hpress.secured
  rw [← hcall] at hiff
  exact ⟨hiff, fun hrecent => hiff.2 (hmirrors.admits_of_recent hnewer hrecent)⟩

def pauseEnd : Nat := 2147485

def parkedArrival (index : Nat) : Arrival where
  frame := (lockInput (1000 * index) (if index = 1 ∨ index = pauseEnd then 1 else 0)
    (UInt8.ofNat (index % 16))).frame
  time := 1000 * index

def parked (count : Nat) : List Arrival := (List.range count).map parkedArrival

theorem parked_succ (count : Nat) : parked (count + 1) = parked count ++ [parkedArrival count] := by
  rw [parked, List.range_succ, List.map_append]
  rfl

theorem isLockFrame_parked (index : Nat) :
    isLockFrame lockAdapterConfig (parkedArrival index).frame = true := rfl

theorem filter_parked (count : Nat) :
    (parked count).filter (fun arrival => isLockFrame lockAdapterConfig arrival.frame) =
      parked count := by
  rw [List.filter_eq_self]
  intro arrival hmem
  rcases List.mem_map.1 hmem with ⟨index, -, rfl⟩
  exact isLockFrame_parked index

theorem extract_parked (index : Nat) :
    lockAdapterConfig.rollingCounter.extract (parkedArrival index).frame =
      UInt8.ofNat (index % 16) := by
  have hall : ∀ counter : Fin 16, (CanCounterField.bitPositions.foldl
      (CanCounterField.packBit 0x0F (UInt8.ofNat counter)) (0, 0)).1 = UInt8.ofNat counter := by
    decide
  exact hall ⟨index % 16, Nat.mod_lt _ (by decide)⟩

theorem succeeds_parked (index : Nat) :
    Succeeds lockAdapterConfig (parkedArrival index) (parkedArrival (index + 1)) := by
  refine ⟨?_, ?_, ?_⟩
  · dsimp only [parkedArrival]
    omega
  · dsimp only [parkedArrival]
    omega
  · have hall : ∀ counter : Fin 16, lockAdapterConfig.rollingCounter.distance
        (UInt8.ofNat ((counter + 1) % 16 : Nat)) (UInt8.ofNat counter) = 1 := by
      decide
    have hnext : (index + 1) % 16 = (index % 16 + 1) % 16 := by omega
    rw [extract_parked, extract_parked, hnext]
    exact hall ⟨index % 16, Nat.mod_lt _ (by decide)⟩

theorem stamped_parked (index : Nat) (h : index ≤ pauseEnd) :
    (parkedArrival index).frame.timestampMilliseconds = UInt32.ofNat (1000 * index) := by
  have hbound : 1000 * (1000 * index) < 18446744073709551616 := by
    unfold pauseEnd at h
    omega
  dsimp only [parkedArrival, lockInput, CanFrame.timestampMilliseconds]
  rw [← UInt32.toNat_inj, UInt64.toNat_toUInt32, UInt64.toNat_div, UInt64.toNat_ofNat',
    Nat.mod_eq_of_lt hbound, UInt32.toNat_ofNat', show (1000 : UInt64).toNat = 1000 from rfl,
    Nat.mul_div_cancel_left _ (by decide)]

theorem steady_parked (count : Nat) (h : count ≤ pauseEnd + 1) :
    Steady lockAdapterConfig (parked count) := by
  refine ⟨fun arrival hmem _ => ?_, ?_⟩
  · rcases List.mem_map.1 hmem with ⟨index, hindex, rfl⟩
    rw [List.mem_range] at hindex
    exact stamped_parked index (by omega)
  · rw [filter_parked, parked, List.isChain_map]
    cases count with
    | zero => exact .nil
    | succ count =>
      rw [List.isChain_range_succ]
      exact fun index _ => succeeds_parked index

theorem qualified_lockAdapterConfig : Qualified lockAdapterConfig {} :=
  ⟨rfl, by decide, rfl, by decide⟩

theorem command_parked (index : Nat) :
    lockAdapterConfig.lockCommand.matchesFrame (parkedArrival index).frame =
      decide (index = 1 ∨ index = pauseEnd) := by
  by_cases h : index = 1 ∨ index = pauseEnd
  · simp [parkedArrival, lockInput, lockAdapterConfig, CanBitMatcher.matchesFrame,
      CanFrame.byteAt, h]
  · simp [parkedArrival, lockInput, lockAdapterConfig, CanBitMatcher.matchesFrame,
      CanFrame.byteAt, h]

theorem secured_parked (index : Nat) :
    lockAdapterConfig.vehicleSecured.matchesFrame (parkedArrival index).frame = true := by
  simp [parkedArrival, lockInput, lockAdapterConfig, CanBitMatcher.matchesFrame, CanFrame.byteAt]

def parkedPipeline (count : Nat) : CanLockCommandPipeline :=
  timed.final (new lockAdapterConfig {}) (parked count)

def parkedCalls (count : Nat) : List TimedCall :=
  timed.transcript (new lockAdapterConfig {}) (parked count)

theorem parkedCalls_succ (count : Nat) :
    parkedCalls (count + 1) =
      parkedCalls count ++ [timed.stepOf (parkedPipeline count) (parkedArrival count)] := by
  rw [parkedCalls, parked_succ, Machine.transcript_concat]
  rfl

theorem lastLockFrame_parked (count : Nat) :
    (parked (count + 1)).foldl (lastLockFrame lockAdapterConfig) none =
      some (parkedArrival count) := by
  rw [parked_succ, List.foldl_append, List.foldl_cons, List.foldl_nil, lastLockFrame,
    if_pos (isLockFrame_parked count)]

theorem mirrors_parked (count : Nat) (h : count ≤ pauseEnd + 1) :
    Mirrors lockAdapterConfig {} (parkedPipeline count)
      ((parked count).foldl (lastLockFrame lockAdapterConfig) none)
      (gateMemory lockAdapterConfig (parkedCalls count)) := by
  have hremembered := timed.history_induction (Remembered lockAdapterConfig {})
    (fun _ => mirrors_new lockAdapterConfig {})
    (remembered_step qualified_lockAdapterConfig) (parked count)
  unfold Remembered at hremembered
  rw [timed.map_input_transcript] at hremembered
  exact hremembered (steady_parked count h)

theorem keeps_parked (count : Nat) (h : count ≤ pauseEnd) :
    Keeps lockAdapterConfig ((parked count).foldl (lastLockFrame lockAdapterConfig) none)
      (parkedArrival count) := by
  have hsteady := steady_parked (count + 1) (by omega)
  rw [parked_succ] at hsteady
  exact hsteady.cut.2

/-- While no press comes, the gate remembers the first one. -/
theorem gateMemory_parked (count : Nat) (h : count + 2 ≤ pauseEnd) :
    gateMemory lockAdapterConfig (parkedCalls (count + 2)) =
      { clock := some 1000, press := some (1000, count) } := by
  induction count with
  | zero => decide
  | succ count ih =>
    have hmirrors := mirrors_parked (count + 2) (by omega)
    have hkeeps := keeps_parked (count + 2) (by omega)
    rw [lastLockFrame_parked] at hmirrors hkeeps
    have hlock := isLockFrame_parked (count + 2)
    rcases hkeeps hlock with ⟨hstamped, hsucceeds⟩
    have hidle : ¬ (count + 2 = 1 ∨ count + 2 = pauseEnd) := by omega
    have hnext := hmirrors.timed_next qualified_lockAdapterConfig rfl hlock hstamped
      (hsucceeds _ rfl)
    rw [command_parked, decide_eq_false hidle, Bool.false_and, if_neg Bool.false_ne_true] at hnext
    rw [show count + 1 + 2 = count + 2 + 1 from rfl, parkedCalls_succ, gateMemory,
      List.foldl_append]
    rw [gateMemory] at ih
    rw [ih (by omega)]
    simp [GateMemory.next, GateMemory.aged, heard, hlock, hnext]

/-- A press half the range after the last one is refused, though nothing is wrong
with it: the gate takes it for a regression of the clock. -/
theorem long_pause_unheard :
    ∃ past call, timed.transcript (new lockAdapterConfig {}) (parked (pauseEnd + 1)) =
        past ++ [call] ∧
      Qualified lockAdapterConfig {} ∧ Steady lockAdapterConfig (parked (pauseEnd + 1)) ∧
      IsPressEvent lockAdapterConfig past call ∧ heard call = false ∧
      call.output.command.status = .rejectedClockRegression := by
  have hcount : pauseEnd = 2147483 + 2 := rfl
  have hmirrors := mirrors_parked pauseEnd (by omega)
  have hkeeps := keeps_parked pauseEnd le_rfl
  have hmemory : gateMemory lockAdapterConfig (parkedCalls pauseEnd) =
      { clock := some 1000, press := some (1000, 2147483) } := gateMemory_parked 2147483 le_rfl
  have hlast : (parked pauseEnd).foldl (lastLockFrame lockAdapterConfig) none =
      some (parkedArrival (pauseEnd - 1)) := lastLockFrame_parked (pauseEnd - 1)
  have hinactive := command_parked (pauseEnd - 1)
  rw [decide_eq_false (by omega)] at hinactive
  have hactive := command_parked pauseEnd
  rw [decide_eq_true (by omega)] at hactive
  have hsecured := secured_parked pauseEnd
  have hlock := isLockFrame_parked pauseEnd
  have hbehind : ¬ Ahead ((parkedArrival pauseEnd).time - 1000) := by
    unfold Ahead
    decide
  refine ⟨parkedCalls pauseEnd, timed.stepOf (parkedPipeline pauseEnd) (parkedArrival pauseEnd),
    parkedCalls_succ pauseEnd, qualified_lockAdapterConfig, steady_parked _ le_rfl, ?_, ?_, ?_⟩
  · refine ⟨hlock, ⟨parkedArrival (pauseEnd - 1), ?_, hinactive⟩, hactive, hsecured⟩
    rw [parkedCalls, timed.map_input_transcript]
    exact hlast
  · rw [← Bool.not_eq_true, hmirrors.heard_iff qualified_lockAdapterConfig hlast hlock hkeeps
      hinactive hactive hsecured, hmemory]
    exact fun hadmits => hbehind (hadmits.clock 1000 rfl)
  · apply hmirrors.regressed qualified_lockAdapterConfig hlast hlock hkeeps hinactive hactive
    rw [hmemory]
    exact fun hahead => hbehind (hahead 1000 rfl)

def pressArrival (index : Nat) : Arrival where
  frame := (lockInput (1000 * index) (UInt8.ofNat (index % 2)) (UInt8.ofNat index)).frame
  time := 1000 * index

def firstPress : List Arrival := [pressArrival 0, pressArrival 1, pressArrival 2]

/-- The second press is heard, two seconds and two frames after the first. -/
theorem press_heard_secondPress :
    let past := timed.transcript (new lockAdapterConfig {}) firstPress
    gateMemory lockAdapterConfig past = { clock := some 1000, press := some (1000, 1) } ∧
      heard (timed.stepOf (timed.final (new lockAdapterConfig {}) firstPress) (pressArrival 3)) =
        true := by
  intro past
  have hmemory : gateMemory lockAdapterConfig past =
      { clock := some 1000, press := some (1000, 1) } := by decide
  have hsteady : Steady lockAdapterConfig (firstPress ++ [pressArrival 3]) := by
    refine ⟨by decide, ?_⟩
    change [pressArrival 0, pressArrival 1, pressArrival 2, pressArrival 3].IsChain _
    refine .cons_cons ⟨?_, ?_, ?_⟩ (.cons_cons ⟨?_, ?_, ?_⟩ (.cons_cons ⟨?_, ?_, ?_⟩
      (.singleton _)))
    all_goals decide
  have hpress : IsPressEvent lockAdapterConfig past
      (timed.stepOf (timed.final (new lockAdapterConfig {}) firstPress) (pressArrival 3)) := by
    refine ⟨by decide, ⟨pressArrival 2, ?_, by decide⟩, by decide, by decide⟩
    rw [timed.map_input_transcript]
    rfl
  refine ⟨hmemory, (press_heard lockAdapterConfig {} qualified_lockAdapterConfig hsteady
    (timed.transcript_concat (new lockAdapterConfig {}) firstPress (pressArrival 3)) hpress).1.2 ?_⟩
  rw [hmemory]
  constructor
  · rintro last ⟨⟩
    unfold Ahead
    decide
  · rintro press ⟨⟩
    unfold StrictlyAhead Ahead
    decide

end CanLockCommandPipeline

end BmwRemote.Infrastructure
