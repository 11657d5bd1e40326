import BmwRemote.Infrastructure.CanTraceReplay
import BmwRemote.Infrastructure.VehicleStateAssembler
import BmwRemote.Lib.Transcript

/-! A vehicle read from a trace: each request replays the frames that are due into
the assembler. What the gateway shows is the fold of a prefix of the trace. -/
namespace BmwRemote.Infrastructure

open BmwRemote.Domain BmwRemote.Lib

def VehicleStateAssembler.consumer : CanFrameConsumer VehicleStateAssembler := ⟨consume⟩

structure ReplayVehicleGateway where
  replay : CanTraceReplay
  assembler : VehicleStateAssembler
  elapsedMs : UInt32 := 0
  timeIsValid : Bool := true
  lastBatch : ReplayBatch := {}

namespace ReplayVehicleGateway

def initialBatch (replay : CanTraceReplay) : ReplayBatch :=
  { status := if replay.valid then .ready else .invalidTrace }

def new (trace : CanTrace) (decoder : CanFrameDecoder) (freshness : SignalFreshnessConfig := {}) :
    ReplayVehicleGateway where
  replay := .new trace
  assembler := { decoder, freshness }
  lastBatch := initialBatch (.new trace)

def nonMonotonic (batch : ReplayBatch) : ReplayBatch :=
  { batch with status := .nonMonotonicTime, emittedFrames := 0 }

def requestState (gateway : ReplayVehicleGateway) : Bool × ReplayVehicleGateway :=
  if !gateway.timeIsValid then
    (false, { gateway with lastBatch := nonMonotonic gateway.lastBatch })
  else
    let (batch, replay, assembler) :=
      gateway.replay.advanceTo gateway.elapsedMs VehicleStateAssembler.consumer gateway.assembler
    (batch.status == .ready || batch.status == .complete,
      { gateway with replay := replay, assembler := assembler, lastBatch := batch })

def setElapsedTime (gateway : ReplayVehicleGateway) (elapsedMs : UInt32) :
    Bool × ReplayVehicleGateway :=
  if elapsedMs < gateway.elapsedMs then
    (false, { gateway with
      timeIsValid := false
      lastBatch := nonMonotonic gateway.lastBatch })
  else (true, { gateway with elapsedMs := elapsedMs })

def reset (gateway : ReplayVehicleGateway) : ReplayVehicleGateway where
  replay := gateway.replay.reset
  assembler := gateway.assembler.reset
  lastBatch := initialBatch gateway.replay

def state (gateway : ReplayVehicleGateway) : VehicleState :=
  gateway.assembler.snapshot gateway.elapsedMs

inductive Call where
  | setElapsedTime (elapsedMs : UInt32)
  | requestState
  | state
  | reset
  deriving DecidableEq

inductive Answer where
  | succeeded (result : Bool)
  | vehicle (state : VehicleState)
  | done

def machine : Machine ReplayVehicleGateway Call Answer := fun gateway call =>
  match call with
  | .setElapsedTime elapsedMs =>
    (.succeeded (gateway.setElapsedTime elapsedMs).1, (gateway.setElapsedTime elapsedMs).2)
  | .requestState => (.succeeded gateway.requestState.1, gateway.requestState.2)
  | .state => (.vehicle gateway.state, gateway)
  | .reset => (.done, gateway.reset)

def requested (gateway : ReplayVehicleGateway) : List (CanFrame × Bool) :=
  if !gateway.timeIsValid then []
  else
    (gateway.replay.advanceTo gateway.elapsedMs VehicleStateAssembler.consumer.recording
      (gateway.assembler, [])).2.2.2

def consumedFrames (calls : List (Step ReplayVehicleGateway Call Answer)) : List (CanFrame × Bool) :=
  calls.foldl (fun frames call =>
    match call.input with
    | .requestState => frames ++ call.before.requested
    | .reset => []
    | .setElapsedTime _ | .state => frames) []

/-- What the calls since the last reset say about time: how far it has come, whether
it ever went back, and how far it had come at the last request before that. -/
structure Timeline where
  elapsedMs : UInt32 := 0
  wentBack : Bool := false
  requestedMs : Option UInt32 := none
  deriving DecidableEq

def Timeline.next (timeline : Timeline) : Call → Timeline
  | .setElapsedTime elapsedMs =>
    if elapsedMs < timeline.elapsedMs then { timeline with wentBack := true }
    else { timeline with elapsedMs := elapsedMs }
  | .requestState =>
    if timeline.wentBack then timeline
    else { timeline with requestedMs := some timeline.elapsedMs }
  | .state => timeline
  | .reset => {}

def timelineOf (calls : List Call) : Timeline := calls.foldl Timeline.next {}

def decoded (decoder : CanFrameDecoder) (frame : CanFrame) : Option (List DecodedSignal) :=
  if !frame.isValid then none
  else
    let (result, batch) := decoder.decode frame {}
    if result = .ignored then some []
    else if result = .invalid ∨ batch.count = 0 ∨ validateBatch batch = false then none
    else some batch.taken

/-- The last value of each signal, with the true time of its frame in milliseconds. -/
abbrev Readings := VehicleSignal → Option (Int32 × Nat)

def Readings.signal (time : Nat) (readings : Readings) (signal : DecodedSignal) : Readings :=
  match signal.signal with
  | some name => Function.update readings name (some (signal.value, time))
  | none => readings

def Readings.frame (decoder : CanFrameDecoder) (readings : Readings) (frame : CanFrame) :
    Readings :=
  ((decoded decoder frame).getD []).foldl (Readings.signal (frame.timestampUs.toNat / 1000))
    readings

def readings (decoder : CanFrameDecoder) (frames : List CanFrame) : Readings :=
  frames.foldl (Readings.frame decoder) fun _ => none

/-- A reading is fresh while its age, as an integer, is at most the maximum. -/
def referenceSignal {T : Type} [Inhabited T] (cast : Int32 → T) (reading : Option (Int32 × Nat))
    (elapsedMs maximumAgeMs : UInt32) : Observed T :=
  match reading with
  | none => .unavailable
  | some (value, time) =>
    ⟨cast value,
      if (elapsedMs.toNat : Int) - time ≤ maximumAgeMs.toNat then .fresh else .stale⟩

def wordOf (value : Int32) : UInt16 := value.toUInt32.toUInt16
def flagOf (value : Int32) : Bool := value != 0

/-- The vehicle that a list of frames shows. -/
def reference (decoder : CanFrameDecoder) (freshness : SignalFreshnessConfig)
    (frames : List CanFrame) (elapsedMs : UInt32) : VehicleState :=
  let last := readings decoder frames
  let battery := freshness.batteryMaximumAgeMs
  let rpm := freshness.engineRpmMaximumAgeMs
  let telemetry := freshness.telemetryMaximumAgeMs
  let body := freshness.bodyMaximumAgeMs
  let gearbox := freshness.transmissionMaximumAgeMs
  { batteryMillivolts := referenceSignal wordOf (last .batteryMillivolts) elapsedMs battery
    engineRpm := referenceSignal wordOf (last .engineRpm) elapsedMs rpm
    coolantTemperatureC :=
      referenceSignal Int32.toInt16 (last .coolantTemperatureC) elapsedMs telemetry
    engineOilTemperatureC :=
      referenceSignal Int32.toInt16 (last .engineOilTemperatureC) elapsedMs telemetry
    transmissionOilTemperatureC :=
      referenceSignal Int32.toInt16 (last .transmissionOilTemperatureC) elapsedMs telemetry
    dpfRegenerationActive :=
      referenceSignal flagOf (last .dpfRegenerationActive) elapsedMs telemetry
    hoodClosed := referenceSignal flagOf (last .hoodClosed) elapsedMs body
    doorsClosed := referenceSignal flagOf (last .doorsClosed) elapsedMs body
    trunkClosed := referenceSignal flagOf (last .trunkClosed) elapsedMs body
    brakePressed := referenceSignal flagOf (last .brakePressed) elapsedMs body
    parkingBrakeApplied := referenceSignal flagOf (last .parkingBrakeApplied) elapsedMs body
    transmission := referenceSignal transmissionOf (last .transmission) elapsedMs gearbox
    gear := referenceSignal gearOf (last .gear) elapsedMs gearbox
    criticalFaultPresent :=
      referenceSignal flagOf (last .criticalFaultPresent) elapsedMs freshness.faultMaximumAgeMs }

def replayable (decoder : CanFrameDecoder) (elapsedMs : UInt32) (frame : CanFrame) : Bool :=
  decide (frame.timestampUs.toNat ≤ elapsedMs.toNat * 1000) && (decoded decoder frame).isSome

/-- The frames that a request at a time has replayed. -/
def replayed (decoder : CanFrameDecoder) (frames : List CanFrame) (requestedMs : Option UInt32) :
    List CanFrame :=
  match requestedMs with
  | none => []
  | some elapsedMs => frames.takeWhile (replayable decoder elapsedMs)

end ReplayVehicleGateway

end BmwRemote.Infrastructure
