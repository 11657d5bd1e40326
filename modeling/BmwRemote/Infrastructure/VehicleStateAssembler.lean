import BmwRemote.Domain.Vehicle
import BmwRemote.Infrastructure.CanFrame
import Mathlib.Logic.Function.Basic

/-! The state of the vehicle, put together from decoded frames: each signal keeps
its last accepted value and the time of the frame that carried it. -/
namespace BmwRemote.Infrastructure

open BmwRemote.Domain

/-- A signal of `none` is `VehicleSignal::Count`, which names no signal. -/
structure DecodedSignal where
  signal : Option VehicleSignal := some .batteryMillivolts
  value : Int32 := 0
  deriving DecidableEq

namespace DecodedSignalBatch

def maximumSignals : Nat := 10

end DecodedSignalBatch

structure DecodedSignalBatch where
  signals : Vector DecodedSignal DecodedSignalBatch.maximumSignals := Vector.replicate _ {}
  count : Nat := 0

def DecodedSignalBatch.add (batch : DecodedSignalBatch) (signal : VehicleSignal) (value : Int32) :
    Bool × DecodedSignalBatch :=
  if h : batch.count < DecodedSignalBatch.maximumSignals then
    (true, ⟨batch.signals.set batch.count ⟨some signal, value⟩ h, batch.count + 1⟩)
  else (false, batch)

def DecodedSignalBatch.taken (batch : DecodedSignalBatch) : List DecodedSignal :=
  batch.signals.toList.take batch.count

inductive DecodeResult where
  | ignored
  | decoded
  | invalid
  deriving DecidableEq

structure CanFrameDecoder where
  decode : CanFrame → DecodedSignalBatch → DecodeResult × DecodedSignalBatch

structure SignalFreshnessConfig where
  batteryMaximumAgeMs : UInt32 := 2000
  engineRpmMaximumAgeMs : UInt32 := 500
  telemetryMaximumAgeMs : UInt32 := 2000
  bodyMaximumAgeMs : UInt32 := 2000
  transmissionMaximumAgeMs : UInt32 := 1000
  faultMaximumAgeMs : UInt32 := 2000

structure AssemblyStatistics where
  consumedFrames : UInt32 := 0
  decodedFrames : UInt32 := 0
  ignoredFrames : UInt32 := 0
  rejectedFrames : UInt32 := 0
  decodedSignals : UInt32 := 0

structure StoredSignal (T : Type) where
  value : T
  observedAtMs : UInt32
  observed : Bool

namespace StoredSignal

variable {T : Type}

def empty [Inhabited T] : StoredSignal T := ⟨default, 0, false⟩

def observe [Inhabited T] (signal : StoredSignal T) (nowMs maximumAgeMs : UInt32) : Observed T :=
  if !signal.observed then .unavailable
  else
    let ageMs := nowMs - signal.observedAtMs
    ⟨signal.value, if ageMs ≤ maximumAgeMs then .fresh else .stale⟩

end StoredSignal

def transmissionOf (value : Int32) : Transmission :=
  if value = 1 then .automatic else if value = 2 then .manual else .unknown

def gearOf (value : Int32) : Gear :=
  if value = 1 then .park else if value = 2 then .neutral else if value = 3 then .reverse
  else if value = 4 then .drive else .unknown

structure StoredSignals where
  batteryMillivolts : StoredSignal UInt16 := .empty
  engineRpm : StoredSignal UInt16 := .empty
  coolantTemperatureC : StoredSignal Int16 := .empty
  engineOilTemperatureC : StoredSignal Int16 := .empty
  transmissionOilTemperatureC : StoredSignal Int16 := .empty
  dpfRegenerationActive : StoredSignal Bool := .empty
  hoodClosed : StoredSignal Bool := .empty
  doorsClosed : StoredSignal Bool := .empty
  trunkClosed : StoredSignal Bool := .empty
  brakePressed : StoredSignal Bool := .empty
  parkingBrakeApplied : StoredSignal Bool := .empty
  transmission : StoredSignal Transmission := .empty
  gear : StoredSignal Gear := .empty
  criticalFaultPresent : StoredSignal Bool := .empty

namespace StoredSignals

def applySignal (stored : StoredSignals) (signal : DecodedSignal) (timestampMs : UInt32) :
    StoredSignals :=
  let word : UInt16 := signal.value.toUInt32.toUInt16
  let integer : Int16 := signal.value.toInt16
  let flag : Bool := signal.value != 0
  match signal.signal with
  | some .batteryMillivolts => { stored with batteryMillivolts := ⟨word, timestampMs, true⟩ }
  | some .engineRpm => { stored with engineRpm := ⟨word, timestampMs, true⟩ }
  | some .coolantTemperatureC => { stored with coolantTemperatureC := ⟨integer, timestampMs, true⟩ }
  | some .engineOilTemperatureC =>
    { stored with engineOilTemperatureC := ⟨integer, timestampMs, true⟩ }
  | some .transmissionOilTemperatureC =>
    { stored with transmissionOilTemperatureC := ⟨integer, timestampMs, true⟩ }
  | some .dpfRegenerationActive => { stored with dpfRegenerationActive := ⟨flag, timestampMs, true⟩ }
  | some .hoodClosed => { stored with hoodClosed := ⟨flag, timestampMs, true⟩ }
  | some .doorsClosed => { stored with doorsClosed := ⟨flag, timestampMs, true⟩ }
  | some .trunkClosed => { stored with trunkClosed := ⟨flag, timestampMs, true⟩ }
  | some .brakePressed => { stored with brakePressed := ⟨flag, timestampMs, true⟩ }
  | some .parkingBrakeApplied => { stored with parkingBrakeApplied := ⟨flag, timestampMs, true⟩ }
  | some .transmission =>
    { stored with transmission := ⟨transmissionOf signal.value, timestampMs, true⟩ }
  | some .gear => { stored with gear := ⟨gearOf signal.value, timestampMs, true⟩ }
  | some .criticalFaultPresent => { stored with criticalFaultPresent := ⟨flag, timestampMs, true⟩ }
  | none => stored

def applyBatch (stored : StoredSignals) (batch : DecodedSignalBatch) (timestampMs : UInt32) :
    StoredSignals :=
  batch.taken.foldl (fun stored signal => stored.applySignal signal timestampMs) stored

def snapshot (stored : StoredSignals) (freshness : SignalFreshnessConfig) (nowMs : UInt32) :
    VehicleState where
  batteryMillivolts := stored.batteryMillivolts.observe nowMs freshness.batteryMaximumAgeMs
  engineRpm := stored.engineRpm.observe nowMs freshness.engineRpmMaximumAgeMs
  coolantTemperatureC := stored.coolantTemperatureC.observe nowMs freshness.telemetryMaximumAgeMs
  engineOilTemperatureC :=
    stored.engineOilTemperatureC.observe nowMs freshness.telemetryMaximumAgeMs
  transmissionOilTemperatureC :=
    stored.transmissionOilTemperatureC.observe nowMs freshness.telemetryMaximumAgeMs
  dpfRegenerationActive :=
    stored.dpfRegenerationActive.observe nowMs freshness.telemetryMaximumAgeMs
  hoodClosed := stored.hoodClosed.observe nowMs freshness.bodyMaximumAgeMs
  doorsClosed := stored.doorsClosed.observe nowMs freshness.bodyMaximumAgeMs
  trunkClosed := stored.trunkClosed.observe nowMs freshness.bodyMaximumAgeMs
  brakePressed := stored.brakePressed.observe nowMs freshness.bodyMaximumAgeMs
  parkingBrakeApplied := stored.parkingBrakeApplied.observe nowMs freshness.bodyMaximumAgeMs
  transmission := stored.transmission.observe nowMs freshness.transmissionMaximumAgeMs
  gear := stored.gear.observe nowMs freshness.transmissionMaximumAgeMs
  criticalFaultPresent := stored.criticalFaultPresent.observe nowMs freshness.faultMaximumAgeMs

end StoredSignals

def validateSignal (signal : DecodedSignal) : Bool :=
  let within (minimum maximum : Int32) :=
    decide (minimum ≤ signal.value) && decide (signal.value ≤ maximum)
  match signal.signal with
  | some .batteryMillivolts => within 0 20000
  | some .engineRpm => within 0 10000
  | some .coolantTemperatureC | some .engineOilTemperatureC
  | some .transmissionOilTemperatureC => within (-40) 215
  | some .dpfRegenerationActive => within 0 1
  | some .hoodClosed | some .doorsClosed | some .trunkClosed | some .brakePressed
  | some .parkingBrakeApplied | some .criticalFaultPresent => within 0 1
  | some .transmission => within 0 2
  | some .gear => within 0 4
  | none => false

/-- The loop of `validateBatch`, after the signals `previous`. -/
def validateSignals (previous : List DecodedSignal) : List DecodedSignal → Bool
  | [] => true
  | signal :: rest =>
    validateSignal signal && !previous.any (fun earlier => earlier.signal == signal.signal) &&
      validateSignals (previous ++ [signal]) rest

def validateBatch (batch : DecodedSignalBatch) : Bool :=
  decide (batch.count ≤ DecodedSignalBatch.maximumSignals) && validateSignals [] batch.taken

structure VehicleStateAssembler where
  decoder : CanFrameDecoder
  freshness : SignalFreshnessConfig := {}
  statistics : AssemblyStatistics := {}
  stored : StoredSignals := {}

namespace VehicleStateAssembler

def rejected (assembler : VehicleStateAssembler) : Bool × VehicleStateAssembler :=
  let statistics := assembler.statistics
  (false, { assembler with
    statistics := { statistics with rejectedFrames := statistics.rejectedFrames + 1 } })

def consume (assembler : VehicleStateAssembler) (frame : CanFrame) :
    Bool × VehicleStateAssembler :=
  let statistics :=
    { assembler.statistics with consumedFrames := assembler.statistics.consumedFrames + 1 }
  let assembler := { assembler with statistics := statistics }
  if !frame.isValid then assembler.rejected
  else
    let (result, batch) := assembler.decoder.decode frame {}
    if result = .ignored then
      (true, { assembler with
        statistics := { statistics with ignoredFrames := statistics.ignoredFrames + 1 } })
    else if result = .invalid ∨ batch.count = 0 ∨ validateBatch batch = false then
      assembler.rejected
    else
      (true, { assembler with
        stored := assembler.stored.applyBatch batch frame.timestampMilliseconds
        statistics := { statistics with
          decodedFrames := statistics.decodedFrames + 1
          decodedSignals := statistics.decodedSignals + UInt32.ofNat batch.count } })

def snapshot (assembler : VehicleStateAssembler) (nowMs : UInt32) : VehicleState :=
  assembler.stored.snapshot assembler.freshness nowMs

def reset (assembler : VehicleStateAssembler) : VehicleStateAssembler :=
  { assembler with statistics := {}, stored := {} }

end VehicleStateAssembler

end BmwRemote.Infrastructure
