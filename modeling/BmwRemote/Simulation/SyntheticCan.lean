import BmwRemote.Infrastructure.VehicleStateAssembler

/-! The vehicle of the offline simulation, and the frames that carry its state. -/
namespace BmwRemote.Simulation

open BmwRemote.Domain BmwRemote.Infrastructure

def syntheticVehicleProfile : VehicleProfile where
  transmission := .automatic
  qualification := .benchValidated
  hoodInterlockSource := .synthetic
  signals := Vector.replicate _ .verified

namespace SyntheticCanProtocol

def powertrainFrameIdentifier : UInt32 := 0x1FFFFF00
def bodyFrameIdentifier : UInt32 := 0x1FFFFF01
def telemetryFrameIdentifier : UInt32 := 0x1FFFFF02
def signature : UInt8 := 0xA5

end SyntheticCanProtocol

open SyntheticCanProtocol

/-- A `Transmission` and a `Gear` can be cast from any byte, so they are that byte. -/
structure SyntheticPowertrainState where
  batteryMillivolts : UInt16 := 12500
  engineRpm : UInt16 := 0
  transmission : UInt8 := 1
  gear : UInt8 := 1
  criticalFaultPresent : Bool := false
  deriving DecidableEq

structure SyntheticBodyState where
  hoodClosed : Bool := true
  doorsClosed : Bool := true
  trunkClosed : Bool := true
  brakePressed : Bool := false
  parkingBrakeApplied : Bool := true
  deriving DecidableEq

structure SyntheticTelemetryState where
  coolantTemperatureC : Int16 := 20
  engineOilTemperatureC : Int16 := 20
  transmissionOilTemperatureC : Int16 := 20
  dpfRegenerationActive : Bool := false
  deriving DecidableEq

/-! Fields. -/

def decodeLittleEndian16 (low high : UInt8) : UInt16 := low.toUInt16 ||| high.toUInt16 <<< 8

def encodeLittleEndian16 (value : UInt16) : UInt8 × UInt8 :=
  ((value &&& 0xFF).toUInt8, ((value >>> 8) &&& 0xFF).toUInt8)

def validSyntheticTemperature (temperatureC : Int16) : Bool :=
  decide (-40 ≤ temperatureC) && decide (temperatureC ≤ 215)

def encodeSyntheticTemperature (temperatureC : Int16) : UInt8 :=
  (temperatureC.toInt32 + 40).toUInt32.toUInt8

def decodeSyntheticTemperature (encoded : UInt8) : Int32 := encoded.toUInt32.toInt32 - 40

/-! Decoding. -/

/-- Signals that are added one after the other, up to the first that finds no room. -/
def addInTurn (output : DecodedSignalBatch) :
    List (VehicleSignal × Int32) → Bool × DecodedSignalBatch
  | [] => (true, output)
  | (signal, value) :: rest =>
    match output.add signal value with
    | (true, output) => addInTurn output rest
    | (false, output) => (false, output)

def byteValue (byte : UInt8) : Int32 := byte.toUInt32.toInt32

def addPowertrainSignals (frame : CanFrame) (output : DecodedSignalBatch) :
    Bool × DecodedSignalBatch :=
  let engineRpm := decodeLittleEndian16 (frame.data.get 0) (frame.data.get 1)
  let batteryMillivolts := decodeLittleEndian16 (frame.data.get 2) (frame.data.get 3)
  addInTurn output
    [(.engineRpm, engineRpm.toUInt32.toInt32),
      (.batteryMillivolts, batteryMillivolts.toUInt32.toInt32),
      (.transmission, byteValue (frame.data.get 4)), (.gear, byteValue (frame.data.get 5)),
      (.criticalFaultPresent, byteValue (frame.data.get 6))]

def addBodySignals (frame : CanFrame) (output : DecodedSignalBatch) : Bool × DecodedSignalBatch :=
  let flags := frame.data.get 0
  addInTurn output
    [(.hoodClosed, byteValue ((flags >>> 0) &&& 0x01)),
      (.doorsClosed, byteValue ((flags >>> 1) &&& 0x01)),
      (.trunkClosed, byteValue ((flags >>> 2) &&& 0x01)),
      (.brakePressed, byteValue ((flags >>> 3) &&& 0x01)),
      (.parkingBrakeApplied, byteValue ((flags >>> 4) &&& 0x01))]

def addTelemetrySignals (frame : CanFrame) (output : DecodedSignalBatch) :
    Bool × DecodedSignalBatch :=
  addInTurn output
    [(.coolantTemperatureC, decodeSyntheticTemperature (frame.data.get 0)),
      (.engineOilTemperatureC, decodeSyntheticTemperature (frame.data.get 1)),
      (.transmissionOilTemperatureC, decodeSyntheticTemperature (frame.data.get 2)),
      (.dpfRegenerationActive, byteValue (frame.data.get 3 &&& 0x01))]

def decodedIf (added : Bool × DecodedSignalBatch) : DecodeResult × DecodedSignalBatch :=
  (if added.1 then .decoded else .invalid, added.2)

def reservedBytesUsed (frame : CanFrame) (places : List (Fin 8)) : Bool :=
  places.any fun index => frame.data.get index != 0

def syntheticCanDecoder : CanFrameDecoder where
  decode frame output :=
    if frame.identifier ≠ powertrainFrameIdentifier ∧ frame.identifier ≠ bodyFrameIdentifier ∧
        frame.identifier ≠ telemetryFrameIdentifier then
      (.ignored, output)
    else if frame.extended = false ∨ frame.dataLength ≠ CanFrame.maximumDataLength ∨
        frame.data.get 7 ≠ signature then
      (.invalid, output)
    else if frame.identifier = powertrainFrameIdentifier then
      decodedIf (addPowertrainSignals frame output)
    else if frame.identifier = telemetryFrameIdentifier then
      if frame.data.get 3 &&& 0xFE ≠ 0 then (.invalid, output)
      else if reservedBytesUsed frame [4, 5, 6] then (.invalid, output)
      else decodedIf (addTelemetrySignals frame output)
    else if reservedBytesUsed frame [1, 2, 3, 4, 5, 6] then (.invalid, output)
    else if frame.data.get 0 &&& 0xE0 ≠ 0 then (.invalid, output)
    else decodedIf (addBodySignals frame output)

/-! Encoding. -/

def syntheticFrame (timestampMs identifier : UInt32) (data : Vector UInt8 8) : CanFrame where
  timestampUs := timestampMs.toUInt64 * 1000
  identifier := identifier
  extended := true
  dataLength := CanFrame.maximumDataLength
  data := data

def makeSyntheticPowertrainFrame (timestampMs : UInt32) (state : SyntheticPowertrainState) :
    CanFrame :=
  let engineRpm := encodeLittleEndian16 state.engineRpm
  let batteryMillivolts := encodeLittleEndian16 state.batteryMillivolts
  syntheticFrame timestampMs powertrainFrameIdentifier
    #v[engineRpm.1, engineRpm.2, batteryMillivolts.1, batteryMillivolts.2, state.transmission,
      state.gear, if state.criticalFaultPresent then 1 else 0, signature]

def flagBit (flag : Bool) (place : UInt8) : UInt8 := if flag then 1 <<< place else 0

def makeSyntheticBodyFrame (timestampMs : UInt32) (state : SyntheticBodyState) : CanFrame :=
  let flags := flagBit state.hoodClosed 0 ||| flagBit state.doorsClosed 1 |||
    flagBit state.trunkClosed 2 ||| flagBit state.brakePressed 3 |||
    flagBit state.parkingBrakeApplied 4
  syntheticFrame timestampMs bodyFrameIdentifier #v[flags, 0, 0, 0, 0, 0, 0, signature]

/-- A temperature that does not fit makes an empty frame. -/
def makeSyntheticTelemetryFrame (timestampMs : UInt32) (state : SyntheticTelemetryState) :
    CanFrame :=
  if !validSyntheticTemperature state.coolantTemperatureC ||
      !validSyntheticTemperature state.engineOilTemperatureC ||
      !validSyntheticTemperature state.transmissionOilTemperatureC then {}
  else
    syntheticFrame timestampMs telemetryFrameIdentifier
      #v[encodeSyntheticTemperature state.coolantTemperatureC,
        encodeSyntheticTemperature state.engineOilTemperatureC,
        encodeSyntheticTemperature state.transmissionOilTemperatureC,
        if state.dpfRegenerationActive then 1 else 0, 0, 0, 0, signature]

end BmwRemote.Simulation
