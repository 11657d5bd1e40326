/-! Vehicle snapshots and vehicle profiles: what the sensors say, how far each
reading can be trusted, and which readings a profile has qualified. -/
namespace BmwRemote.Domain

inductive SignalQuality where
  | unavailable
  | stale
  | fresh
  deriving DecidableEq, Repr

/-- A sensor value together with its quality; the value of a signal that is not
fresh carries no meaning. -/
structure Observed (T : Type) where
  value : T
  quality : SignalQuality
  deriving DecidableEq, Repr

namespace Observed

variable {T : Type}

def isFresh (signal : Observed T) : Bool := signal.quality == .fresh

def ofFresh (value : T) : Observed T := ⟨value, .fresh⟩

def unavailable [Inhabited T] : Observed T := ⟨default, .unavailable⟩

theorem isFresh_iff (signal : Observed T) : signal.isFresh = true ↔ signal.quality = .fresh := by
  unfold isFresh
  simp

end Observed

inductive Transmission where
  | unknown
  | automatic
  | manual
  deriving DecidableEq, Repr, Inhabited

inductive Gear where
  | unknown
  | park
  | neutral
  | reverse
  | drive
  deriving DecidableEq, Repr, Inhabited

structure VehicleState where
  batteryMillivolts : Observed UInt16 := .unavailable
  engineRpm : Observed UInt16 := .unavailable
  coolantTemperatureC : Observed Int16 := .unavailable
  engineOilTemperatureC : Observed Int16 := .unavailable
  transmissionOilTemperatureC : Observed Int16 := .unavailable
  dpfRegenerationActive : Observed Bool := .unavailable
  hoodClosed : Observed Bool := .unavailable
  doorsClosed : Observed Bool := .unavailable
  trunkClosed : Observed Bool := .unavailable
  brakePressed : Observed Bool := .unavailable
  parkingBrakeApplied : Observed Bool := .unavailable
  transmission : Observed Transmission := .unavailable
  gear : Observed Gear := .unavailable
  criticalFaultPresent : Observed Bool := .unavailable
  deriving DecidableEq

inductive VehicleSignal where
  | batteryMillivolts
  | engineRpm
  | coolantTemperatureC
  | engineOilTemperatureC
  | transmissionOilTemperatureC
  | dpfRegenerationActive
  | hoodClosed
  | doorsClosed
  | trunkClosed
  | brakePressed
  | parkingBrakeApplied
  | transmission
  | gear
  | criticalFaultPresent
  deriving DecidableEq, Repr

def vehicleSignalCount : Nat := 14

def VehicleState.quality (vehicle : VehicleState) : VehicleSignal → SignalQuality
  | .batteryMillivolts => vehicle.batteryMillivolts.quality
  | .engineRpm => vehicle.engineRpm.quality
  | .coolantTemperatureC => vehicle.coolantTemperatureC.quality
  | .engineOilTemperatureC => vehicle.engineOilTemperatureC.quality
  | .transmissionOilTemperatureC => vehicle.transmissionOilTemperatureC.quality
  | .dpfRegenerationActive => vehicle.dpfRegenerationActive.quality
  | .hoodClosed => vehicle.hoodClosed.quality
  | .doorsClosed => vehicle.doorsClosed.quality
  | .trunkClosed => vehicle.trunkClosed.quality
  | .brakePressed => vehicle.brakePressed.quality
  | .parkingBrakeApplied => vehicle.parkingBrakeApplied.quality
  | .transmission => vehicle.transmission.quality
  | .gear => vehicle.gear.quality
  | .criticalFaultPresent => vehicle.criticalFaultPresent.quality

def signalIndex : VehicleSignal → Fin vehicleSignalCount
  | .batteryMillivolts => ⟨0, by decide⟩
  | .engineRpm => ⟨1, by decide⟩
  | .coolantTemperatureC => ⟨2, by decide⟩
  | .engineOilTemperatureC => ⟨3, by decide⟩
  | .transmissionOilTemperatureC => ⟨4, by decide⟩
  | .dpfRegenerationActive => ⟨5, by decide⟩
  | .hoodClosed => ⟨6, by decide⟩
  | .doorsClosed => ⟨7, by decide⟩
  | .trunkClosed => ⟨8, by decide⟩
  | .brakePressed => ⟨9, by decide⟩
  | .parkingBrakeApplied => ⟨10, by decide⟩
  | .transmission => ⟨11, by decide⟩
  | .gear => ⟨12, by decide⟩
  | .criticalFaultPresent => ⟨13, by decide⟩

inductive QualificationStage where
  | discovery
  | readOnlyValidated
  | benchValidated
  | vehicleQualified
  deriving DecidableEq, Repr

def QualificationStage.rank : QualificationStage → Nat
  | .discovery => 0
  | .readOnlyValidated => 1
  | .benchValidated => 2
  | .vehicleQualified => 3

inductive SignalSupport where
  | unavailable
  | candidate
  | verified
  deriving DecidableEq, Repr

inductive HoodInterlockSource where
  | unspecified
  | notAvailable
  | vehicleSignal
  | externalDiscreteInput
  | synthetic
  deriving DecidableEq, Repr

/-- The fields of a profile that the readiness assessment reads. -/
structure VehicleProfile where
  transmission : Transmission := .unknown
  qualification : QualificationStage := .discovery
  hoodInterlockSource : HoodInterlockSource := .unspecified
  signals : Vector SignalSupport vehicleSignalCount := Vector.replicate _ .unavailable

def VehicleProfile.support (profile : VehicleProfile) (signal : VehicleSignal) : SignalSupport :=
  profile.signals.get (signalIndex signal)

end BmwRemote.Domain
