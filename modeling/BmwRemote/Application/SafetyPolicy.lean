import BmwRemote.Domain.Vehicle

/-! The interlocks of a remote start. Each assessment collects the reasons that
speak against it in a bit mask; it approves when none was collected. -/
namespace BmwRemote.Application

open BmwRemote.Domain

inductive SafetyReason where
  | signalUnavailable
  | batteryTooLow
  | hoodOpen
  | doorOpen
  | trunkOpen
  | brakePressed
  | parkingBrakeReleased
  | transmissionUnsafe
  | engineAlreadyRunning
  | engineNotRunning
  | criticalVehicleFault
  deriving DecidableEq, Repr

def SafetyReason.mask : SafetyReason → UInt16
  | .signalUnavailable => (1 : UInt16) <<< 0
  | .batteryTooLow => (1 : UInt16) <<< 1
  | .hoodOpen => (1 : UInt16) <<< 2
  | .doorOpen => (1 : UInt16) <<< 3
  | .trunkOpen => (1 : UInt16) <<< 4
  | .brakePressed => (1 : UInt16) <<< 5
  | .parkingBrakeReleased => (1 : UInt16) <<< 6
  | .transmissionUnsafe => (1 : UInt16) <<< 7
  | .engineAlreadyRunning => (1 : UInt16) <<< 8
  | .engineNotRunning => (1 : UInt16) <<< 9
  | .criticalVehicleFault => (1 : UInt16) <<< 10

structure SafetyAssessment where
  reasons : UInt16 := 0
  deriving DecidableEq, Repr, Inhabited

namespace SafetyAssessment

def approved (assessment : SafetyAssessment) : Bool := assessment.reasons == 0

def contains (assessment : SafetyAssessment) (reason : SafetyReason) : Bool :=
  (assessment.reasons &&& reason.mask) != 0

def add (assessment : SafetyAssessment) (reason : SafetyReason) : SafetyAssessment :=
  ⟨assessment.reasons ||| reason.mask⟩

/-- Add a reason under a condition, as each guarded `add` of the policy does. -/
def addIf (assessment : SafetyAssessment) (condition : Bool) (reason : SafetyReason) :
    SafetyAssessment :=
  if condition then assessment.add reason else assessment

end SafetyAssessment

def requireFresh {T : Type} (assessment : SafetyAssessment) (signal : Observed T) :
    SafetyAssessment :=
  assessment.addIf (!signal.isFresh) .signalUnavailable

structure SafetyPolicyConfig where
  minimumBatteryMillivolts : UInt16 := 11800
  runningRpmThreshold : UInt16 := 500
  requireVehicleSecured : Bool := true
  requireHoodClosed : Bool := true
  allowManualTransmission : Bool := false
  deriving DecidableEq, Repr

structure SafetyPolicy where
  config : SafetyPolicyConfig := {}
  deriving DecidableEq, Repr

namespace SafetyPolicy

def transmissionIsSafe (policy : SafetyPolicy) (vehicle : VehicleState) : Bool :=
  match vehicle.transmission.value with
  | .automatic => vehicle.gear.value == .park
  | .manual => policy.config.allowManualTransmission && vehicle.gear.value == .neutral
  | .unknown => false

def assessCommon (policy : SafetyPolicy) (vehicle : VehicleState)
    (requireDoorsClosed requireTrunkClosed prohibitBrake : Bool) : SafetyAssessment :=
  let config := policy.config
  let assessment : SafetyAssessment := {}
  let assessment := requireFresh assessment vehicle.batteryMillivolts
  let assessment := requireFresh assessment vehicle.parkingBrakeApplied
  let assessment := requireFresh assessment vehicle.transmission
  let assessment := requireFresh assessment vehicle.gear
  let assessment := requireFresh assessment vehicle.criticalFaultPresent
  let assessment := if prohibitBrake then requireFresh assessment vehicle.brakePressed
    else assessment
  let assessment := if config.requireHoodClosed then requireFresh assessment vehicle.hoodClosed
    else assessment
  let assessment := if requireDoorsClosed then requireFresh assessment vehicle.doorsClosed
    else assessment
  let assessment := if requireTrunkClosed then requireFresh assessment vehicle.trunkClosed
    else assessment
  let assessment := assessment.addIf
    (vehicle.batteryMillivolts.isFresh &&
      decide (vehicle.batteryMillivolts.value < config.minimumBatteryMillivolts)) .batteryTooLow
  let assessment := assessment.addIf
    (config.requireHoodClosed && vehicle.hoodClosed.isFresh && !vehicle.hoodClosed.value) .hoodOpen
  let assessment := assessment.addIf
    (requireDoorsClosed && vehicle.doorsClosed.isFresh && !vehicle.doorsClosed.value) .doorOpen
  let assessment := assessment.addIf
    (requireTrunkClosed && vehicle.trunkClosed.isFresh && !vehicle.trunkClosed.value) .trunkOpen
  let assessment := assessment.addIf
    (prohibitBrake && vehicle.brakePressed.isFresh && vehicle.brakePressed.value) .brakePressed
  let assessment := assessment.addIf
    (vehicle.parkingBrakeApplied.isFresh && !vehicle.parkingBrakeApplied.value)
    .parkingBrakeReleased
  let assessment := assessment.addIf
    (vehicle.criticalFaultPresent.isFresh && vehicle.criticalFaultPresent.value)
    .criticalVehicleFault
  assessment.addIf
    (vehicle.transmission.isFresh && vehicle.gear.isFresh && !policy.transmissionIsSafe vehicle)
    .transmissionUnsafe

def assessStart (policy : SafetyPolicy) (vehicle : VehicleState) : SafetyAssessment :=
  let secured := policy.config.requireVehicleSecured
  let assessment := policy.assessCommon vehicle secured secured true
  let assessment := requireFresh assessment vehicle.engineRpm
  assessment.addIf
    (vehicle.engineRpm.isFresh &&
      decide (vehicle.engineRpm.value ≥ policy.config.runningRpmThreshold)) .engineAlreadyRunning

def assessCranking (policy : SafetyPolicy) (vehicle : VehicleState) : SafetyAssessment :=
  let secured := policy.config.requireVehicleSecured
  requireFresh (policy.assessCommon vehicle secured secured true) vehicle.engineRpm

def assessRemoteRun (policy : SafetyPolicy) (vehicle : VehicleState) : SafetyAssessment :=
  let secured := policy.config.requireVehicleSecured
  let assessment := policy.assessCommon vehicle secured secured true
  let assessment := requireFresh assessment vehicle.engineRpm
  assessment.addIf
    (vehicle.engineRpm.isFresh &&
      decide (vehicle.engineRpm.value < policy.config.runningRpmThreshold)) .engineNotRunning

def assessDriverTakeover (policy : SafetyPolicy) (vehicle : VehicleState) : SafetyAssessment :=
  let assessment :=
    policy.assessCommon vehicle false policy.config.requireVehicleSecured false
  let assessment := requireFresh assessment vehicle.engineRpm
  assessment.addIf
    (vehicle.engineRpm.isFresh &&
      decide (vehicle.engineRpm.value < policy.config.runningRpmThreshold)) .engineNotRunning

def runningRpmThreshold (policy : SafetyPolicy) : UInt16 := policy.config.runningRpmThreshold

end SafetyPolicy

end BmwRemote.Application
