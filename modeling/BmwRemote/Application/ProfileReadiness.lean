import BmwRemote.Domain.Vehicle

/-! Whether a vehicle profile is qualified enough for a remote start. -/
namespace BmwRemote.Application

open BmwRemote.Domain

inductive ProfileReadinessReason where
  | missingRequiredSignal
  | unverifiedRequiredSignal
  | qualificationTooLow
  | transmissionUnknown
  | manualTransmissionNotAllowed
  | profileNotSelected
  | hoodInterlockUnavailable
  deriving DecidableEq, Repr

def ProfileReadinessReason.mask : ProfileReadinessReason → UInt8
  | .missingRequiredSignal => (1 : UInt8) <<< 0
  | .unverifiedRequiredSignal => (1 : UInt8) <<< 1
  | .qualificationTooLow => (1 : UInt8) <<< 2
  | .transmissionUnknown => (1 : UInt8) <<< 3
  | .manualTransmissionNotAllowed => (1 : UInt8) <<< 4
  | .profileNotSelected => (1 : UInt8) <<< 5
  | .hoodInterlockUnavailable => (1 : UInt8) <<< 6

structure ProfileReadinessAssessment where
  reasons : UInt8 := 0
  deriving DecidableEq, Repr, Inhabited

namespace ProfileReadinessAssessment

def ready (assessment : ProfileReadinessAssessment) : Bool := assessment.reasons == 0

def add (assessment : ProfileReadinessAssessment) (reason : ProfileReadinessReason) :
    ProfileReadinessAssessment :=
  ⟨assessment.reasons ||| reason.mask⟩

end ProfileReadinessAssessment

structure ProfileReadinessPolicy where
  requireVehicleSecured : Bool := true
  allowManualTransmission : Bool := false
  deriving DecidableEq, Repr

def coreRequiredSignals : List VehicleSignal :=
  [.batteryMillivolts, .engineRpm, .brakePressed, .parkingBrakeApplied, .transmission, .gear,
    .criticalFaultPresent]

def assessSignal (profile : VehicleProfile) (assessment : ProfileReadinessAssessment)
    (signal : VehicleSignal) : ProfileReadinessAssessment :=
  match profile.support signal with
  | .unavailable => assessment.add .missingRequiredSignal
  | .candidate => assessment.add .unverifiedRequiredSignal
  | .verified => assessment

def assessProfileReadiness (profile : VehicleProfile) (policy : ProfileReadinessPolicy)
    (requireHoodClosed : Bool) : ProfileReadinessAssessment :=
  let assessment := coreRequiredSignals.foldl (assessSignal profile) {}
  let assessment := if requireHoodClosed then assessSignal profile assessment .hoodClosed
    else assessment
  let assessment := if policy.requireVehicleSecured then
      assessSignal profile (assessSignal profile assessment .doorsClosed) .trunkClosed
    else assessment
  let assessment :=
    if profile.qualification.rank < QualificationStage.readOnlyValidated.rank then
      assessment.add .qualificationTooLow
    else assessment
  let assessment :=
    if requireHoodClosed && (profile.hoodInterlockSource == .unspecified ||
        profile.hoodInterlockSource == .notAvailable) then
      assessment.add .hoodInterlockUnavailable
    else assessment
  if profile.transmission = .unknown then
    assessment.add .transmissionUnknown
  else if profile.transmission = .manual ∧ policy.allowManualTransmission = false then
    assessment.add .manualTransmissionNotAllowed
  else assessment

/-- The overload on a profile pointer: no profile selected is a reason of its own. -/
def assessRemoteStartReadiness (profile : Option VehicleProfile)
    (policy : ProfileReadinessPolicy) (requireHoodClosed : Bool) : ProfileReadinessAssessment :=
  match profile with
  | some profile => assessProfileReadiness profile policy requireHoodClosed
  | none => ProfileReadinessAssessment.add {} .profileNotSelected

end BmwRemote.Application
