import BmwRemote.Domain.StartObservation

/-! The state of a start that the vehicle shows in two snapshots, and how sure it is. -/
namespace BmwRemote.Application

open BmwRemote.Domain BmwRemote.Lib

inductive VehicleStartObservedState where
  | unknown
  | vehicleRest
  | keyPresent
  | terminalReady
  | crankingObserved
  | engineRotatingObserved
  | engineRunningObserved
  | shutdownObserved
  | engineStoppedObserved
  deriving DecidableEq, Repr

inductive StartObservationQualification where
  | unknown
  | documentedNotVehicleValidated
  | confirmedPhase3dSequence
  deriving DecidableEq, Repr

structure StartObservationEvidence where
  signal : StartSignalId
  source : DiagnosticSource
  interval : AcquisitionInterval

structure DocumentedSignalObservation where
  signal : StartSignalId
  rawValue : Bool
  qualification : StartObservationQualification := .documentedNotVehicleValidated
  evidence : StartObservationEvidence

/-- The arrays, up to their counts. -/
structure VehicleStartObservation where
  primaryVehicleState : VehicleStartObservedState := .unknown
  primaryStateQualification : StartObservationQualification := .unknown
  observedSignals : List DocumentedSignalObservation := []
  supportingSignals : List StartObservationEvidence := []
  missingSignals : List StartSignalId := []

namespace VehicleStartObserver

section Collect

variable {T : Type}

def addEvidence (result : VehicleStartObservation) (id : StartSignalId)
    (signal : DiagnosticSignal T) : VehicleStartObservation :=
  if signal.known && decide (result.supportingSignals.length < 4) then
    { result with
      supportingSignals := result.supportingSignals ++ [⟨id, signal.source, signal.interval⟩] }
  else result

def addDocumentedSignal (result : VehicleStartObservation) (id : StartSignalId)
    (signal : DiagnosticSignal Bool) : VehicleStartObservation :=
  if signal.known && decide (result.observedSignals.length < 8) then
    { result with
      observedSignals := result.observedSignals ++
        [{ signal := id, rawValue := signal.value
           evidence := ⟨id, signal.source, signal.interval⟩ }] }
  else result

def addMissing (result : VehicleStartObservation) (id : StartSignalId)
    (signal : DiagnosticSignal T) : VehicleStartObservation :=
  if signal.known then result
  else { result with missingSignals := result.missingSignals ++ [id] }

end Collect

def collectDocumentedSignals (result : VehicleStartObservation) (snapshot : StartSignalSnapshot) :
    VehicleStartObservation :=
  let result := addDocumentedSignal result .sstA snapshot.sstA
  let result := addDocumentedSignal result .sstB snapshot.sstB
  let result := addDocumentedSignal result .keyRast snapshot.keyRast
  let result := addDocumentedSignal result .brake snapshot.brake
  let result := addDocumentedSignal result .parkNeutralOrClutch snapshot.parkNeutralOrClutch
  let result := addDocumentedSignal result .mfs snapshot.mfs
  let result := addDocumentedSignal result .startDme snapshot.startDme
  addDocumentedSignal result .startRelease snapshot.startRelease

def collectMissing (result : VehicleStartObservation) (snapshot : StartSignalSnapshot) :
    VehicleStartObservation :=
  let result := addMissing result .sstA snapshot.sstA
  let result := addMissing result .sstB snapshot.sstB
  let result := addMissing result .keyRast snapshot.keyRast
  let result := addMissing result .brake snapshot.brake
  let result := addMissing result .parkNeutralOrClutch snapshot.parkNeutralOrClutch
  let result := addMissing result .mfs snapshot.mfs
  let result := addMissing result .startDme snapshot.startDme
  let result := addMissing result .startRelease snapshot.startRelease
  let result := addMissing result .klemmenstatus snapshot.klemmenstatus
  let result := addMissing result .kl15EnableInhibitor snapshot.kl15EnableInhibitor
  let result := addMissing result .kl15DisableInhibitor snapshot.kl15DisableInhibitor
  let result := addMissing result .kl50EnableInhibitor snapshot.kl50EnableInhibitor
  addMissing result .engineRpm snapshot.engineRpm

def hasCommunicationError (snapshot : StartSignalSnapshot) : Bool :=
  snapshot.klemmenstatus.availability == .communicationError ||
    snapshot.engineRpm.availability == .communicationError

def isKnownPair (snapshot : StartSignalSnapshot) : Bool :=
  snapshot.klemmenstatus.known && snapshot.engineRpm.known

def knownPair (previous : Option StartSignalSnapshot) : Option (UInt8 × FloatValue) :=
  (previous.filter isKnownPair).map fun snapshot =>
    (snapshot.klemmenstatus.value, snapshot.engineRpm.value)

def positive (rpm : FloatValue) : Bool := FloatValue.below (.finite 0) rpm

/-- The state that the terminals and the speed give, after the pair before: none where the
key is asked next. -/
def terminalState (raw : UInt8) (rpm : FloatValue) (previous : Option (UInt8 × FloatValue)) :
    Option VehicleStartObservedState :=
  let rpmZero := rpm.equals (.finite 0)
  let after (byte : UInt8) : Bool := previous.any fun pair => pair.1 == byte
  let turningAfter (byte : UInt8) : Bool :=
    previous.any fun pair => pair.1 == byte && positive pair.2
  if raw = 0x40 then
    if !rpmZero && after 0x45 then some .shutdownObserved
    else if rpmZero && turningAfter 0x40 then some .engineStoppedObserved
    else if rpmZero then some .vehicleRest
    else some .unknown
  else if raw = 0x41 ∧ rpmZero = true then some .keyPresent
  else if raw = 0x45 then
    if rpmZero then some .terminalReady
    else if after 0x55 then some .engineRotatingObserved
    else if turningAfter 0x45 then some .engineRunningObserved
    else some .unknown
  else if raw = 0x55 ∧ positive rpm = true then some .crankingObserved
  else none

def observeKey (result : VehicleStartObservation) (current : StartSignalSnapshot) :
    VehicleStartObservation :=
  if current.keyRast.known && current.keyRast.value then
    addEvidence
      { result with
        primaryVehicleState := .keyPresent
        primaryStateQualification := .documentedNotVehicleValidated }
      .keyRast current.keyRast
  else result

def observe (current : StartSignalSnapshot) (previous : Option StartSignalSnapshot) :
    VehicleStartObservation :=
  let result := collectDocumentedSignals (collectMissing {} current) current
  if hasCommunicationError current then result
  else if isKnownPair current then
    let terminals := decodeKlemmenstatus current.klemmenstatus.value
    if !terminals.allFieldsDocumented || !terminals.rawValueObservedOnTestVehicle then result
    else
      let result := addEvidence result .klemmenstatus current.klemmenstatus
      let result := addEvidence result .engineRpm current.engineRpm
      let result := { result with primaryStateQualification := .confirmedPhase3dSequence }
      match terminalState terminals.raw current.engineRpm.value (knownPair previous) with
      | some state => { result with primaryVehicleState := state }
      | none => observeKey result current
  else observeKey result current

end VehicleStartObserver

end BmwRemote.Application
