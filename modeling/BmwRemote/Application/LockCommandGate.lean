import BmwRemote.Lib.SerialNumber

/-! Lock presses become a remote start request: the gate checks each evidence of a
press, the detector counts presses that follow each other at the right pace. -/
namespace BmwRemote.Application

open BmwRemote.Lib

structure LockSequenceConfig where
  requiredPresses : UInt8 := 3
  minimumGapMs : UInt32 := 80
  maximumGapMs : UInt32 := 1500
  maximumSequenceMs : UInt32 := 3000
  deriving DecidableEq, Repr

/-- The pace checks of `configIsValid`, which the detector and the gate share. -/
def LockSequenceConfig.isValid (config : LockSequenceConfig) : Bool :=
  let requiredIntervals : UInt32 :=
    if config.requiredPresses = 0 then 0 else (config.requiredPresses - 1).toUInt32
  let minimumSequenceTime := requiredIntervals.toUInt64 * config.minimumGapMs.toUInt64
  config.requiredPresses != 0 &&
    decide (config.minimumGapMs ≤ config.maximumGapMs) &&
    decide (config.maximumGapMs ≤ config.maximumSequenceMs) &&
    decide (minimumSequenceTime ≤ config.maximumSequenceMs.toUInt64)

inductive LockPressResult where
  | accepted
  | sequenceCompleted
  | sequenceRestarted
  | ignoredDebounce
  | invalidConfiguration
  deriving DecidableEq, Repr

structure LockSequenceDetector where
  config : LockSequenceConfig := {}
  firstPressTimestampMs : UInt32 := 0
  lastPressTimestampMs : UInt32 := 0
  pressCount : UInt8 := 0
  deriving DecidableEq, Repr

namespace LockSequenceDetector

def reset (detector : LockSequenceDetector) : LockSequenceDetector :=
  { detector with firstPressTimestampMs := 0, lastPressTimestampMs := 0, pressCount := 0 }

def started (detector : LockSequenceDetector) (timestampMs : UInt32) : LockSequenceDetector :=
  { detector with
    firstPressTimestampMs := timestampMs
    lastPressTimestampMs := timestampMs
    pressCount := 1 }

def pressed (detector : LockSequenceDetector) (timestampMs : UInt32) : LockSequenceDetector :=
  { detector with
    lastPressTimestampMs := timestampMs
    pressCount := detector.pressCount + 1 }

/-- The end of `observe`: the count is compared with the required presses. -/
def concluded (detector : LockSequenceDetector) (result : LockPressResult) :
    LockPressResult × LockSequenceDetector :=
  if detector.pressCount < detector.config.requiredPresses then (result, detector)
  else (.sequenceCompleted, detector.reset)

def observe (detector : LockSequenceDetector) (timestampMs : UInt32) :
    LockPressResult × LockSequenceDetector :=
  let config := detector.config
  if !config.isValid then
    (.invalidConfiguration, detector.reset)
  else if detector.pressCount = 0 then
    (detector.started timestampMs).concluded .accepted
  else
    let sinceLastPress := timestampMs - detector.lastPressTimestampMs
    let sinceFirstPress := timestampMs - detector.firstPressTimestampMs
    if sinceLastPress < config.minimumGapMs then
      (.ignoredDebounce, detector)
    else if sinceLastPress > config.maximumGapMs ∨ sinceFirstPress > config.maximumSequenceMs then
      (detector.started timestampMs).concluded .sequenceRestarted
    else
      (detector.pressed timestampMs).concluded .accepted

end LockSequenceDetector

inductive LockCommandSource where
  | unspecified
  | vehicleAdapter
  | syntheticTest
  deriving DecidableEq, Repr

inductive LockCommandTrust where
  | unverified
  | candidate
  | verified
  deriving DecidableEq, Repr

structure LockCommandEvidence where
  source : LockCommandSource := .unspecified
  trust : LockCommandTrust := .unverified
  sourceSequence : UInt32 := 0
  observedAtMs : UInt32 := 0
  vehicleSecured : Bool := false
  deriving DecidableEq, Repr

inductive LockCommandStatus where
  | pressAccepted
  | sequenceRestarted
  | remoteStartRequested
  | rejectedInvalidConfiguration
  | rejectedUntrustedSource
  | rejectedSyntheticSource
  | rejectedVehicleNotSecured
  | rejectedStaleEvidence
  | rejectedFutureEvidence
  | rejectedDuplicateSequence
  | rejectedOutOfOrderSequence
  | rejectedNonMonotonicEvidence
  | rejectedClockRegression
  | rejectedTiming
  deriving DecidableEq, Repr

structure LockCommandDecision where
  status : LockCommandStatus := .rejectedUntrustedSource
  deriving DecidableEq, Repr

def LockCommandDecision.accepted (decision : LockCommandDecision) : Bool :=
  decision.status == .pressAccepted || decision.status == .sequenceRestarted ||
    decision.status == .remoteStartRequested

structure LockCommandGateConfig where
  sequence : LockSequenceConfig := {}
  maximumEvidenceAgeMs : UInt32 := 500
  allowSyntheticSource : Bool := false
  deriving DecidableEq, Repr

def LockCommandGateConfig.maximumEvidenceAgeLimitMs : UInt32 := 5000

def LockCommandGateConfig.isValid (config : LockCommandGateConfig) : Bool :=
  config.sequence.isValid && config.maximumEvidenceAgeMs != 0 &&
    decide (config.maximumEvidenceAgeMs ≤ LockCommandGateConfig.maximumEvidenceAgeLimitMs)

structure LockCommandGate where
  config : LockCommandGateConfig
  detector : LockSequenceDetector
  lastNowMs : UInt32 := 0
  lastSourceSequence : UInt32 := 0
  lastEvidenceTimestampMs : UInt32 := 0
  clockInitialized : Bool := false
  evidenceInitialized : Bool := false
  deriving DecidableEq, Repr

def isFuture (timestamp nowMs : UInt32) : Bool :=
  timestamp != nowMs && strictlyNewer timestamp nowMs

namespace LockCommandGate

def new (config : LockCommandGateConfig := {}) : LockCommandGate where
  config := config
  detector := { config := config.sequence }

def reset (gate : LockCommandGate) : LockCommandGate where
  config := gate.config
  detector := gate.detector.reset

def reject (gate : LockCommandGate) (status : LockCommandStatus) :
    LockCommandDecision × LockCommandGate :=
  (⟨status⟩, { gate with detector := gate.detector.reset })

def orderFault (gate : LockCommandGate) (evidence : LockCommandEvidence) :
    Option LockCommandStatus :=
  if gate.evidenceInitialized then
    if evidence.sourceSequence = gate.lastSourceSequence then
      some .rejectedDuplicateSequence
    else if !strictlyNewer evidence.sourceSequence gate.lastSourceSequence then
      some .rejectedOutOfOrderSequence
    else if evidence.observedAtMs = gate.lastEvidenceTimestampMs ∨
        strictlyNewer evidence.observedAtMs gate.lastEvidenceTimestampMs = false then
      some .rejectedNonMonotonicEvidence
    else none
  else none

def statusOf : LockPressResult → LockCommandStatus
  | .accepted => .pressAccepted
  | .sequenceCompleted => .remoteStartRequested
  | .sequenceRestarted => .sequenceRestarted
  | .ignoredDebounce => .rejectedTiming
  | .invalidConfiguration => .rejectedInvalidConfiguration

def observe (gate : LockCommandGate) (evidence : LockCommandEvidence) :
    LockCommandDecision × LockCommandGate :=
  let (result, detector) := gate.detector.observe evidence.observedAtMs
  let gate := { gate with
    detector := detector
    lastSourceSequence := evidence.sourceSequence
    lastEvidenceTimestampMs := evidence.observedAtMs
    evidenceInitialized := true }
  if result = .invalidConfiguration then gate.reject .rejectedInvalidConfiguration
  else (⟨statusOf result⟩, gate)

def process (gate : LockCommandGate) (evidence : LockCommandEvidence) (nowMs : UInt32) :
    LockCommandDecision × LockCommandGate :=
  if !gate.config.isValid then
    gate.reject .rejectedInvalidConfiguration
  else if gate.clockInitialized && nowMs != gate.lastNowMs &&
      !strictlyNewer nowMs gate.lastNowMs then
    gate.reject .rejectedClockRegression
  else
    let gate := { gate with lastNowMs := nowMs, clockInitialized := true }
    if evidence.trust ≠ .verified ∨ evidence.source = .unspecified then
      gate.reject .rejectedUntrustedSource
    else if evidence.source = .syntheticTest ∧ gate.config.allowSyntheticSource = false then
      gate.reject .rejectedSyntheticSource
    else if !evidence.vehicleSecured then
      gate.reject .rejectedVehicleNotSecured
    else if isFuture evidence.observedAtMs nowMs then
      gate.reject .rejectedFutureEvidence
    else if nowMs - evidence.observedAtMs > gate.config.maximumEvidenceAgeMs then
      gate.reject .rejectedStaleEvidence
    else
      match gate.orderFault evidence with
      | some status => gate.reject status
      | none => gate.observe evidence

end LockCommandGate

end BmwRemote.Application
