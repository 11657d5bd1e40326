import BmwRemote.Application.LockCommandGate
import BmwRemote.Infrastructure.CanFrame

/-! Lock presses on the CAN bus: the adapter recognises the configured frame and
turns the rising edges of its command into evidence, the pipeline hands the
evidence to the gate. -/
namespace BmwRemote.Infrastructure

open BmwRemote.Application BmwRemote.Lib

structure CanBitMatcher where
  byteIndex : UInt8 := 0
  mask : UInt8 := 0
  expectedValue : UInt8 := 0
  deriving DecidableEq, Repr

namespace CanBitMatcher

def valid (matcher : CanBitMatcher) (dataLength : UInt8) : Bool :=
  decide (matcher.byteIndex < dataLength) && matcher.mask != 0 &&
    (matcher.expectedValue &&& ~~~matcher.mask) == 0

def matchesFrame (matcher : CanBitMatcher) (frame : CanFrame) : Bool :=
  match frame.byteAt matcher.byteIndex with
  | some value => matcher.mask != 0 && (value &&& matcher.mask) == matcher.expectedValue
  | none => false

end CanBitMatcher

structure CanCounterField where
  byteIndex : UInt8 := 0
  mask : UInt8 := 0
  deriving DecidableEq, Repr

namespace CanCounterField

def bitPositions : List UInt8 := [0, 1, 2, 3, 4, 5, 6, 7]

def bitCount (field : CanCounterField) : UInt8 :=
  bitPositions.foldl (fun count bit => count + ((field.mask >>> bit) &&& 1)) 0

def valid (field : CanCounterField) (dataLength : UInt8) : Bool :=
  decide (field.byteIndex < dataLength) && decide (field.bitCount ≥ 2)

/-- One round of the packing loop, on the packed value and the next output bit. -/
def packBit (mask value : UInt8) (packing : UInt8 × UInt8) (inputBit : UInt8) : UInt8 × UInt8 :=
  let inputMask := (1 : UInt8) <<< inputBit
  if mask &&& inputMask = 0 then packing
  else if value &&& inputMask ≠ 0 then (packing.1 ||| ((1 : UInt8) <<< packing.2), packing.2 + 1)
  else (packing.1, packing.2 + 1)

def extract (field : CanCounterField) (frame : CanFrame) : UInt8 :=
  match frame.byteAt field.byteIndex with
  | some value => (bitPositions.foldl (packBit field.mask value) (0, 0)).1
  | none => 0

def modulus (field : CanCounterField) : UInt16 := (1 : UInt16) <<< field.bitCount.toUInt16

def distance (field : CanCounterField) (current previous : UInt8) : UInt16 :=
  (current.toUInt16 + field.modulus - previous.toUInt16) % field.modulus

end CanCounterField

structure CanLockCommandAdapterConfig where
  enabled : Bool := false
  trust : LockCommandTrust := .unverified
  identifier : UInt32 := 0
  extended : Bool := false
  dataLength : UInt8 := 0
  lockCommand : CanBitMatcher := {}
  vehicleSecured : CanBitMatcher := {}
  rollingCounter : CanCounterField := {}
  deriving DecidableEq, Repr

def CanLockCommandAdapterConfig.isValid (config : CanLockCommandAdapterConfig) : Bool :=
  let maximumIdentifier := if config.extended then CanFrame.maximumExtendedIdentifier
    else CanFrame.maximumStandardIdentifier
  let commandCounterIndependent :=
    config.lockCommand.byteIndex != config.rollingCounter.byteIndex ||
      (config.lockCommand.mask &&& config.rollingCounter.mask) == 0
  let securedCounterIndependent :=
    config.vehicleSecured.byteIndex != config.rollingCounter.byteIndex ||
      (config.vehicleSecured.mask &&& config.rollingCounter.mask) == 0
  let commandSecuredIndependent :=
    config.lockCommand.byteIndex != config.vehicleSecured.byteIndex ||
      (config.lockCommand.mask &&& config.vehicleSecured.mask) == 0
  decide (config.identifier ≤ maximumIdentifier) && config.dataLength != 0 &&
    decide (config.dataLength ≤ CanFrame.maximumDataLength) &&
    config.lockCommand.valid config.dataLength && config.vehicleSecured.valid config.dataLength &&
    config.rollingCounter.valid config.dataLength && commandCounterIndependent &&
    securedCounterIndependent && commandSecuredIndependent

inductive CanLockDecodeStatus where
  | disabled
  | ignored
  | primed
  | noCommand
  | evidenceProduced
  | rejectedInvalidConfiguration
  | rejectedInvalidFrame
  | rejectedDuplicateCounter
  | rejectedOutOfOrderCounter
  | rejectedTimestampRegression
  deriving DecidableEq, Repr

structure CanLockDecodeResult where
  status : CanLockDecodeStatus := .disabled
  evidence : LockCommandEvidence := {}
  deriving DecidableEq, Repr

def CanLockDecodeResult.hasEvidence (result : CanLockDecodeResult) : Bool :=
  result.status == .evidenceProduced

def CanLockDecodeStatus.requiresGestureReset : CanLockDecodeStatus → Bool
  | .rejectedInvalidConfiguration | .rejectedInvalidFrame | .rejectedDuplicateCounter
  | .rejectedOutOfOrderCounter | .rejectedTimestampRegression => true
  | .disabled | .ignored | .primed | .noCommand | .evidenceProduced => false

structure CanLockCommandAdapter where
  config : CanLockCommandAdapterConfig
  lastTimestampMs : UInt32 := 0
  expandedSequence : UInt32 := 0
  lastRawCounter : UInt8 := 0
  lastCommandActive : Bool := false
  initialized : Bool := false
  deriving DecidableEq, Repr

namespace CanLockCommandAdapter

def reset (adapter : CanLockCommandAdapter) : CanLockCommandAdapter := { config := adapter.config }

def reject (adapter : CanLockCommandAdapter) (status : CanLockDecodeStatus) :
    CanLockDecodeResult × CanLockCommandAdapter :=
  (⟨status, {}⟩, adapter.reset)

def tracked (adapter : CanLockCommandAdapter) (frame : CanFrame) (distance : UInt16) :
    CanLockCommandAdapter :=
  { adapter with
    lastTimestampMs := frame.timestampMilliseconds
    lastRawCounter := adapter.config.rollingCounter.extract frame
    lastCommandActive := adapter.config.lockCommand.matchesFrame frame
    expandedSequence := adapter.expandedSequence + distance.toUInt32
    initialized := true }

/-- The end of `process`, for a frame whose identity and time were accepted. -/
def decode (adapter : CanLockCommandAdapter) (frame : CanFrame) :
    CanLockDecodeResult × CanLockCommandAdapter :=
  let config := adapter.config
  if !adapter.initialized then
    (⟨.primed, {}⟩, adapter.tracked frame 0)
  else
    let distance :=
      config.rollingCounter.distance (config.rollingCounter.extract frame) adapter.lastRawCounter
    if distance = 0 then
      adapter.reject .rejectedDuplicateCounter
    else if distance ≥ config.rollingCounter.modulus / 2 then
      adapter.reject .rejectedOutOfOrderCounter
    else
      let risingEdge := config.lockCommand.matchesFrame frame && !adapter.lastCommandActive
      let adapter := adapter.tracked frame distance
      if !risingEdge then
        (⟨.noCommand, {}⟩, adapter)
      else
        (⟨.evidenceProduced,
          { source := .vehicleAdapter
            trust := config.trust
            sourceSequence := adapter.expandedSequence
            observedAtMs := frame.timestampMilliseconds
            vehicleSecured := config.vehicleSecured.matchesFrame frame }⟩, adapter)

def process (adapter : CanLockCommandAdapter) (frame : CanFrame) :
    CanLockDecodeResult × CanLockCommandAdapter :=
  let config := adapter.config
  if !config.enabled then
    (⟨.disabled, {}⟩, adapter)
  else if !config.isValid then
    adapter.reject .rejectedInvalidConfiguration
  else if !frame.isValid then
    adapter.reject .rejectedInvalidFrame
  else if frame.identifier ≠ config.identifier ∨ frame.extended ≠ config.extended then
    (⟨.ignored, {}⟩, adapter)
  else if frame.dataLength ≠ config.dataLength then
    adapter.reject .rejectedInvalidFrame
  else if adapter.initialized && frame.timestampMilliseconds != adapter.lastTimestampMs &&
      !strictlyNewer frame.timestampMilliseconds adapter.lastTimestampMs then
    adapter.reject .rejectedTimestampRegression
  else
    adapter.decode frame

end CanLockCommandAdapter

structure CanLockPipelineResult where
  decodeStatus : CanLockDecodeStatus := .disabled
  command : LockCommandDecision := {}
  commandEvaluated : Bool := false
  deriving DecidableEq, Repr

structure CanLockCommandPipeline where
  adapter : CanLockCommandAdapter
  gate : LockCommandGate
  deriving DecidableEq, Repr

namespace CanLockCommandPipeline

def new (adapterConfig : CanLockCommandAdapterConfig := {})
    (gateConfig : LockCommandGateConfig := {}) : CanLockCommandPipeline where
  adapter := { config := adapterConfig }
  gate := .new gateConfig

def process (pipeline : CanLockCommandPipeline) (frame : CanFrame) (nowMs : UInt32) :
    CanLockPipelineResult × CanLockCommandPipeline :=
  let (decoded, adapter) := pipeline.adapter.process frame
  let gate := if decoded.status.requiresGestureReset then pipeline.gate.reset else pipeline.gate
  if !decoded.hasEvidence then
    ({ decodeStatus := decoded.status }, ⟨adapter, gate⟩)
  else
    let (command, gate) := gate.process decoded.evidence nowMs
    (⟨decoded.status, command, true⟩, ⟨adapter, gate⟩)

end CanLockCommandPipeline

end BmwRemote.Infrastructure
