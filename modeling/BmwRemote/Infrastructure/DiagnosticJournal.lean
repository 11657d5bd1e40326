import BmwRemote.Application.Controller

/-! The diagnostic journal: a ring of the last records about commands,
transitions, rejections and failures. -/
namespace BmwRemote.Infrastructure

open BmwRemote.Application

inductive DiagnosticRecordType where
  | commandReceived
  | stateTransition
  | requestRejected
  | faultEntered
  | infrastructureFailure
  | safingFailure
  deriving DecidableEq, Repr

inductive DiagnosticReason where
  | none
  | remoteStartDisabled
  | profileNotReady
  | safetyPolicy
  | invalidState
  | unsafeReset
  deriving DecidableEq, Repr

structure DiagnosticRecord where
  sequence : UInt32 := 0
  timestampMs : UInt32 := 0
  safetyReasons : UInt16 := 0
  type : DiagnosticRecordType := .commandReceived
  trigger : EventType := .vehicleStateUpdated
  previousState : ControllerState := .idle
  state : ControllerState := .idle
  fault : FaultCode := .none
  reason : DiagnosticReason := .none
  profileReasons : UInt8 := 0
  deriving DecidableEq, Repr

def isCommand : EventType → Bool
  | .remoteStartRequested | .remoteStopRequested | .driverTakeoverConfirmed | .resetRequested =>
      true
  | .vehicleStateUpdated | .timerElapsed | .infrastructureFailure => false

def rejectionReason (decision : Decision) : DiagnosticReason :=
  if decision.contains .notifyRemoteStartDisabled then .remoteStartDisabled
  else if decision.contains .notifyProfileRejected then .profileNotReady
  else if decision.contains .notifyStartRejected then .safetyPolicy
  else if decision.contains .notifyResetRejected then .unsafeReset
  else if decision.contains .notifyRequestIgnored then .invalidState
  else .none

def makeRecord (type : DiagnosticRecordType) (trigger : EventType) (decision : Decision)
    (reason : DiagnosticReason) (timestampMs : UInt32) : DiagnosticRecord where
  timestampMs := timestampMs
  safetyReasons := decision.safety.reasons
  type := type
  trigger := trigger
  previousState := decision.previousState
  state := decision.state
  fault := decision.fault
  reason := reason
  profileReasons := decision.profileReadiness.reasons

def DiagnosticJournal.maximumRecords : Nat := 32

theorem DiagnosticJournal.maximumRecords_pos : 0 < maximumRecords := by decide

structure DiagnosticJournal where
  records : Vector DiagnosticRecord DiagnosticJournal.maximumRecords := Vector.replicate _ {}
  oldestIndex : Fin DiagnosticJournal.maximumRecords :=
    ⟨0, DiagnosticJournal.maximumRecords_pos⟩
  size : Nat := 0
  nextSequence : UInt32 := 1
  overwrittenCount : UInt32 := 0

namespace DiagnosticJournal

def clear (_journal : DiagnosticJournal) : DiagnosticJournal := {}

def slot (index : Nat) : Fin maximumRecords :=
  ⟨index % maximumRecords, Nat.mod_lt _ maximumRecords_pos⟩

/-- `read`: the record is left as it was when there is none at the index. -/
def read (journal : DiagnosticJournal) (chronologicalIndex : Nat) (record : DiagnosticRecord) :
    Bool × DiagnosticRecord :=
  if chronologicalIndex ≥ journal.size then (false, record)
  else (true, journal.records.get (slot (journal.oldestIndex + chronologicalIndex)))

def append (journal : DiagnosticJournal) (record : DiagnosticRecord) : DiagnosticJournal :=
  let record := { record with sequence := journal.nextSequence }
  let nextSequence := journal.nextSequence + 1
  if journal.size < maximumRecords then
    let storageIndex := slot (journal.oldestIndex + journal.size)
    { journal with
      records := journal.records.set storageIndex record storageIndex.isLt
      size := journal.size + 1
      nextSequence := nextSequence }
  else
    { journal with
      records := journal.records.set journal.oldestIndex record journal.oldestIndex.isLt
      oldestIndex := slot (journal.oldestIndex + 1)
      nextSequence := nextSequence
      overwrittenCount :=
        if journal.overwrittenCount < 0xFFFFFFFF then journal.overwrittenCount + 1
        else journal.overwrittenCount }

def appendIf (journal : DiagnosticJournal) (condition : Bool) (record : DiagnosticRecord) :
    DiagnosticJournal :=
  if condition then journal.append record else journal

def observe (journal : DiagnosticJournal) (event : Event) (decision : Decision)
    (timestampMs : UInt32) : DiagnosticJournal :=
  let record := fun type reason => makeRecord type event.type decision reason timestampMs
  let rejected := rejectionReason decision
  let faultReason : DiagnosticReason :=
    if decision.fault = .safetyInterlock then .safetyPolicy else .none
  journal
    |>.appendIf (isCommand event.type)
      { record .commandReceived .none with
        state := decision.previousState
        fault := decision.previousFault }
    |>.appendIf (decision.previousState != decision.state) (record .stateTransition .none)
    |>.appendIf (rejected != .none) (record .requestRejected rejected)
    |>.appendIf (decision.state == .fault && decision.previousState != .fault)
      (record .faultEntered faultReason)

def recordFailure (journal : DiagnosticJournal) (type : DiagnosticRecordType)
    (trigger : EventType) (state : ControllerState) (fault : FaultCode) (timestampMs : UInt32) :
    DiagnosticJournal :=
  journal.append
    { timestampMs := timestampMs
      type := type
      trigger := trigger
      previousState := state
      state := state
      fault := fault }

def recordInfrastructureFailure (journal : DiagnosticJournal) (trigger : EventType)
    (state : ControllerState) (fault : FaultCode) (timestampMs : UInt32) : DiagnosticJournal :=
  journal.recordFailure .infrastructureFailure trigger state fault timestampMs

def recordSafingFailure (journal : DiagnosticJournal) (state : ControllerState)
    (fault : FaultCode) (timestampMs : UInt32) : DiagnosticJournal :=
  journal.recordFailure .safingFailure .infrastructureFailure state fault timestampMs

end DiagnosticJournal

end BmwRemote.Infrastructure
