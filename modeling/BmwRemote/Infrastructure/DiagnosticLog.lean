import BmwRemote.Infrastructure.Runtime

/-! Every record that a dispatch appends to the journal, as a list. The journal itself
forgets what its ring overwrites; the log of a run does not. -/
namespace BmwRemote.Infrastructure

open BmwRemote.Domain BmwRemote.Application BmwRemote.Lib

universe u

namespace DiagnosticJournal

def appendAll (journal : DiagnosticJournal) (records : List DiagnosticRecord) :
    DiagnosticJournal :=
  records.foldl append journal

@[simp] theorem appendAll_nil (journal : DiagnosticJournal) : journal.appendAll [] = journal := rfl

@[simp] theorem appendAll_append (journal : DiagnosticJournal)
    (first second : List DiagnosticRecord) :
    journal.appendAll (first ++ second) = (journal.appendAll first).appendAll second :=
  List.foldl_append

def onlyIf (condition : Bool) (record : DiagnosticRecord) : List DiagnosticRecord :=
  if condition then [record] else []

theorem appendIf_eq (journal : DiagnosticJournal) (condition : Bool) (record : DiagnosticRecord) :
    journal.appendIf condition record = journal.appendAll (onlyIf condition record) := by
  cases condition <;> rfl

def commandRecord (event : Event) (decision : Decision) (timestampMs : UInt32) :
    DiagnosticRecord :=
  { makeRecord .commandReceived event.type decision .none timestampMs with
    state := decision.previousState
    fault := decision.previousFault }

def observed (event : Event) (decision : Decision) (timestampMs : UInt32) :
    List DiagnosticRecord :=
  onlyIf (isCommand event.type) (commandRecord event decision timestampMs) ++
    onlyIf (decision.previousState != decision.state)
      (makeRecord .stateTransition event.type decision .none timestampMs) ++
    onlyIf (rejectionReason decision != .none)
      (makeRecord .requestRejected event.type decision (rejectionReason decision) timestampMs) ++
    onlyIf (decision.state == .fault && decision.previousState != .fault)
      (makeRecord .faultEntered event.type decision
        (if decision.fault = .safetyInterlock then .safetyPolicy else .none) timestampMs)

theorem observe_eq (journal : DiagnosticJournal) (event : Event) (decision : Decision)
    (timestampMs : UInt32) :
    journal.observe event decision timestampMs =
      journal.appendAll (observed event decision timestampMs) := by
  unfold observe observed
  simp only [appendIf_eq, appendAll_append]
  rfl

def failureRecord (type : DiagnosticRecordType) (trigger : EventType) (state : ControllerState)
    (fault : FaultCode) (timestampMs : UInt32) : DiagnosticRecord where
  timestampMs := timestampMs
  type := type
  trigger := trigger
  previousState := state
  state := state
  fault := fault

def ofType (type : DiagnosticRecordType) (records : List DiagnosticRecord) :
    List DiagnosticRecord :=
  records.filter fun record => record.type == type

@[simp] theorem ofType_append (type : DiagnosticRecordType)
    (first second : List DiagnosticRecord) :
    ofType type (first ++ second) = ofType type first ++ ofType type second :=
  List.filter_append ..

theorem ofType_onlyIf (type : DiagnosticRecordType) (condition : Bool)
    (record : DiagnosticRecord) :
    ofType type (onlyIf condition record) = onlyIf (condition && record.type == type) record := by
  unfold ofType onlyIf
  cases condition with
  | false => rfl
  | true => cases h : record.type == type <;> simp [h]

theorem ofType_eq_nil {type : DiagnosticRecordType} {records : List DiagnosticRecord}
    (h : ∀ record ∈ records, record.type ≠ type) : ofType type records = [] := by
  apply List.filter_eq_nil_iff.2
  simpa using h

theorem ofType_observed (event : Event) (decision : Decision)
    (timestampMs : UInt32) :
    ofType .commandReceived (observed event decision timestampMs) =
        onlyIf (isCommand event.type) (commandRecord event decision timestampMs) ∧
      ofType .stateTransition (observed event decision timestampMs) =
        onlyIf (decision.previousState != decision.state)
          (makeRecord .stateTransition event.type decision .none timestampMs) := by
  unfold observed
  simp only [ofType_append, ofType_onlyIf]
  simp [commandRecord, makeRecord, onlyIf]

theorem mem_onlyIf {condition : Bool} {record other : DiagnosticRecord}
    (h : other ∈ onlyIf condition record) : other = record := by
  cases condition with
  | false => cases h
  | true => exact List.mem_singleton.1 h

theorem timestamp_of_observed {event : Event} {decision : Decision} {timestampMs : UInt32}
    {record : DiagnosticRecord} (h : record ∈ observed event decision timestampMs) :
    record.timestampMs = timestampMs := by
  unfold observed at h
  simp only [List.mem_append] at h
  rcases h with ((h | h) | h) | h
  all_goals rw [mem_onlyIf h]; rfl

end DiagnosticJournal

namespace Runtime

open DiagnosticJournal

variable {W : Type u}

def refusalRecord (ports : Ports W) (decision : Decision) (timestampMs : UInt32)
    (action : Action) (world : W) : List DiagnosticRecord :=
  let record := fun fault =>
    failureRecord .safingFailure .infrastructureFailure decision.state fault timestampMs
  match action.type with
  | .cancelTimer => onlyIf (!(ports.timer.cancel world).1) (record .timerFailure)
  | .disengageStarter =>
    onlyIf (!(ports.actuators.disengageStarter world).1) (record .actuatorFailure)
  | .secureOutputs => onlyIf (!(ports.actuators.secureOutputs world).1) (record .actuatorFailure)
  | _ => []

def refusalRecords (ports : Ports W) (decision : Decision) (timestampMs : UInt32) :
    List Action → W → List DiagnosticRecord
  | [], _ => []
  | action :: rest, world =>
    refusalRecord ports decision timestampMs action world ++
      refusalRecords ports decision timestampMs rest
        (safingAction ports decision timestampMs (none, world) action).2

theorem recordRefusal_eq (decision : Decision) (fault : FaultCode) (timestampMs : UInt32)
    (journal : Option DiagnosticJournal) (answer : Bool × W) :
    recordRefusal decision fault timestampMs journal answer =
      (journal.map fun journal => journal.appendAll (onlyIf (!answer.1)
        (failureRecord .safingFailure .infrastructureFailure decision.state fault timestampMs)),
        answer.2) := by
  unfold recordRefusal
  rcases answer with ⟨accepted, world⟩
  cases accepted with
  | false => rfl
  | true => simp [onlyIf]

theorem safingAction_journal (ports : Ports W) (decision : Decision) (timestampMs : UInt32)
    (journal : Option DiagnosticJournal) (world : W) (action : Action) :
    safingAction ports decision timestampMs (journal, world) action =
      (journal.map fun journal =>
        journal.appendAll (refusalRecord ports decision timestampMs action world),
        (safingAction ports decision timestampMs (none, world) action).2) := by
  rcases action with ⟨type, durationMs⟩
  unfold safingAction refusalRecord
  cases type with
  | cancelTimer | disengageStarter | secureOutputs => exact recordRefusal_eq ..
  | _ => simp

theorem executeSafing_journal (ports : Ports W) (decision : Decision) (timestampMs : UInt32)
    (journal : Option DiagnosticJournal) (world : W) :
    (executeSafing ports decision timestampMs (journal, world)).1 =
      journal.map fun journal => journal.appendAll
        (refusalRecords ports decision timestampMs decision.actions.toList world) := by
  unfold executeSafing
  generalize decision.actions.toList = actions
  induction actions generalizing journal world with
  | nil => simp [refusalRecords]
  | cons action rest ih =>
    rw [List.foldl_cons, safingAction_journal, ih, refusalRecords]
    simp only [Option.map_map, Function.comp_def, appendAll_append]

theorem refusalRecords_spec {ports : Ports W} {decision : Decision} {timestampMs : UInt32}
    {actions : List Action} {world : W} {record : DiagnosticRecord}
    (h : record ∈ refusalRecords ports decision timestampMs actions world) :
    record.type = .safingFailure ∧ record.timestampMs = timestampMs := by
  induction actions generalizing world with
  | nil => cases h
  | cons action rest ih =>
    rw [refusalRecords, List.mem_append] at h
    rcases h with h | h
    · unfold refusalRecord at h
      dsimp only at h
      split at h
      · rw [mem_onlyIf h]
        exact ⟨rfl, rfl⟩
      · rw [mem_onlyIf h]
        exact ⟨rfl, rfl⟩
      · rw [mem_onlyIf h]
        exact ⟨rfl, rfl⟩
      · cases h
    · exact ih h

def afterRefusal (controller : Controller) (fault : FaultCode) (vehicle : VehicleState) :
    Decision × Controller :=
  controller.handle (Event.infrastructureFailure fault) vehicle

/-- What a dispatch appends to the journal. -/
def appended (ports : Ports W) (runtime : Runtime) (input : Input) (world : W) :
    List DiagnosticRecord :=
  let (decision, controller) := runtime.controller.handle input.event input.vehicle
  let (executionFault, world) := execute ports decision world
  let records := observed input.event decision input.timestampMs
  if executionFault = .none then records
  else
    let faultDecision := (afterRefusal controller executionFault input.vehicle).1
    records ++
      failureRecord .infrastructureFailure input.event.type decision.state executionFault
        input.timestampMs ::
      observed (Event.infrastructureFailure executionFault) faultDecision input.timestampMs ++
      refusalRecords ports faultDecision input.timestampMs faultDecision.actions.toList world

/-- The journal of a runtime grows by what its dispatches append, and by nothing else. -/
theorem dispatch_journal (ports : Ports W) (runtime : Runtime) (input : Input) (world : W) :
    (dispatch ports runtime input world).2.1.diagnosticJournal =
      runtime.diagnosticJournal.map fun journal =>
        journal.appendAll (appended ports runtime input world) := by
  unfold dispatch appended afterRefusal
  generalize runtime.controller.handle input.event input.vehicle = handled
  rcases handled with ⟨decision, controller⟩
  dsimp only
  generalize execute ports decision world = executed
  rcases executed with ⟨executionFault, reached⟩
  dsimp only
  by_cases hfault : executionFault = .none
  · rw [if_pos hfault, if_pos hfault]
    simp only [observe_eq]
  · rw [if_neg hfault, if_neg hfault]
    dsimp only
    rw [executeSafing_journal]
    simp only [Option.map_map, Function.comp_def, observe_eq, appendAll_append]
    rfl

end Runtime

end BmwRemote.Infrastructure
