import BmwRemote.Infrastructure.DiagnosticLog

/-! The journal and the states of the controller. The transitions that a run appends
are the path of the controller's states: none is missing, and none is told twice. -/
namespace BmwRemote.Infrastructure

open BmwRemote.Domain BmwRemote.Application BmwRemote.Lib

universe u

/-- Records that lead from one state to another, each from where the one before ends. -/
inductive Path : ControllerState → List DiagnosticRecord → ControllerState → Prop where
  | stay (state : ControllerState) : Path state [] state
  | move {start target : ControllerState} {record : DiagnosticRecord}
      {records : List DiagnosticRecord} (hstart : record.previousState = start)
      (hchange : start ≠ record.state) (rest : Path record.state records target) :
      Path start (record :: records) target

theorem Path.append {start middle target : ControllerState} {first second : List DiagnosticRecord}
    (hfirst : Path start first middle) (hsecond : Path middle second target) :
    Path start (first ++ second) target := by
  induction hfirst with
  | stay => exact hsecond
  | move hstart hchange _ ih => exact .move hstart hchange (ih hsecond)

def changes : List ControllerState → List (ControllerState × ControllerState)
  | first :: second :: rest =>
    (if first = second then [] else [(first, second)]) ++ changes (second :: rest)
  | _ => []

theorem changes_cons (first second : ControllerState) (rest : List ControllerState) :
    changes (first :: second :: rest) = changes [first, second] ++ changes (second :: rest) := by
  change _ = ((if first = second then [] else [(first, second)]) ++ []) ++ changes (second :: rest)
  rw [List.append_nil, changes]

namespace Runtime

open DiagnosticJournal

variable {W : Type u}

/-- The states that the controller takes in a dispatch, the first one included. -/
def visited (ports : Ports W) (runtime : Runtime) (input : Input) (world : W) :
    List ControllerState :=
  let (decision, controller) := runtime.controller.handle input.event input.vehicle
  let executionFault := (execute ports decision world).1
  if executionFault = .none then [runtime.state, controller.state]
  else
    [runtime.state, controller.state, (afterRefusal controller executionFault input.vehicle).2.state]

def stateChange (record : DiagnosticRecord) : ControllerState × ControllerState :=
  (record.previousState, record.state)

/-! One decision. -/

theorem observed_path (event : Event) (decision : Decision) (timestampMs : UInt32) :
    Path decision.previousState (ofType .stateTransition (observed event decision timestampMs))
      decision.state := by
  rw [(ofType_observed event decision timestampMs).2]
  by_cases hsame : decision.previousState = decision.state
  · rw [hsame, onlyIf, bne_self_eq_false]
    exact .stay _
  · rw [onlyIf, if_pos (by simpa using hsame)]
    exact .move rfl hsame (.stay _)

theorem observed_changes (event : Event) (decision : Decision) (timestampMs : UInt32) :
    (ofType .stateTransition (observed event decision timestampMs)).map stateChange =
      changes [decision.previousState, decision.state] := by
  rw [(ofType_observed event decision timestampMs).2, changes, onlyIf]
  by_cases hsame : decision.previousState = decision.state
  · rw [if_neg (by simpa using hsame), if_pos hsame]
    rfl
  · rw [if_pos (by simpa using hsame), if_neg hsame]
    rfl

/-! One dispatch. -/

section Dispatch

variable (ports : Ports W) (runtime : Runtime) (input : Input) (world : W)

theorem dispatch_appended :
    let handled := runtime.controller.handle input.event input.vehicle
    ((dispatch ports runtime input world).2.1.controller = handled.2 ∧
      visited ports runtime input world = [runtime.state, handled.2.state] ∧
      appended ports runtime input world =
        observed input.event handled.1 input.timestampMs) ∨
    ∃ fault refusals, let faulted := afterRefusal handled.2 fault input.vehicle
      (dispatch ports runtime input world).2.1.controller = faulted.2 ∧
      visited ports runtime input world =
        [runtime.state, handled.2.state, faulted.2.state] ∧
      appended ports runtime input world =
        observed input.event handled.1 input.timestampMs ++
          failureRecord .infrastructureFailure input.event.type handled.1.state fault
            input.timestampMs ::
          observed (Event.infrastructureFailure fault) faulted.1 input.timestampMs ++ refusals ∧
      ∀ record ∈ refusals, record.type = .safingFailure ∧
        record.timestampMs = input.timestampMs := by
  unfold dispatch appended visited afterRefusal
  generalize runtime.controller.handle input.event input.vehicle = handled
  rcases handled with ⟨decision, controller⟩
  dsimp only
  generalize execute ports decision world = executed
  rcases executed with ⟨executionFault, reached⟩
  dsimp only
  by_cases hfault : executionFault = .none
  · refine .inl ?_
    rw [if_pos hfault, if_pos hfault, if_pos hfault]
    exact ⟨rfl, rfl, rfl⟩
  · refine .inr ⟨executionFault, refusalRecords ports
      (controller.handle (Event.infrastructureFailure executionFault) input.vehicle).1
      input.timestampMs
      (controller.handle (Event.infrastructureFailure executionFault)
        input.vehicle).1.actions.toList reached, ?_⟩
    rw [if_neg hfault, if_neg hfault, if_neg hfault]
    exact ⟨rfl, rfl, rfl, fun record hmem => refusalRecords_spec hmem⟩

structure Tells (before after : Runtime) (records : List DiagnosticRecord)
    (states : List ControllerState) : Prop where
  path : Path before.state (ofType .stateTransition records) after.state
  changes : (ofType .stateTransition records).map stateChange = changes states
  visited : states.head? = some before.state ∧ states.getLast? = some after.state
  command : ∃ command, ofType .commandReceived records =
      onlyIf (isCommand input.event.type) command ∧ command.trigger = input.event.type ∧
    command.state = before.state ∧ command.previousState = before.state ∧
    command.fault = before.controller.fault
  timestamp : ∀ record ∈ records, record.timestampMs = input.timestampMs

theorem ofType_failure {type : DiagnosticRecordType} (htype : type = .commandReceived ∨
      type = .stateTransition) {refusals : List DiagnosticRecord}
    (hrefusals : ∀ record ∈ refusals, record.type = .safingFailure ∧
      record.timestampMs = input.timestampMs)
    (first second : List DiagnosticRecord) (state : ControllerState) (fault : FaultCode) :
    ofType type (first ++ failureRecord .infrastructureFailure input.event.type state fault
        input.timestampMs :: second ++ refusals) =
      ofType type first ++ ofType type second := by
  have hnone : ofType type refusals = [] := by
    apply ofType_eq_nil
    intro record hmem hsame
    rw [(hrefusals record hmem).1] at hsame
    subst hsame
    simp at htype
  have hfailure : (failureRecord .infrastructureFailure input.event.type state fault
      input.timestampMs).type ≠ type := by
    rcases htype with rfl | rfl <;> simp [failureRecord]
  rw [ofType_append, ofType_append, hnone, List.append_nil]
  congr 1
  exact List.filter_cons_of_neg (by simpa using hfailure)

theorem dispatch_tells :
    Tells input runtime (dispatch ports runtime input world).2.1
      (appended ports runtime input world) (visited ports runtime input world) := by
  obtain ⟨hprevious, hfault, -⟩ := runtime.controller.handle_frame input.event input.vehicle
  have hpath := observed_path input.event
    (runtime.controller.handle input.event input.vehicle).1 input.timestampMs
  have hchanges := observed_changes input.event
    (runtime.controller.handle input.event input.vehicle).1 input.timestampMs
  have hcommand := (ofType_observed input.event
    (runtime.controller.handle input.event input.vehicle).1 input.timestampMs).1
  rw [hprevious] at hpath hchanges
  rcases dispatch_appended ports runtime input world with ⟨hcontroller, hvisited, happended⟩ |
    ⟨fault, refusals, hcontroller, hvisited, happended, hrefusals⟩
  · rw [happended, hvisited]
    refine ⟨?_, hchanges, ⟨rfl, ?_⟩, ⟨_, hcommand, rfl, hprevious, hprevious, hfault⟩, ?_⟩
    · unfold state
      rw [hcontroller]
      exact hpath
    · unfold state
      rw [hcontroller]
      rfl
    · exact fun record hmem => timestamp_of_observed hmem
  · let handled := runtime.controller.handle input.event input.vehicle
    let faulted := afterRefusal handled.2 fault input.vehicle
    have hagain : faulted.1.previousState = handled.2.state :=
      (handled.2.handle_frame (Event.infrastructureFailure fault) input.vehicle).1
    have hpath' := observed_path (Event.infrastructureFailure fault) faulted.1 input.timestampMs
    have hchanges' :=
      observed_changes (Event.infrastructureFailure fault) faulted.1 input.timestampMs
    have hcommand' :=
      (ofType_observed (Event.infrastructureFailure fault) faulted.1 input.timestampMs).1
    rw [hagain] at hpath' hchanges'
    rw [happended, hvisited]
    refine ⟨?_, ?_, ⟨rfl, ?_⟩, ⟨commandRecord input.event handled.1 input.timestampMs, ?_, rfl,
      hprevious, hprevious, hfault⟩, ?_⟩
    · rw [ofType_failure input (.inr rfl) hrefusals]
      unfold state
      rw [hcontroller]
      exact hpath.append hpath'
    · rw [ofType_failure input (.inr rfl) hrefusals, List.map_append, hchanges, hchanges']
      exact (changes_cons ..).symm
    · unfold state
      rw [hcontroller]
      rfl
    · rw [ofType_failure input (.inl rfl) hrefusals, hcommand, hcommand', onlyIf, onlyIf]
      exact List.append_nil _
    · intro record hmem
      simp only [List.mem_append, List.mem_cons] at hmem
      rcases hmem with (hmem | rfl | hmem) | hmem
      · exact timestamp_of_observed hmem
      · rfl
      · exact timestamp_of_observed hmem
      · exact (hrefusals record hmem).2

end Dispatch

/-! A run. -/

abbrev Dispatch (W : Type u) := Step (Runtime × W) Input Decision

def recordsOf (ports : Ports W) (call : Dispatch W) : List DiagnosticRecord :=
  appended ports call.before.1 call.input call.before.2

def statesOf (ports : Ports W) (call : Dispatch W) : List ControllerState :=
  visited ports call.before.1 call.input call.before.2

structure Journals (ports : Ports W) (call : Dispatch W) : Prop where
  journal : call.after.1.diagnosticJournal =
    call.before.1.diagnosticJournal.map fun journal => journal.appendAll (recordsOf ports call)
  tells : Tells call.input call.before.1 call.after.1 (recordsOf ports call) (statesOf ports call)

theorem journals_step (ports : Ports W) (state : Runtime × W) (input : Input) :
    Journals ports ((machine ports).stepOf state input) :=
  ⟨dispatch_journal ports state.1 input state.2, dispatch_tells ports state.1 input state.2⟩

/-- What a run has appended to the journal, and what that says. -/
structure Told (ports : Ports W) (journal : DiagnosticJournal) (reached : Runtime × W)
    (past : List (Dispatch W)) : Prop where
  journal : reached.1.diagnosticJournal =
    some (journal.appendAll (past.flatMap (recordsOf ports)))
  path : Path .idle (ofType .stateTransition (past.flatMap (recordsOf ports))) reached.1.state
  calls : ∀ call ∈ past, Journals ports call

theorem Told.step {ports : Ports W} {journal : DiagnosticJournal} {reached : Runtime × W}
    {past : List (Dispatch W)} (h : Told ports journal reached past) (input : Input) :
    Told ports journal (machine ports reached input).2
      (past ++ [(machine ports).stepOf reached input]) := by
  have hstep := journals_step ports reached input
  have hrecords : (past ++ [(machine ports).stepOf reached input]).flatMap (recordsOf ports) =
      past.flatMap (recordsOf ports) ++
        recordsOf ports ((machine ports).stepOf reached input) := by
    rw [List.flatMap_append, List.flatMap_singleton]
  refine ⟨?_, ?_, ?_⟩
  · have hnext := hstep.journal
    rw [Machine.stepOf_before, h.journal, Option.map_some] at hnext
    rw [hrecords, appendAll_append]
    exact hnext
  · rw [hrecords, ofType_append]
    exact h.path.append hstep.tells.path
  · intro call hmem
    rw [List.mem_append, List.mem_singleton] at hmem
    rcases hmem with hmem | rfl
    · exact h.calls call hmem
    · exact hstep

theorem told_new (ports : Ports W) (config : ControllerConfig) (journal : DiagnosticJournal)
    (start : W) : Told ports journal (⟨Controller.new config, some journal⟩, start) [] := by
  refine ⟨?_, ?_, by simp⟩
  · rw [List.flatMap_nil, appendAll_nil]
  · rw [List.flatMap_nil]
    exact .stay _

/-- In every run the transitions appended to the journal lead from `Idle` to the state of
the controller, and each dispatch appends its own changes of state, its command and its
time. -/
theorem transition_chain (ports : Ports W) (config : ControllerConfig)
    (journal : DiagnosticJournal) (start : W) (inputs : List Input) :
    let first : Runtime × W := (⟨Controller.new config, some journal⟩, start)
    let calls := (machine ports).transcript first inputs
    let reached := (machine ports).final first inputs
    let records := calls.flatMap (recordsOf ports)
    reached.1.diagnosticJournal = some (journal.appendAll records) ∧
      Path .idle (ofType .stateTransition records) reached.1.state ∧
      ∀ call ∈ calls, Journals ports call := by
  intro first calls reached records
  have htold : Told ports journal reached calls :=
    (machine ports).history_induction (Told ports journal) (told_new ports config journal start)
      (fun _ _ h input => h.step input) inputs
  exact ⟨htold.journal, htold.path, htold.calls⟩

end Runtime

end BmwRemote.Infrastructure
