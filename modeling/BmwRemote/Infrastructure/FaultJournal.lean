import BmwRemote.Application.FaultLatch
import BmwRemote.Infrastructure.TransitionChain

/-! The causes of faults that the journal shows. A fault is recorded when the
controller enters `Fault` and when a port refuses an action; a failure reported from
outside to a controller that is already in `Fault` replaces the code without a record. -/
namespace BmwRemote.Infrastructure

open BmwRemote.Domain BmwRemote.Application BmwRemote.Lib

universe u

namespace DiagnosticJournal

/-- The records that name the cause of a fault. -/
def namesCause (record : DiagnosticRecord) : Bool :=
  record.type == .faultEntered || record.type == .infrastructureFailure

def latestCause (records : List DiagnosticRecord) : Option FaultCode :=
  (records.filter namesCause).getLast?.map DiagnosticRecord.fault

theorem latestCause_append (first second : List DiagnosticRecord) :
    latestCause (first ++ second) = (latestCause second).or (latestCause first) := by
  unfold latestCause
  rw [List.filter_append, List.getLast?_append]
  cases (second.filter namesCause).getLast? <;> rfl

theorem latestCause_onlyIf (condition : Bool) (record : DiagnosticRecord) :
    latestCause (onlyIf condition record) =
      if condition && namesCause record then some record.fault else none := by
  unfold latestCause onlyIf
  cases condition with
  | false => rfl
  | true => cases h : namesCause record <;> simp [h]

theorem latestCause_eq_none {records : List DiagnosticRecord}
    (h : ∀ record ∈ records, namesCause record = false) : latestCause records = none := by
  unfold latestCause
  rw [List.filter_eq_nil_iff.2 (by simpa using h)]
  rfl

theorem latestCause_observed (event : Event) (decision : Decision) (timestampMs : UInt32) :
    latestCause (observed event decision timestampMs) =
      if decision.state = .fault ∧ decision.previousState ≠ .fault then some decision.fault
      else none := by
  unfold observed
  simp only [latestCause_append, latestCause_onlyIf]
  simp [namesCause, commandRecord, makeRecord]

end DiagnosticJournal

namespace Runtime

open DiagnosticJournal

variable {W : Type u}

def failureCode (event : Event) : FaultCode :=
  if event.fault = .none then .internalError else event.fault

def reportCalls : List PortCall := [.cancel, .actuator .disengageStarter, .actuator .secureOutputs]

/-- Another failure is reported to a controller in `Fault`, and every port accepts the
safing calls that follow. -/
def Replaces (ports : Ports W) (call : Dispatch W) : Prop :=
  call.input.event.type = .infrastructureFailure ∧ call.before.1.state = .fault ∧
    failureCode call.input.event ≠ call.before.1.controller.fault ∧
    (ports.perform.runUntilRefused reportCalls call.before.2).1 = none

/-- The latest cause in the journal is the one the controller holds, if it holds one. -/
def ShowsCause (ports : Ports W) (reached : Runtime × W) (past : List (Dispatch W)) : Prop :=
  reached.1.controller.fault ≠ .none →
    latestCause (past.flatMap (recordsOf ports)) = some reached.1.controller.fault

theorem handle_report {controller : Controller} {event : Event}
    (htype : event.type = .infrastructureFailure) (vehicle : VehicleState) :
    let handled := controller.handle event vehicle
    handled.2 = ⟨controller.config, .fault, failureCode event⟩ ∧
      callsOf handled.1 = reportCalls ++ [.publish (notificationOf handled.1 .notifyFault)] := by
  obtain ⟨type, fault⟩ := event
  subst htype
  exact ⟨rfl, rfl⟩

theorem runUntilRefused_publish (ports : Ports W) (calls : List PortCall)
    (notification : Notification) (world : W) :
    (ports.perform.runUntilRefused (calls ++ [.publish notification]) world).1 =
      (ports.perform.runUntilRefused calls world).1 := by
  induction calls generalizing world with
  | nil => rfl
  | cons call rest ih =>
    rw [List.cons_append, Device.runUntilRefused, Device.runUntilRefused]
    by_cases haccepted : (ports.perform call world).1 = true
    · simp only [haccepted, if_true]
      exact ih _
    · simp only [haccepted]
      rfl

theorem fault_of_handle {controller : Controller} {event : Event} {vehicle : VehicleState}
    (hbefore : controller.state = .fault)
    (hafter : (controller.handle event vehicle).2.state = .fault)
    (htype : event.type ≠ .infrastructureFailure) :
    (controller.handle event vehicle).2.fault = controller.fault := by
  obtain ⟨state, fault, actions, hcase, hcontroller, -⟩ := controller.handle_cases event vehicle
  rw [hcontroller] at hafter ⊢
  dsimp only at hafter ⊢
  cases hcase with
  | silent | ignored | alreadyStopped | stopIgnoredInFault | startDisabled | profileRejected
  | resetRejected => rfl
  | enterFault code cause =>
    cases cause with
    | infrastructure hreported => exact absurd hreported htype
    | takeoverInterlock hstate | authorizationTimeout hstate | crankTimeout hstate
    | stopTimeout hstate | startInterlock hstate | crankingInterlock hstate
    | remoteRunInterlock hstate | entryInterlock hstate =>
      rw [hbefore] at hstate
      cases hstate
  | _ => cases hafter

theorem appended_accepted {ports : Ports W} {runtime : Runtime} {input : Input} {world : W}
    (haccepted : (ports.perform.runUntilRefused
      (callsOf (runtime.controller.handle input.event input.vehicle).1) world).1 = none) :
    let handled := runtime.controller.handle input.event input.vehicle
    (dispatch ports runtime input world).2.1.controller = handled.2 ∧
      latestCause (appended ports runtime input world) =
        if handled.2.state = .fault ∧ runtime.state ≠ .fault then some handled.2.fault
        else none := by
  have hexecute : (execute ports (runtime.controller.handle input.event input.vehicle).1
      world).1 = .none := by
    rw [execute_eq, haccepted]
  have hprevious := (runtime.controller.handle_frame input.event input.vehicle).1
  unfold dispatch appended
  dsimp only
  rw [if_pos hexecute, if_pos hexecute, latestCause_observed, hprevious]
  exact ⟨rfl, rfl⟩

theorem appended_refused {ports : Ports W} {runtime : Runtime} {input : Input} {world : W}
    {refused : PortCall} (hrefused : (ports.perform.runUntilRefused
      (callsOf (runtime.controller.handle input.event input.vehicle).1) world).1 = some refused) :
    latestCause (appended ports runtime input world) =
      some (dispatch ports runtime input world).2.1.controller.fault := by
  rcases dispatch_cases ports runtime input world with ⟨hnone, -⟩ |
    ⟨call, hcall, hfault, hcontroller, -⟩
  · rw [hrefused] at hnone
    cases hnone
  obtain rfl : refused = call := Option.some.inj (hrefused.symm.trans hcall)
  have hexecute : (execute ports (runtime.controller.handle input.event input.vehicle).1
      world).1 = failureOf refused := by
    rw [execute_eq, hrefused]
  have hrefusals : ∀ decision actions reached, latestCause
      (refusalRecords ports decision input.timestampMs actions reached) = none := by
    intro decision actions reached
    refine latestCause_eq_none fun record hmem => ?_
    unfold namesCause
    rw [(refusalRecords_spec hmem).1]
    rfl
  have hreported : latestCause [failureRecord .infrastructureFailure input.event.type
      (runtime.controller.handle input.event input.vehicle).1.state (failureOf refused)
      input.timestampMs] = some (failureOf refused) := rfl
  have hcode : (afterRefusal (runtime.controller.handle input.event input.vehicle).2
      (failureOf refused) input.vehicle).1.fault = failureOf refused :=
    (handle_infrastructureFailure _ (failureOf refused) input.vehicle hfault).2.2.1
  rw [hcontroller]
  unfold appended
  dsimp only
  rw [hexecute, if_neg hfault, latestCause_append, hrefusals, Option.none_or, latestCause_append,
    ← List.singleton_append, latestCause_append, latestCause_observed, hreported, hcode]
  -- the code is the same whether `Fault` was entered now or before
  split <;> rfl

section Run

variable {ports : Ports W} {config : ControllerConfig} {journal : DiagnosticJournal} {start : W}

def started (config : ControllerConfig) (journal : DiagnosticJournal) (start : W) : Runtime × W :=
  (⟨Controller.new config, some journal⟩, start)

theorem latched_dispatch (ports : Ports W) {runtime : Runtime} (h : runtime.controller.Latched)
    (input : Input) (world : W) : (dispatch ports runtime input world).2.1.controller.Latched := by
  rcases dispatch_cases ports runtime input world with ⟨-, -, hcontroller, -⟩ |
    ⟨refused, -, hfault, hcontroller, -⟩
  · rw [hcontroller]
    exact Controller.latched_handle h input.event input.vehicle
  · rw [hcontroller]
    exact iff_of_true hfault rfl

theorem latched_run (inputs : List Input) :
    ((machine ports).final (started config journal start) inputs).1.controller.Latched := by
  refine (machine ports).invariant_induction (fun state => state.1.controller.Latched)
    (Controller.latched_new config) ?_ inputs
  intro state h input
  exact latched_dispatch ports h input state.2

theorem handle_accepted_iff {runtime : Runtime} {input : Input} {world : W}
    (htype : input.event.type = .infrastructureFailure) :
    (ports.perform.runUntilRefused
        (callsOf (runtime.controller.handle input.event input.vehicle).1) world).1 =
      (ports.perform.runUntilRefused reportCalls world).1 := by
  rw [(handle_report htype input.vehicle).2, runUntilRefused_publish]

/-- One dispatch keeps the cause shown exactly when it does not replace it. -/
theorem showsCause_step {reached : Runtime × W} {past : List (Dispatch W)}
    (hlatched : reached.1.controller.Latched) (h : ShowsCause ports reached past)
    (input : Input) :
    ShowsCause ports (machine ports reached input).2
        (past ++ [(machine ports).stepOf reached input]) ↔
      ¬ Replaces ports ((machine ports).stepOf reached input) := by
  obtain ⟨runtime, world⟩ := reached
  have hrecords : (past ++ [(machine ports).stepOf (runtime, world) input]).flatMap
      (recordsOf ports) = past.flatMap (recordsOf ports) ++ appended ports runtime input world := by
    rw [List.flatMap_append, List.flatMap_singleton]
    rfl
  unfold ShowsCause at h ⊢
  rw [hrecords, latestCause_append]
  change ((dispatch ports runtime input world).2.1.controller.fault ≠ .none → _ =
    some (dispatch ports runtime input world).2.1.controller.fault) ↔ _
  cases hrun : (ports.perform.runUntilRefused
      (callsOf (runtime.controller.handle input.event input.vehicle).1) world).1 with
  | some refused =>
    rw [appended_refused hrun]
    refine iff_of_true (fun _ => rfl) ?_
    rintro ⟨htype, -, -, haccepted⟩
    rw [Machine.stepOf_input] at htype
    rw [Machine.stepOf_before, ← handle_accepted_iff htype, hrun] at haccepted
    cases haccepted
  | none =>
    obtain ⟨hcontroller, hcause⟩ := appended_accepted hrun
    have hnext := latched_dispatch ports hlatched input world
    rw [hcause]
    rw [hcontroller] at hnext ⊢
    by_cases hafter : (runtime.controller.handle input.event input.vehicle).2.state = .fault
    · by_cases hbefore : runtime.state = .fault
      · -- nothing is recorded: the code must be the one recorded before
        rw [if_neg (by simp [hbefore]), Option.none_or, h (hlatched.2 hbefore), Option.some.injEq]
        rw [imp_iff_right (hnext.2 hafter)]
        by_cases htype : input.event.type = .infrastructureFailure
        · have hcode : (runtime.controller.handle input.event input.vehicle).2.fault =
              failureCode input.event :=
            congrArg (·.fault) (handle_report htype input.vehicle).1
          rw [hcode]
          have haccepted := (handle_accepted_iff htype).symm.trans hrun
          constructor
          · rintro hsame ⟨-, -, hother, -⟩
            exact hother hsame.symm
          · intro hkept
            by_contra hother
            exact hkept ⟨htype, hbefore, fun hsame => hother hsame.symm, haccepted⟩
        · rw [fault_of_handle hbefore hafter htype]
          exact iff_of_true rfl fun hreplaces => htype hreplaces.1
      · rw [if_pos ⟨hafter, hbefore⟩, Option.some_or]
        exact iff_of_true (fun _ => rfl) fun hreplaces => hbefore hreplaces.2.1
    · have hnone : (runtime.controller.handle input.event input.vehicle).2.fault = .none := by
        by_contra hfault
        exact hafter (hnext.1 hfault)
      refine iff_of_true (fun hfault => absurd hnone hfault) fun hreplaces => hafter ?_
      exact congrArg (·.state) (handle_report hreplaces.1 input.vehicle).1

end Run

/-- All along a run the latest cause in the journal is the one the controller holds,
exactly when no dispatch reports another failure to a controller in `Fault` with every
safing call accepted. -/
theorem fault_journaled_iff (ports : Ports W) (config : ControllerConfig)
    (journal : DiagnosticJournal) (start : W) (inputs : List Input) :
    let first := started config journal start
    (∀ earlier later, inputs = earlier ++ later →
      let calls := (machine ports).transcript first earlier
      let reached := (machine ports).final first earlier
      reached.1.diagnosticJournal =
          some (journal.appendAll (calls.flatMap (recordsOf ports))) ∧
        ShowsCause ports reached calls) ↔
      ∀ call ∈ (machine ports).transcript first inputs, ¬ Replaces ports call := by
  intro first
  have hinitial : ShowsCause ports first [] := fun h => absurd rfl h
  have halways := (machine ports).always_iff (ShowsCause ports)
    (fun call => ¬ Replaces ports call) hinitial (fun earlier input hshows => by
      rw [Machine.final_concat, Machine.transcript_concat]
      exact showsCause_step (latched_run earlier) hshows input) inputs
  rw [← halways]
  constructor
  · intro hall earlier later h
    exact (hall earlier later h).2
  · intro hall earlier later h
    exact ⟨(transition_chain ports config journal start earlier).1, hall earlier later h⟩

def acceptingPorts : Ports Unit where
  vehicleGateway := ⟨fun world => (true, world)⟩
  actuators := ⟨fun world => (true, world), fun world => (true, world), fun world => (true, world),
    fun world => (true, world), fun world => (true, world)⟩
  timer := ⟨fun _ world => (true, world), fun world => (true, world)⟩
  notifications := ⟨fun _ world => world⟩

def twoFailures : List Input :=
  [⟨Event.infrastructureFailure .timerFailure, {}, 10⟩,
    ⟨Event.infrastructureFailure .actuatorFailure, {}, 20⟩]

/-- The controller holds the second failure, the journal shows the first. -/
theorem second_failure_unrecorded :
    let first := started {} {} ()
    let calls := (machine acceptingPorts).transcript first twoFailures
    let reached := (machine acceptingPorts).final first twoFailures
    reached.1.controller.fault = .actuatorFailure ∧
      latestCause (calls.flatMap (recordsOf acceptingPorts)) = some .timerFailure ∧
      ¬ ShowsCause acceptingPorts reached calls := by
  have hheld : ((machine acceptingPorts).final (started {} {} ()) twoFailures).1.controller.fault =
      .actuatorFailure := by decide
  have hshown : latestCause (((machine acceptingPorts).transcript (started {} {} ())
      twoFailures).flatMap (recordsOf acceptingPorts)) = some .timerFailure := by decide
  refine ⟨hheld, hshown, fun hshows => ?_⟩
  have hcause := hshows (by rw [hheld]; decide)
  rw [hheld, hshown] at hcause
  exact absurd hcause (by decide)

end Runtime

end BmwRemote.Infrastructure
