import BmwRemote.Application.ControllerStep
import BmwRemote.Infrastructure.DiagnosticJournal
import BmwRemote.Infrastructure.Ports
import BmwRemote.Lib.Transcript

/-! The runtime: it hands an event to the controller and executes the decision
on the ports. The first refused action turns the dispatch into a fault, whose
safing actions are then all made. -/
namespace BmwRemote.Infrastructure

open BmwRemote.Domain BmwRemote.Application BmwRemote.Lib

universe u

structure Runtime where
  controller : Controller
  diagnosticJournal : Option DiagnosticJournal := none

namespace Runtime

variable {W : Type u}

def state (runtime : Runtime) : ControllerState := runtime.controller.state

def notificationOf (decision : Decision) (type : ActionType) : Notification where
  notification := type
  state := decision.state
  fault := decision.fault
  safety := decision.safety
  profileReadiness := decision.profileReadiness

def orFault (fault : FaultCode) (answer : Bool × W) : FaultCode × W :=
  (if answer.1 then .none else fault, answer.2)

def executeAction (ports : Ports W) (decision : Decision) (action : Action) (world : W) :
    FaultCode × W :=
  match action.type with
  | .requestVehicleState => orFault .vehicleCommunication (ports.vehicleGateway.requestState world)
  | .enableIgnition => orFault .actuatorFailure (ports.actuators.enableIgnition world)
  | .engageStarter => orFault .actuatorFailure (ports.actuators.engageStarter world)
  | .disengageStarter => orFault .actuatorFailure (ports.actuators.disengageStarter world)
  | .releaseRemoteControl => orFault .actuatorFailure (ports.actuators.releaseRemoteControl world)
  | .secureOutputs => orFault .actuatorFailure (ports.actuators.secureOutputs world)
  | .armTimer => orFault .timerFailure (ports.timer.arm action.durationMs world)
  | .cancelTimer => orFault .timerFailure (ports.timer.cancel world)
  | .notifyProfileRejected | .notifyRemoteStartDisabled | .notifyStartAccepted
  | .notifyStartRejected | .notifyRunning | .notifyTakeoverPending | .notifyTakeoverComplete
  | .notifyStopping | .notifyStopped | .notifyFault | .notifyReady | .notifyRequestIgnored
  | .notifyResetRejected =>
      (.none, ports.notifications.publish (notificationOf decision action.type) world)

/-- The loop of `Runtime::execute` over the actions that are left. -/
def executeFrom (ports : Ports W) (decision : Decision) : List Action → W → FaultCode × W
  | [], world => (.none, world)
  | action :: rest, world =>
      let result := executeAction ports decision action world
      if result.1 ≠ .none then result else executeFrom ports decision rest result.2

def execute (ports : Ports W) (decision : Decision) (world : W) : FaultCode × W :=
  executeFrom ports decision decision.actions.toList world

abbrev Safing (W : Type u) := Option DiagnosticJournal × W

def recordRefusal (decision : Decision) (fault : FaultCode) (timestampMs : UInt32)
    (journal : Option DiagnosticJournal) (answer : Bool × W) : Safing W :=
  (if answer.1 then journal
    else journal.map fun journal => journal.recordSafingFailure decision.state fault timestampMs,
    answer.2)

def safingAction (ports : Ports W) (decision : Decision) (timestampMs : UInt32)
    (safing : Safing W) (action : Action) : Safing W :=
  let record := fun fault => recordRefusal decision fault timestampMs safing.1
  match action.type with
  | .cancelTimer => record .timerFailure (ports.timer.cancel safing.2)
  | .disengageStarter => record .actuatorFailure (ports.actuators.disengageStarter safing.2)
  | .secureOutputs => record .actuatorFailure (ports.actuators.secureOutputs safing.2)
  | .notifyFault =>
      (safing.1, ports.notifications.publish (notificationOf decision action.type) safing.2)
  | _ => safing

def executeSafing (ports : Ports W) (decision : Decision) (timestampMs : UInt32)
    (safing : Safing W) : Safing W :=
  decision.actions.toList.foldl (safingAction ports decision timestampMs) safing

structure Input where
  event : Event
  vehicle : VehicleState
  timestampMs : UInt32 := 0

def dispatch (ports : Ports W) (runtime : Runtime) (input : Input) (world : W) :
    Decision × Runtime × W :=
  let (decision, controller) := runtime.controller.handle input.event input.vehicle
  let journal := runtime.diagnosticJournal.map fun journal =>
    journal.observe input.event decision input.timestampMs
  let (executionFault, world) := execute ports decision world
  if executionFault = .none then
    (decision, ⟨controller, journal⟩, world)
  else
    let journal := journal.map fun journal =>
      journal.recordInfrastructureFailure input.event.type decision.state executionFault
        input.timestampMs
    let failureEvent := Event.infrastructureFailure executionFault
    let (faultDecision, controller) := controller.handle failureEvent input.vehicle
    let journal := journal.map fun journal =>
      journal.observe failureEvent faultDecision input.timestampMs
    let (journal, world) :=
      executeSafing ports faultDecision input.timestampMs (journal, world)
    (faultDecision, ⟨controller, journal⟩, world)

def machine (ports : Ports W) : Machine (Runtime × W) Input Decision := fun state input =>
  dispatch ports state.1 input state.2

/-- The port call an action stands for. -/
def callOf (decision : Decision) (action : Action) : PortCall :=
  match action.type with
  | .requestVehicleState => .requestState
  | .enableIgnition => .actuator .enableIgnition
  | .engageStarter => .actuator .engageStarter
  | .disengageStarter => .actuator .disengageStarter
  | .releaseRemoteControl => .actuator .releaseRemoteControl
  | .secureOutputs => .actuator .secureOutputs
  | .armTimer => .arm action.durationMs
  | .cancelTimer => .cancel
  | notification => .publish (notificationOf decision notification)

def callsOf (decision : Decision) : List PortCall :=
  decision.actions.toList.map (callOf decision)

def failureOf : PortCall → FaultCode
  | .requestState => .vehicleCommunication
  | .actuator _ => .actuatorFailure
  | .arm _ | .cancel => .timerFailure
  | .publish _ => .none

theorem executeAction_eq (ports : Ports W) (decision : Decision) (action : Action) (world : W) :
    executeAction ports decision action world =
      orFault (failureOf (callOf decision action))
        (ports.perform (callOf decision action) world) := by
  unfold executeAction callOf
  cases action.type <;> rfl

theorem accepted_of_failureOf (ports : Ports W) (call : PortCall) (world : W)
    (h : failureOf call = .none) : (ports.perform call world).1 = true := by
  cases call with
  | publish => rfl
  | _ => cases h

theorem executeFrom_eq (ports : Ports W) (decision : Decision) (actions : List Action)
    (world : W) :
    executeFrom ports decision actions world =
      (match (ports.perform.runUntilRefused (actions.map (callOf decision)) world).1 with
        | none => .none
        | some call => failureOf call,
        (ports.perform.runUntilRefused (actions.map (callOf decision)) world).2) := by
  induction actions generalizing world with
  | nil => rfl
  | cons action rest ih =>
    rw [List.map_cons, executeFrom, Device.runUntilRefused, executeAction_eq]
    dsimp only [orFault]
    by_cases haccepted : (ports.perform (callOf decision action) world).1 = true
    · simp only [haccepted, ↓reduceIte, ne_eq, not_true_eq_false, ih]
    · have hfault : failureOf (callOf decision action) ≠ .none := fun h =>
        haccepted (accepted_of_failureOf ports _ world h)
      simp [haccepted, hfault]

/-- Executing a decision is running its calls up to the first refusal. -/
theorem execute_eq (ports : Ports W) (decision : Decision) (world : W) :
    execute ports decision world =
      (match (ports.perform.runUntilRefused (callsOf decision) world).1 with
        | none => .none
        | some call => failureOf call,
        (ports.perform.runUntilRefused (callsOf decision) world).2) :=
  executeFrom_eq ports decision decision.actions.toList world

def safingCalls (decision : Decision) : List PortCall :=
  [.cancel, .actuator .disengageStarter, .actuator .secureOutputs,
    .publish (notificationOf decision .notifyFault)]

theorem handle_infrastructureFailure (controller : Controller) (fault : FaultCode)
    (vehicle : VehicleState) (hfault : fault ≠ .none) :
    let (decision, after) := controller.handle (Event.infrastructureFailure fault) vehicle
    after = ⟨controller.config, .fault, fault⟩ ∧ decision.state = .fault ∧
      decision.fault = fault ∧
      decision.actions.toList =
        [⟨.cancelTimer, 0⟩, ⟨.disengageStarter, 0⟩, ⟨.secureOutputs, 0⟩, ⟨.notifyFault, 0⟩] := by
  have hcode : (if fault = .none then FaultCode.internalError else fault) = fault := if_neg hfault
  refine ⟨?_, rfl, hcode, rfl⟩
  exact congrArg (Controller.mk controller.config .fault) hcode

theorem executeSafing_world (ports : Ports W) (decision : Decision) (timestampMs : UInt32)
    (safing : Safing W)
    (hactions : decision.actions.toList =
      [⟨.cancelTimer, 0⟩, ⟨.disengageStarter, 0⟩, ⟨.secureOutputs, 0⟩, ⟨.notifyFault, 0⟩]) :
    (executeSafing ports decision timestampMs safing).2 =
      ports.perform.runAll (safingCalls decision) safing.2 := by
  unfold executeSafing
  rw [hactions]
  rfl

/-- A dispatch either has every call of the controller's decision accepted and
returns that decision, or meets a refused call, faults with its code and makes
the safing calls. -/
theorem dispatch_cases (ports : Ports W) (runtime : Runtime) (input : Input) (world : W) :
    let handled := runtime.controller.handle input.event input.vehicle
    let run := ports.perform.runUntilRefused (callsOf handled.1) world
    (run.1 = none ∧ (dispatch ports runtime input world).1 = handled.1 ∧
      (dispatch ports runtime input world).2.1.controller = handled.2 ∧
      (dispatch ports runtime input world).2.2 = run.2) ∨
    ∃ refused, run.1 = some refused ∧ failureOf refused ≠ .none ∧
      (dispatch ports runtime input world).2.1.controller =
        ⟨runtime.controller.config, .fault, failureOf refused⟩ ∧
      (dispatch ports runtime input world).1.state = .fault ∧
      (dispatch ports runtime input world).1.fault = failureOf refused ∧
      (dispatch ports runtime input world).2.2 =
        ports.perform.runAll (safingCalls (dispatch ports runtime input world).1) run.2 := by
  have hexecute := execute_eq ports (runtime.controller.handle input.event input.vehicle).1 world
  unfold dispatch
  simp only [hexecute]
  generalize hrun : ports.perform.runUntilRefused
    (callsOf (runtime.controller.handle input.event input.vehicle).1) world = run
  rcases run with ⟨outcome, reached⟩
  cases outcome with
  | none => exact .inl ⟨rfl, rfl, rfl, rfl⟩
  | some refused =>
    have hfault : failureOf refused ≠ .none := by
      intro hnone
      rcases Device.refused_of_runUntilRefused ports.perform _ world
        (congrArg Prod.fst hrun) with ⟨answering, hrefused⟩
      rw [accepted_of_failureOf ports refused answering hnone] at hrefused
      cases hrefused
    refine .inr ⟨refused, rfl, hfault, ?_⟩
    have hconfig := (runtime.controller.handleEvent_config input.event input.vehicle)
    have hsafing := handle_infrastructureFailure
      (runtime.controller.handle input.event input.vehicle).2 (failureOf refused) input.vehicle
      hfault
    rw [if_neg hfault]
    refine ⟨hsafing.1.trans ?_, hsafing.2.1, hsafing.2.2.1, ?_⟩
    · exact congrArg (Controller.mk · .fault (failureOf refused)) hconfig
    · exact executeSafing_world ports _ _ _ hsafing.2.2.2

theorem dispatch_keeps (ports : Ports W) {holds : W → Prop}
    (hcall : ∀ call world, holds world → holds (ports.perform call world).2) (runtime : Runtime)
    (input : Input) (world : W) (h : holds world) :
    holds (dispatch ports runtime input world).2.2 := by
  have hrun := Device.runUntilRefused_keeps hcall
    (callsOf (runtime.controller.handle input.event input.vehicle).1) world h
  rcases dispatch_cases ports runtime input world with ⟨-, -, -, hworld⟩ |
    ⟨refused, -, -, -, -, -, hworld⟩
  · rw [hworld]
    exact hrun
  · rw [hworld]
    exact Device.runAll_keeps hcall _ _ hrun

/-- The same, read off the record of the calls made and their answers. -/
theorem dispatch_traced (ports : Ports W) (runtime : Runtime) (input : Input)
    (world : W × List (PortCall × Bool)) :
    let handled := runtime.controller.handle input.event input.vehicle
    let result := dispatch ports.traced runtime input world
    (result.2.2.2 = world.2 ++ (callsOf handled.1).map (fun call => (call, true)) ∧
      result.1 = handled.1 ∧ result.2.1.controller = handled.2) ∨
    ∃ done refused rest answers, callsOf handled.1 = done ++ refused :: rest ∧
      result.2.2.2 = world.2 ++ done.map (fun call => (call, true)) ++ [(refused, false)] ++
        (safingCalls result.1).zip answers ∧
      answers.length = (safingCalls result.1).length ∧
      result.2.1.controller = ⟨runtime.controller.config, .fault, failureOf refused⟩ ∧
      result.1.state = .fault ∧ result.1.fault = failureOf refused := by
  intro handled result
  have htraced := Device.runUntilRefused_traced ports.perform (callsOf handled.1) world
  have hcases := dispatch_cases ports.traced runtime input world
  rw [Ports.perform_traced] at hcases
  rcases hcases with ⟨hnone, hdecision, hcontroller, hworld⟩ | ⟨refused, hsome, -, hcontroller,
    hstate, hfault, hworld⟩
  · rcases htraced with ⟨-, hlog⟩ | ⟨done, refused, rest, -, hsome, -⟩
    · exact .inl ⟨(congrArg Prod.snd hworld).trans hlog, hdecision, hcontroller⟩
    · rw [hnone] at hsome
      cases hsome
  · rcases htraced with ⟨hnone, -⟩ | ⟨done, refused', rest, hcalls, hsome', hlog⟩
    · rw [hsome] at hnone
      cases hnone
    · cases hsome.symm.trans hsome'
      rcases Device.runAll_traced ports.perform (safingCalls result.1)
        (ports.perform.traced.runUntilRefused (callsOf handled.1) world).2 with
        ⟨answers, hlength, hsafing⟩
      refine .inr ⟨done, refused, rest, answers, hcalls, ?_, hlength, hcontroller, hstate, hfault⟩
      exact (congrArg Prod.snd hworld).trans (hsafing.trans (by rw [hlog]))

/-- From every reachable state and for every answer of the ports: either all calls
of the decision are made in order and accepted, and the decision is the
controller's own; or the calls stop at the first refused one, the safing calls
follow whatever they are answered, and the controller faults with its code. -/
theorem fail_safe_execution (ports : Ports W) (config : ControllerConfig)
    (journal : Option DiagnosticJournal) (start : W) (inputs : List Input) (input : Input) :
    let reached := (machine ports.traced).final (⟨Controller.new config, journal⟩, start, []) inputs
    let handled := reached.1.controller.handle input.event input.vehicle
    let result := dispatch ports.traced reached.1 input reached.2
    (result.2.2.2 = reached.2.2 ++ (callsOf handled.1).map (fun call => (call, true)) ∧
      result.1 = handled.1 ∧ result.2.1.controller = handled.2) ∨
    ∃ done refused rest answers, callsOf handled.1 = done ++ refused :: rest ∧
      result.2.2.2 = reached.2.2 ++ done.map (fun call => (call, true)) ++ [(refused, false)] ++
        (safingCalls result.1).zip answers ∧
      answers.length = (safingCalls result.1).length ∧
      result.2.1.controller.state = .fault ∧
      result.2.1.controller.fault = failureOf refused ∧
      result.1.state = .fault ∧ result.1.fault = failureOf refused := by
  intro reached handled result
  rcases dispatch_traced ports reached.1 input reached.2 with haccepted | ⟨done, refused, rest,
    answers, hcalls, hlog, hlength, hcontroller, hstate, hfault⟩
  · exact .inl haccepted
  · exact .inr ⟨done, refused, rest, answers, hcalls, hlog, hlength,
      congrArg (·.state) hcontroller, congrArg (·.fault) hcontroller, hstate, hfault⟩

end Runtime

end BmwRemote.Infrastructure
