import BmwRemote.Infrastructure.OutputSafety
import BmwRemote.Infrastructure.SupervisorStep

/-! The runtime over the supervisor: between any two calls of either, the outputs
that the supervisor commands are among those that the controller state permits. -/
namespace BmwRemote.Infrastructure

open BmwRemote.Application BmwRemote.Lib

universe u

variable {W : Type u}

def beside (operation : W → Bool × W) (state : Supervised W) : Bool × Supervised W :=
  ((operation state.2).1, (state.1, (operation state.2).2))

/-- The ports of a runtime whose actuator port is the supervisor of `ports.actuators`. -/
def supervisedPorts (ports : Ports W) : Ports (Supervised W) where
  vehicleGateway := ⟨beside ports.vehicleGateway.requestState⟩
  actuators := ActuatorSafetySupervisor.port ports.actuators
  timer := ⟨fun durationMs => beside (ports.timer.arm durationMs), beside ports.timer.cancel⟩
  notifications := ⟨fun notification state =>
    (state.1, ports.notifications.publish notification state.2)⟩

/-- A dispatch of the runtime, or a call of the supervisor's own interface. -/
inductive SystemInput where
  | dispatch (input : Runtime.Input)
  | heartbeat (nowMs : UInt32)
  | poll (nowMs : UInt32) (hardwareStartPermitted : Bool) (feedback : ActuatorFeedback)
  | resetFault (nowMs : UInt32) (feedback : ActuatorFeedback)

def supervisedSystem (ports : Ports W) : Machine (Runtime × Supervised W) SystemInput Unit :=
  fun state input =>
    match input with
    | .dispatch input => ((), (Runtime.dispatch (supervisedPorts ports) state.1 input state.2).2)
    | .heartbeat nowMs =>
        ((), (state.1, (ActuatorSafetySupervisor.heartbeat ports.actuators nowMs state.2).2))
    | .poll nowMs hardwareStartPermitted feedback =>
        ((), (state.1, (ActuatorSafetySupervisor.poll ports.actuators nowMs
          hardwareStartPermitted feedback state.2).2))
    | .resetFault nowMs feedback =>
        ((), (state.1, (ActuatorSafetySupervisor.resetFault ports.actuators nowMs feedback
          state.2).2))

namespace ActuatorSafetySupervisor

structure Within (supervisor : ActuatorSafetySupervisor) (outputs : Outputs) : Prop where
  sound : supervisor.Sound
  ignition : supervisor.ignitionCommanded = true → outputs.ignition = true
  starter : supervisor.starterCommanded = true → outputs.starter = true

/-- What a request can do to the outputs, at worst. -/
def afterRequest (outputs : Outputs) : Request → Outputs
  | .actuator call => outputs.after call
  | _ => outputs

theorem Within.step {before after : ActuatorSafetySupervisor} {outputs : Outputs}
    {request : Request} {answer : Answer} (h : before.Within outputs)
    (hstep : Stepped before request answer after) :
    after.Within (afterRequest outputs request) := by
  have hsound := hstep.sound h.sound
  cases hstep with
  | heartbeat | polled | confirmed => exact ⟨hsound, h.ignition, h.starter⟩
  | reset | secured | remoteControlReleased => exact ⟨hsound, nofun, nofun⟩
  | ignitionEnabled => exact ⟨hsound, fun _ => rfl, h.starter⟩
  | starterEngaged => exact ⟨hsound, h.ignition, fun _ => rfl⟩
  | starterDisengaged => exact ⟨hsound, h.ignition, nofun⟩
  | faulted _ _ _ _ _ hignition hstarter =>
    exact ⟨hsound, by simp [hignition], by simp [hstarter]⟩

theorem Within.perform {outputs : Outputs} {state : Supervised W} (h : state.1.Within outputs)
    (driver : ActuatorPort W) (request : Request) :
    (ActuatorSafetySupervisor.perform driver request state).2.1.Within
      (afterRequest outputs request) :=
  h.step (perform_stepped driver request state h.sound)

end ActuatorSafetySupervisor

/-- Every port call of a dispatch moves the supervisor no further than the outputs. -/
theorem supervisedPorts_within (ports : Ports W) (call : PortCall) (state : Supervised W)
    (outputs : Outputs) (h : state.1.Within outputs) :
    ((supervisedPorts ports).perform call state).2.1.Within (outputs.afterPort call) := by
  cases call with
  | actuator call => exact h.perform ports.actuators (.actuator call)
  | _ => exact h

/-- The coupling of both machines: the controller state permits outputs that the
supervisor stays within. -/
def Coupled (state : Runtime × Supervised W) : Prop :=
  ∃ outputs, state.2.1.Within outputs ∧ Permits state.1.state outputs

theorem coupled_step (ports : Ports W) (state : Runtime × Supervised W) (h : Coupled state)
    (input : SystemInput) : Coupled (supervisedSystem ports state input).2 := by
  cases input with
  | dispatch input =>
    have hwithin : ∀ call reached outputs, reached.1.Within outputs →
        ((supervisedPorts ports).perform call reached).2.1.Within (outputs.afterPort call) :=
      supervisedPorts_within ports
    exact Runtime.dispatch_permits (supervisedPorts ports) hwithin state.1 input state.2 h
  | heartbeat nowMs =>
    rcases h with ⟨outputs, hwithin, hpermits⟩
    exact ⟨outputs, hwithin.perform ports.actuators (.heartbeat nowMs), hpermits⟩
  | poll nowMs permitted feedback =>
    rcases h with ⟨outputs, hwithin, hpermits⟩
    exact ⟨outputs, hwithin.perform ports.actuators (.poll nowMs permitted feedback), hpermits⟩
  | resetFault nowMs feedback =>
    rcases h with ⟨outputs, hwithin, hpermits⟩
    exact ⟨outputs, hwithin.perform ports.actuators (.resetFault nowMs feedback), hpermits⟩

theorem construct_within (driver : ActuatorPort W) (config : ActuatorSafetyConfig) (world : W) :
    (ActuatorSafetySupervisor.construct driver config world).1.Within .off := by
  have hsound := ActuatorSafetySupervisor.construct_sound driver config world
  refine ⟨hsound, ?_, ?_⟩
  all_goals
    unfold ActuatorSafetySupervisor.construct ActuatorSafetySupervisor.safeDownstream
    dsimp only
    repeat' split
    all_goals exact nofun

/-- Whatever trips, resets and refusals happen between and inside dispatches, the
supervisor commands the ignition only in a state that keeps it and the starter
only while the controller is cranking. -/
theorem supervised_outputs (ports : Ports W) (config : ControllerConfig)
    (journal : Option DiagnosticJournal) (safety : ActuatorSafetyConfig) (world : W)
    (inputs : List SystemInput) :
    let start : Runtime × Supervised W := (⟨Controller.new config, journal⟩,
      ActuatorSafetySupervisor.construct ports.actuators safety world)
    let reached := (supervisedSystem ports).final start inputs
    (reached.2.1.ignitionCommanded = true →
      reached.1.state = .preparing ∨ reached.1.state = .cranking ∨ reached.1.state = .running ∨
        reached.1.state = .awaitingTakeover) ∧
    (reached.2.1.starterCommanded = true → reached.1.state = .cranking) := by
  intro start reached
  have hstart : Coupled start :=
    ⟨.off, construct_within ports.actuators safety world, Permits.off _⟩
  rcases (supervisedSystem ports).invariant_induction Coupled hstart (coupled_step ports) inputs
    with ⟨outputs, hwithin, hpermits⟩
  refine ⟨fun hcommanded => ?_, fun hcommanded => ?_⟩
  · exact keepsIgnition_iff.1 (hpermits.ignition (hwithin.ignition hcommanded))
  · exact hpermits.starter (hwithin.starter hcommanded)

end BmwRemote.Infrastructure
