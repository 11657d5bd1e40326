import BmwRemote.Infrastructure.Runtime

/-! The purpose of the runtime: outputs are energised only in the states that
may energise them. `Outputs` is the abstract view of the actuators; every
actuator call moves it, accepted or not, and a run of dispatches never leaves
what the controller state permits. -/
namespace BmwRemote.Infrastructure

open BmwRemote.Application BmwRemote.Lib

universe u

/-- Which outputs may be energised. -/
structure Outputs where
  ignition : Bool
  starter : Bool
  deriving DecidableEq

namespace Outputs

def off : Outputs := ⟨false, false⟩

/-- The worst a call can leave: an energising call may have worked although it
was refused, and the matching release is assumed to work. -/
def after (outputs : Outputs) : ActuatorCall → Outputs
  | .enableIgnition => { outputs with ignition := true }
  | .engageStarter => { outputs with starter := true }
  | .disengageStarter => { outputs with starter := false }
  | .releaseRemoteControl => { outputs with ignition := false }
  | .secureOutputs => off

def afterPort (outputs : Outputs) : PortCall → Outputs
  | .actuator call => outputs.after call
  | _ => outputs

end Outputs

def keepsIgnition : ControllerState → Bool
  | .preparing | .cranking | .running | .awaitingTakeover => true
  | _ => false

theorem keepsIgnition_iff {state : ControllerState} : keepsIgnition state = true ↔
    state = .preparing ∨ state = .cranking ∨ state = .running ∨ state = .awaitingTakeover := by
  cases state <;> decide

/-- The outputs a controller state allows. -/
structure Permits (state : ControllerState) (outputs : Outputs) : Prop where
  starter : outputs.starter = true → state = .cranking
  ignition : outputs.ignition = true → keepsIgnition state = true

theorem Permits.off (state : ControllerState) : Permits state .off := ⟨nofun, nofun⟩

namespace Runtime

variable {W : Type u}

/-- Executing every action of a decision turns outputs that the old state
permits into outputs that the new state permits. -/
theorem handle_permits (controller : Controller) (input : Input) {outputs : Outputs}
    (h : Permits controller.state outputs) :
    let handled := controller.handle input.event input.vehicle
    Permits handled.2.state ((callsOf handled.1).foldl Outputs.afterPort outputs) := by
  intro handled
  rcases controller.handle_cases input.event input.vehicle with
    ⟨state, fault, actions, hcase, hafter, hactions⟩
  have hstate : handled.2.state = state := congrArg (·.state) hafter
  have hcalls : callsOf handled.1 = actions.map (callOf handled.1) :=
    congrArg (List.map (callOf handled.1)) hactions
  rw [hstate, hcalls]
  cases hcase with
  | silent | ignored | alreadyStopped => exact h
  | stopIgnoredInFault | startDisabled | profileRejected | startRejected | beginStopping
  | completeStop | resetRejected | reset | enterFault => exact Permits.off _
  | startAccepted hidle | driveEnded hidle =>
    refine ⟨fun hstarter => ?_, fun hignition => ?_⟩
    · cases hidle.symm.trans (h.starter hstarter)
    · have := h.ignition hignition
      simp [hidle, keepsIgnition] at this
  | beginPreparing hauthorizing =>
    refine ⟨fun hstarter => ?_, fun _ => rfl⟩
    cases hauthorizing.symm.trans (h.starter hstarter)
  | beginCranking => exact ⟨fun _ => rfl, fun _ => rfl⟩
  | beginRunning => exact ⟨nofun, fun _ => rfl⟩
  | beginAwaitingTakeover hrunning =>
    refine ⟨fun hstarter => ?_, fun _ => rfl⟩
    cases hrunning.symm.trans (h.starter hstarter)
  | completeDriverTakeover => exact ⟨nofun, nofun⟩

theorem safingCalls_off (decision : Decision) (outputs : Outputs) :
    (safingCalls decision).foldl Outputs.afterPort outputs = .off := rfl

/-- Whatever a world shows of its outputs, if each port call moves it no further
than `Outputs.afterPort`, then a dispatch leaves only permitted outputs. -/
theorem dispatch_permits (ports : Ports W) {related : W → Outputs → Prop}
    (hcall : ∀ call world outputs, related world outputs →
      related (ports.perform call world).2 (outputs.afterPort call))
    (runtime : Runtime) (input : Input) (world : W)
    (h : ∃ outputs, related world outputs ∧ Permits runtime.state outputs) :
    ∃ outputs, related (dispatch ports runtime input world).2.2 outputs ∧
      Permits (dispatch ports runtime input world).2.1.state outputs := by
  rcases h with ⟨outputs, hrelated, hpermits⟩
  rcases Device.runUntilRefused_related hcall
    (callsOf (runtime.controller.handle input.event input.vehicle).1) world outputs hrelated with
    ⟨reached, hreached, hall⟩
  rcases dispatch_cases ports runtime input world with ⟨hnone, -, hcontroller, hworld⟩ |
    ⟨refused, -, -, hcontroller, -, -, hworld⟩
  · refine ⟨reached, hworld ▸ hreached, ?_⟩
    unfold state
    rw [hcontroller, hall hnone]
    exact handle_permits runtime.controller input hpermits
  · refine ⟨.off, ?_, Permits.off _⟩
    rw [hworld, ← safingCalls_off (dispatch ports runtime input world).1 reached]
    exact Device.runAll_related hcall _ _ _ hreached

end Runtime

def actuatorCalls (log : List (PortCall × Bool)) : List ActuatorCall :=
  log.filterMap fun entry =>
    match entry.1 with
    | .actuator call => some call
    | _ => none

def lastAmong (kinds calls : List ActuatorCall) : Option ActuatorCall :=
  (calls.filter fun call => kinds.contains call).getLast?

def starterCalls : List ActuatorCall := [.engageStarter, .disengageStarter, .secureOutputs]

def ignitionCalls : List ActuatorCall := [.enableIgnition, .releaseRemoteControl, .secureOutputs]

theorem starter_of_lastAmong (calls : List ActuatorCall)
    (h : lastAmong starterCalls calls = some .engageStarter) :
    (calls.foldl Outputs.after .off).starter = true := by
  induction calls using List.reverseRecOn with
  | nil => cases h
  | append_singleton calls call ih =>
    rw [List.foldl_append]
    unfold lastAmong at h ih
    rw [List.filter_append] at h
    cases call with
    | enableIgnition | releaseRemoteControl => exact ih (by simpa [starterCalls] using h)
    | engageStarter => rfl
    | disengageStarter | secureOutputs => simp [starterCalls] at h

theorem ignition_of_lastAmong (calls : List ActuatorCall)
    (h : lastAmong ignitionCalls calls = some .enableIgnition) :
    (calls.foldl Outputs.after .off).ignition = true := by
  induction calls using List.reverseRecOn with
  | nil => cases h
  | append_singleton calls call ih =>
    rw [List.foldl_append]
    unfold lastAmong at h ih
    rw [List.filter_append] at h
    cases call with
    | engageStarter | disengageStarter => exact ih (by simpa [ignitionCalls] using h)
    | enableIgnition => rfl
    | releaseRemoteControl | secureOutputs => simp [ignitionCalls] at h

namespace Runtime

variable {W : Type u}

theorem actuatorCalls_traced (ports : Ports W) (call : PortCall)
    (world : W × List (PortCall × Bool)) :
    (actuatorCalls (ports.traced.perform call world).2.2).foldl Outputs.after .off =
      ((actuatorCalls world.2).foldl Outputs.after .off).afterPort call := by
  rw [Ports.perform_traced]
  change (actuatorCalls (world.2 ++ [(call, _)])).foldl Outputs.after .off = _
  unfold actuatorCalls
  rw [List.filterMap_append, List.foldl_append]
  cases call <;> rfl

/-- After every dispatch of every run: a starter call that nothing followed up
means `Cranking`, an ignition call that nothing followed up means a state that
keeps the ignition. -/
theorem output_safety (ports : Ports W) (config : ControllerConfig)
    (journal : Option DiagnosticJournal) (start : W) (inputs : List Input) :
    let reached := (machine ports.traced).final (⟨Controller.new config, journal⟩, start, []) inputs
    let calls := actuatorCalls reached.2.2
    (lastAmong [.engageStarter, .disengageStarter, .secureOutputs] calls = some .engageStarter →
      reached.1.state = .cranking) ∧
    (lastAmong [.enableIgnition, .releaseRemoteControl, .secureOutputs] calls =
        some .enableIgnition →
      reached.1.state = .preparing ∨ reached.1.state = .cranking ∨ reached.1.state = .running ∨
        reached.1.state = .awaitingTakeover) := by
  intro reached calls
  let related : W × List (PortCall × Bool) → Outputs → Prop := fun world outputs =>
    outputs = (actuatorCalls world.2).foldl Outputs.after .off
  have hcall : ∀ call world outputs, related world outputs →
      related (ports.traced.perform call world).2 (outputs.afterPort call) := by
    intro call world outputs h
    rw [h]
    exact (actuatorCalls_traced ports call world).symm
  have hrun : ∃ outputs, related reached.2 outputs ∧ Permits reached.1.state outputs := by
    refine (machine ports.traced).invariant_induction
      (fun state => ∃ outputs, related state.2 outputs ∧ Permits state.1.state outputs)
      ⟨.off, rfl, Permits.off _⟩ (fun state h input => ?_) inputs
    exact dispatch_permits ports.traced hcall state.1 input state.2 h
  rcases hrun with ⟨outputs, houtputs, hpermits⟩
  refine ⟨fun hlast => ?_, fun hlast => ?_⟩
  · apply hpermits.starter
    rw [houtputs]
    exact starter_of_lastAmong calls hlast
  · apply keepsIgnition_iff.1
    apply hpermits.ignition
    rw [houtputs]
    exact ignition_of_lastAmong calls hlast

end Runtime

end BmwRemote.Infrastructure
