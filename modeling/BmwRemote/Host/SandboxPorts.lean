import BmwRemote.Host.SandboxSession
import BmwRemote.Infrastructure.SupervisorCalls

/-! The ports of the sandbox: a dispatch moves the commanded outputs and the timer as the
decision says, or ends in `Fault` with a tripped supervisor and no timer. -/
namespace BmwRemote.Host

open BmwRemote.Domain BmwRemote.Application BmwRemote.Infrastructure BmwRemote.Lib
open ActuatorSafetySupervisor (Called Stepped passedOn trip AcceptsAll)

/-! Port calls. -/

def outputsOf (state : ControllerState) : Outputs := ⟨keepsIgnition state, state == .cranking⟩

def commanded (supervisor : ActuatorSafetySupervisor) : Outputs :=
  ⟨supervisor.ignitionCommanded, supervisor.starterCommanded⟩

/-- What the port calls of a dispatch move. -/
structure Panel where
  outputs : Outputs
  starterEngagedAtMs : UInt32
  timer : SandboxTimer
  deriving DecidableEq

def panel (state : Supervised SandboxWorld) : Panel :=
  ⟨commanded state.1, state.1.starterEngagedAtMs, state.2.timer⟩

def Panel.after (observedMs : UInt32) (panel : Panel) : PortCall → Panel
  | .actuator .engageStarter =>
    { panel with outputs := panel.outputs.after .engageStarter, starterEngagedAtMs := observedMs }
  | .actuator call => { panel with outputs := panel.outputs.after call }
  | .arm durationMs => { panel with timer := panel.timer.arm durationMs }
  | .cancel => { panel with timer := panel.timer.cancel }
  | _ => panel

theorem outputs_foldl_after (observedMs : UInt32) (calls : List PortCall) (panel : Panel) :
    (calls.foldl (Panel.after observedMs) panel).outputs =
      calls.foldl Outputs.afterPort panel.outputs := by
  induction calls generalizing panel with
  | nil => rfl
  | cons call rest ih =>
    rw [List.foldl_cons, List.foldl_cons, ih]
    congr 1
    cases call with
    | actuator call => cases call <;> rfl
    | _ => rfl

theorem sandbox_called (state : Supervised SandboxWorld) (call : ActuatorCall) :
    Called sandboxPorts.actuators state call
      ((supervisedPorts sandboxPorts).perform (.actuator call) state) := by
  have haccepts : AcceptsAll sandboxPorts.actuators := by
    intro call world
    cases call <;> rfl
  exact haccepts.called state call

theorem timer_called {state : Supervised SandboxWorld} {call : ActuatorCall}
    {result : Bool × Supervised SandboxWorld}
    (h : Called sandboxPorts.actuators state call result) :
    result.2.2.timer = state.2.timer := by
  cases h with
  | accepted => cases call <;> rfl
  | latched | tripped => rfl

theorem panel_called {state : Supervised SandboxWorld} {call : ActuatorCall}
    {result : Bool × Supervised SandboxWorld}
    (h : Called sandboxPorts.actuators state call result) (haccepted : result.1 = true) :
    panel result.2 = (panel state).after state.1.lastObservedMs (.actuator call) := by
  cases h with
  | accepted hallows =>
    cases call with
    | releaseRemoteControl =>
      have hstarter : state.1.starterCommanded = false := hallows.2
      unfold panel commanded
      dsimp only [Panel.after, Outputs.after]
      rw [hstarter]
      rfl
    | _ => rfl
  | latched | tripped => cases haccepted

def Mirrored (state : Supervised SandboxWorld) : Prop :=
  state.2.driver = ⟨state.1.ignitionCommanded, state.1.starterCommanded⟩

theorem mirrored_trip (fault : ActuatorSupervisorFault) (state : Supervised SandboxWorld) :
    Mirrored (trip sandboxPorts.actuators fault state) := by
  unfold trip
  dsimp only
  split <;> rfl

theorem mirrored_called {state : Supervised SandboxWorld} {call : ActuatorCall}
    {result : Bool × Supervised SandboxWorld} (hmirrored : Mirrored state)
    (h : Called sandboxPorts.actuators state call result) : Mirrored result.2 := by
  cases h with
  | accepted =>
    unfold Mirrored at hmirrored ⊢
    cases call with
    | enableIgnition =>
      change { state.2.driver with ignitionActive := true } = _
      rw [hmirrored]
      rfl
    | engageStarter =>
      change { state.2.driver with starterActive := true } = _
      rw [hmirrored]
      rfl
    | disengageStarter =>
      change { state.2.driver with starterActive := false } = _
      rw [hmirrored]
      rfl
    | releaseRemoteControl | secureOutputs => rfl
  | latched => exact hmirrored
  | tripped fault => exact mirrored_trip fault state

/-- A sound supervisor whose outputs the driver shows. -/
structure Upright (state : Supervised SandboxWorld) : Prop where
  sound : state.1.Sound
  mirrored : Mirrored state

section Upright

variable {state : Supervised SandboxWorld}

theorem Upright.heartbeat (h : Upright state) (nowMs : UInt32) :
    Upright (ActuatorSafetySupervisor.heartbeat sandboxPorts.actuators nowMs state).2 := by
  refine ⟨(ActuatorSafetySupervisor.heartbeat_stepped _ nowMs state h.sound).sound h.sound, ?_⟩
  unfold ActuatorSafetySupervisor.heartbeat
  rcases ActuatorSafetySupervisor.observeClock_cases sandboxPorts.actuators nowMs state with
    hclock | hclock
  · rw [hclock]
    exact mirrored_trip _ state
  · rw [hclock]
    simp only [Bool.not_true, Bool.false_eq_true, ↓reduceIte]
    split
    · exact h.mirrored
    split
    · exact mirrored_trip _ _
    · exact h.mirrored

theorem Upright.poll (h : Upright state) (nowMs : UInt32) (permitted : Bool)
    (feedback : ActuatorFeedback) : Upright (ActuatorSafetySupervisor.poll sandboxPorts.actuators
      nowMs permitted feedback state).2 := by
  refine ⟨(ActuatorSafetySupervisor.poll_stepped _ nowMs permitted feedback state
    h.sound).sound h.sound, ?_⟩
  unfold ActuatorSafetySupervisor.poll
  rcases ActuatorSafetySupervisor.observeClock_cases sandboxPorts.actuators nowMs state with
    hclock | hclock
  · rw [hclock]
    exact mirrored_trip _ state
  · rw [hclock]
    simp only [Bool.not_true, Bool.false_eq_true, ↓reduceIte]
    split
    · exact h.mirrored
    split
    · exact mirrored_trip _ _
    split
    · exact h.mirrored
    · exact h.mirrored

theorem Upright.resetFault (h : Upright state) (nowMs : UInt32) (feedback : ActuatorFeedback) :
    Upright (ActuatorSafetySupervisor.resetFault sandboxPorts.actuators nowMs feedback state).2 := by
  refine ⟨(ActuatorSafetySupervisor.resetFault_stepped _ nowMs feedback state).sound h.sound, ?_⟩
  unfold ActuatorSafetySupervisor.resetFault
  rcases ActuatorSafetySupervisor.observeClock_cases sandboxPorts.actuators nowMs state with
    hclock | hclock
  · rw [hclock]
    exact mirrored_trip _ state
  · rw [hclock]
    simp only [Bool.not_true, Bool.false_eq_true, ↓reduceIte]
    split
    · rfl
    split
    · rfl
    split <;> rfl

theorem Upright.perform (h : Upright state) (call : PortCall) :
    Upright ((supervisedPorts sandboxPorts).perform call state).2 := by
  cases call with
  | actuator call =>
    exact ⟨(ActuatorSafetySupervisor.perform_stepped sandboxPorts.actuators (.actuator call) state
      h.sound).sound h.sound, mirrored_called h.mirrored (sandbox_called state call)⟩
  | _ => exact ⟨h.sound, h.mirrored⟩

end Upright

/-! Dispatches. -/

section Dispatch

variable (runtime : Runtime) (input : Runtime.Input) (state : Supervised SandboxWorld)

theorem upright_dispatch (h : Upright state) :
    Upright (Runtime.dispatch (supervisedPorts sandboxPorts) runtime input state).2.2 :=
  Runtime.dispatch_keeps _ (fun call _ hupright => hupright.perform call) runtime input state h

theorem watch_perform (call : PortCall) :
    ((supervisedPorts sandboxPorts).perform call state).2.1.watch = state.1.watch := by
  cases call with
  | actuator call => exact (sandbox_called state call).watch
  | _ => rfl

theorem watch_dispatch :
    (Runtime.dispatch (supervisedPorts sandboxPorts) runtime input state).2.2.1.watch =
      state.1.watch :=
  Runtime.dispatch_keeps _
    (fun call reached hwatch => (watch_perform reached call).trans hwatch) runtime input state rfl

theorem panel_perform (call : PortCall)
    (haccepted : ((supervisedPorts sandboxPorts).perform call state).1 = true) :
    panel ((supervisedPorts sandboxPorts).perform call state).2 =
        (panel state).after state.1.lastObservedMs call ∧
      ((supervisedPorts sandboxPorts).perform call state).2.1.fault = state.1.fault := by
  cases call with
  | actuator call =>
    have hcalled := sandbox_called state call
    have hfault := hcalled.fault
    rw [if_pos haccepted] at hfault
    exact ⟨panel_called hcalled haccepted, hfault⟩
  | _ => exact ⟨rfl, rfl⟩

theorem fault_of_refused {calls : List PortCall} {refused : PortCall}
    (h : ((supervisedPorts sandboxPorts).perform.runUntilRefused calls state).1 = some refused) :
    ((supervisedPorts sandboxPorts).perform.runUntilRefused calls state).2.1.fault ≠ .none := by
  rcases Device.runUntilRefused_refused _ _ state h with ⟨reached, hreached⟩
  cases refused with
  | actuator call =>
    have hfault := (sandbox_called reached call).fault
    rw [hreached] at hfault
    exact hfault
  | _ => cases congrArg Prod.fst hreached

theorem safed_of_fault (decision : Decision) (hfault : state.1.fault ≠ .none) :
    let safed := (supervisedPorts sandboxPorts).perform.runAll (Runtime.safingCalls decision) state
    safed.1.fault ≠ .none ∧ safed.2.timer = {} := by
  have hcall : ∀ (call : ActuatorCall) (reached : Supervised SandboxWorld),
      (reached.1.fault ≠ .none ∧ reached.2.timer = {}) →
      ((supervisedPorts sandboxPorts).perform (.actuator call) reached).2.1.fault ≠ .none ∧
        ((supervisedPorts sandboxPorts).perform (.actuator call) reached).2.2.timer = {} := by
    intro call reached hreached
    have hcalled := sandbox_called reached call
    refine ⟨?_, (timer_called hcalled).trans hreached.2⟩
    have hanswer := hcalled.fault
    split at hanswer
    · rw [hanswer]
      exact hreached.1
    · exact hanswer
  exact hcall .secureOutputs _ (hcall .disengageStarter _ ⟨hfault, rfl⟩)

theorem dispatch_outcome :
    let handled := runtime.controller.handle input.event input.vehicle
    let result := Runtime.dispatch (supervisedPorts sandboxPorts) runtime input state
    (result.2.1.controller = handled.2 ∧ result.2.2.1.fault = state.1.fault ∧
      panel result.2.2 = (Runtime.callsOf handled.1).foldl
        (Panel.after state.1.lastObservedMs) (panel state)) ∨
    (result.2.1.controller.config = runtime.controller.config ∧ result.2.1.state = .fault ∧
      result.2.2.1.fault ≠ .none ∧ result.2.2.2.timer = {}) := by
  intro handled result
  rcases Runtime.dispatch_cases (supervisedPorts sandboxPorts) runtime input state with
    ⟨hnone, -, hcontroller, hworld⟩ | ⟨refused, hrefused, -, hcontroller, -, -, hworld⟩
  · let moved : Supervised SandboxWorld → Panel → Prop := fun reached shown =>
      panel reached = shown ∧ reached.1.fault = state.1.fault ∧ reached.1.watch = state.1.watch
    have hcall : ∀ call reached shown, moved reached shown →
        ((supervisedPorts sandboxPorts).perform call reached).1 = true →
        moved ((supervisedPorts sandboxPorts).perform call reached).2
          (shown.after state.1.lastObservedMs call) := by
      rintro call reached shown ⟨rfl, hfault, hwatch⟩ haccepted
      have hpanel := panel_perform reached call haccepted
      have hobserved : reached.1.lastObservedMs = state.1.lastObservedMs :=
        congrArg (·.lastObservedMs) hwatch
      rw [hobserved] at hpanel
      exact ⟨hpanel.1, hpanel.2.trans hfault, (watch_perform reached call).trans hwatch⟩
    have hrun := Device.runUntilRefused_accepted hcall (Runtime.callsOf handled.1) state
      (panel state) ⟨rfl, rfl, rfl⟩ hnone
    refine .inl ⟨hcontroller, ?_, ?_⟩
    · exact (congrArg (·.1.fault) hworld).trans hrun.2.1
    · exact (congrArg panel hworld).trans hrun.1
  · have hfault := fault_of_refused state hrefused
    have hsafed := safed_of_fault _ result.1 hfault
    refine .inr ⟨congrArg (·.config) hcontroller, congrArg (·.state) hcontroller, ?_⟩
    rw [← hworld] at hsafed
    exact hsafed

end Dispatch

end BmwRemote.Host
