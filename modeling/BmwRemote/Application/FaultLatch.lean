import BmwRemote.Application.StarterAuthorization

/-! The fault latch. A fault code is set exactly while the controller is in
`Fault`; there it drives no output and arms no timer, and only a reset request
on a snapshot with a stopped engine and no critical fault lets it out. -/
namespace BmwRemote.Application.Controller

open BmwRemote.Domain BmwRemote.Lib

def Latched (controller : Controller) : Prop :=
  controller.fault ≠ .none ↔ controller.state = .fault

def drivingActions : List ActionType :=
  [.enableIgnition, .engageStarter, .releaseRemoteControl, .armTimer]

/-- The snapshot a fault can be reset on. -/
structure ShowsRest (config : ControllerConfig) (vehicle : VehicleState) : Prop where
  rpmFresh : vehicle.engineRpm.quality = .fresh
  belowThreshold : vehicle.engineRpm.value < config.safety.runningRpmThreshold
  criticalFresh : vehicle.criticalFaultPresent.quality = .fresh
  noCriticalFault : vehicle.criticalFaultPresent.value = false

theorem engineStopped_iff (controller : Controller) (vehicle : VehicleState) :
    controller.engineStopped vehicle = true ↔
      vehicle.engineRpm.quality = .fresh ∧
        vehicle.engineRpm.value < controller.config.safety.runningRpmThreshold := by
  unfold engineStopped engineIsRunning
  rw [Bool.and_eq_true, Observed.isFresh_iff]
  apply and_congr_right
  intro hquality
  have hfresh : vehicle.engineRpm.isFresh = true := (Observed.isFresh_iff _).2 hquality
  simp [hfresh, safetyPolicy, SafetyPolicy.runningRpmThreshold]

theorem latched_new (config : ControllerConfig) : Latched (new config) := by
  unfold Latched new
  simp

theorem latched_handle {controller : Controller} (h : Latched controller) (event : Event)
    (vehicle : VehicleState) : Latched (controller.handle event vehicle).2 := by
  rcases controller.handle_cases event vehicle with ⟨state, fault, actions, hcase, hafter, -⟩
  rw [hafter]
  -- outside `Fault` the code kept is `None`
  have hclear : controller.state ≠ .fault → controller.fault = .none := by
    intro hstate
    by_contra hfault
    exact hstate (h.1 hfault)
  unfold Latched
  cases hcase with
  | silent | ignored | alreadyStopped | stopIgnoredInFault | startDisabled | profileRejected
  | resetRejected => exact h
  | enterFault code cause => simp [cause.code_ne_none]
  | startRejected | completeStop | reset => simp
  | beginStopping hstate =>
    have hfault := hclear (by rcases hstate with hstate | hstate <;> simp [hstate])
    simp [hfault]
  | _ hstate =>
    have hfault := hclear (by simp [hstate])
    simp [hfault]

theorem drives_of_contains {controller : Controller} {event : Event} {vehicle : VehicleState}
    {type : ActionType} (htype : type ∈ drivingActions)
    (h : (controller.handle event vehicle).1.contains type = true) :
    (controller.state = .idle ∧ controller.config.remoteStartEnabled = true ∧
        controller.profileReadiness.ready = true) ∨
      controller.state ≠ .idle ∧ controller.state ≠ .fault := by
  rcases controller.handle_cases event vehicle with ⟨state, fault, actions, hcase, -, hactions⟩
  rw [controller.contains_eq event vehicle hactions] at h
  have hdriving : type = .enableIgnition ∨ type = .engageStarter ∨
      type = .releaseRemoteControl ∨ type = .armTimer := by
    simpa [drivingActions] using htype
  cases hcase with
  | silent | ignored | alreadyStopped | stopIgnoredInFault | startDisabled | profileRejected
  | startRejected | completeStop | driveEnded | resetRejected | reset | enterFault =>
    rcases hdriving with rfl | rfl | rfl | rfl <;> simp at h
  | startAccepted hstate _ henabled hready => exact .inl ⟨hstate, henabled, hready⟩
  | beginStopping hstate =>
    rcases hstate with hstate | hstate <;> simp [hstate]
  | _ hstate => simp [hstate]

theorem reset_of_leaves_fault {controller : Controller} (hfault : controller.state = .fault)
    (event : Event) (vehicle : VehicleState)
    (hleaves : (controller.handle event vehicle).2.state ≠ .fault) :
    event.type = .resetRequested ∧ ShowsRest controller.config vehicle := by
  rcases controller.handle_cases event vehicle with ⟨state, fault, actions, hcase, hafter, -⟩
  rw [hafter] at hleaves
  cases hcase with
  | reset _ htype hengine hcritical =>
    have hstopped := (engineStopped_iff controller vehicle).1 hengine
    rw [Bool.and_eq_true, Observed.isFresh_iff] at hcritical
    exact ⟨htype, hstopped.1, hstopped.2, hcritical.1, by simpa using hcritical.2⟩
  | silent | ignored | alreadyStopped | stopIgnoredInFault | startDisabled | profileRejected
  | resetRejected => exact absurd hfault hleaves
  | enterFault => exact absurd rfl hleaves
  | completeStop h => simp [hfault] at h
  | beginStopping hstate => simp [hfault] at hstate
  | _ hstate => simp [hfault] at hstate

structure KeepsLatch (config : ControllerConfig) (call : Call) : Prop where
  drivesNothing : call.output.previousState = .fault →
    ∀ type ∈ drivingActions, call.output.contains type = false
  leavesByReset : call.before.state = .fault → call.after.state ≠ .fault →
    call.input.1.type = .resetRequested ∧ ShowsRest config call.input.2

theorem keepsLatch_step (controller : Controller) (input : Event × VehicleState) :
    KeepsLatch controller.config (machine.stepOf controller input) := by
  constructor
  · intro hfault type htype
    have hstate := (controller.handle_frame input.1 input.2).1.symm.trans hfault
    by_contra hcontains
    rcases drives_of_contains htype (eq_true_of_ne_false hcontains) with hidle | hactive
    · simp [hstate] at hidle
    · exact hactive.2 hstate
  · intro hfault hleaves
    exact reset_of_leaves_fault hfault input.1 input.2 hleaves

/-- In every run from construction: the fault is set exactly in `Fault`, nothing
is driven from there, and only a reset on a resting vehicle leaves it. -/
theorem fault_latch (config : ControllerConfig) (inputs : List (Event × VehicleState)) :
    ((machine.final (new config) inputs).fault ≠ .none ↔
      (machine.final (new config) inputs).state = .fault) ∧
    ∀ call ∈ machine.transcript (new config) inputs,
      (call.output.previousState = .fault →
        ∀ type ∈ drivingActions, call.output.contains type = false) ∧
      (call.before.state = .fault → call.after.state ≠ .fault →
        call.input.1.type = .resetRequested ∧ ShowsRest config call.input.2) := by
  have hrun := @Machine.history_induction _ _ _ machine
    (fun controller past => controller.config = config ∧ Latched controller ∧
      ∀ call ∈ past, KeepsLatch config call)
    (new config) ⟨rfl, latched_new config, by simp⟩
    (by
      intro controller past h input
      refine ⟨?_, latched_handle h.2.1 input.1 input.2, ?_⟩
      · exact (controller.handleEvent_config input.1 input.2).trans h.1
      · intro call hmem
        rw [List.mem_append, List.mem_singleton] at hmem
        cases hmem with
        | inl hpast => exact h.2.2 call hpast
        | inr hlast =>
          rw [hlast, ← h.1]
          exact keepsLatch_step controller input)
    inputs
  refine ⟨hrun.2.1, fun call hmem => ?_⟩
  have hcall := hrun.2.2 call hmem
  exact ⟨hcall.drivesNothing, hcall.leavesByReset⟩

end BmwRemote.Application.Controller
