import BmwRemote.Application.Controller

/-! Everything one call of `Controller.handle` can do, with the guard of each
case. The invariants of the controller are read off this list; no later proof
unfolds a handler. -/
namespace BmwRemote.Application.Controller

open BmwRemote.Domain

/-- Why a call enters the fault state. -/
inductive FaultCause (controller : Controller) (event : Event) (vehicle : VehicleState) :
    FaultCode → Prop where
  | infrastructure (htype : event.type = .infrastructureFailure) :
      FaultCause controller event vehicle
        (if event.fault = .none then .internalError else event.fault)
  | startInterlock (hstate : controller.state = .preparing)
      (htype : event.type = .vehicleStateUpdated ∨ event.type = .timerElapsed)
      (hrefused : (controller.safetyPolicy.assessStart vehicle).approved = false) :
      FaultCause controller event vehicle .safetyInterlock
  | crankingInterlock (hstate : controller.state = .cranking)
      (htype : event.type = .vehicleStateUpdated)
      (hrefused : (controller.safetyPolicy.assessCranking vehicle).approved = false) :
      FaultCause controller event vehicle .safetyInterlock
  | remoteRunInterlock (hstate : controller.state = .running)
      (htype : event.type = .vehicleStateUpdated) (hentry : driverEntryDetected vehicle = false)
      (hrefused : (controller.safetyPolicy.assessRemoteRun vehicle).approved = false) :
      FaultCause controller event vehicle .safetyInterlock
  | entryInterlock (hstate : controller.state = .running)
      (htype : event.type = .vehicleStateUpdated) (hentry : driverEntryDetected vehicle = true)
      (hmode : controller.config.driverEntryMode = .requireTakeover)
      (hrefused : (controller.safetyPolicy.assessDriverTakeover vehicle).approved = false) :
      FaultCause controller event vehicle .safetyInterlock
  | takeoverInterlock (hstate : controller.state = .awaitingTakeover)
      (htype : event.type = .vehicleStateUpdated ∨ event.type = .driverTakeoverConfirmed)
      (hrefused : (controller.safetyPolicy.assessDriverTakeover vehicle).approved = false) :
      FaultCause controller event vehicle .safetyInterlock
  | authorizationTimeout (hstate : controller.state = .authorizing)
      (htype : event.type = .timerElapsed) :
      FaultCause controller event vehicle .authorizationTimeout
  | crankTimeout (hstate : controller.state = .cranking) (htype : event.type = .timerElapsed) :
      FaultCause controller event vehicle .crankTimeout
  | stopTimeout (hstate : controller.state = .stopping) (htype : event.type = .timerElapsed) :
      FaultCause controller event vehicle .stopTimeout

theorem FaultCause.code_ne_none {controller : Controller} {event : Event}
    {vehicle : VehicleState} {code : FaultCode} (h : FaultCause controller event vehicle code) :
    code ≠ .none := by
  cases h with
  | infrastructure => split <;> simp_all
  | _ => decide

def engineStopped (controller : Controller) (vehicle : VehicleState) : Bool :=
  vehicle.engineRpm.isFresh && !controller.engineIsRunning vehicle

inductive Silent (controller : Controller) (event : Event) (vehicle : VehicleState) : Prop where
  | resting (hstate : controller.state = .idle ∨ controller.state = .fault)
      (htype : event.type = .vehicleStateUpdated ∨ event.type = .timerElapsed)
  | preparing (hstate : controller.state = .preparing) (htype : event.type = .vehicleStateUpdated)
      (happroved : (controller.safetyPolicy.assessStart vehicle).approved = true)
  | cranking (hstate : controller.state = .cranking) (htype : event.type = .vehicleStateUpdated)
      (happroved : (controller.safetyPolicy.assessCranking vehicle).approved = true)
      (hengine : controller.engineIsRunning vehicle = false)
  | running (hstate : controller.state = .running) (htype : event.type = .vehicleStateUpdated)
      (hentry : driverEntryDetected vehicle = false)
      (happroved : (controller.safetyPolicy.assessRemoteRun vehicle).approved = true)
  | awaitingTakeover (hstate : controller.state = .awaitingTakeover)
      (htype : event.type = .vehicleStateUpdated)
      (happroved : (controller.safetyPolicy.assessDriverTakeover vehicle).approved = true)
  | driving (hstate : controller.state = .driverControl)
      (htype : event.type = .timerElapsed ∨
        (event.type = .vehicleStateUpdated ∧ controller.engineStopped vehicle = false))
  | stopping (hstate : controller.state = .stopping) (htype : event.type = .vehicleStateUpdated)
      (hengine : controller.engineStopped vehicle = false)

inductive StopCause (controller : Controller) (event : Event) (vehicle : VehicleState) :
    Prop where
  | requested (htype : event.type = .remoteStopRequested)
  | elapsed (htype : event.type = .timerElapsed)
  | driverEntry (hstate : controller.state = .running)
      (htype : event.type = .vehicleStateUpdated) (hentry : driverEntryDetected vehicle = true)
      (hmode : controller.config.driverEntryMode ≠ .requireTakeover)

/-- The state, the fault and the actions a call leaves, under the guard that
selects them. -/
inductive Handled (controller : Controller) (event : Event) (vehicle : VehicleState) :
    ControllerState → FaultCode → List Action → Prop where
  | silent (h : Silent controller event vehicle) :
      Handled controller event vehicle controller.state controller.fault []
  | ignored
      (h : (event.type = .remoteStartRequested ∧ controller.state ≠ .idle) ∨
        (event.type = .remoteStopRequested ∧
          (controller.state = .driverControl ∨ controller.state = .stopping)) ∨
        (event.type = .driverTakeoverConfirmed ∧ controller.state ≠ .awaitingTakeover) ∨
        (event.type = .resetRequested ∧ controller.state ≠ .fault)) :
      Handled controller event vehicle controller.state controller.fault
        [⟨.notifyRequestIgnored, 0⟩]
  | alreadyStopped (hstate : controller.state = .idle)
      (htype : event.type = .remoteStopRequested) :
      Handled controller event vehicle controller.state controller.fault [⟨.notifyStopped, 0⟩]
  | stopIgnoredInFault (hstate : controller.state = .fault)
      (htype : event.type = .remoteStopRequested) :
      Handled controller event vehicle controller.state controller.fault
        [⟨.secureOutputs, 0⟩, ⟨.notifyRequestIgnored, 0⟩]
  | startDisabled (hstate : controller.state = .idle)
      (htype : event.type = .remoteStartRequested)
      (hdisabled : controller.config.remoteStartEnabled = false) :
      Handled controller event vehicle controller.state controller.fault
        [⟨.secureOutputs, 0⟩, ⟨.notifyRemoteStartDisabled, 0⟩]
  | profileRejected (hstate : controller.state = .idle)
      (htype : event.type = .remoteStartRequested)
      (henabled : controller.config.remoteStartEnabled = true)
      (hready : controller.profileReadiness.ready = false) :
      Handled controller event vehicle controller.state controller.fault
        [⟨.secureOutputs, 0⟩, ⟨.notifyProfileRejected, 0⟩]
  | startAccepted (hstate : controller.state = .idle)
      (htype : event.type = .remoteStartRequested)
      (henabled : controller.config.remoteStartEnabled = true)
      (hready : controller.profileReadiness.ready = true) :
      Handled controller event vehicle .authorizing controller.fault
        [⟨.requestVehicleState, 0⟩, ⟨.armTimer, controller.config.authorizationTimeoutMs⟩]
  | startRejected (hstate : controller.state = .authorizing)
      (htype : event.type = .vehicleStateUpdated)
      (hrefused : (controller.safetyPolicy.assessStart vehicle).approved = false) :
      Handled controller event vehicle .idle .none
        [⟨.cancelTimer, 0⟩, ⟨.secureOutputs, 0⟩, ⟨.notifyStartRejected, 0⟩]
  | beginPreparing (hstate : controller.state = .authorizing)
      (htype : event.type = .vehicleStateUpdated)
      (happroved : (controller.safetyPolicy.assessStart vehicle).approved = true) :
      Handled controller event vehicle .preparing controller.fault
        [⟨.cancelTimer, 0⟩, ⟨.enableIgnition, 0⟩, ⟨.notifyStartAccepted, 0⟩,
          ⟨.armTimer, controller.config.preparationDelayMs⟩]
  | beginCranking (hstate : controller.state = .preparing) (htype : event.type = .timerElapsed)
      (happroved : (controller.safetyPolicy.assessStart vehicle).approved = true) :
      Handled controller event vehicle .cranking controller.fault
        [⟨.cancelTimer, 0⟩, ⟨.engageStarter, 0⟩,
          ⟨.armTimer, controller.config.maximumCrankTimeMs⟩]
  | beginRunning (hstate : controller.state = .cranking)
      (htype : event.type = .vehicleStateUpdated)
      (happroved : (controller.safetyPolicy.assessCranking vehicle).approved = true)
      (hengine : controller.engineIsRunning vehicle = true) :
      Handled controller event vehicle .running controller.fault
        [⟨.cancelTimer, 0⟩, ⟨.disengageStarter, 0⟩, ⟨.notifyRunning, 0⟩,
          ⟨.armTimer, controller.config.maximumRemoteRunTimeMs⟩]
  | beginAwaitingTakeover (hstate : controller.state = .running)
      (htype : event.type = .vehicleStateUpdated) (hentry : driverEntryDetected vehicle = true)
      (hmode : controller.config.driverEntryMode = .requireTakeover)
      (happroved : (controller.safetyPolicy.assessDriverTakeover vehicle).approved = true) :
      Handled controller event vehicle .awaitingTakeover controller.fault
        [⟨.cancelTimer, 0⟩, ⟨.notifyTakeoverPending, 0⟩,
          ⟨.armTimer, controller.config.driverTakeoverTimeoutMs⟩]
  | completeDriverTakeover (hstate : controller.state = .awaitingTakeover)
      (htype : event.type = .driverTakeoverConfirmed)
      (happroved : (controller.safetyPolicy.assessDriverTakeover vehicle).approved = true) :
      Handled controller event vehicle .driverControl controller.fault
        [⟨.cancelTimer, 0⟩, ⟨.disengageStarter, 0⟩, ⟨.releaseRemoteControl, 0⟩,
          ⟨.notifyTakeoverComplete, 0⟩]
  | beginStopping (hstate : controller.state = .running ∨ controller.state = .awaitingTakeover)
      (cause : StopCause controller event vehicle) :
      Handled controller event vehicle .stopping controller.fault
        [⟨.cancelTimer, 0⟩, ⟨.disengageStarter, 0⟩, ⟨.secureOutputs, 0⟩, ⟨.notifyStopping, 0⟩,
          ⟨.armTimer, controller.config.stopConfirmationTimeoutMs⟩]
  | completeStop
      (h : (event.type = .remoteStopRequested ∧ (controller.state = .authorizing ∨
          controller.state = .preparing ∨ controller.state = .cranking)) ∨
        (event.type = .vehicleStateUpdated ∧ controller.state = .stopping ∧
          controller.engineStopped vehicle = true)) :
      Handled controller event vehicle .idle .none
        [⟨.cancelTimer, 0⟩, ⟨.disengageStarter, 0⟩, ⟨.secureOutputs, 0⟩, ⟨.notifyStopped, 0⟩]
  | driveEnded (hstate : controller.state = .driverControl)
      (htype : event.type = .vehicleStateUpdated)
      (hengine : controller.engineStopped vehicle = true) :
      Handled controller event vehicle .idle controller.fault [⟨.notifyReady, 0⟩]
  | resetRejected (hstate : controller.state = .fault) (htype : event.type = .resetRequested)
      (hrefused : controller.engineStopped vehicle = false ∨
        (vehicle.criticalFaultPresent.isFresh && !vehicle.criticalFaultPresent.value) = false) :
      Handled controller event vehicle controller.state controller.fault
        [⟨.secureOutputs, 0⟩, ⟨.notifyResetRejected, 0⟩]
  | reset (hstate : controller.state = .fault) (htype : event.type = .resetRequested)
      (hengine : controller.engineStopped vehicle = true)
      (hcritical :
        (vehicle.criticalFaultPresent.isFresh && !vehicle.criticalFaultPresent.value) = true) :
      Handled controller event vehicle .idle .none
        [⟨.cancelTimer, 0⟩, ⟨.secureOutputs, 0⟩, ⟨.notifyReady, 0⟩]
  | enterFault (code : FaultCode) (cause : FaultCause controller event vehicle code) :
      Handled controller event vehicle .fault code
        [⟨.cancelTimer, 0⟩, ⟨.disengageStarter, 0⟩, ⟨.secureOutputs, 0⟩, ⟨.notifyFault, 0⟩]

def Leaves (controller : Controller) (event : Event) (vehicle : VehicleState)
    (result : Handling) : Prop :=
  Handled controller event vehicle result.1.state result.1.fault result.2.actions.toList

section Handlers

variable {controller : Controller} {event : Event} {vehicle : VehicleState}

/-! The transitions that several handlers end in. -/

theorem beginStopping_leaves
    (hstate : controller.state = .running ∨ controller.state = .awaitingTakeover)
    (cause : StopCause controller event vehicle) :
    Leaves controller event vehicle (controller.beginStopping controller.openDecision) := by
  have hactions : (controller.beginStopping controller.openDecision).2.actions.toList =
      [⟨.cancelTimer, 0⟩, ⟨.disengageStarter, 0⟩, ⟨.secureOutputs, 0⟩, ⟨.notifyStopping, 0⟩,
        ⟨.armTimer, controller.config.stopConfirmationTimeoutMs⟩] := by
    simp [beginStopping, transition, openDecision, Decision.add, ActionList.empty]
  unfold Leaves
  rw [hactions]
  exact .beginStopping hstate cause

theorem completeStop_leaves
    (h : (event.type = .remoteStopRequested ∧ (controller.state = .authorizing ∨
        controller.state = .preparing ∨ controller.state = .cranking)) ∨
      (event.type = .vehicleStateUpdated ∧ controller.state = .stopping ∧
        controller.engineStopped vehicle = true)) :
    Leaves controller event vehicle (controller.completeStop controller.openDecision) :=
  .completeStop h

theorem enterFault_leaves {code : FaultCode} (cause : FaultCause controller event vehicle code)
    {decision : Decision} (hopen : decision.actions = .empty) :
    Leaves controller event vehicle (controller.enterFault decision code) := by
  obtain ⟨_, _, _, _, _, _, actions⟩ := decision
  obtain rfl : actions = .empty := hopen
  exact .enterFault code cause

theorem handleStartRequest_leaves (htype : event.type = .remoteStartRequested) :
    Leaves controller event vehicle (controller.handleStartRequest controller.openDecision) := by
  unfold handleStartRequest
  split
  · rename_i hstate
    exact .ignored (.inl ⟨htype, hstate⟩)
  rename_i hstate
  have hidle : controller.state = .idle := by simpa using hstate
  split
  · rename_i hdisabled
    exact .startDisabled hidle htype hdisabled
  rename_i henabled
  have henabled : controller.config.remoteStartEnabled = true := by simpa using henabled
  split
  · rename_i hready
    exact .profileRejected hidle htype henabled hready
  · rename_i hready
    exact .startAccepted hidle htype henabled (by simpa using hready)

theorem handleStopRequest_leaves (htype : event.type = .remoteStopRequested) :
    Leaves controller event vehicle (controller.handleStopRequest controller.openDecision) := by
  unfold handleStopRequest
  split
  · rename_i hstate
    exact completeStop_leaves (.inl ⟨htype, .inl hstate⟩)
  · rename_i hstate
    exact completeStop_leaves (.inl ⟨htype, .inr (.inl hstate)⟩)
  · rename_i hstate
    exact completeStop_leaves (.inl ⟨htype, .inr (.inr hstate)⟩)
  · rename_i hstate
    exact beginStopping_leaves (.inl hstate) (.requested htype)
  · rename_i hstate
    exact beginStopping_leaves (.inr hstate) (.requested htype)
  · rename_i hstate
    exact .ignored (.inr (.inl ⟨htype, .inl hstate⟩))
  · rename_i hstate
    exact .stopIgnoredInFault hstate htype
  · rename_i hstate
    exact .alreadyStopped hstate htype
  · rename_i hstate
    exact .ignored (.inr (.inl ⟨htype, .inr hstate⟩))

theorem handleVehicleUpdate_leaves (htype : event.type = .vehicleStateUpdated) :
    Leaves controller event vehicle
      (controller.handleVehicleUpdate controller.openDecision vehicle) := by
  unfold handleVehicleUpdate
  split <;> rename_i hstate
  · -- authorizing
    dsimp only
    split
    · rename_i happroved
      exact .beginPreparing hstate htype happroved
    · rename_i hrefused
      exact .startRejected hstate htype (by simpa using hrefused)
  · -- preparing
    dsimp only
    split
    · rename_i happroved
      exact .silent (.preparing hstate htype happroved)
    · rename_i hrefused
      exact enterFault_leaves (.startInterlock hstate (.inl htype) (by simpa using hrefused)) rfl
  · -- cranking
    dsimp only
    split
    · rename_i hrefused
      exact enterFault_leaves (.crankingInterlock hstate htype hrefused) rfl
    rename_i happroved
    have happroved : (controller.safetyPolicy.assessCranking vehicle).approved = true := by
      simpa using happroved
    split
    · rename_i hengine
      exact .beginRunning hstate htype happroved hengine
    · rename_i hengine
      exact .silent (.cranking hstate htype happroved (by simpa using hengine))
  · -- running
    dsimp only
    split
    · rename_i hentry
      split
      · rename_i hmode
        split
        · rename_i happroved
          exact .beginAwaitingTakeover hstate htype hentry hmode happroved
        · rename_i hrefused
          exact enterFault_leaves
            (.entryInterlock hstate htype hentry hmode (by simpa using hrefused)) rfl
      · rename_i hmode
        exact beginStopping_leaves (.inl hstate) (.driverEntry hstate htype hentry hmode)
    · rename_i hentry
      have hentry : driverEntryDetected vehicle = false := by simpa using hentry
      split
      · rename_i happroved
        exact .silent (.running hstate htype hentry happroved)
      · rename_i hrefused
        exact enterFault_leaves
          (.remoteRunInterlock hstate htype hentry (by simpa using hrefused)) rfl
  · -- awaiting takeover
    dsimp only
    split
    · rename_i happroved
      exact .silent (.awaitingTakeover hstate htype happroved)
    · rename_i hrefused
      exact enterFault_leaves (.takeoverInterlock hstate (.inl htype) (by simpa using hrefused)) rfl
  · -- driver control
    split
    · rename_i hengine
      exact .driveEnded hstate htype hengine
    · rename_i hengine
      exact .silent (.driving hstate (.inr ⟨htype, by simpa [engineStopped] using hengine⟩))
  · -- stopping
    split
    · rename_i hengine
      exact completeStop_leaves (.inr ⟨htype, hstate, hengine⟩)
    · rename_i hengine
      exact .silent (.stopping hstate htype (by simpa [engineStopped] using hengine))
  · exact .silent (.resting (.inl hstate) (.inl htype))
  · exact .silent (.resting (.inr hstate) (.inl htype))

theorem handleTimer_leaves (htype : event.type = .timerElapsed) :
    Leaves controller event vehicle (controller.handleTimer controller.openDecision vehicle) := by
  unfold handleTimer
  split <;> rename_i hstate
  · exact enterFault_leaves (.authorizationTimeout hstate htype) rfl
  · dsimp only
    split
    · rename_i happroved
      exact .beginCranking hstate htype happroved
    · rename_i hrefused
      exact enterFault_leaves (.startInterlock hstate (.inr htype) (by simpa using hrefused)) rfl
  · exact enterFault_leaves (.crankTimeout hstate htype) rfl
  · exact beginStopping_leaves (.inl hstate) (.elapsed htype)
  · exact beginStopping_leaves (.inr hstate) (.elapsed htype)
  · exact .silent (.driving hstate (.inl htype))
  · exact enterFault_leaves (.stopTimeout hstate htype) rfl
  · exact .silent (.resting (.inl hstate) (.inr htype))
  · exact .silent (.resting (.inr hstate) (.inr htype))

theorem handleDriverTakeover_leaves (htype : event.type = .driverTakeoverConfirmed) :
    Leaves controller event vehicle
      (controller.handleDriverTakeover controller.openDecision vehicle) := by
  unfold handleDriverTakeover
  split
  · rename_i hstate
    exact .ignored (.inr (.inr (.inl ⟨htype, hstate⟩)))
  rename_i hstate
  have hstate : controller.state = .awaitingTakeover := by simpa using hstate
  dsimp only
  split
  · rename_i hrefused
    exact enterFault_leaves (.takeoverInterlock hstate (.inr htype) hrefused) rfl
  · rename_i happroved
    exact .completeDriverTakeover hstate htype (by simpa using happroved)

theorem handleReset_leaves (htype : event.type = .resetRequested) :
    Leaves controller event vehicle (controller.handleReset controller.openDecision vehicle) := by
  unfold handleReset
  split
  · rename_i hstate
    exact .ignored (.inr (.inr (.inr ⟨htype, hstate⟩)))
  rename_i hstate
  have hstate : controller.state = .fault := by simpa using hstate
  dsimp only
  split
  · rename_i hrefused
    refine .resetRejected hstate htype ?_
    rw [Bool.or_eq_true, Bool.not_eq_true', Bool.not_eq_true'] at hrefused
    exact hrefused
  · rename_i hsafe
    have hboth : controller.engineStopped vehicle = true ∧
        (vehicle.criticalFaultPresent.isFresh && !vehicle.criticalFaultPresent.value) = true := by
      rw [Bool.not_eq_true, Bool.or_eq_false_iff, Bool.not_eq_false', Bool.not_eq_false'] at hsafe
      exact hsafe
    exact .reset hstate htype hboth.1 hboth.2

/-- The inversion of one call: every later fact about the controller cases on this. -/
theorem handle_handled (controller : Controller) (event : Event) (vehicle : VehicleState) :
    Handled controller event vehicle (controller.handle event vehicle).2.state
      (controller.handle event vehicle).2.fault
      (controller.handle event vehicle).1.actions.toList := by
  change Leaves controller event vehicle (controller.handleEvent event vehicle)
  unfold handleEvent
  dsimp only
  split <;> rename_i htype
  · exact handleStartRequest_leaves htype
  · exact handleStopRequest_leaves htype
  · exact handleVehicleUpdate_leaves htype
  · exact handleTimer_leaves htype
  · exact handleDriverTakeover_leaves htype
  · exact enterFault_leaves (.infrastructure htype) rfl
  · exact handleReset_leaves htype

end Handlers

theorem handleEvent_config (controller : Controller) (event : Event) (vehicle : VehicleState) :
    (controller.handleEvent event vehicle).1.config = controller.config := by
  unfold handleEvent handleStartRequest handleStopRequest handleVehicleUpdate handleTimer
    handleDriverTakeover handleReset
  dsimp only
  repeat' split
  all_goals rfl

theorem handle_frame (controller : Controller) (event : Event) (vehicle : VehicleState) :
    (controller.handle event vehicle).1.previousState = controller.state ∧
      (controller.handle event vehicle).1.previousFault = controller.fault ∧
      (controller.handle event vehicle).1.profileReadiness = controller.profileReadiness := by
  unfold handle handleEvent handleStartRequest handleStopRequest handleVehicleUpdate handleTimer
    handleDriverTakeover handleReset
  dsimp only
  repeat' split
  all_goals exact ⟨rfl, rfl, rfl⟩

theorem handle_cases (controller : Controller) (event : Event) (vehicle : VehicleState) :
    ∃ state fault actions, Handled controller event vehicle state fault actions ∧
      (controller.handle event vehicle).2 = ⟨controller.config, state, fault⟩ ∧
      (controller.handle event vehicle).1.actions.toList = actions := by
  refine ⟨_, _, _, controller.handle_handled event vehicle, ?_, rfl⟩
  rw [← controller.handleEvent_config event vehicle]
  rfl

end BmwRemote.Application.Controller
