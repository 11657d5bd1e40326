import BmwRemote.Application.FaultLatch

/-! The ways back to `Idle` after a fault, a stop or a drive. `Controller` takes the engine
for stopped below the running threshold, also while it still turns. -/
namespace BmwRemote.Application.Controller

open BmwRemote.Domain BmwRemote.Lib

/-- A call that re-arms the controller, or ends a stop or a drive. -/
def returnsToIdle (call : Call) : Prop :=
  (call.before.state = .fault ∨ call.before.state = .stopping ∨
      call.before.state = .driverControl) ∧
    call.after.state = .idle

def engineStandsStill (vehicle : VehicleState) : Prop :=
  vehicle.engineRpm.isFresh = true ∧ vehicle.engineRpm.value = 0

/-- The engine still turns, below the threshold from which it counts as running. -/
def engineTurnsSlowly (controller : Controller) (vehicle : VehicleState) : Prop :=
  vehicle.engineRpm.isFresh = true ∧ 0 < vehicle.engineRpm.value ∧
    vehicle.engineRpm.value < controller.safetyPolicy.runningRpmThreshold

def asksForStandstill (controller : Controller) (event : Event) (vehicle : VehicleState) : Prop :=
  event.type = .vehicleStateUpdated ∧
      (controller.state = .stopping ∨ controller.state = .driverControl) ∨
    event.type = .resetRequested ∧ controller.state = .fault ∧
      vehicle.criticalFaultPresent.isFresh = true ∧ vehicle.criticalFaultPresent.value = false

theorem asksForStandstill_of_returns {controller : Controller} {event : Event}
    {vehicle : VehicleState} (h : returnsToIdle (machine.stepOf controller (event, vehicle))) :
    asksForStandstill controller event vehicle ∧ controller.engineStopped vehicle = true := by
  obtain ⟨hstart, hidle⟩ := h
  simp only [Machine.stepOf_before, Machine.stepOf_after, machine] at hstart hidle
  obtain ⟨state, fault, actions, hcase, hafter, -⟩ := controller.handle_cases event vehicle
  rw [hafter] at hidle
  cases hcase with
  | completeStop hstop =>
    rcases hstop with ⟨-, hstate⟩ | ⟨htype, hstate, hengine⟩
    · rcases hstate with hstate | hstate | hstate <;> simp [hstate] at hstart
    · exact ⟨.inl ⟨htype, .inl hstate⟩, hengine⟩
  | driveEnded hstate htype hengine => exact ⟨.inl ⟨htype, .inr hstate⟩, hengine⟩
  | reset hstate htype hengine hcritical =>
    rw [Bool.and_eq_true, Bool.not_eq_true'] at hcritical
    exact ⟨.inr ⟨htype, hstate, hcritical⟩, hengine⟩
  | silent | ignored | alreadyStopped | stopIgnoredInFault | startDisabled | profileRejected
  | resetRejected | startRejected => simp_all
  | _ => cases hidle

theorem returnsToIdle_of_stopped {controller : Controller} {event : Event}
    {vehicle : VehicleState} (hasks : asksForStandstill controller event vehicle)
    (hstopped : controller.engineStopped vehicle = true) :
    returnsToIdle (machine.stepOf controller (event, vehicle)) := by
  have hengine : (vehicle.engineRpm.isFresh && !controller.engineIsRunning vehicle) = true :=
    hstopped
  unfold returnsToIdle
  simp only [Machine.stepOf_before, Machine.stepOf_after, machine, handle, handleEvent]
  rcases hasks with ⟨htype, hstate | hstate⟩ | ⟨htype, hstate, hfresh, hvalue⟩
  · simp [htype, hstate, handleVehicleUpdate, hengine, completeStop, transition]
  · simp [htype, hstate, handleVehicleUpdate, hengine, transition]
  · simp [htype, hstate, handleReset, hengine, hfresh, hvalue, transition]

theorem returnsToIdle_iff (controller : Controller) (event : Event) (vehicle : VehicleState) :
    returnsToIdle (machine.stepOf controller (event, vehicle)) ↔
      asksForStandstill controller event vehicle ∧ controller.engineStopped vehicle = true :=
  ⟨asksForStandstill_of_returns, fun h => returnsToIdle_of_stopped h.1 h.2⟩

theorem standsStill_iff_of_stopped {controller : Controller} {vehicle : VehicleState}
    (h : controller.engineStopped vehicle = true) :
    engineStandsStill vehicle ↔ ¬ engineTurnsSlowly controller vehicle := by
  obtain ⟨hquality, hbelow⟩ := (controller.engineStopped_iff vehicle).1 h
  have hfresh := (Observed.isFresh_iff vehicle.engineRpm).2 hquality
  unfold engineStandsStill engineTurnsSlowly safetyPolicy SafetyPolicy.runningRpmThreshold
  simp [hfresh, hbelow, UInt16.pos_iff_ne_zero]

theorem engineStopped_of_turnsSlowly {controller : Controller} {vehicle : VehicleState}
    (h : engineTurnsSlowly controller vehicle) : controller.engineStopped vehicle = true :=
  (controller.engineStopped_iff vehicle).2 ⟨(Observed.isFresh_iff _).1 h.1, h.2.2⟩

/-- A run returns to `Idle` on standing engines only, exactly when no engine turns below
the threshold at the calls that ask for a standstill. -/
theorem returns_at_standstill_iff (config : ControllerConfig)
    (inputs : List (Event × VehicleState)) :
    (∀ call ∈ machine.transcript (new config) inputs,
        returnsToIdle call → engineStandsStill call.input.2) ↔
      ∀ call ∈ machine.transcript (new config) inputs,
        asksForStandstill call.before call.input.1 call.input.2 →
          ¬ engineTurnsSlowly call.before call.input.2 := by
  apply forall₂_congr
  intro call hmem
  have hreturns := returnsToIdle_iff call.before call.input.1 call.input.2
  rw [← machine.eq_stepOf_of_mem hmem] at hreturns
  rw [hreturns]
  constructor
  · intro hstill hasks hslow
    have hstopped := engineStopped_of_turnsSlowly hslow
    exact (standsStill_iff_of_stopped hstopped).1 (hstill ⟨hasks, hstopped⟩) hslow
  · rintro hslow ⟨hasks, hstopped⟩
    exact (standsStill_iff_of_stopped hstopped).2 (hslow hasks)

/-- A fault is reset on a snapshot whose engine turns at 300 rpm. -/
theorem reset_on_a_turning_engine :
    ∃ call ∈ machine.transcript (new {})
        [(.infrastructureFailure .timerFailure, {}),
          (⟨.resetRequested, .none⟩,
            { engineRpm := ⟨300, .fresh⟩, criticalFaultPresent := ⟨false, .fresh⟩ })],
      returnsToIdle call ∧ ¬ engineStandsStill call.input.2 := by
  refine ⟨_, List.mem_cons_of_mem _ List.mem_cons_self, ?_, ?_⟩
  · exact ⟨.inl rfl, rfl⟩
  · rintro ⟨-, hzero⟩
    exact absurd hzero (by decide)

end BmwRemote.Application.Controller
