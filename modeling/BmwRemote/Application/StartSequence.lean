import BmwRemote.Application.FaultLatch

/-! What a start takes, and what brings a controller back. A start is a request, snapshots
while the engine is prepared, the timer, and snapshots until the engine runs. From every
state that a run can reach, three events on a car at rest lead to the controller as it was
constructed. -/
namespace BmwRemote.Application.Controller

open BmwRemote.Domain BmwRemote.Lib

def update (vehicle : VehicleState) : Event × VehicleState :=
  ({ type := .vehicleStateUpdated }, vehicle)

def elapse (vehicle : VehicleState) : Event × VehicleState :=
  ({ type := .timerElapsed }, vehicle)

def AtRest (controller : Controller) : Prop :=
  controller.state = .idle ∨ controller.state = .fault

def approvesStart (controller : Controller) (vehicle : VehicleState) : Bool :=
  (controller.safetyPolicy.assessStart vehicle).approved

def approvesCranking (controller : Controller) (vehicle : VehicleState) : Bool :=
  (controller.safetyPolicy.assessCranking vehicle).approved

/-- The car at every step of a start. -/
structure Start where
  requested : VehicleState
  first : VehicleState
  waiting : List VehicleState
  elapsed : VehicleState
  turning : List VehicleState
  caught : VehicleState

def Start.inputs (start : Start) : List (Event × VehicleState) :=
  ({ type := .remoteStartRequested }, start.requested) :: update start.first ::
    (start.waiting.map update ++ elapse start.elapsed ::
      (start.turning.map update ++ [update start.caught]))

structure Start.Passes (start : Start) (controller : Controller) : Prop where
  enabled : controller.config.remoteStartEnabled = true
  ready : controller.profileReadiness.ready = true
  first : controller.approvesStart start.first = true
  waiting : ∀ vehicle ∈ start.waiting, controller.approvesStart vehicle = true
  elapsed : controller.approvesStart start.elapsed = true
  turning : ∀ vehicle ∈ start.turning, controller.approvesCranking vehicle = true
  caught : controller.approvesCranking start.caught = true
  runs : controller.engineIsRunning start.caught = true

variable {controller : Controller} {start : Start}

/-! One call. -/

theorem atRest_update (h : controller.AtRest) (vehicle : VehicleState) :
    (machine controller (update vehicle)).2 = controller := by
  rcases h with h | h <;> simp [machine, update, handle, handleEvent, handleVehicleUpdate, h]

theorem atRest_elapse (h : controller.AtRest) (vehicle : VehicleState) :
    (machine controller (elapse vehicle)).2 = controller := by
  rcases h with h | h <;> simp [machine, elapse, handle, handleEvent, handleTimer, h]

theorem request_idle (h : controller.state = .idle) (vehicle : VehicleState) :
    (machine controller ({ type := .remoteStartRequested }, vehicle)).2 =
      if controller.config.remoteStartEnabled = true ∧ controller.profileReadiness.ready = true then
        { controller with state := .authorizing }
      else controller := by
  cases henabled : controller.config.remoteStartEnabled with
  | false => simp [machine, handle, handleEvent, handleStartRequest, h, henabled]
  | true =>
    cases hready : controller.profileReadiness.ready with
    | false => simp [machine, handle, handleEvent, handleStartRequest, h, henabled, hready]
    | true =>
      simp [machine, handle, handleEvent, handleStartRequest, h, henabled, hready, transition]

theorem update_authorizing (h : controller.state = .authorizing) (vehicle : VehicleState) :
    (machine controller (update vehicle)).2 =
      if controller.approvesStart vehicle = true then { controller with state := .preparing }
      else { controller with state := .idle, fault := .none } := by
  cases happroved : (controller.safetyPolicy.assessStart vehicle).approved <;>
    simp [machine, update, handle, handleEvent, handleVehicleUpdate, h, happroved, approvesStart,
      beginPreparing, transition]

theorem update_preparing (h : controller.state = .preparing) (vehicle : VehicleState) :
    (machine controller (update vehicle)).2 =
      if controller.approvesStart vehicle = true then controller
      else { controller with state := .fault, fault := .safetyInterlock } := by
  cases happroved : (controller.safetyPolicy.assessStart vehicle).approved <;>
    simp [machine, update, handle, handleEvent, handleVehicleUpdate, h, happroved, approvesStart,
      enterFault, transition]

theorem elapse_preparing (h : controller.state = .preparing) (vehicle : VehicleState) :
    (machine controller (elapse vehicle)).2 =
      if controller.approvesStart vehicle = true then { controller with state := .cranking }
      else { controller with state := .fault, fault := .safetyInterlock } := by
  cases happroved : (controller.safetyPolicy.assessStart vehicle).approved <;>
    simp [machine, elapse, handle, handleEvent, handleTimer, h, happroved, approvesStart,
      beginCranking, enterFault, transition]

theorem update_cranking (h : controller.state = .cranking) (vehicle : VehicleState) :
    (machine controller (update vehicle)).2 =
      if controller.approvesCranking vehicle = true then
        if controller.engineIsRunning vehicle = true then { controller with state := .running }
        else controller
      else { controller with state := .fault, fault := .safetyInterlock } := by
  cases happroved : (controller.safetyPolicy.assessCranking vehicle).approved <;>
    cases hengine : controller.engineIsRunning vehicle <;>
      simp [machine, update, handle, handleEvent, handleVehicleUpdate, h, happroved, hengine,
        approvesCranking, beginRunning, enterFault, transition]

/-! The phases of a start. -/

theorem wait {approves : VehicleState → Bool} {vehicles : List VehicleState}
    (hkeep : ∀ vehicle ∈ vehicles, approves vehicle = true →
      (machine controller (update vehicle)).2 = controller)
    (hstop : ∀ vehicle ∈ vehicles, approves vehicle ≠ true →
      (machine controller (update vehicle)).2.AtRest) :
    ((∀ vehicle ∈ vehicles, approves vehicle = true) ∧
        machine.final controller (vehicles.map update) = controller) ∨
      (¬ (∀ vehicle ∈ vehicles, approves vehicle = true) ∧
        (machine.final controller (vehicles.map update)).AtRest) := by
  have hphase := @Machine.final_phase _ _ _ machine controller (vehicles.map update)
    (fun input => approves input.2 = true) AtRest
    (List.forall_mem_map.mpr hkeep) (List.forall_mem_map.mpr hstop)
    (List.forall_mem_map.mpr fun vehicle _ state hrest => by
      rw [atRest_update hrest]
      exact hrest)
  rw [List.forall_mem_map] at hphase
  exact hphase

theorem wait_preparing (h : controller.state = .preparing) (vehicles : List VehicleState) :
    ((∀ vehicle ∈ vehicles, controller.approvesStart vehicle = true) ∧
        machine.final controller (vehicles.map update) = controller) ∨
      (¬ (∀ vehicle ∈ vehicles, controller.approvesStart vehicle = true) ∧
        (machine.final controller (vehicles.map update)).AtRest) := by
  apply wait
  · intro vehicle _ happroved
    rw [update_preparing h, if_pos happroved]
  · intro vehicle _ hrefused
    rw [update_preparing h, if_neg hrefused]
    exact .inr rfl

theorem wait_cranking (h : controller.state = .cranking) {vehicles : List VehicleState}
    (hturning : ∀ vehicle ∈ vehicles, controller.engineIsRunning vehicle = false) :
    ((∀ vehicle ∈ vehicles, controller.approvesCranking vehicle = true) ∧
        machine.final controller (vehicles.map update) = controller) ∨
      (¬ (∀ vehicle ∈ vehicles, controller.approvesCranking vehicle = true) ∧
        (machine.final controller (vehicles.map update)).AtRest) := by
  apply wait
  · intro vehicle hmem happroved
    rw [update_cranking h, if_pos happroved, if_neg (by rw [hturning vehicle hmem]; decide)]
  · intro vehicle _ hrefused
    rw [update_cranking h, if_neg hrefused]
    exact .inr rfl

/-- The rest of a start, from the last call that can fail it on. -/
def cranking (start : Start) : List (Event × VehicleState) :=
  start.turning.map update ++ [update start.caught]

def preparing (start : Start) : List (Event × VehicleState) :=
  start.waiting.map update ++ elapse start.elapsed :: cranking start

theorem AtRest.sleeps (h : controller.AtRest) {inputs : List (Event × VehicleState)}
    (hinputs : inputs <:+ preparing start) :
    (machine.final controller inputs).state ≠ .running := by
  have hsame : machine.final controller inputs = controller := by
    apply machine.final_of_keeps
    intro input hmem
    have hpreparing := hinputs.subset hmem
    simp only [preparing, cranking, List.mem_append, List.mem_map, List.mem_cons,
      List.not_mem_nil, or_false] at hpreparing
    rcases hpreparing with ⟨vehicle, -, rfl⟩ | rfl | ⟨vehicle, -, rfl⟩ | rfl
    · exact atRest_update h vehicle
    · exact atRest_elapse h start.elapsed
    · exact atRest_update h vehicle
    · exact atRest_update h start.caught
  rw [hsame]
  rcases h with h | h <;> simp [h]

theorem cranking_iff (h : controller.state = .cranking) (start : Start)
    (hturning : ∀ vehicle ∈ start.turning, controller.engineIsRunning vehicle = false) :
    (machine.final controller (cranking start)).state = .running ↔
      (∀ vehicle ∈ start.turning, controller.approvesCranking vehicle = true) ∧
        controller.approvesCranking start.caught = true ∧
        controller.engineIsRunning start.caught = true := by
  unfold cranking
  rw [Machine.final_append]
  rcases wait_cranking h hturning with ⟨hall, hfinal⟩ | ⟨hsome, hrest⟩
  · rw [hfinal]
    change (machine controller (update start.caught)).2.state = _ ↔ _
    rw [update_cranking h]
    constructor
    · intro hrunning
      split at hrunning
      · rename_i happroved
        split at hrunning
        · rename_i hruns
          exact ⟨hall, happroved, hruns⟩
        · rw [h] at hrunning
          cases hrunning
      · cases hrunning
    · rintro ⟨-, happroved, hruns⟩
      rw [if_pos happroved, if_pos hruns]
  · have hsuffix : [update start.caught] <:+ preparing start :=
      (List.suffix_append _ _).trans ((List.suffix_cons _ _).trans (List.suffix_append _ _))
    exact iff_of_false (hrest.sleeps hsuffix) fun hpasses => hsome hpasses.1

theorem preparing_iff (h : controller.state = .preparing) (start : Start)
    (hturning : ∀ vehicle ∈ start.turning, controller.engineIsRunning vehicle = false) :
    (machine.final controller (preparing start)).state = .running ↔
      (∀ vehicle ∈ start.waiting, controller.approvesStart vehicle = true) ∧
        controller.approvesStart start.elapsed = true ∧
        (∀ vehicle ∈ start.turning, controller.approvesCranking vehicle = true) ∧
        controller.approvesCranking start.caught = true ∧
        controller.engineIsRunning start.caught = true := by
  have hsuffix : cranking start <:+ preparing start :=
    (List.suffix_cons _ _).trans (List.suffix_append _ _)
  unfold preparing
  rw [Machine.final_append]
  rcases wait_preparing h start.waiting with ⟨hall, hfinal⟩ | ⟨hsome, hrest⟩
  · rw [hfinal, Machine.final, elapse_preparing h]
    by_cases happroved : controller.approvesStart start.elapsed = true
    · have hcranking := @cranking_iff { controller with state := .cranking } rfl start hturning
      rw [if_pos happroved]
      exact hcranking.trans ⟨fun h => ⟨hall, happroved, h⟩, fun hpasses => hpasses.2.2⟩
    · rw [if_neg happroved]
      exact iff_of_false (AtRest.sleeps (.inr rfl) hsuffix) fun hpasses => happroved hpasses.2.1
  · exact iff_of_false (hrest.sleeps (List.suffix_append _ _)) fun hpasses => hsome hpasses.1

/-- From `Idle`, a start leads to a running engine exactly when every check is passed. -/
theorem start_passes_iff (hidle : controller.state = .idle) (start : Start)
    (hturning : ∀ vehicle ∈ start.turning, controller.engineIsRunning vehicle = false) :
    (machine.final controller start.inputs).state = .running ↔ start.Passes controller := by
  have hrest : start.inputs = ({ type := .remoteStartRequested }, start.requested) ::
      update start.first :: preparing start := rfl
  rw [hrest, Machine.final, request_idle hidle]
  by_cases haccepted : controller.config.remoteStartEnabled = true ∧
      controller.profileReadiness.ready = true
  · rw [if_pos haccepted, Machine.final, update_authorizing rfl]
    change (machine.final (if controller.approvesStart start.first = true then _ else _) _).state =
      .running ↔ _
    by_cases happroved : controller.approvesStart start.first = true
    · have hpreparing := @preparing_iff { controller with state := .preparing } rfl start hturning
      rw [if_pos happroved]
      refine hpreparing.trans ⟨fun h => ?_, fun h => ?_⟩
      · exact ⟨haccepted.1, haccepted.2, happroved, h.1, h.2.1, h.2.2.1, h.2.2.2.1, h.2.2.2.2⟩
      · exact ⟨h.waiting, h.elapsed, h.turning, h.caught, h.runs⟩
    · rw [if_neg happroved]
      exact iff_of_false (AtRest.sleeps (.inl rfl) (List.suffix_refl _))
        fun hpasses => happroved hpasses.first
  · have hresting : controller.AtRest := .inl hidle
    rw [if_neg haccepted, Machine.final, atRest_update hresting]
    exact iff_of_false (hresting.sleeps (List.suffix_refl _))
      fun hpasses => haccepted ⟨hpasses.enabled, hpasses.ready⟩

def parkedStart : Start where
  requested := parkedVehicle
  first := parkedVehicle
  waiting := [parkedVehicle, parkedVehicle]
  elapsed := parkedVehicle
  turning := [parkedVehicle, { parkedVehicle with engineRpm := .ofFresh 250 }]
  caught := { parkedVehicle with engineRpm := .ofFresh 750 }

theorem start_passes_iff_parked :
    (machine.final (new qualifiedConfig) parkedStart.inputs).state = .running ↔
      parkedStart.Passes (new qualifiedConfig) :=
  start_passes_iff rfl parkedStart (by decide)

/-! The way back. -/

def stop (vehicle : VehicleState) : Event × VehicleState :=
  ({ type := .remoteStopRequested }, vehicle)

def reset (vehicle : VehicleState) : Event × VehicleState :=
  ({ type := .resetRequested }, vehicle)

def wayBack (vehicle : VehicleState) : List (Event × VehicleState) :=
  [stop vehicle, update vehicle, reset vehicle]

theorem Latched.eq_new (h : controller.Latched) (hidle : controller.state = .idle) :
    controller = new controller.config := by
  cases controller with
  | mk config state fault =>
    dsimp only at hidle
    have hfault : fault = .none := by
      by_contra hset
      cases hidle.symm.trans (h.1 hset)
    rw [hidle, hfault]
    rfl

theorem machine_config (controller : Controller) (input : Event × VehicleState) :
    (machine controller input).2.config = controller.config :=
  controller.handleEvent_config input.1 input.2

theorem machine_latched (h : controller.Latched) (input : Event × VehicleState) :
    (machine controller input).2.Latched :=
  latched_handle h input.1 input.2

theorem stop_state (controller : Controller) (vehicle : VehicleState) :
    (machine controller (stop vehicle)).2.state ∈
      [ControllerState.idle, .driverControl, .stopping, .fault] := by
  cases hstate : controller.state <;>
    simp [machine, stop, handle, handleEvent, handleStopRequest, hstate, completeStop,
      beginStopping, transition]

theorem update_stopped (hstate : controller.state = .driverControl ∨ controller.state = .stopping)
    {vehicle : VehicleState} (hrest : ShowsRest controller.config vehicle) :
    (machine controller (update vehicle)).2.state = .idle := by
  have hstopped := (engineStopped_iff controller vehicle).2 ⟨hrest.rpmFresh, hrest.belowThreshold⟩
  rw [engineStopped, Bool.and_eq_true, Bool.not_eq_true'] at hstopped
  rcases hstate with hstate | hstate <;>
    simp [machine, update, handle, handleEvent, handleVehicleUpdate, hstate, hstopped,
      completeStop, transition]

theorem reset_state (hstate : controller.AtRest) {vehicle : VehicleState}
    (hrest : ShowsRest controller.config vehicle) :
    (machine controller (reset vehicle)).2.state = .idle := by
  cases hstate with
  | inl hidle => simp [machine, reset, handle, handleEvent, handleReset, hidle]
  | inr hfault =>
    have hstopped := (engineStopped_iff controller vehicle).2 ⟨hrest.rpmFresh, hrest.belowThreshold⟩
    have hcritical : vehicle.criticalFaultPresent.isFresh = true :=
      (Observed.isFresh_iff _).2 hrest.criticalFresh
    unfold engineStopped at hstopped
    simp [machine, reset, handle, handleEvent, handleReset, hfault, hstopped, hcritical,
      hrest.noCriticalFault, transition]

/-- Whatever has happened, a stop, a snapshot and a reset on a car at rest bring back the
controller as it was constructed. -/
theorem comes_back (config : ControllerConfig) (inputs : List (Event × VehicleState))
    {vehicle : VehicleState} (hrest : ShowsRest config vehicle) :
    machine.final (new config) (inputs ++ wayBack vehicle) = new config := by
  have hreached := machine.invariant_induction
    (fun controller => controller.config = config ∧ controller.Latched)
    ⟨rfl, latched_new config⟩
    (fun controller h input => ⟨(machine_config controller input).trans h.1,
      machine_latched h.2 input⟩) inputs
  rw [Machine.final_append]
  generalize machine.final (new config) inputs = reached at hreached
  obtain ⟨rfl, hlatched⟩ := hreached
  -- after the snapshot only `Idle` and `Fault` are left
  have hstopped : (machine (machine reached (stop vehicle)).2 (update vehicle)).2.AtRest := by
    have hrest' := (machine_config reached (stop vehicle)).symm ▸ hrest
    have hstop := stop_state reached vehicle
    simp only [List.mem_cons, List.not_mem_nil, or_false] at hstop
    rcases hstop with hidle | hdriver | hstopping | hfault
    · rw [atRest_update (.inl hidle)]
      exact .inl hidle
    · exact .inl (update_stopped (.inl hdriver) hrest')
    · exact .inl (update_stopped (.inr hstopping) hrest')
    · rw [atRest_update (.inr hfault)]
      exact .inr hfault
  have hconfig : (machine.final reached (wayBack vehicle)).config = reached.config :=
    (machine_config _ _).trans ((machine_config _ _).trans (machine_config _ _))
  have hfinal : (machine.final reached (wayBack vehicle)).Latched :=
    machine_latched (machine_latched (machine_latched hlatched _) _) _
  rw [hfinal.eq_new, hconfig]
  apply reset_state hstopped
  rw [machine_config, machine_config]
  exact hrest

theorem comes_back_parked :
    machine.final (new qualifiedConfig) (secondStart ++ wayBack parkedVehicle) =
      new qualifiedConfig :=
  comes_back qualifiedConfig secondStart ⟨rfl, by decide, rfl, rfl⟩

end BmwRemote.Application.Controller
