import BmwRemote.Application.ControllerStep
import BmwRemote.Lib.Transcript

/-! What must have happened in a run before the starter is engaged: a request
accepted in `Idle`, an ignition authorised by a safe snapshot, and no unsafe
snapshot since. -/
namespace BmwRemote.Application.Controller

open BmwRemote.Domain BmwRemote.Lib

def machine : Machine Controller (Event × VehicleState) Decision :=
  fun controller input => controller.handle input.1 input.2

abbrev Call := Step Controller (Event × VehicleState) Decision

def startApproved (config : ControllerConfig) (vehicle : VehicleState) : Prop :=
  ((⟨config.safety⟩ : SafetyPolicy).assessStart vehicle).approved = true

/-- A remote start request that `Idle` accepts. -/
structure AcceptsRequest (config : ControllerConfig) (call : Call) : Prop where
  event : call.input.1.type = .remoteStartRequested
  idle : call.before.state = .idle
  enabled : config.remoteStartEnabled = true
  ready : (new config).profileReadiness.ready = true
  accepted : call.after.state = .authorizing

/-- The decision that switches the ignition on. -/
structure AuthorizesIgnition (config : ControllerConfig) (call : Call) : Prop where
  enables : call.output.contains .enableIgnition = true
  event : call.input.1.type = .vehicleStateUpdated
  authorizing : call.before.state = .authorizing
  approved : startApproved config call.input.2
  preparing : call.after.state = .preparing

structure HoldsIgnition (config : ControllerConfig) (call : Call) : Prop where
  ignition : call.output.contains .enableIgnition = false
  starter : call.output.contains .engageStarter = false
  secure : call.output.contains .secureOutputs = false
  release : call.output.contains .releaseRemoteControl = false
  approved : call.input.1.type = .vehicleStateUpdated → startApproved config call.input.2
  preparing : call.after.state = .preparing

/-- The run since an accepted request, while it waits for a snapshot. -/
def Requested (config : ControllerConfig) (past : List Call) : Prop :=
  ∃ earlier request waiting, past = earlier ++ request :: waiting ∧
    AcceptsRequest config request ∧ ∀ call ∈ waiting, call.after.state = .authorizing

def Prepared (config : ControllerConfig) (past : List Call) : Prop :=
  ∃ earlier request waiting ignition holding,
    past = earlier ++ request :: (waiting ++ ignition :: holding) ∧
      AcceptsRequest config request ∧ (∀ call ∈ waiting, call.after.state = .authorizing) ∧
      AuthorizesIgnition config ignition ∧ ∀ call ∈ holding, HoldsIgnition config call

/-- What the state says about the run that led to it. -/
def Authorized (config : ControllerConfig) (controller : Controller) (past : List Call) : Prop :=
  controller.config = config ∧
    (controller.state = .authorizing → Requested config past) ∧
    (controller.state = .preparing → Prepared config past)

theorem Requested.concat {config : ControllerConfig} {past : List Call} {call : Call}
    (h : Requested config past) (hcall : call.after.state = .authorizing) :
    Requested config (past ++ [call]) := by
  rcases h with ⟨earlier, request, waiting, hpast, haccepts, hwaiting⟩
  refine ⟨earlier, request, waiting ++ [call], ?_, haccepts, ?_⟩
  · rw [hpast, List.append_assoc, List.cons_append]
  · simpa [or_imp, forall_and] using ⟨hwaiting, hcall⟩

theorem Requested.prepared {config : ControllerConfig} {past : List Call} {call : Call}
    (h : Requested config past) (hcall : AuthorizesIgnition config call) :
    Prepared config (past ++ [call]) := by
  rcases h with ⟨earlier, request, waiting, hpast, haccepts, hwaiting⟩
  refine ⟨earlier, request, waiting, call, [], ?_, haccepts, hwaiting, hcall, by simp⟩
  rw [hpast, List.append_assoc, List.cons_append]

theorem Prepared.concat {config : ControllerConfig} {past : List Call} {call : Call}
    (h : Prepared config past) (hcall : HoldsIgnition config call) :
    Prepared config (past ++ [call]) := by
  rcases h with ⟨earlier, request, waiting, ignition, holding, hpast, haccepts, hwaiting,
    hignition, hholding⟩
  refine ⟨earlier, request, waiting, ignition, holding ++ [call], ?_, haccepts, hwaiting,
    hignition, ?_⟩
  · simp [hpast]
  · simpa [or_imp, forall_and] using ⟨hholding, hcall⟩

theorem Authorized.unchanged {config : ControllerConfig} {controller : Controller}
    {past : List Call} {call : Call} (h : Authorized config controller past)
    (hstate : call.after.state = controller.state)
    (hholds : controller.state = .preparing → HoldsIgnition config call) :
    (controller.state = .authorizing → Requested config (past ++ [call])) ∧
      (controller.state = .preparing → Prepared config (past ++ [call])) := by
  refine ⟨fun hauthorizing => ?_, fun hpreparing => ?_⟩
  · exact (h.2.1 hauthorizing).concat (hstate.trans hauthorizing)
  · exact (h.2.2 hpreparing).concat (hholds hpreparing)

theorem contains_eq (controller : Controller) (event : Event) (vehicle : VehicleState)
    {actions : List Action}
    (h : (controller.handle event vehicle).1.actions.toList = actions) (type : ActionType) :
    (controller.handle event vehicle).1.contains type =
      actions.any fun action => action.type == type := by
  rw [Decision.contains, h]

theorem authorized_step (config : ControllerConfig) (controller : Controller) (past : List Call)
    (h : Authorized config controller past) (input : Event × VehicleState) :
    Authorized config (machine controller input).2 (past ++ [machine.stepOf controller input]) := by
  rcases controller.handle_cases input.1 input.2 with
    ⟨state, fault, actions, hcase, hafter, hactions⟩
  have hconfig : controller.config = config := h.1
  have hcontains := controller.contains_eq input.1 input.2 hactions
  have hnext : (machine.stepOf controller input).after.state = state := congrArg (·.state) hafter
  refine ⟨?_, ?_⟩
  · exact (congrArg (·.config) hafter).trans hconfig
  change ((machine.stepOf controller input).after.state = .authorizing → _) ∧
    ((machine.stepOf controller input).after.state = .preparing → _)
  rw [hnext]
  cases hcase with
  | silent hsilent =>
    refine h.unchanged hnext fun hpreparing => ?_
    refine ⟨hcontains _, hcontains _, hcontains _, hcontains _, ?_, hnext.trans hpreparing⟩
    intro _
    cases hsilent with
    | preparing _ _ happroved => rw [← hconfig]; exact happroved
    | resting hstate => simp [hpreparing] at hstate
    | _ hstate => simp [hpreparing] at hstate
  | ignored hevent =>
    refine h.unchanged hnext fun hpreparing => ?_
    refine ⟨hcontains _, hcontains _, hcontains _, hcontains _, ?_, hnext.trans hpreparing⟩
    intro hupdate
    simp [hpreparing, show input.1.type = .vehicleStateUpdated from hupdate] at hevent
  | startAccepted hstate htype henabled hready =>
    refine ⟨fun _ => ?_, nofun⟩
    refine ⟨past, machine.stepOf controller input, [], rfl, ?_, by simp⟩
    subst hconfig
    exact ⟨htype, hstate, henabled, hready, hnext⟩
  | beginPreparing hstate htype happroved =>
    refine ⟨nofun, fun _ => ?_⟩
    refine (h.2.1 hstate).prepared ⟨hcontains _, htype, hstate, ?_, hnext⟩
    rw [← hconfig]
    exact happroved
  | alreadyStopped hstate
  | stopIgnoredInFault hstate
  | startDisabled hstate
  | profileRejected hstate
  | resetRejected hstate => simp [hstate]
  | _ => exact ⟨nofun, nofun⟩

theorem authorized_new (config : ControllerConfig) : Authorized config (new config) [] :=
  ⟨rfl, nofun, nofun⟩

theorem engages_of_contains {controller : Controller} {input : Event × VehicleState}
    (h : (machine controller input).1.contains .engageStarter = true) :
    input.1.type = .timerElapsed ∧ controller.state = .preparing ∧
      startApproved controller.config input.2 ∧ (machine controller input).2.state = .cranking := by
  rcases controller.handle_cases input.1 input.2 with
    ⟨state, fault, actions, hcase, hafter, hactions⟩
  have hany := (controller.contains_eq input.1 input.2 hactions .engageStarter).symm.trans h
  have hnext : (machine controller input).2.state = state := congrArg (·.state) hafter
  cases hcase with
  | beginCranking hstate htype happroved => exact ⟨htype, hstate, happroved, hnext⟩
  | _ => simp at hany

/-- The starter is engaged by a timer in `Preparing` on a safe snapshot, after an
ignition that was authorised since the last accepted request; and between two
engagements a request was accepted in `Idle`. -/
theorem starter_authorization (config : ControllerConfig) (inputs : List (Event × VehicleState))
    {past future : List Call} {call : Call}
    (hrun : machine.transcript (new config) inputs = past ++ call :: future)
    (hengages : call.output.contains .engageStarter = true) :
    (call.input.1.type = .timerElapsed ∧ call.before.state = .preparing ∧
      startApproved config call.input.2) ∧
    (∃ earlier request waiting ignition holding,
      past = earlier ++ request :: (waiting ++ ignition :: holding) ∧
        AcceptsRequest config request ∧ AuthorizesIgnition config ignition ∧
        (∀ between ∈ holding, HoldsIgnition config between) ∧
        ∀ between ∈ request :: (waiting ++ ignition :: holding),
          between.after.state ≠ .idle ∧ between.after.state ≠ .fault) ∧
    ∀ older first between, past = older ++ first :: between →
      first.output.contains .engageStarter = true →
      ∃ request ∈ between, AcceptsRequest config request := by
  rcases machine.history_at (Authorized config) (authorized_new config) (authorized_step config)
    hrun with ⟨hauthorized, hcall⟩
  rw [hcall] at hengages
  rcases engages_of_contains hengages with ⟨htype, hstate, happroved, -⟩
  rcases hauthorized.2.2 hstate with ⟨earlier, request, waiting, ignition, holding, hpast,
    haccepts, hwaiting, hignition, hholding⟩
  have hafter : ∀ between ∈ request :: (waiting ++ ignition :: holding),
      between.after.state = .authorizing ∨ between.after.state = .preparing := by
    intro between hmem
    rw [List.mem_cons, List.mem_append, List.mem_cons] at hmem
    rcases hmem with rfl | hmem | rfl | hmem
    · exact .inl haccepts.accepted
    · exact .inl (hwaiting _ hmem)
    · exact .inr hignition.preparing
    · exact .inr (hholding _ hmem).preparing
  refine ⟨⟨htype, hstate, hauthorized.1 ▸ happroved⟩, ?_, ?_⟩
  · refine ⟨earlier, request, waiting, ignition, holding, hpast, haccepts, hignition, hholding,
      fun between hmem => ?_⟩
    rcases hafter between hmem with h | h <;> simp [h]
  · intro older first between hsplit hfirst
    refine ⟨request, ?_, haccepts⟩
    apply mem_after_of_notMem (hsplit.symm.trans hpast)
    intro hmem
    -- the earlier engagement left `Cranking`, which no call since the request did
    have hrun' : machine.transcript (new config) inputs =
        older ++ first :: (between ++ call :: future) := by
      rw [hrun, hsplit, List.append_assoc, List.cons_append]
    rcases machine.history_at (Authorized config) (authorized_new config) (authorized_step config)
      hrun' with ⟨-, hfirstCall⟩
    rw [hfirstCall] at hfirst
    have hcranking := (engages_of_contains hfirst).2.2.2
    have hstates := hafter first hmem
    rw [hfirstCall] at hstates
    simp [hcranking] at hstates

def qualifiedConfig : ControllerConfig where
  vehicleProfile := some
    { transmission := .automatic
      qualification := .vehicleQualified
      hoodInterlockSource := .vehicleSignal
      signals := Vector.replicate vehicleSignalCount .verified }

def parkedVehicle : VehicleState where
  batteryMillivolts := .ofFresh 12600
  engineRpm := .ofFresh 0
  hoodClosed := .ofFresh true
  doorsClosed := .ofFresh true
  trunkClosed := .ofFresh true
  brakePressed := .ofFresh false
  parkingBrakeApplied := .ofFresh true
  transmission := .ofFresh .automatic
  gear := .ofFresh .park
  criticalFaultPresent := .ofFresh false

def parked (type : EventType) : Event × VehicleState := (⟨type, .none⟩, parkedVehicle)

def secondStart : List (Event × VehicleState) :=
  [parked .remoteStartRequested, parked .vehicleStateUpdated, parked .timerElapsed,
    parked .remoteStopRequested, parked .remoteStartRequested, parked .vehicleStateUpdated]

theorem starter_authorization_secondStart :
    ∃ request ∈ (machine.transcript (new qualifiedConfig) secondStart).drop 3,
      AcceptsRequest qualifiedConfig request :=
  (starter_authorization qualifiedConfig (secondStart ++ [parked .timerElapsed])
    (machine.transcript_concat (new qualifiedConfig) secondStart (parked .timerElapsed))
    (by decide)).2.2
    ((machine.transcript (new qualifiedConfig) secondStart).take 2)
    (machine.stepOf (machine.final (new qualifiedConfig) (secondStart.take 2))
      (parked .timerElapsed))
    ((machine.transcript (new qualifiedConfig) secondStart).drop 3) rfl (by decide)

end BmwRemote.Application.Controller
