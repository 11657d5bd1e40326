import BmwRemote.Application.FaultLatch
import BmwRemote.Host.SandboxPorts

/-! The sandbox shows what the supervisor commands, and the supervisor commands what the
controller state stands for: a trip has reached the controller before a command answers. -/
namespace BmwRemote.Host

open BmwRemote.Domain BmwRemote.Application BmwRemote.Infrastructure BmwRemote.Lib
open ActuatorSafetySupervisor (Stepped)

/-- Unless it has tripped, the supervisor commands the outputs of the controller state. -/
structure Aligned (state : ControllerState) (supervised : Supervised SandboxWorld) : Prop where
  upright : Upright supervised
  outputs : supervised.1.fault = .none → commanded supervised.1 = outputsOf state

/-- A trip is in the controller. -/
structure Coherent (state : ControllerState) (supervised : Supervised SandboxWorld) : Prop
    extends Aligned state supervised where
  propagated : supervised.1.fault ≠ .none → state = .fault

/-- Executing every action of a decision turns the outputs of the old state into those of
the new one. -/
theorem handled_outputs {controller : Controller} {event : Event} {vehicle : VehicleState}
    {state : ControllerState} {fault : FaultCode} {actions : List Action}
    (h : Controller.Handled controller event vehicle state fault actions) (decision : Decision) :
    (actions.map (Runtime.callOf decision)).foldl Outputs.afterPort (outputsOf controller.state) =
      outputsOf state := by
  cases h with
  | silent | ignored | alreadyStopped => rfl
  | startRejected | beginStopping | completeStop | reset | enterFault => rfl
  | stopIgnoredInFault hstate | startDisabled hstate | profileRejected hstate
  | startAccepted hstate | resetRejected hstate | driveEnded hstate | beginPreparing hstate
  | beginCranking hstate | beginRunning hstate | beginAwaitingTakeover hstate
  | completeDriverTakeover hstate =>
    rw [hstate]
    rfl

theorem commanded_of_fault {supervisor : ActuatorSafetySupervisor} (hsound : supervisor.Sound)
    (hfault : supervisor.fault ≠ .none) : commanded supervisor = .off := by
  have hignition : supervisor.ignitionCommanded = false := by
    rw [← Bool.not_eq_true]
    exact fun hcommanded => hfault (hsound.ignition hcommanded)
  have hstarter : supervisor.starterCommanded = false := by
    rw [← Bool.not_eq_true]
    intro hcommanded
    rw [hsound.starter hcommanded] at hignition
    cases hignition
  unfold commanded
  rw [hignition, hstarter]
  rfl

theorem Coherent.commanded_eq {state : ControllerState} {supervised : Supervised SandboxWorld}
    (h : Coherent state supervised) : commanded supervised.1 = outputsOf state := by
  by_cases hfault : supervised.1.fault = .none
  · exact h.outputs hfault
  · rw [commanded_of_fault h.upright.sound hfault, h.propagated hfault]
    rfl

section Dispatch

variable {runtime : Runtime} {supervised : Supervised SandboxWorld}

theorem Aligned.dispatch (h : Aligned runtime.state supervised) (input : Runtime.Input) :
    let result := Runtime.dispatch (supervisedPorts sandboxPorts) runtime input supervised
    Aligned result.2.1.state result.2.2 := by
  intro result
  refine ⟨upright_dispatch runtime input supervised h.upright, fun hnone => ?_⟩
  rcases dispatch_outcome runtime input supervised with ⟨hcontroller, hfault, hpanel⟩ |
    ⟨-, -, hfault, -⟩
  · have hbefore := h.outputs (hfault ▸ hnone)
    have hcommanded : commanded result.2.2.1 = (Runtime.callsOf
        (runtime.controller.handle input.event input.vehicle).1).foldl Outputs.afterPort
        (commanded supervised.1) :=
      (congrArg (·.outputs) hpanel).trans (outputs_foldl_after _ _ _)
    rcases runtime.controller.handle_cases input.event input.vehicle with
      ⟨state, fault, actions, hcase, hafter, hactions⟩
    have hstate : result.2.1.state = state :=
      (congrArg (·.state) hcontroller).trans (congrArg (·.state) hafter)
    have hcalls : Runtime.callsOf (runtime.controller.handle input.event input.vehicle).1 =
        actions.map (Runtime.callOf _) := congrArg (List.map (Runtime.callOf _)) hactions
    rw [hcommanded, hcalls, hbefore, hstate]
    exact handled_outputs hcase _
  · exact absurd hnone hfault

theorem Aligned.dispatch_coherent (h : Aligned runtime.state supervised) (input : Runtime.Input)
    (hcause : supervised.1.fault = .none ∨
      (runtime.controller.handle input.event input.vehicle).2.state = .fault) :
    let result := Runtime.dispatch (supervisedPorts sandboxPorts) runtime input supervised
    Coherent result.2.1.state result.2.2 := by
  intro result
  refine ⟨h.dispatch input, fun hfault => ?_⟩
  rcases dispatch_outcome runtime input supervised with ⟨hcontroller, hsame, -⟩ |
    ⟨-, hstate, -, -⟩
  · rcases hcause with hnone | hfaulted
    · exact absurd (hsame.trans hnone) hfault
    · exact (congrArg (·.state) hcontroller).trans hfaulted
  · exact hstate

end Dispatch

/-! The supervisor's own requests. -/

section Requests

variable {state : ControllerState} {supervised : Supervised SandboxWorld}

theorem Aligned.stepped {after : Supervised SandboxWorld} {request : ActuatorSafetySupervisor.Request}
    {answer : ActuatorSafetySupervisor.Answer} (h : Aligned state supervised)
    (hupright : Upright after) (hstep : Stepped supervised.1 request answer after.1)
    (hrequest : ∀ call, request ≠ .actuator call) (hreset : ∀ nowMs feedback,
      request ≠ .resetFault nowMs feedback) : Aligned state after := by
  refine ⟨hupright, fun hnone => ?_⟩
  generalize hafter : after.1 = supervisor at hstep hnone
  cases hstep with
  | heartbeat _ hfault | polled _ _ _ hfault | confirmed _ _ _ hfault => exact h.outputs hfault
  | faulted _ _ _ _ hfault => exact absurd hnone hfault
  | reset nowMs feedback => exact absurd rfl (hreset nowMs feedback)
  | _ => exact absurd rfl (hrequest _)

theorem Aligned.settled (h : Aligned state supervised) (timer : SandboxTimer) :
    Aligned state (supervised.1, { supervised.2 with timer := timer }) :=
  ⟨⟨h.upright.sound, h.upright.mirrored⟩, h.outputs⟩

theorem agreesWith_of_mirrored (h : Mirrored supervised) :
    supervised.1.agreesWith supervised.2.driver.feedback = true := by
  unfold Mirrored at h
  rw [h]
  simp [ActuatorSafetySupervisor.agreesWith, SandboxActuatorDriver.feedback]

end Requests

namespace SandboxSession

section Session

variable {session : SandboxSession}

theorem aligned_heartbeat (h : Aligned session.state session.supervised) (nowMs : UInt32) :
    Aligned session.state (session.heartbeat nowMs).supervised :=
  h.stepped (h.upright.heartbeat nowMs)
    (ActuatorSafetySupervisor.heartbeat_stepped _ nowMs _ h.upright.sound) (by simp) (by simp)

theorem aligned_poll (h : Aligned session.state session.supervised) (nowMs : UInt32) :
    Aligned session.state (session.poll nowMs).supervised :=
  h.stepped (h.upright.poll nowMs session.hardwareStartPermitted session.driver.feedback)
    (ActuatorSafetySupervisor.poll_stepped _ nowMs _ _ _ h.upright.sound) (by simp) (by simp)

theorem aligned_polled (h : Aligned session.state session.supervised) (atMs : UInt32) :
    Aligned (session.polled atMs).state (session.polled atMs).supervised :=
  aligned_poll h atMs

theorem aligned_serviced (h : Aligned session.state session.supervised) (atMs : UInt32) :
    Aligned (session.serviced atMs).state (session.serviced atMs).supervised := by
  have hbeaten : Aligned (session.heartbeat atMs).state (session.heartbeat atMs).supervised :=
    aligned_heartbeat h atMs
  exact aligned_polled hbeaten atMs

theorem aligned_serviceFrom (targetMs : UInt32) (turns : Nat)
    (h : Aligned session.state session.supervised) :
    Aligned (serviceFrom targetMs turns session).state
      (serviceFrom targetMs turns session).supervised := by
  induction turns generalizing session with
  | zero => exact aligned_serviced h targetMs
  | succ turns ih =>
    have hserviced := aligned_serviced h
      (session.lastSupervisorServiceMs + supervisorServicePeriodMs)
    unfold serviceFrom
    dsimp only
    split
    · split
      · exact hserviced
      · exact ih hserviced
    · exact aligned_serviced h targetMs

theorem aligned_serviceSupervisor (h : Aligned session.state session.supervised)
    (targetMs : UInt32) : Aligned (session.serviceSupervisor targetMs).state
      (session.serviceSupervisor targetMs).supervised :=
  aligned_serviceFrom targetMs _ h

theorem coherent_dispatch (h : Aligned session.state session.supervised) (event : Event)
    (hcause : session.supervisor.fault = .none ∨
      (session.runtime.controller.handle event session.vehicle).2.state = .fault) :
    Coherent (session.dispatch event).state (session.dispatch event).supervised := by
  have hcoherent := h.dispatch_coherent ⟨event, session.vehicle, session.nowMs⟩ hcause
  exact ⟨hcoherent.toAligned.settled _, hcoherent.propagated⟩

/-- A trip outside `Fault` is propagated. -/
theorem coherent_propagate (h : Aligned session.state session.supervised) :
    Coherent session.propagateSupervisorFault.state
      session.propagateSupervisorFault.supervised := by
  unfold propagateSupervisorFault
  split
  · rename_i hquiet
    exact ⟨h, fun hfault => hquiet.resolve_left hfault⟩
  · exact coherent_dispatch h _ (.inr rfl)

theorem coherent_dispatchUnlessFault (h : Coherent session.state session.supervised)
    (event : Event) : Coherent (session.dispatchUnlessFault event).state
      (session.dispatchUnlessFault event).supervised := by
  unfold dispatchUnlessFault
  split
  · rename_i hstate
    apply coherent_dispatch h.toAligned
    refine .inl (Classical.byContradiction fun hfault => ?_)
    exact hstate (h.propagated hfault)
  · exact h

theorem coherent_serviced_propagate (h : Aligned session.state session.supervised)
    (targetMs : UInt32) :
    Coherent (session.serviceSupervisor targetMs).propagateSupervisorFault.state
      (session.serviceSupervisor targetMs).propagateSupervisorFault.supervised :=
  coherent_propagate (aligned_serviceSupervisor h targetMs)

/-! The commands. -/

theorem coherent_request (h : Coherent session.state session.supervised) (type : EventType)
    (feedAuthorizationState : Bool) : Coherent (session.request type feedAuthorizationState).state
      (session.request type feedAuthorizationState).supervised := by
  have hserviced := coherent_serviced_propagate h.toAligned session.nowMs
  have hdispatched := coherent_dispatchUnlessFault hserviced { type }
  unfold request
  dsimp only
  split
  · rename_i hfeed
    apply coherent_dispatch hdispatched.toAligned
    refine .inl (Classical.byContradiction fun hfault => ?_)
    cases hfeed.2.symm.trans (hdispatched.propagated hfault)
  · exact hdispatched

theorem coherent_elapse (h : Coherent session.state session.supervised) :
    Coherent session.elapse.state session.elapse.supervised := by
  have hadvanced : Aligned session.advanced.state session.advanced.supervised :=
    aligned_serviceSupervisor h.toAligned session.timer.due
  exact coherent_dispatchUnlessFault (coherent_propagate hadvanced) _

theorem serviced_calm (atMs : UInt32)
    (hcalm : session.supervisor.Calm atMs session.hardwareStartPermitted)
    (hmirrored : Mirrored session.supervised) :
    (session.serviced atMs).supervised =
      (session.supervisor.attended atMs session.hardwareStartPermitted, session.supervised.2) := by
  have hbeaten : (session.heartbeat atMs).supervised = (_, session.supervised.2) :=
    hcalm.heartbeat_eq
  have hfeedback : (session.heartbeat atMs).driver.feedback = session.driver.feedback := by
    unfold driver
    rw [hbeaten]
  change (ActuatorSafetySupervisor.poll sandboxPorts.actuators atMs session.hardwareStartPermitted
    (session.heartbeat atMs).driver.feedback (session.heartbeat atMs).supervised).2 = _
  rw [hfeedback]
  exact hcalm.attend_eq (agreesWith_of_mirrored hmirrored) rfl

theorem serviced_reset (supervised : Supervised SandboxWorld) (before : ActuatorSafetySupervisor)
    (hreset : supervised.1 = ((before.observed session.nowMs).safed true).cleared)
    (hupright : Upright supervised) :
    let moved : SandboxSession := { session with supervised }
    Aligned .fault (moved.serviced session.nowMs).supervised ∧
      (moved.serviced session.nowMs).supervisor.fault = .none := by
  intro moved
  have hcalm : moved.supervisor.Calm session.nowMs session.hardwareStartPermitted := by
    change supervised.1.Calm _ _
    rw [hreset]
    exact ⟨rfl, rfl, fun _ => .inl rfl, nofun, nofun, nofun⟩
  have hserviced := serviced_calm session.nowMs hcalm hupright.mirrored
  have hoff : commanded supervised.1 = outputsOf .fault := by
    rw [hreset]
    rfl
  have hnone : supervised.1.fault = .none := by
    rw [hreset]
    rfl
  have hattended : Aligned .fault (moved.supervisor.attended session.nowMs
      session.hardwareStartPermitted, supervised.2) := by
    refine ⟨⟨⟨fun _ => hcalm.initialized, fun _ => hnone, hupright.sound.starter⟩, ?_⟩, fun _ => hoff⟩
    exact hupright.mirrored
  refine ⟨?_, ?_⟩
  · rw [hserviced]
    exact hattended
  · change (moved.serviced session.nowMs).supervised.1.fault = .none
    rw [hserviced]
    exact hnone

theorem coherent_reset (h : Coherent session.state session.supervised) :
    Coherent session.reset.2.state session.reset.2.supervised := by
  unfold reset
  split
  · rename_i hnone
    exact coherent_dispatch h.toAligned _ (.inl hnone)
  rename_i hfault
  have hstate : session.state = .fault := h.propagated hfault
  have hupright := h.upright.resetFault session.nowMs session.driver.feedback
  have haccepted := @ActuatorSafetySupervisor.resetFault_accepted _ sandboxPorts.actuators
    session.nowMs session.driver.feedback session.supervised
  have hstep := ActuatorSafetySupervisor.resetFault_stepped sandboxPorts.actuators session.nowMs
    session.driver.feedback session.supervised
  dsimp only
  generalize ActuatorSafetySupervisor.resetFault sandboxPorts.actuators session.nowMs
    session.driver.feedback session.supervised = outcome at hupright haccepted hstep ⊢
  rcases outcome with ⟨accepted, supervised⟩
  cases accepted with
  | false =>
    have htripped : supervised.1.fault ≠ .none := by
      generalize supervised.1 = supervisor at hstep
      cases hstep with
      | faulted _ _ _ _ hfault => exact hfault
    exact ⟨⟨hupright, fun hnone => absurd hnone htripped⟩, fun _ => hstate⟩
  | true =>
    have hserviced := serviced_reset supervised session.supervisor (haccepted rfl) hupright
    have haligned : Aligned session.state
        (({ session with supervised } : SandboxSession).serviced session.nowMs).supervised := by
      rw [hstate]
      exact hserviced.1
    exact coherent_dispatch haligned _ (.inl hserviced.2)

theorem coherent_watchdog (h : Coherent session.state session.supervised) :
    Coherent session.watchdog.state session.watchdog.supervised := by
  have hsuspended : Aligned session.suspended.state session.suspended.supervised := by
    dsimp only [suspended, state]
    exact h.toAligned
  exact coherent_propagate (aligned_polled hsuspended _)

theorem coherent_interlock (h : Coherent session.state session.supervised) (enabled : Bool) :
    Coherent (session.interlock enabled).state (session.interlock enabled).supervised := by
  have hpermitting : Aligned (session.permitting enabled).state
      (session.permitting enabled).supervised := h.toAligned
  exact coherent_propagate (aligned_serviced hpermitting session.nowMs)

theorem coherent_applyVehicle (h : Coherent session.state session.supervised)
    (candidate : VehicleState) : Coherent (session.applyVehicle candidate).state
      (session.applyVehicle candidate).supervised := by
  have hseeing : Aligned (session.seeing candidate).state (session.seeing candidate).supervised :=
    h.toAligned
  exact coherent_dispatchUnlessFault (coherent_serviced_propagate hseeing session.nowMs) _

theorem coherent_restart (requireHood : Bool) :
    Coherent (session.restart requireHood).state (session.restart requireHood).supervised := by
  let constructed : Supervised SandboxWorld :=
    ActuatorSafetySupervisor.construct sandboxPorts.actuators {} {}
  have hsound : constructed.1.Sound := ActuatorSafetySupervisor.construct_sound _ _ _
  let opened : SandboxSession :=
    { supervised := constructed, runtime := ⟨Controller.new, none⟩ }
  have hopened : Aligned opened.state opened.supervised := ⟨⟨hsound, rfl⟩, fun _ => rfl⟩
  have hserviced : Aligned .idle ((opened.heartbeat 0).poll 0).supervised :=
    aligned_serviced hopened 0
  have hnone : ((opened.heartbeat 0).poll 0).supervised.1.fault = .none := by decide
  exact ⟨hserviced, fun hfault => absurd hnone hfault⟩

end Session

/-! Lines. -/

def Says (line : Text) (command : String) : Prop := Text.words (trim line) = [Text.ascii command]

instance (line : Text) (command : String) : Decidable (Says line command) := decEq _ _

def Renews (line : Text) : Prop := (Text.words (trim line)).head? = some (Text.ascii "new")

instance (line : Text) : Decidable (Renews line) := decEq _ _

inductive Answered (session : SandboxSession) (line : Text) : SandboxResult × SandboxSession → Prop
  | refused (error : Text) : Answered session line (session.failure error)
  | reported : Answered session line session.success
  | restarted (requireHood : Bool) (hline : Renews line) :
      Answered session line (session.restart requireHood).success
  | requested (type : EventType) (feedAuthorizationState : Bool)
      (htype : type = .remoteStartRequested ∧ feedAuthorizationState = true ∨
        type = .remoteStopRequested ∨ type = .driverTakeoverConfirmed) :
      Answered session line (session.request type feedAuthorizationState).success
  | elapsed (hline : Says line "timer") (harmed : session.timer.armed = true) :
      Answered session line session.elapse.success
  | reset : Answered session line session.reset
  | suspended (hline : Says line "watchdog") : Answered session line session.watchdog.success
  | interlocked (enabled : Bool) : Answered session line (session.interlock enabled).success
  | updated (candidate : VehicleState) :
      Answered session line (session.applyVehicle candidate).success
  | requesting (features : FeatureRequests) :
      Answered session line (session.requesting features).rebuildTelemetryMonitor.success

section Lines

variable (session : SandboxSession) {line : Text}

theorem answered_dispatchWithoutArguments (arguments : List Text) {type : EventType}
    {feedAuthorizationState : Bool}
    (htype : type = .remoteStartRequested ∧ feedAuthorizationState = true ∨
      type = .remoteStopRequested ∨ type = .driverTakeoverConfirmed) :
    Answered session line
      (session.dispatchWithoutArguments arguments type feedAuthorizationState) := by
  unfold dispatchWithoutArguments
  split
  · exact .refused _
  · exact .requested type feedAuthorizationState htype

theorem answered_updateVehicle (tokens : List Text) :
    Answered session line (session.updateVehicle tokens) := by
  unfold updateVehicle
  split
  · exact .refused _
  split
  · exact .refused _
  · exact .updated _

theorem answered_updateFeature (arguments : List Text) :
    Answered session line (session.updateFeature arguments) := by
  unfold updateFeature
  split
  · split
    · exact .refused _
    split
    · exact .refused _
    split
    · exact .refused _
    · exact .requesting _
  · exact .refused _

theorem Answered.ite {condition : Prop} [Decidable condition]
    {yes no : SandboxResult × SandboxSession} (hyes : condition → Answered session line yes)
    (hno : ¬ condition → Answered session line no) :
    Answered session line (if condition then yes else no) := by
  split
  · exact hyes ‹_›
  · exact hno ‹_›

theorem answered_execute (line : Text) : Answered session line (session.execute line) := by
  unfold execute
  generalize hwords : Text.words (trim line) = words
  cases words with
  | nil => exact .refused _
  | cons verb arguments =>
    have hword : ∀ command, verb = Text.ascii command → ¬ arguments ≠ [] → Says line command := by
      intro command hverb hnone
      unfold Says
      rw [hwords, hverb, not_not.1 hnone]
    refine .ite session (fun _ => ?status) fun _ => .ite session (fun hnew => ?new) fun _ =>
      .ite session (fun _ => ?start) fun _ => .ite session (fun _ => ?stop) fun _ =>
      .ite session (fun _ => ?takeover) fun _ => .ite session (fun htimer => ?timer) fun _ =>
      .ite session (fun _ => ?reset) fun _ => .ite session (fun hwatchdog => ?watchdog) fun _ =>
      .ite session (fun _ => ?interlock) fun _ => .ite session (fun _ => ?vehicle) fun _ =>
      .ite session (fun _ => ?feature) fun _ => .refused _
    case status => exact .ite session (fun _ => .refused _) fun _ => .reported
    case new =>
      split
      · exact .refused _
      · refine .restarted _ ?_
        unfold Renews
        rw [hwords, hnew]
        rfl
    case start => exact answered_dispatchWithoutArguments session arguments (.inl ⟨rfl, rfl⟩)
    case stop => exact answered_dispatchWithoutArguments session arguments (.inr (.inl rfl))
    case takeover => exact answered_dispatchWithoutArguments session arguments (.inr (.inr rfl))
    case timer =>
      exact .ite session (fun _ => .refused _) fun hnone => .ite session (fun _ => .refused _)
        fun harmed => .elapsed (hword "timer" htimer hnone) (by simpa using harmed)
    case reset => exact .ite session (fun _ => .refused _) fun _ => .reset
    case watchdog =>
      exact .ite session (fun _ => .refused _)
        fun hnone => .suspended (hword "watchdog" hwatchdog hnone)
    case interlock =>
      split
      · exact .refused _
      · exact .interlocked _
    case vehicle => exact answered_updateVehicle session arguments
    case feature => exact answered_updateFeature session arguments

end Lines

theorem coherent_execute {session : SandboxSession} (h : Coherent session.state session.supervised)
    (line : Text) :
    Coherent (session.execute line).2.state (session.execute line).2.supervised := by
  have hanswered := answered_execute session line
  generalize session.execute line = result at hanswered ⊢
  cases hanswered with
  | refused | reported => exact h
  | restarted requireHood => exact coherent_restart requireHood
  | requested type feedAuthorizationState => exact coherent_request h type feedAuthorizationState
  | elapsed => exact coherent_elapse h
  | reset => exact coherent_reset h
  | suspended => exact coherent_watchdog h
  | interlocked enabled => exact coherent_interlock h enabled
  | updated candidate => exact coherent_applyVehicle h candidate
  | requesting features => exact h

theorem execute_refused (session : SandboxSession) (line : Text)
    (hrefused : (session.execute line).1.ok = false)
    (herror : (session.execute line).1.error ≠ resetRefusal) :
    (session.execute line).2 = session := by
  have hanswered := answered_execute session line
  generalize session.execute line = result at hrefused herror hanswered ⊢
  cases hanswered with
  | refused | reported => rfl
  | reset =>
    unfold reset at hrefused herror ⊢
    split at hrefused
    · cases hrefused
    dsimp only at hrefused herror
    split at hrefused
    · rename_i hfault hreset
      rw [if_neg hfault, if_pos hreset] at herror
      exact absurd rfl herror
    · cases hrefused
  | _ => cases hrefused

theorem coherent_final (lines : List Text) :
    Coherent (machine.final new lines).state (machine.final new lines).supervised :=
  machine.invariant_induction (fun session => Coherent session.state session.supervised)
    (@coherent_restart new true) (fun _ h line => coherent_execute h line) lines

/-- After every line of every sequence of lines: a tripped supervisor means `Fault`, the
driver shows what the supervisor commands, the outputs are on only in states that may have
them on, and a refused line has changed nothing, a refused reset apart. -/
theorem sandbox_coherent (lines : List Text) (line : Text) :
    let session := machine.final new lines
    let result := session.execute line
    let after := result.2
    (after.supervisor.fault ≠ .none → after.state = .fault) ∧
    (after.driver.ignitionActive = after.supervisor.ignitionCommanded ∧
      after.driver.starterActive = after.supervisor.starterCommanded) ∧
    (after.driver.starterActive = true → after.state = .cranking) ∧
    (after.driver.ignitionActive = true → after.state = .preparing ∨ after.state = .cranking ∨
      after.state = .running ∨ after.state = .awaitingTakeover) ∧
    (result.1.ok = false → result.1.error ≠ resetRefusal → after = session) := by
  intro session result after
  have hafter : Coherent after.state after.supervised :=
    coherent_execute (coherent_final lines) line
  have hignition : after.driver.ignitionActive = after.supervisor.ignitionCommanded :=
    congrArg SandboxActuatorDriver.ignitionActive hafter.upright.mirrored
  have hstarter : after.driver.starterActive = after.supervisor.starterCommanded :=
    congrArg SandboxActuatorDriver.starterActive hafter.upright.mirrored
  have hcommanded : commanded after.supervisor = outputsOf after.state := hafter.commanded_eq
  refine ⟨hafter.propagated, ⟨hignition, hstarter⟩, fun hactive => ?_, fun hactive => ?_,
    execute_refused session line⟩
  · have hcranking : (outputsOf after.state).starter = true := by
      rw [← hcommanded]
      exact hstarter.symm.trans hactive
    simpa [outputsOf] using hcranking
  · have hkept : (outputsOf after.state).ignition = true := by
      rw [← hcommanded]
      exact hignition.symm.trans hactive
    exact keepsIgnition_iff.1 hkept

end SandboxSession

end BmwRemote.Host
