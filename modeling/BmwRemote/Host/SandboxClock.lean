import BmwRemote.Host.SandboxTime

/-! The clock of the sandbox. Between commands a session is punctual: the supervisor was
serviced at the session's own time and no deadline but that of a stop is behind it. Every
command keeps that, and `timer` does as long as its deadline is not behind. -/
namespace BmwRemote.Host.SandboxSession

open BmwRemote.Domain BmwRemote.Application BmwRemote.Infrastructure BmwRemote.Simulation
  BmwRemote.Lib

section Frames

variable {session : SandboxSession}

theorem Deadlines.of_frame {after : SandboxSession} (h : Deadlines session)
    (hframe : after.frame = session.frame) : Deadlines after := by
  have hruntime : after.runtime = session.runtime := congrArg Frame.runtime hframe
  have hnow : after.nowMs = session.nowMs := congrArg Frame.nowMs hframe
  have htimer : after.timer = session.timer := congrArg (·.fixed.timer) hframe
  have hengaged : after.supervisor.starterEngagedAtMs = session.supervisor.starterEngagedAtMs :=
    congrArg (·.fixed.starterEngagedAtMs) hframe
  have hstate : after.state = session.state := congrArg Runtime.state hruntime
  refine ⟨?_, ?_, ?_, ?_⟩
  · rw [htimer]
    exact h.settled
  · rw [htimer, hruntime, hstate]
    exact h.timed
  · rw [htimer, hstate, hnow]
    exact h.due
  · rw [htimer, hstate, hnow, hengaged]
    exact h.cranking

theorem Fits.of_propagate (h : Fits session.propagateSupervisorFault) : Fits session := by
  unfold propagateSupervisorFault at h
  split at h
  · exact h
  · exact h.of_dispatch

theorem Fits.of_dispatchUnlessFault {event : Event}
    (h : Fits (session.dispatchUnlessFault event)) : Fits session := by
  unfold dispatchUnlessFault at h
  split at h
  · exact h.of_dispatch
  · exact h

theorem nowMs_propagate : session.propagateSupervisorFault.nowMs = session.nowMs := by
  unfold propagateSupervisorFault
  split
  · rfl
  · rw [nowMs_dispatch]

def noting (targetMs : UInt32) (session : SandboxSession) : SandboxSession :=
  { session with
    timekeeping := { session.timekeeping with
      services := session.timekeeping.services ++ [(targetMs, session.lastSupervisorServiceMs)] } }

theorem serviceSupervisor_eq (targetMs : UInt32) :
    session.serviceSupervisor targetMs = serviceTo targetMs (session.noting targetMs) := rfl

theorem propagate_cases : session.propagateSupervisorFault = session ∨
    session.propagateSupervisorFault.state = .fault ∧
      session.propagateSupervisorFault.timer = {} ∧
      session.propagateSupervisorFault.timekeeping.sums = session.timekeeping.sums := by
  unfold propagateSupervisorFault
  split
  · exact .inl rfl
  rename_i hquiet
  have hfaulted : (session.dispatch (.infrastructureFailure .actuatorFailure)).state = .fault := by
    rw [state_dispatch]
    rcases dispatch_outcome session.runtime
      ⟨.infrastructureFailure .actuatorFailure, session.vehicle, session.nowMs⟩
      session.supervised with ⟨hcontroller, -⟩ | ⟨-, hstate, -⟩
    · rw [Runtime.state, hcontroller]
      rfl
    · exact hstate
  exact .inr ⟨hfaulted, faulted_dispatch (fun hfault => hquiet (.inr hfault)) hfaulted⟩

theorem propagated_dispatched (event : Event) :
    session.propagateSupervisorFault.dispatchUnlessFault event = session.dispatch event ∨
      (session.propagateSupervisorFault.dispatchUnlessFault event).state = .fault := by
  rcases @propagate_cases session with hsame | ⟨hfault, -⟩
  · rw [hsame]
    unfold dispatchUnlessFault
    split
    · exact .inl rfl
    · rename_i hfault
      exact .inr (not_not.1 hfault)
  · unfold dispatchUnlessFault
    rw [if_neg (not_not.2 hfault)]
    exact .inr hfault

end Frames

/-- A session right after the service of its supervisor at its own time. -/
structure Served (session : SandboxSession) : Prop where
  aligned : Aligned session.state session.supervised
  timeouts : Timeouts session.runtime.controller.config
  config : session.supervisor.config = {}
  serviced : session.lastSupervisorServiceMs = session.nowMs
  attended : Attended session.supervisor session.nowMs session.hardwareStartPermitted
  deadlines : Deadlines session

structure Punctual (session : SandboxSession) : Prop where
  coherent : Coherent session.state session.supervised
  timeouts : Timeouts session.runtime.controller.config
  config : session.supervisor.config = {}
  serviced : session.lastSupervisorServiceMs = session.nowMs
  observed : session.supervisor.lastObservedMs = session.nowMs
  attended : session.supervisor.ignitionCommanded = true →
    session.supervisor.heartbeatInitialized = true ∧
      session.supervisor.lastHeartbeatMs = session.nowMs ∧
      session.hardwareStartPermitted = true
  deadlines : Deadlines session
  authorized : session.state ≠ .authorizing

/-- A stop goes on under its timer, or has just begun. -/
def Stops (before after : SandboxSession) : Prop :=
  after.state = .stopping →
    before.state = .stopping ∧ after.timer = before.timer ∨
      keepsIgnition before.state = true ∧ after.timer.armed = true ∧
        after.timer.due.toNat = after.nowMs.toNat + 3000

section Served

variable {session : SandboxSession}

theorem watch_session_dispatch (event : Event) :
    (session.dispatch event).supervisor.watch = session.supervisor.watch :=
  watch_dispatch session.runtime ⟨event, session.vehicle, session.nowMs⟩ session.supervised

theorem Served.dispatch (h : Served session) {event : Event}
    (hfits : Fits (session.dispatch event)) : Served (session.dispatch event) := by
  have hwatch := @watch_session_dispatch session event
  refine ⟨(h.aligned.dispatch ⟨event, session.vehicle, session.nowMs⟩).settled _, ?_, ?_,
    h.serviced, ?_, h.deadlines.dispatch h.timeouts h.attended.observed event hfits⟩
  · rw [config_dispatch]
    exact h.timeouts
  · exact (congrArg (·.config) hwatch).trans h.config
  · exact h.attended.dispatch session.runtime ⟨event, session.vehicle, session.nowMs⟩

theorem Served.propagate (h : Served session) (hfits : Fits session.propagateSupervisorFault) :
    Served session.propagateSupervisorFault := by
  unfold propagateSupervisorFault at hfits ⊢
  split at hfits
  · rw [if_pos ‹_›]
    exact h
  · rw [if_neg ‹_›]
    exact h.dispatch hfits

theorem Served.dispatchUnlessFault (h : Served session) {event : Event}
    (hfits : Fits (session.dispatchUnlessFault event)) :
    Served (session.dispatchUnlessFault event) := by
  unfold SandboxSession.dispatchUnlessFault at hfits ⊢
  split at hfits
  · rw [if_pos ‹_›]
    exact h.dispatch hfits
  · rw [if_neg ‹_›]
    exact h

theorem Served.punctual (h : Served session)
    (hcoherent : Coherent session.state session.supervised)
    (hauthorized : session.state ≠ .authorizing) : Punctual session := by
  refine ⟨hcoherent, h.timeouts, h.config, h.serviced, h.attended.observed, fun hcommanded => ?_,
    h.deadlines, hauthorized⟩
  rcases h.attended.beaten (hcoherent.upright.sound.ignition hcommanded) with
    ⟨hinitialized, hheartbeat, -⟩
  exact ⟨hinitialized, hheartbeat, h.attended.on hcommanded⟩

theorem authorized_answer {event : Event} (hauthorized : session.state ≠ .authorizing)
    (hstart : event.type ≠ .remoteStartRequested) :
    (session.propagateSupervisorFault.dispatchUnlessFault event).state ≠ .authorizing := by
  rcases @propagated_dispatched session event with hsame | hfault
  · rw [hsame]
    intro hauthorizing
    rcases authorizing_dispatch hauthorizing with htype | ⟨hbefore, -⟩
    · exact hstart htype
    · exact hauthorized hbefore
  · rw [hfault]
    decide

theorem Served.answer (h : Served session) {event : Event}
    (hfits : Fits (session.propagateSupervisorFault.dispatchUnlessFault event)) :
    Served (session.propagateSupervisorFault.dispatchUnlessFault event) :=
  (h.propagate hfits.of_dispatchUnlessFault).dispatchUnlessFault hfits

theorem Served.stops_answer (h : Served session) {event : Event}
    (hfits : Fits (session.propagateSupervisorFault.dispatchUnlessFault event)) :
    Stops session (session.propagateSupervisorFault.dispatchUnlessFault event) := by
  intro hstopping
  rcases @propagated_dispatched session event with hsame | hfault
  · rw [hsame] at hfits hstopping ⊢
    exact stopping_dispatch h.deadlines h.timeouts hfits hstopping
  · cases hfault.symm.trans hstopping

theorem served_serviced (haligned : Aligned session.state session.supervised)
    (htimeouts : Timeouts session.runtime.controller.config)
    (hconfig : session.supervisor.config = {})
    (hobserved : session.supervisor.lastObservedMs = session.nowMs)
    (hdeadlines : Deadlines session) : Served (session.serviced session.nowMs) := by
  have hframe := @frame_serviced session session.nowMs
  refine ⟨aligned_serviced haligned session.nowMs, htimeouts, ?_, rfl,
    attended_serviced haligned.upright (.inl hobserved.symm), hdeadlines.of_frame hframe⟩
  exact (congrArg (·.fixed.config) hframe).trans hconfig

theorem serviceSupervisor_self (hserviced : session.lastSupervisorServiceMs = session.nowMs) :
    session.serviceSupervisor session.nowMs =
      (session.noting session.nowMs).serviced session.nowMs := by
  rw [serviceSupervisor_eq, ← hserviced]
  exact @serviceTo_self (session.noting session.lastSupervisorServiceMs)

theorem Punctual.serviced_self (h : Punctual session) :
    Served (session.serviceSupervisor session.nowMs) := by
  rw [serviceSupervisor_self h.serviced]
  have hdeadlines : Deadlines (session.noting session.nowMs) :=
    ⟨h.deadlines.settled, h.deadlines.timed, h.deadlines.due, h.deadlines.cranking⟩
  exact @served_serviced (session.noting session.nowMs) h.coherent.toAligned h.timeouts h.config
    h.observed hdeadlines

end Served

/-! The commands. -/

section Commands

variable {session : SandboxSession}

theorem frame_serviced_self (hserviced : session.lastSupervisorServiceMs = session.nowMs) :
    (session.serviceSupervisor session.nowMs).frame = (session.noting session.nowMs).frame := by
  rw [serviceSupervisor_self hserviced]
  exact frame_serviced session.nowMs

theorem Stops.of_frame {before serviced after : SandboxSession} (h : Stops serviced after)
    (hruntime : serviced.frame.runtime = before.runtime)
    (htimer : serviced.frame.fixed.timer = before.timer) : Stops before after := by
  have hstate : serviced.state = before.state := congrArg Runtime.state hruntime
  have htimers : serviced.timer = before.timer := htimer
  intro hstopping
  rw [← hstate, ← htimers]
  exact h hstopping

theorem punctual_request (h : Punctual session) {type : EventType} {feedAuthorizationState : Bool}
    (htype : type = .remoteStartRequested ∧ feedAuthorizationState = true ∨
      type = .remoteStopRequested ∨ type = .driverTakeoverConfirmed)
    (hfits : Fits (session.request type feedAuthorizationState)) :
    Punctual (session.request type feedAuthorizationState) ∧
      Stops session (session.request type feedAuthorizationState) := by
  have hcoherent := coherent_request h.coherent type feedAuthorizationState
  have hframe := frame_serviced_self h.serviced
  have hserved := h.serviced_self
  have hruntime : (session.serviceSupervisor session.nowMs).runtime = session.runtime :=
    congrArg Frame.runtime hframe
  have htimer : (session.serviceSupervisor session.nowMs).timer = session.timer :=
    congrArg (·.fixed.timer) hframe
  have hbefore : (session.serviceSupervisor session.nowMs).state ≠ .authorizing := by
    unfold state
    rw [hruntime]
    exact h.authorized
  unfold request at hfits hcoherent ⊢
  dsimp only at hfits hcoherent ⊢
  generalize session.serviceSupervisor session.nowMs = serviced at *
  split at hfits
  · rename_i hfeed
    rw [if_pos hfeed] at hcoherent ⊢
    have hanswered := hserved.answer hfits.of_dispatch
    refine ⟨(hanswered.dispatch hfits).punctual hcoherent ?_, fun hstopping => ?_⟩
    · intro hauthorizing
      rcases authorizing_dispatch hauthorizing with hupdate | ⟨-, hupdate⟩
      · cases hupdate
      · exact hupdate rfl
    · -- the update is dispatched in `Authorizing`, from where no stop begins
      rcases stopping_dispatch hanswered.deadlines hanswered.timeouts hfits hstopping with
        ⟨hstate, -⟩ | ⟨hkeeps, -⟩
      · cases hstate.symm.trans hfeed.2
      · rw [hfeed.2] at hkeeps
        cases hkeeps
  · rename_i hfeed
    rw [if_neg hfeed] at hcoherent ⊢
    have hauthorized :
        (serviced.propagateSupervisorFault.dispatchUnlessFault { type }).state ≠ .authorizing := by
      rcases htype with ⟨-, hfed⟩ | htype
      · exact fun hauthorizing => hfeed ⟨hfed, hauthorizing⟩
      · refine authorized_answer hbefore ?_
        rcases htype with htype | htype <;> simp [htype]
    exact ⟨(hserved.answer hfits).punctual hcoherent hauthorized,
      (hserved.stops_answer hfits).of_frame hruntime htimer⟩

theorem Punctual.seeing (h : Punctual session) (candidate : VehicleState) :
    Punctual (session.seeing candidate) :=
  ⟨h.coherent, h.timeouts, h.config, h.serviced, h.observed, h.attended,
    ⟨h.deadlines.settled, h.deadlines.timed, h.deadlines.due, h.deadlines.cranking⟩, h.authorized⟩

theorem Punctual.evaluateTelemetry (h : Punctual session) : Punctual session.evaluateTelemetry :=
  ⟨h.coherent, h.timeouts, h.config, h.serviced, h.observed, h.attended,
    ⟨h.deadlines.settled, h.deadlines.timed, h.deadlines.due, h.deadlines.cranking⟩, h.authorized⟩

theorem Stops.evaluateTelemetry {before after : SandboxSession} (h : Stops before after) :
    Stops before after.evaluateTelemetry := h

theorem punctual_applyVehicle (h : Punctual session) (candidate : VehicleState)
    (hfits : Fits (session.applyVehicle candidate)) :
    Punctual (session.applyVehicle candidate) ∧ Stops session (session.applyVehicle candidate) := by
  have hseen := h.seeing candidate
  have hserved : Served ((session.seeing candidate).serviceSupervisor session.nowMs) :=
    hseen.serviced_self
  have hframe : ((session.seeing candidate).serviceSupervisor session.nowMs).frame = _ :=
    frame_serviced_self hseen.serviced
  have hruntime : ((session.seeing candidate).serviceSupervisor session.nowMs).frame.runtime =
      session.runtime := congrArg Frame.runtime hframe
  have htimer : ((session.seeing candidate).serviceSupervisor session.nowMs).frame.fixed.timer =
      session.timer := congrArg (·.fixed.timer) hframe
  have hbefore : ((session.seeing candidate).serviceSupervisor session.nowMs).state ≠
      .authorizing := by
    have hstate := congrArg Runtime.state hruntime
    exact fun hauthorizing => h.authorized (hstate.symm.trans hauthorizing)
  have hcoherent := coherent_applyVehicle h.coherent candidate
  unfold applyVehicle at hfits hcoherent ⊢
  generalize (session.seeing candidate).serviceSupervisor session.nowMs = serviced at *
  have hanswered : Fits (serviced.propagateSupervisorFault.dispatchUnlessFault
    { type := .vehicleStateUpdated }) := hfits
  have hpunctual := (hserved.answer hanswered).punctual hcoherent
    (authorized_answer hbefore (by simp))
  have hstops : Stops session _ := (hserved.stops_answer hanswered).of_frame hruntime htimer
  exact ⟨hpunctual.evaluateTelemetry, hstops.evaluateTelemetry⟩

theorem Punctual.underway (h : Punctual session) (harmed : session.timer.armed = true)
    (hdue : session.nowMs ≤ session.timer.due) :
    Underway (session.noting session.timer.due) session.timer.due := by
  have htimed := h.deadlines.timed harmed
  have hnow : session.lastSupervisorServiceMs = session.nowMs := h.serviced
  refine ⟨h.coherent.upright, ?_, h.config, h.observed.trans hnow.symm, ?_, ?_, ?_⟩
  · refine Classical.byContradiction fun hfault => htimed ?_
    rw [h.coherent.propagated hfault]
    rfl
  · exact hnow ▸ hdue
  · exact hnow ▸ h.attended
  · intro hstarter
    have hcommanded : session.supervisor.starterCommanded = (session.state == .cranking) :=
      congrArg Outputs.starter h.coherent.commanded_eq
    have hcranking : session.state = .cranking := eq_of_beq (hcommanded.symm.trans hstarter)
    rcases h.deadlines.cranking hcranking with ⟨hengaged, hlimit⟩
    exact ⟨hnow ▸ hengaged, Nat.le_of_eq hlimit⟩

theorem frame_serviceTo (targetMs : UInt32) :
    (serviceTo targetMs session).frame = session.frame := frame_serviceFrom targetMs _

theorem Punctual.advanced (h : Punctual session) (harmed : session.timer.armed = true)
    (hdue : session.nowMs ≤ session.timer.due) : Served session.advanced := by
  have hattended := attended_serviceTo (h.underway harmed hdue)
  have hframe : (session.serviceSupervisor session.timer.due).frame =
      (session.noting session.timer.due).frame := frame_serviceTo session.timer.due
  have haligned := aligned_serviceSupervisor h.coherent.toAligned session.timer.due
  have hruntime : (session.serviceSupervisor session.timer.due).runtime = session.runtime :=
    congrArg Frame.runtime hframe
  have htimer : (session.serviceSupervisor session.timer.due).timer = session.timer :=
    congrArg (·.fixed.timer) hframe
  have hstate : (session.serviceSupervisor session.timer.due).state = session.state :=
    congrArg Runtime.state hruntime
  have hpermitted : (session.serviceSupervisor session.timer.due).hardwareStartPermitted =
      session.hardwareStartPermitted := congrArg Frame.hardwareStartPermitted hframe
  refine ⟨haligned, ?_, ?_, hattended.1, ?_, ?_⟩
  · exact hruntime ▸ h.timeouts
  · exact (congrArg (·.fixed.config) hframe).trans h.config
  · exact hpermitted ▸ hattended.2
  · have htimers : session.advanced.timer = session.timer := htimer
    have hstates : session.advanced.state = session.state := hstate
    have hconfig : session.advanced.runtime = session.runtime := hruntime
    have hengaged : session.advanced.supervisor.starterEngagedAtMs =
        session.supervisor.starterEngagedAtMs := congrArg (·.fixed.starterEngagedAtMs) hframe
    refine ⟨?_, ?_, ?_, ?_⟩
    · exact htimers ▸ h.deadlines.settled
    · rw [htimers, hstates, hconfig]
      exact h.deadlines.timed
    · rw [htimers]
      exact fun _ _ => UInt32.le_refl _
    · rw [hstates, htimers, hengaged]
      intro hcranking
      rcases h.deadlines.cranking hcranking with ⟨hle, hlimit⟩
      exact ⟨UInt32.le_trans hle hdue, hlimit⟩

theorem punctual_elapse (h : Punctual session) (harmed : session.timer.armed = true)
    (hdue : session.nowMs ≤ session.timer.due) (hfits : Fits session.elapse) :
    Punctual session.elapse ∧ Stops session session.elapse := by
  have hserved := h.advanced harmed hdue
  have hframe : (session.serviceSupervisor session.timer.due).frame =
      (session.noting session.timer.due).frame := frame_serviceTo session.timer.due
  have hruntime : session.advanced.frame.runtime = session.runtime :=
    congrArg Frame.runtime hframe
  have htimer : session.advanced.frame.fixed.timer = session.timer :=
    congrArg (·.fixed.timer) hframe
  have hbefore : session.advanced.state ≠ .authorizing := by
    have hstate := congrArg Runtime.state hruntime
    exact fun hauthorizing => h.authorized (hstate.symm.trans hauthorizing)
  have hcoherent := coherent_elapse h.coherent
  unfold elapse at hfits hcoherent ⊢
  exact ⟨(hserved.answer hfits).punctual hcoherent (authorized_answer hbefore (by simp)),
    (hserved.stops_answer hfits).of_frame hruntime htimer⟩

theorem Punctual.ignition_iff (h : Punctual session) :
    session.supervisor.ignitionCommanded = keepsIgnition session.state :=
  congrArg Outputs.ignition h.coherent.commanded_eq

theorem Punctual.stopping_of_armed (h : Punctual session) (harmed : session.timer.armed = true)
    (hoff : keepsIgnition session.state = false) : session.state = .stopping := by
  have htimed := h.deadlines.timed harmed
  have hauthorized := h.authorized
  generalize session.state = reached at htimed hauthorized hoff ⊢
  cases reached with
  | stopping => rfl
  | authorizing => exact absurd rfl hauthorized
  | idle | driverControl | fault => exact absurd rfl htimed
  | preparing | cranking | running | awaitingTakeover => cases hoff

theorem punctual_interlock (h : Punctual session) (enabled : Bool)
    (hfits : Fits (session.interlock enabled)) :
    Punctual (session.interlock enabled) ∧ Stops session (session.interlock enabled) := by
  have hdeadlines : Deadlines (session.permitting enabled) :=
    ⟨h.deadlines.settled, h.deadlines.timed, h.deadlines.due, h.deadlines.cranking⟩
  have hserved : Served ((session.permitting enabled).serviced session.nowMs) :=
    @served_serviced (session.permitting enabled) h.coherent.toAligned h.timeouts h.config
      h.observed hdeadlines
  have hframe : ((session.permitting enabled).serviced session.nowMs).frame =
      (session.permitting enabled).frame := frame_serviced session.nowMs
  have hcoherent := coherent_interlock h.coherent enabled
  unfold interlock at hfits hcoherent ⊢
  generalize (session.permitting enabled).serviced session.nowMs = serviced at *
  have hruntime : serviced.frame.runtime = session.runtime := congrArg Frame.runtime hframe
  have htimer : serviced.frame.fixed.timer = session.timer := congrArg (·.fixed.timer) hframe
  have hstate : serviced.state = session.state := congrArg Runtime.state hruntime
  have hpropagated := hserved.propagate hfits
  rcases @propagate_cases serviced with hsame | ⟨hfault, -⟩
  · rw [hsame] at hpropagated hcoherent ⊢
    refine ⟨hpropagated.punctual hcoherent ?_, fun hstopping => .inl ⟨?_, htimer⟩⟩
    · rw [hstate]
      exact h.authorized
    · exact hstate.symm.trans hstopping
  · refine ⟨hpropagated.punctual hcoherent ?_, fun hstopping => ?_⟩
    · rw [hfault]
      decide
    · cases hfault.symm.trans hstopping

theorem punctual_fault (hcoherent : Coherent session.state session.supervised)
    (hfault : session.state = .fault) (htimer : session.timer.armed = false)
    (htimeouts : Timeouts session.runtime.controller.config)
    (hconfig : session.supervisor.config = {})
    (hserviced : session.lastSupervisorServiceMs = session.nowMs)
    (hobserved : session.supervisor.lastObservedMs = session.nowMs) : Punctual session := by
  have hoff : session.supervisor.ignitionCommanded = keepsIgnition session.state :=
    congrArg Outputs.ignition hcoherent.commanded_eq
  refine ⟨hcoherent, htimeouts, hconfig, hserviced, hobserved, fun hcommanded => ?_, ?_, ?_⟩
  · rw [hfault] at hoff
    cases hoff.symm.trans hcommanded
  · exact deadlines_of_unarmed htimer (by simp [hfault])
  · rw [hfault]
    decide

theorem watch_propagate : session.propagateSupervisorFault.supervisor.watch =
    session.supervisor.watch := by
  unfold propagateSupervisorFault
  split
  · rfl
  · exact watch_session_dispatch _

theorem config_propagate : session.propagateSupervisorFault.runtime.controller.config =
    session.runtime.controller.config := by
  unfold propagateSupervisorFault
  split
  · rfl
  · exact config_dispatch _ _

theorem serviced_propagate : session.propagateSupervisorFault.lastSupervisorServiceMs =
    session.lastSupervisorServiceMs := by
  unfold propagateSupervisorFault
  split <;> rfl

theorem supervisor_suspended : session.suspended.supervisor = session.supervisor := by
  dsimp only [suspended, supervisor]

theorem upright_suspended (h : Upright session.supervised) :
    Upright session.suspended.supervised := by
  dsimp only [suspended]
  exact h

theorem frame_suspended :
    let polled := session.suspended.polled session.suspended.nowMs
    polled.runtime = session.runtime ∧ polled.timer = session.timer ∧
      polled.supervisor.config = session.supervisor.config ∧
      polled.timekeeping.services = session.timekeeping.services ∧
      polled.timekeeping.sums = session.timekeeping.sums ++
        [(session.lastSupervisorServiceMs, watchdogDelayMs)] := by
  have hframe := @frame_polled session.suspended session.suspended.nowMs
  have hruntime := congrArg Frame.runtime hframe
  have hfixed := congrArg Frame.fixed hframe
  have htimekeeping := congrArg Frame.timekeeping hframe
  dsimp only [frame, suspended, fixed] at hruntime hfixed htimekeeping ⊢
  refine ⟨hruntime, congrArg Fixed.timer hfixed, congrArg Fixed.config hfixed, ?_, ?_⟩
  all_goals rw [htimekeeping]

theorem Punctual.suspended_off (h : Punctual session)
    (hclock : session.suspended.Ordered session.suspended.nowMs) :
    let polled := session.suspended.polled session.suspended.nowMs
    polled.supervisor.lastObservedMs = polled.nowMs ∧
      polled.supervisor.ignitionCommanded = false := by
  intro polled
  have hpolled := polled_observed (upright_suspended h.coherent.upright) hclock
  refine ⟨hpolled.1, ?_⟩
  rw [← Bool.not_eq_true]
  intro hcommanded
  rcases hpolled.2.2 hcommanded with ⟨hbefore, -, hlimit⟩
  rw [supervisor_suspended] at hbefore hlimit
  have hheartbeat : session.supervisor.lastHeartbeatMs = session.lastSupervisorServiceMs :=
    (h.attended hbefore).2.1.trans h.serviced.symm
  have hnow : session.suspended.nowMs = session.lastSupervisorServiceMs + watchdogDelayMs := rfl
  rw [hheartbeat, h.config, hnow, UInt32.add_comm, UInt32.add_sub_cancel] at hlimit
  exact absurd hlimit (by decide)

theorem Punctual.propagate_off (h : Punctual session) {polled : SandboxSession}
    (hcoherent : Coherent polled.propagateSupervisorFault.state
      polled.propagateSupervisorFault.supervised)
    (hruntime : polled.runtime = session.runtime) (htimer : polled.timer = session.timer)
    (hconfig : polled.supervisor.config = {})
    (hserviced : polled.lastSupervisorServiceMs = polled.nowMs)
    (hobserved : polled.supervisor.lastObservedMs = polled.nowMs)
    (hoff : polled.supervisor.ignitionCommanded = false) :
    Punctual polled.propagateSupervisorFault ∧ Stops session polled.propagateSupervisorFault := by
  have hstate : polled.state = session.state := congrArg Runtime.state hruntime
  rcases @propagate_cases polled with hsame | ⟨hfault, hcancelled, -⟩
  · rw [hsame] at hcoherent ⊢
    have hkeeps : keepsIgnition session.state = false := by
      have hignition : polled.supervisor.ignitionCommanded = keepsIgnition polled.state :=
        congrArg Outputs.ignition hcoherent.commanded_eq
      rw [← hstate, ← hignition]
      exact hoff
    refine ⟨⟨hcoherent, ?_, hconfig, hserviced, hobserved, ?_, ⟨?_, ?_, ?_, ?_⟩, ?_⟩, ?_⟩
    · exact hruntime ▸ h.timeouts
    · intro hcommanded
      cases hoff.symm.trans hcommanded
    · rw [htimer]
      exact h.deadlines.settled
    · rw [htimer, hstate, hruntime]
      exact h.deadlines.timed
    · rw [htimer, hstate]
      exact fun harmed hnot => absurd (h.stopping_of_armed harmed hkeeps) hnot
    · rw [hstate]
      intro hcranking
      rw [hcranking] at hkeeps
      cases hkeeps
    · rw [hstate]
      exact h.authorized
    · exact fun hstopping => .inl ⟨hstate.symm.trans hstopping, htimer⟩
  · have hwatch := @watch_propagate polled
    refine ⟨punctual_fault hcoherent hfault ?_ ?_ ?_ ?_ ?_, fun hstopping => ?_⟩
    · rw [hcancelled]
    · rw [config_propagate, hruntime]
      exact h.timeouts
    · exact (congrArg (·.config) hwatch).trans hconfig
    · rw [serviced_propagate, nowMs_propagate]
      exact hserviced
    · rw [nowMs_propagate]
      exact (congrArg (·.lastObservedMs) hwatch).trans hobserved
    · cases hfault.symm.trans hstopping

theorem Punctual.nowMs_suspended (h : Punctual session) (hfits : Fits session.watchdog) :
    session.suspended.nowMs.toNat = session.nowMs.toNat + 501 := by
  rcases @frame_suspended session with ⟨-, -, -, -, hsums⟩
  have hfit : session.lastSupervisorServiceMs.toNat + watchdogDelayMs.toNat < 2 ^ 32 := by
    apply hfits.of_propagate (session.lastSupervisorServiceMs, watchdogDelayMs)
    rw [hsums]
    exact List.mem_append_right _ (List.mem_singleton_self _)
  rw [← h.serviced]
  exact toNat_add_of_fits hfit

theorem Punctual.ordered_suspended (h : Punctual session) (hfits : Fits session.watchdog) :
    session.suspended.Ordered session.suspended.nowMs := by
  have hnow := h.nowMs_suspended hfits
  unfold Ordered
  rw [supervisor_suspended, h.observed]
  apply eq_or_strictlyNewer
  · rw [UInt32.le_iff_toNat_le, hnow]
    omega
  · have hhalf : halfCounterRange.toNat = 2147483648 := rfl
    omega

theorem punctual_watchdog (h : Punctual session) (hfits : Fits session.watchdog) :
    Punctual session.watchdog ∧ Stops session session.watchdog := by
  rcases @frame_suspended session with ⟨hruntime, htimer, hconfig, -, -⟩
  rcases h.suspended_off (h.ordered_suspended hfits) with ⟨hobserved, hoff⟩
  have hserviced : (session.suspended.polled session.suspended.nowMs).lastSupervisorServiceMs =
      (session.suspended.polled session.suspended.nowMs).nowMs := by
    dsimp only [polled, poll]
  exact h.propagate_off (coherent_watchdog h.coherent) hruntime htimer (hconfig.trans h.config)
    hserviced hobserved hoff

theorem Punctual.nowMs_watchdog (h : Punctual session) (hfits : Fits session.watchdog) :
    session.watchdog.nowMs.toNat = session.nowMs.toNat + 501 :=
  (congrArg UInt32.toNat nowMs_propagate).trans (h.nowMs_suspended hfits)

theorem keepsIgnition_reset (hkeeps : keepsIgnition
    (session.dispatch { type := .resetRequested }).state = true) :
    keepsIgnition session.state = true := by
  rcases handled_dispatch { type := .resetRequested } session with hfault | ⟨fault, actions, hhandled⟩
  · rw [hfault] at hkeeps
    cases hkeeps
  generalize (session.dispatch { type := .resetRequested }).state = after at hhandled hkeeps
  cases hhandled with
  | silent | ignored | alreadyStopped | stopIgnoredInFault | startDisabled | profileRejected
  | resetRejected => exact hkeeps
  | startRejected | completeDriverTakeover | completeStop | reset | enterFault | driveEnded
  | beginStopping | startAccepted => cases hkeeps
  | beginPreparing _ htype | beginCranking _ htype | beginRunning _ htype
  | beginAwaitingTakeover _ htype => cases htype

theorem Punctual.dispatch_reset (h : Punctual session)
    (hcoherent : Coherent (session.dispatch { type := .resetRequested }).state
      (session.dispatch { type := .resetRequested }).supervised)
    (hfits : Fits (session.dispatch { type := .resetRequested })) :
    Punctual (session.dispatch { type := .resetRequested }) ∧
      Stops session (session.dispatch { type := .resetRequested }) := by
  have hwatch := @watch_session_dispatch session { type := .resetRequested }
  have hignition : (session.dispatch { type := .resetRequested }).supervisor.ignitionCommanded =
      keepsIgnition (session.dispatch { type := .resetRequested }).state :=
    congrArg Outputs.ignition hcoherent.commanded_eq
  refine ⟨⟨hcoherent, ?_, ?_, h.serviced, ?_, fun hcommanded => ?_,
    h.deadlines.dispatch h.timeouts h.observed _ hfits, fun hauthorizing => ?_⟩,
    stopping_dispatch h.deadlines h.timeouts hfits⟩
  · rw [config_dispatch]
    exact h.timeouts
  · exact (congrArg (·.config) hwatch).trans h.config
  · exact (congrArg (·.lastObservedMs) hwatch).trans h.observed
  · have hbefore : session.supervisor.ignitionCommanded = true :=
      h.ignition_iff.trans (keepsIgnition_reset (hignition.symm.trans hcommanded))
    rcases h.attended hbefore with ⟨hinitialized, hheartbeat, hpermitted⟩
    exact ⟨(congrArg (·.heartbeatInitialized) hwatch).trans hinitialized,
      (congrArg (·.lastHeartbeatMs) hwatch).trans hheartbeat, hpermitted⟩
  · rcases authorizing_dispatch hauthorizing with htype | ⟨hbefore, -⟩
    · cases htype
    · exact h.authorized hbefore

def resetting (session : SandboxSession) : SandboxSession :=
  { session with
    supervised := (ActuatorSafetySupervisor.resetFault sandboxPorts.actuators session.nowMs
      session.driver.feedback session.supervised).2 }

theorem reset_cases (session : SandboxSession) :
    (session.supervisor.fault = .none ∧
      session.reset = (session.dispatch { type := .resetRequested }).success) ∨
    (session.supervisor.fault ≠ .none ∧ session.reset = session.resetting.failure resetRefusal) ∨
    (session.supervisor.fault ≠ .none ∧
      session.resetting.supervisor =
        ((session.supervisor.observed session.nowMs).safed true).cleared ∧
      session.reset =
        ((session.resetting.serviced session.nowMs).dispatch
          { type := .resetRequested }).success) := by
  unfold reset
  split
  · rename_i hnone
    exact .inl ⟨hnone, rfl⟩
  · rename_i hfault
    dsimp only
    split
    · exact .inr (.inl ⟨hfault, rfl⟩)
    · rename_i haccepted
      rw [Bool.not_eq_true, Bool.not_eq_false'] at haccepted
      exact .inr (.inr ⟨hfault, ActuatorSafetySupervisor.resetFault_accepted haccepted, rfl⟩)

theorem Punctual.unarmed_of_fault (h : Punctual session) (hfault : session.state = .fault) :
    session.timer.armed = false := by
  rw [← Bool.not_eq_true]
  intro harmed
  have htimed := h.deadlines.timed harmed
  rw [hfault] at htimed
  exact htimed rfl

theorem punctual_resetting (h : Punctual session) (hfault : session.supervisor.fault ≠ .none)
    (hcoherent : Coherent session.resetting.state session.resetting.supervised) :
    Punctual session.resetting := by
  have hfixed := fixed_resetFault session.supervised session.nowMs session.driver.feedback
  have hstate : session.state = .fault := h.coherent.propagated hfault
  have htimer : session.resetting.timer = session.timer := congrArg Fixed.timer hfixed
  refine punctual_fault hcoherent hstate ?_ h.timeouts ?_ h.serviced ?_
  · rw [htimer]
    exact h.unarmed_of_fault hstate
  · exact (congrArg Fixed.config hfixed).trans h.config
  · exact lastObservedMs_resetFault session.supervised session.nowMs _ h.observed

theorem punctual_reset (h : Punctual session) (hfits : Fits session.reset.2) :
    Punctual session.reset.2 ∧ Stops session session.reset.2 := by
  have hcoherent := coherent_reset h.coherent
  rcases reset_cases session with ⟨-, hreset⟩ | ⟨hfault, hreset⟩ | ⟨hfault, hcleared, hreset⟩
  · rw [hreset] at hcoherent hfits ⊢
    exact h.dispatch_reset hcoherent hfits
  · rw [hreset] at hcoherent ⊢
    refine ⟨punctual_resetting h hfault hcoherent, fun hstopping => ?_⟩
    cases (h.coherent.propagated hfault).symm.trans hstopping
  · rw [hreset] at hcoherent hfits ⊢
    have hstate : session.state = .fault := h.coherent.propagated hfault
    have hfixed := fixed_resetFault session.supervised session.nowMs session.driver.feedback
    have htimer : session.resetting.timer = session.timer := congrArg Fixed.timer hfixed
    have hconfig : session.resetting.supervisor.config = {} :=
      (congrArg Fixed.config hfixed).trans h.config
    have hoff : commanded session.resetting.supervisor = outputsOf session.resetting.state := by
      rw [hcleared, show session.resetting.state = .fault from hstate]
      rfl
    have haligned : Aligned session.resetting.state session.resetting.supervised :=
      ⟨h.coherent.upright.resetFault session.nowMs session.driver.feedback, fun _ => hoff⟩
    have hdeadlines : Deadlines session.resetting := by
      refine deadlines_of_unarmed ?_ (by simp [show session.resetting.state = .fault from hstate])
      rw [htimer]
      exact h.unarmed_of_fault hstate
    have hserved : Served (session.resetting.serviced session.nowMs) :=
      @served_serviced session.resetting haligned h.timeouts hconfig
        (lastObservedMs_resetFault session.supervised session.nowMs _ h.observed) hdeadlines
    have hbefore : (session.resetting.serviced session.nowMs).state = .fault := hstate
    refine ⟨(hserved.dispatch hfits).punctual hcoherent fun hauthorizing => ?_, fun hstopping => ?_⟩
    · rcases authorizing_dispatch hauthorizing with htype | ⟨hauthorizing, -⟩
      · cases htype
      · cases hbefore.symm.trans hauthorizing
    · rcases stopping_dispatch hserved.deadlines hserved.timeouts hfits hstopping with
        ⟨hstopped, -⟩ | ⟨hkeeps, -⟩
      · cases hbefore.symm.trans hstopped
      · rw [hbefore] at hkeeps
        cases hkeeps

theorem punctual_requesting (h : Punctual session) (features : FeatureRequests) :
    Punctual (session.requesting features).rebuildTelemetryMonitor :=
  ⟨h.coherent, h.timeouts, h.config, h.serviced, h.observed, h.attended,
    ⟨h.deadlines.settled, h.deadlines.timed, h.deadlines.due, h.deadlines.cranking⟩, h.authorized⟩

theorem timeouts_restart (requireHood : Bool) :
    Timeouts (session.restart requireHood).runtime.controller.config := by
  change Timeouts (makeUserConfiguration (settingsFor requireHood)
    (some syntheticVehicleProfile)).controller
  unfold makeUserConfiguration
  dsimp only
  split <;> exact ⟨rfl, rfl⟩

theorem punctual_restart (requireHood : Bool) : Punctual (session.restart requireHood) := by
  have hstate : (session.restart requireHood).state = .idle := rfl
  let opened : SandboxSession :=
    { supervised := ActuatorSafetySupervisor.construct sandboxPorts.actuators {} {}
      runtime := ⟨Controller.new, none⟩ }
  have hopened : (session.restart requireHood).supervised =
      ((opened.heartbeat 0).poll 0).supervised := rfl
  have hclosed : ((opened.heartbeat 0).poll 0).supervised.1.config = {} ∧
      ((opened.heartbeat 0).poll 0).supervised.1.lastObservedMs = 0 ∧
      ((opened.heartbeat 0).poll 0).supervised.1.ignitionCommanded = false ∧
      ((opened.heartbeat 0).poll 0).supervised.2.timer.armed = false := by decide
  refine ⟨coherent_restart requireHood, timeouts_restart requireHood, ?_, rfl, ?_, ?_, ?_, ?_⟩
  · unfold supervisor
    rw [hopened]
    exact hclosed.1
  · unfold supervisor
    rw [hopened]
    exact hclosed.2.1
  · unfold supervisor
    rw [hopened]
    intro hcommanded
    cases hclosed.2.2.1.symm.trans hcommanded
  · refine deadlines_of_unarmed ?_ (by simp [hstate])
    unfold timer
    rw [hopened]
    exact hclosed.2.2.2
  · simp [hstate]

end Commands

end BmwRemote.Host.SandboxSession
