import BmwRemote.Host.SandboxCoherence

/-! The service of the supervisor up to a target. Under way to a target that is not behind
it, the loop trips nowhere before the target and leaves the supervisor attended there. -/
namespace BmwRemote.Host

open BmwRemote.Domain BmwRemote.Application BmwRemote.Infrastructure BmwRemote.Lib
open ActuatorSafetySupervisor (Called trip)

structure Fixed where
  config : ActuatorSafetyConfig
  starterEngagedAtMs : UInt32
  timer : SandboxTimer

def fixed (state : Supervised SandboxWorld) : Fixed :=
  ⟨state.1.config, state.1.starterEngagedAtMs, state.2.timer⟩

section Fixed

variable (state : Supervised SandboxWorld) (nowMs : UInt32)

theorem fixed_trip (fault : ActuatorSupervisorFault) :
    fixed (trip sandboxPorts.actuators fault state) = fixed state := by
  unfold trip
  dsimp only
  split <;> rfl

theorem lastObservedMs_trip (fault : ActuatorSupervisorFault) :
    (trip sandboxPorts.actuators fault state).1.lastObservedMs = state.1.lastObservedMs :=
  congrArg (·.lastObservedMs)
    (@ActuatorSafetySupervisor.watch_trip _ sandboxPorts.actuators fault state)

theorem fixed_heartbeat :
    fixed (ActuatorSafetySupervisor.heartbeat sandboxPorts.actuators nowMs state).2 =
      fixed state := by
  unfold ActuatorSafetySupervisor.heartbeat
  rcases ActuatorSafetySupervisor.observeClock_cases sandboxPorts.actuators nowMs state with
    hclock | hclock
  · rw [hclock]
    exact fixed_trip state _
  · rw [hclock]
    simp only [Bool.not_true, Bool.false_eq_true, ↓reduceIte]
    split
    · rfl
    split
    · exact fixed_trip (state.1.observed nowMs, state.2) _
    · rfl

theorem fixed_poll (permitted : Bool) (feedback : ActuatorFeedback) :
    fixed (ActuatorSafetySupervisor.poll sandboxPorts.actuators nowMs permitted feedback state).2 =
      fixed state := by
  unfold ActuatorSafetySupervisor.poll
  rcases ActuatorSafetySupervisor.observeClock_cases sandboxPorts.actuators nowMs state with
    hclock | hclock
  · rw [hclock]
    exact fixed_trip state _
  · rw [hclock]
    simp only [Bool.not_true, Bool.false_eq_true, ↓reduceIte]
    split
    · rfl
    split
    · exact fixed_trip ((state.1.observed nowMs).permitting permitted, state.2) _
    split <;> rfl

theorem fixed_resetFault (feedback : ActuatorFeedback) :
    fixed (ActuatorSafetySupervisor.resetFault sandboxPorts.actuators nowMs feedback state).2 =
      fixed state := by
  unfold ActuatorSafetySupervisor.resetFault
  rcases ActuatorSafetySupervisor.observeClock_cases sandboxPorts.actuators nowMs state with
    hclock | hclock
  · rw [hclock]
    exact fixed_trip state _
  · rw [hclock]
    simp only [Bool.not_true, Bool.false_eq_true, ↓reduceIte]
    split
    · rfl
    split
    · rfl
    split <;> rfl

theorem lastObservedMs_resetFault (feedback : ActuatorFeedback)
    (hobserved : state.1.lastObservedMs = nowMs) :
    (ActuatorSafetySupervisor.resetFault sandboxPorts.actuators nowMs feedback
      state).2.1.lastObservedMs = nowMs := by
  unfold ActuatorSafetySupervisor.resetFault
  rcases ActuatorSafetySupervisor.observeClock_cases sandboxPorts.actuators nowMs state with
    hclock | hclock
  · rw [hclock]
    exact (lastObservedMs_trip state _).trans hobserved
  · rw [hclock]
    simp only [Bool.not_true, Bool.false_eq_true, ↓reduceIte]
    split
    · rfl
    split
    · rfl
    split <;> rfl

end Fixed

/-- A supervisor that had its heartbeat and its poll at this time, unless it has tripped. -/
structure Attended (supervisor : ActuatorSafetySupervisor) (nowMs : UInt32) (permitted : Bool) :
    Prop where
  observed : supervisor.lastObservedMs = nowMs
  beaten : supervisor.fault = .none → supervisor.heartbeatInitialized = true ∧
    supervisor.lastHeartbeatMs = nowMs ∧ supervisor.hardwareStartPermitted = permitted
  on : supervisor.ignitionCommanded = true → permitted = true

section Attended

variable {state : Supervised SandboxWorld} {nowMs : UInt32} {permitted : Bool}

theorem attended_trip (fault : ActuatorSupervisorFault) (hfault : fault ≠ .none)
    (hobserved : state.1.lastObservedMs = nowMs) :
    Attended (trip sandboxPorts.actuators fault state).1 nowMs permitted := by
  refine ⟨(lastObservedMs_trip state fault).trans hobserved, fun hnone => ?_, nofun⟩
  exact absurd hnone (ActuatorSafetySupervisor.trip_fault_ne_none hfault state)

theorem Attended.called (h : Attended state.1 nowMs permitted) {call : ActuatorCall}
    {result : Bool × Supervised SandboxWorld}
    (hcalled : Called sandboxPorts.actuators state call result) :
    Attended result.2.1 nowMs permitted := by
  cases hcalled with
  | accepted hallows =>
    cases call with
    | enableIgnition =>
      refine ⟨h.observed, h.beaten, fun _ => ?_⟩
      have henergizable : state.1.Energizable := hallows
      rw [← (h.beaten henergizable.fault).2.2]
      exact henergizable.permitted
    | engageStarter | disengageStarter => exact ⟨h.observed, h.beaten, h.on⟩
    | releaseRemoteControl | secureOutputs => exact ⟨h.observed, h.beaten, nofun⟩
  | latched => exact h
  | tripped fault hfault => exact attended_trip fault hfault h.observed

theorem Attended.dispatch (h : Attended state.1 nowMs permitted) (runtime : Runtime)
    (input : Runtime.Input) : Attended
      (Runtime.dispatch (supervisedPorts sandboxPorts) runtime input state).2.2.1 nowMs
      permitted := by
  have hcall : ∀ call reached, Attended reached.1 nowMs permitted →
      Attended ((supervisedPorts sandboxPorts).perform call reached).2.1 nowMs permitted := by
    intro call reached hreached
    cases call with
    | actuator call => exact hreached.called (sandbox_called reached call)
    | _ => exact hreached
  exact Runtime.dispatch_keeps _ hcall runtime input state h

end Attended

namespace SandboxSession

structure Frame where
  runtime : Runtime
  nowMs : UInt32
  hardwareStartPermitted : Bool
  fixed : Fixed
  timekeeping : Timekeeping

def frame (session : SandboxSession) : Frame :=
  ⟨session.runtime, session.nowMs, session.hardwareStartPermitted, fixed session.supervised,
    session.timekeeping⟩

section Service

variable {session : SandboxSession}

theorem frame_polled (atMs : UInt32) : (session.polled atMs).frame = session.frame :=
  congrArg (Frame.mk _ _ _ · _) (fixed_poll session.supervised atMs _ _)

theorem frame_serviced (atMs : UInt32) : (session.serviced atMs).frame = session.frame := by
  have hbeaten : (session.heartbeat atMs).frame = session.frame :=
    congrArg (Frame.mk _ _ _ · _) (fixed_heartbeat session.supervised atMs)
  exact (frame_polled atMs).trans hbeaten

theorem frame_serviceFrom (targetMs : UInt32) (turns : Nat) :
    (serviceFrom targetMs turns session).frame = session.frame := by
  induction turns generalizing session with
  | zero => exact frame_serviced targetMs
  | succ turns ih =>
    unfold serviceFrom
    dsimp only
    split
    · split
      · exact frame_serviced _
      · exact ih.trans (frame_serviced _)
    · exact frame_serviced targetMs

def Ordered (session : SandboxSession) (atMs : UInt32) : Prop :=
  atMs = session.supervisor.lastObservedMs ∨
    strictlyNewer atMs session.supervisor.lastObservedMs = true

theorem heartbeat_observed (hupright : Upright session.supervised) {atMs : UInt32}
    (hclock : session.Ordered atMs) :
    (session.heartbeat atMs).supervisor.lastObservedMs = atMs ∧
      ((session.heartbeat atMs).supervisor.fault = .none →
        (session.heartbeat atMs).supervisor.heartbeatInitialized = true ∧
          (session.heartbeat atMs).supervisor.lastHeartbeatMs = atMs) := by
  unfold supervisor heartbeat
  dsimp only
  rcases ActuatorSafetySupervisor.heartbeat_ordered (fun _ => hclock) hupright.sound.ready with
    ⟨hlatched, hfault⟩ | htripped | hbeaten
  · rw [hlatched]
    exact ⟨rfl, fun hnone => absurd hnone hfault⟩
  · rw [htripped]
    refine ⟨lastObservedMs_trip (session.supervised.1.observed atMs, session.supervised.2) _,
      fun hnone => absurd hnone ?_⟩
    exact ActuatorSafetySupervisor.trip_fault_ne_none (by decide) _
  · rw [hbeaten]
    exact ⟨rfl, fun _ => ⟨rfl, rfl⟩⟩

/-- The supervisor after a poll: the outputs that are still on had a recent heartbeat. -/
theorem polled_observed (hupright : Upright session.supervised) {atMs : UInt32}
    (hclock : session.Ordered atMs) :
    let after := (session.polled atMs).supervisor
    after.lastObservedMs = atMs ∧
      (after.fault = .none → session.supervisor.fault = .none ∧
        after.hardwareStartPermitted = session.hardwareStartPermitted ∧
        after.heartbeatInitialized = session.supervisor.heartbeatInitialized ∧
        after.lastHeartbeatMs = session.supervisor.lastHeartbeatMs) ∧
      (after.ignitionCommanded = true → session.supervisor.ignitionCommanded = true ∧
        session.hardwareStartPermitted = true ∧
        atMs - session.supervisor.lastHeartbeatMs ≤
          session.supervisor.config.watchdogTimeoutMs) := by
  intro after
  have hignition : session.supervisor.fault ≠ .none →
      session.supervisor.ignitionCommanded = false := by
    intro hfault
    rw [← Bool.not_eq_true]
    exact fun hcommanded => hfault (hupright.sound.ignition hcommanded)
  have hpolled := @ActuatorSafetySupervisor.poll_ordered _ sandboxPorts.actuators
    session.supervised atMs session.hardwareStartPermitted session.driver.feedback
    (fun _ => hclock) hupright.sound.ready
  have hafter : after = (ActuatorSafetySupervisor.poll sandboxPorts.actuators atMs
    session.hardwareStartPermitted session.driver.feedback session.supervised).2.1 := rfl
  rcases hpolled with ⟨hlatched, hfault⟩ | ⟨fault, hfault, htripped⟩ | ⟨hconfirmed, hactive⟩
  · rw [hafter, hlatched]
    refine ⟨rfl, fun hnone => absurd hnone hfault, fun hcommanded => ?_⟩
    cases (hignition hfault).symm.trans hcommanded
  · rw [hafter, htripped]
    refine ⟨lastObservedMs_trip ((session.supervised.1.observed atMs).permitting
      session.hardwareStartPermitted, session.supervised.2) fault, fun hnone => ?_, nofun⟩
    exact absurd hnone (ActuatorSafetySupervisor.trip_fault_ne_none hfault _)
  · have hon : session.supervisor.ignitionCommanded = true →
        session.supervisor.outputsActive = true := by
      intro hcommanded
      unfold ActuatorSafetySupervisor.outputsActive
      rw [hcommanded, Bool.true_or]
    rcases hconfirmed with hresult | hresult
    · rw [hafter, hresult]
      exact ⟨rfl, fun hnone => ⟨hnone, rfl, rfl, rfl⟩,
        fun hcommanded => ⟨hcommanded, hactive (hon hcommanded)⟩⟩
    · rw [hafter, hresult]
      exact ⟨rfl, fun hnone => ⟨hnone, rfl, rfl, rfl⟩,
        fun hcommanded => ⟨hcommanded, hactive (hon hcommanded)⟩⟩

theorem attended_serviced (hupright : Upright session.supervised) {atMs : UInt32}
    (hclock : session.Ordered atMs) :
    Attended (session.serviced atMs).supervisor atMs session.hardwareStartPermitted := by
  have hbeaten := heartbeat_observed hupright hclock
  have hpolled := @polled_observed (session.heartbeat atMs) (hupright.heartbeat atMs) atMs
    (.inl hbeaten.1.symm)
  refine ⟨hpolled.1, fun hnone => ?_, fun hcommanded => (hpolled.2.2 hcommanded).2.1⟩
  rcases hpolled.2.1 hnone with ⟨hfault, hpermitted, hinitialized, hheartbeat⟩
  have hlast := hbeaten.2 hfault
  exact ⟨hinitialized.trans hlast.1, hheartbeat.trans hlast.2, hpermitted⟩

/-! The loop. -/

theorem supervisorServicePeriodMs_toNat : supervisorServicePeriodMs.toNat = 250 := rfl

theorem serviceTo_eq (targetMs : UInt32) (session : SandboxSession) :
    serviceTo targetMs session =
      if targetMs - session.lastSupervisorServiceMs > supervisorServicePeriodMs then
        let turned :=
          session.serviced (session.lastSupervisorServiceMs + supervisorServicePeriodMs)
        if turned.supervisor.fault ≠ .none then turned else serviceTo targetMs turned
      else session.serviced targetMs := by
  have hdistance : targetMs - (session.lastSupervisorServiceMs + supervisorServicePeriodMs) =
      targetMs - session.lastSupervisorServiceMs - supervisorServicePeriodMs :=
    sub_add_eq _ _ _
  generalize hleft : targetMs - session.lastSupervisorServiceMs = left at hdistance
  have hturns : serviceTo targetMs session =
      serviceFrom targetMs (left.toNat / supervisorServicePeriodMs.toNat) session := by
    rw [← hleft]
    rfl
  rw [hturns]
  by_cases hmore : left > supervisorServicePeriodMs
  · rw [if_pos hmore]
    have hlt : supervisorServicePeriodMs.toNat < left.toNat := UInt32.lt_iff_toNat_lt.1 hmore
    have hless : (left - supervisorServicePeriodMs).toNat =
        left.toNat - supervisorServicePeriodMs.toNat :=
      UInt32.toNat_sub_of_le _ _ (UInt32.le_of_lt hmore)
    have hfewer : left.toNat / supervisorServicePeriodMs.toNat =
        (left - supervisorServicePeriodMs).toNat / supervisorServicePeriodMs.toNat + 1 := by
      rw [hless, supervisorServicePeriodMs_toNat] at *
      omega
    rw [hfewer, serviceFrom, hleft, if_pos hmore]
    dsimp only
    split
    · rfl
    · unfold serviceTo
      rw [show (session.serviced (session.lastSupervisorServiceMs +
        supervisorServicePeriodMs)).lastSupervisorServiceMs = session.lastSupervisorServiceMs +
        supervisorServicePeriodMs from rfl, hdistance]
  · rw [if_neg hmore]
    cases left.toNat / supervisorServicePeriodMs.toNat with
    | zero => rfl
    | succ turns =>
      rw [serviceFrom, hleft, if_neg hmore]

/-- A session on its way to a target that its timer and its starter allow. -/
structure Underway (session : SandboxSession) (targetMs : UInt32) : Prop where
  upright : Upright session.supervised
  fault : session.supervisor.fault = .none
  config : session.supervisor.config = {}
  observed : session.supervisor.lastObservedMs = session.lastSupervisorServiceMs
  ordered : session.lastSupervisorServiceMs ≤ targetMs
  attended : session.supervisor.ignitionCommanded = true →
    session.supervisor.heartbeatInitialized = true ∧
      session.supervisor.lastHeartbeatMs = session.lastSupervisorServiceMs ∧
      session.hardwareStartPermitted = true
  starter : session.supervisor.starterCommanded = true →
    session.supervisor.starterEngagedAtMs ≤ session.lastSupervisorServiceMs ∧
      targetMs.toNat ≤ session.supervisor.starterEngagedAtMs.toNat + 5000

theorem Underway.ordered_near {targetMs : UInt32} (h : Underway session targetMs) {atMs : UInt32}
    (hle : session.lastSupervisorServiceMs ≤ atMs)
    (hnear : atMs.toNat ≤ session.lastSupervisorServiceMs.toNat + 250) : session.Ordered atMs := by
  unfold Ordered
  rw [h.observed]
  apply eq_or_strictlyNewer hle
  have hhalf : halfCounterRange.toNat = 2147483648 := rfl
  omega

theorem Underway.calm {targetMs : UInt32} (h : Underway session targetMs) {atMs : UInt32}
    (hle : session.lastSupervisorServiceMs ≤ atMs) (htarget : atMs ≤ targetMs)
    (hnear : atMs.toNat ≤ session.lastSupervisorServiceMs.toNat + 250) :
    session.supervisor.Calm atMs session.hardwareStartPermitted := by
  have hon : session.supervisor.outputsActive = true →
      session.supervisor.ignitionCommanded = true := by
    unfold ActuatorSafetySupervisor.outputsActive
    rw [Bool.or_eq_true]
    exact fun hactive => hactive.elim id h.upright.sound.starter
  have hles := UInt32.le_iff_toNat_le.1 hle
  have htargets := UInt32.le_iff_toNat_le.1 htarget
  refine ⟨h.upright.sound.ready h.fault, h.fault, fun _ => h.ordered_near hle hnear,
    fun hactive => (h.attended (hon hactive)).2.2, fun hactive => ?_, fun hstarter => ?_⟩
  · rcases h.attended (hon hactive) with ⟨hinitialized, hheartbeat, -⟩
    refine ⟨hinitialized, ?_⟩
    rw [hheartbeat, h.config, UInt32.le_iff_toNat_le, UInt32.toNat_sub_of_le _ _ hle]
    change _ ≤ 500
    omega
  · rcases h.starter hstarter with ⟨hengaged, hlimit⟩
    have hengageds := UInt32.le_iff_toNat_le.1 hengaged
    rw [h.config, UInt32.le_iff_toNat_le, UInt32.toNat_sub_of_le _ _ (UInt32.le_trans hengaged hle)]
    change _ ≤ 5000
    omega

theorem Underway.turn {targetMs : UInt32} (h : Underway session targetMs)
    (hmore : targetMs - session.lastSupervisorServiceMs > supervisorServicePeriodMs) :
    let next := session.serviced (session.lastSupervisorServiceMs + supervisorServicePeriodMs)
    Underway next targetMs ∧
      next.lastSupervisorServiceMs.toNat = session.lastSupervisorServiceMs.toNat + 250 := by
  intro next
  have hmores := UInt32.lt_iff_toNat_lt.1 hmore
  rw [UInt32.toNat_sub_of_le _ _ h.ordered, supervisorServicePeriodMs_toNat] at hmores
  have hfits : session.lastSupervisorServiceMs.toNat + supervisorServicePeriodMs.toNat < 2 ^ 32 := by
    have htarget := targetMs.toNat_lt
    rw [supervisorServicePeriodMs_toNat]
    omega
  have hnext : (session.lastSupervisorServiceMs + supervisorServicePeriodMs).toNat =
      session.lastSupervisorServiceMs.toNat + 250 := toNat_add_of_fits hfits
  have hle : session.lastSupervisorServiceMs ≤
      session.lastSupervisorServiceMs + supervisorServicePeriodMs := by
    rw [UInt32.le_iff_toNat_le, hnext]
    omega
  have htarget : session.lastSupervisorServiceMs + supervisorServicePeriodMs ≤ targetMs := by
    rw [UInt32.le_iff_toNat_le, hnext]
    omega
  have hcalm := h.calm hle htarget (by omega)
  have hserviced := serviced_calm _ hcalm h.upright.mirrored
  have hsupervisor : next.supervisor = session.supervisor.attended
      (session.lastSupervisorServiceMs + supervisorServicePeriodMs)
      session.hardwareStartPermitted := by
    change (session.serviced _).supervised.1 = _
    rw [hserviced]
  have hlast : next.lastSupervisorServiceMs =
      session.lastSupervisorServiceMs + supervisorServicePeriodMs := rfl
  have hpermitted : next.hardwareStartPermitted = session.hardwareStartPermitted := rfl
  refine ⟨⟨(h.upright.heartbeat _).poll _ _ _, ?_, ?_, ?_, htarget, ?_, ?_⟩, hnext⟩
  all_goals simp only [hsupervisor, hlast, hpermitted,
    ActuatorSafetySupervisor.fault_attended, ActuatorSafetySupervisor.config_attended,
    ActuatorSafetySupervisor.lastObservedMs_attended,
    ActuatorSafetySupervisor.lastHeartbeatMs_attended,
    ActuatorSafetySupervisor.heartbeatInitialized_attended,
    ActuatorSafetySupervisor.ignitionCommanded_attended,
    ActuatorSafetySupervisor.starterCommanded_attended,
    ActuatorSafetySupervisor.starterEngagedAtMs_attended]
  · exact h.fault
  · exact h.config
  · exact fun hcommanded => ⟨trivial, trivial, (h.attended hcommanded).2.2⟩
  · intro hcommanded
    rcases h.starter hcommanded with ⟨hengaged, hlimit⟩
    exact ⟨UInt32.le_trans hengaged hle, hlimit⟩

theorem attended_serviceTo {targetMs : UInt32} (h : Underway session targetMs) :
    (serviceTo targetMs session).lastSupervisorServiceMs = targetMs ∧
      Attended (serviceTo targetMs session).supervisor targetMs session.hardwareStartPermitted := by
  -- the distance to the target shrinks by a period in every turn
  induction hdistance : targetMs.toNat - session.lastSupervisorServiceMs.toNat using
    Nat.strongRecOn generalizing session with
  | ind distance ih =>
    have hordered := UInt32.le_iff_toNat_le.1 h.ordered
    have hleft := UInt32.toNat_sub_of_le _ _ h.ordered
    rw [serviceTo_eq]
    split
    · rename_i hmore
      rcases h.turn hmore with ⟨hnext, hlast⟩
      dsimp only
      rw [if_neg (not_not.2 hnext.fault)]
      have hmores := UInt32.lt_iff_toNat_lt.1 hmore
      rw [hleft, supervisorServicePeriodMs_toNat] at hmores
      exact ih _ (by omega) hnext rfl
    · rename_i hnear
      refine ⟨rfl, attended_serviced h.upright (h.ordered_near h.ordered ?_)⟩
      have hnears := UInt32.le_iff_toNat_le.1 (UInt32.not_lt.1 hnear)
      rw [hleft, supervisorServicePeriodMs_toNat] at hnears
      omega

theorem serviceTo_self : serviceTo session.lastSupervisorServiceMs session =
    session.serviced session.lastSupervisorServiceMs := by
  rw [serviceTo_eq, UInt32.sub_self, if_neg]
  decide

end Service

end SandboxSession

end BmwRemote.Host
