import BmwRemote.Infrastructure.SupervisorTime

/-! How long the supervisor keeps its outputs. Every poll that leaves the starter
commanded is near the one before it, which was itself near the engagement: the 32-bit
age is then the true one. -/
namespace BmwRemote.Infrastructure.ActuatorSafetySupervisor

open BmwRemote.Lib

universe u

variable {W : Type u} {driver : ActuatorPort W} {config : ActuatorSafetyConfig}

theorem pollFault_of_fault_none {nowMs : UInt32} {permitted : Bool} {feedback : ActuatorFeedback}
    {state : Supervised W} (hsound : state.1.Sound)
    (hnone : (poll driver nowMs permitted feedback state).2.1.fault = .none) :
    ((state.1.observed nowMs).permitting permitted).pollFault nowMs feedback = none := by
  unfold poll at hnone
  rcases observeClock_cases driver nowMs state with h | h
  · rw [h] at hnone
    exact absurd hnone (trip_fault_ne_none (by decide) state)
  rw [h] at hnone
  simp only [Bool.not_true, Bool.false_eq_true, ↓reduceIte] at hnone
  split at hnone
  · rename_i hrefused
    exact absurd hnone ((refused_observed_iff hsound.ready nowMs).1 hrefused)
  · split at hnone
    · rename_i fault hpoll
      exact absurd hnone (trip_fault_ne_none (pollFault_ne_none hpoll) _)
    · assumption

structure Passed (supervisor : ActuatorSafetySupervisor) (nowMs : UInt32) : Prop where
  interlock : supervisor.outputsActive = true → supervisor.hardwareStartPermitted = true
  watchdog : supervisor.outputsActive = true → supervisor.heartbeatInitialized = true ∧
    nowMs - supervisor.lastHeartbeatMs ≤ supervisor.config.watchdogTimeoutMs
  starter : supervisor.starterCommanded = true →
    nowMs - supervisor.starterEngagedAtMs ≤ supervisor.config.maximumStarterActiveMs

theorem passed_of_pollFault {supervisor : ActuatorSafetySupervisor} {nowMs : UInt32}
    {feedback : ActuatorFeedback} (h : supervisor.pollFault nowMs feedback = none) :
    supervisor.Passed nowMs := by
  unfold pollFault at h
  dsimp only at h
  split at h
  · cases h
  rename_i hinterlock
  split at h
  · cases h
  rename_i hwatchdog
  split at h
  · cases h
  rename_i hstarter
  simp only [Bool.and_eq_true, Bool.or_eq_true, Bool.not_eq_true', decide_eq_true_eq, not_and,
    not_or, Bool.not_eq_false, gt_iff_lt, UInt32.not_lt] at hinterlock hwatchdog hstarter
  exact ⟨hinterlock, hwatchdog, hstarter⟩

structure PollKept (before after : ActuatorSafetySupervisor) (nowMs : UInt32) (permitted : Bool) :
    Prop where
  fault : before.fault = .none
  passed : after.Passed nowMs
  commanded : after.commanded = before.commanded
  engaged : after.starterEngagedAtMs = before.starterEngagedAtMs
  permission : after.hardwareStartPermitted = permitted
  config : after.config = before.config

theorem poll_kept {nowMs : UInt32} {permitted : Bool} {feedback : ActuatorFeedback}
    {state : Supervised W} (hsound : state.1.Sound)
    (hnone : (poll driver nowMs permitted feedback state).2.1.fault = .none) :
    PollKept state.1 (poll driver nowMs permitted feedback state).2.1 nowMs permitted := by
  have hpassed := passed_of_pollFault (pollFault_of_fault_none hsound hnone)
  have hstep := poll_stepped driver nowMs permitted feedback state hsound
  generalize poll driver nowMs permitted feedback state = result at hstep hnone ⊢
  obtain ⟨status, after, world⟩ := result
  dsimp only at hstep hnone ⊢
  cases hstep with
  | polled _ _ _ hfault =>
    exact ⟨hfault, hpassed, rfl, rfl, rfl, rfl⟩
  | confirmed _ _ _ hfault =>
    exact ⟨hfault, ⟨hpassed.interlock, hpassed.watchdog, hpassed.starter⟩, rfl, rfl, rfl, rfl⟩
  | faulted _ _ _ _ hfault => exact absurd hnone hfault

theorem maximumStarterActiveMs_le (hvalid : config.isValid = true) :
    config.maximumStarterActiveMs.toNat ≤ 10000 := by
  unfold ActuatorSafetyConfig.isValid at hvalid
  simp only [Bool.and_eq_true, decide_eq_true_eq] at hvalid
  exact UInt32.le_iff_toNat_le.1 hvalid.1.1.2

/-- A permission comes from a poll, and the last poll is at most the longest activation
after the starter was engaged. -/
structure Energised (requests : List TimedRequest) (state : TimedSupervised W) : Prop where
  permitted : state.1.1.fault = .none → state.1.1.hardwareStartPermitted = true →
    ∃ polledAt, lastTime TimedRequest.pollTimeMs requests = some polledAt ∧
      polledAt ≤ state.2.observedAt
  starter : state.1.1.fault = .none → state.1.1.starterCommanded = true →
    ∃ engagedAt polledAt, state.2.engagedAt = some engagedAt ∧
      lastTime TimedRequest.pollTimeMs requests = some polledAt ∧
      polledAt ≤ engagedAt + state.1.1.config.maximumStarterActiveMs.toNat

theorem engaged_recently {supervisor : ActuatorSafetySupervisor} {polledAt engagedAt timeMs : Nat}
    (hpassed : supervisor.Passed (UInt32.ofNat timeMs)) (hvalid : supervisor.config.isValid = true)
    (hcommanded : supervisor.starterCommanded = true)
    (hstamp : supervisor.starterEngagedAtMs = UInt32.ofNat engagedAt) (hle : engagedAt ≤ timeMs)
    (hpolled : polledAt ≤ engagedAt + supervisor.config.maximumStarterActiveMs.toNat)
    (hnear : timeMs < polledAt + 2 ^ 31) :
    timeMs ≤ engagedAt + supervisor.config.maximumStarterActiveMs.toNat := by
  have hage := hpassed.starter hcommanded
  have hmaximum := maximumStarterActiveMs_le hvalid
  rw [hstamp, UInt32.le_iff_toNat_le, toNat_ofNat_sub hle, Nat.mod_eq_of_lt] at hage
  · omega
  · simp only [UInt32.size]
    omega

/-- A request that is no poll, has no time before the observation and takes no output or
permission up, keeps what `Energised` says. -/
theorem Energised.kept {requests : List TimedRequest} {state next : TimedSupervised W}
    (h : Energised requests state) {request : TimedRequest} (hpoll : request.pollTimeMs = none)
    (hfault : state.1.1.fault = .none)
    (hpermitted : next.1.1.hardwareStartPermitted = true →
      state.1.1.hardwareStartPermitted = true)
    (hobserved : state.2.observedAt ≤ next.2.observedAt)
    (hstarter : next.1.1.starterCommanded = true → state.1.1.starterCommanded = true)
    (hengaged : next.2.engagedAt = state.2.engagedAt)
    (hconfig : next.1.1.config = state.1.1.config) : Energised (requests ++ [request]) next := by
  have hlast : lastTime TimedRequest.pollTimeMs (requests ++ [request]) =
      lastTime TimedRequest.pollTimeMs requests := by
    simp [lastTime_concat, hpoll]
  constructor
  · intro _ hon
    obtain ⟨polledAt, hat, hle⟩ := h.permitted hfault (hpermitted hon)
    exact ⟨polledAt, hlast.trans hat, Nat.le_trans hle hobserved⟩
  · intro _ hon
    obtain ⟨engagedAt, polledAt, hat, hpolled, hle⟩ := h.starter hfault (hstarter hon)
    rw [hengaged, hlast, hconfig]
    exact ⟨engagedAt, polledAt, hat, hpolled, hle⟩

theorem Energised.faulted {requests : List TimedRequest} {state : TimedSupervised W}
    (hfault : state.1.1.fault ≠ .none) : Energised requests state :=
  ⟨fun hnone => absurd hnone hfault, fun hnone => absurd hnone hfault⟩

theorem Energised.poll {requests : List TimedRequest} {state : TimedSupervised W}
    (h : Energised requests state) (hin : InTime config requests state)
    (hvalid : config.isValid = true) {timeMs : Nat} {permitted : Bool}
    {feedback : ActuatorFeedback}
    (hordered : Ordered (requests ++ [.poll timeMs permitted feedback]))
    (hnear : Near TimedRequest.pollTimeMs (requests ++ [.poll timeMs permitted feedback])) :
    Energised (requests ++ [.poll timeMs permitted feedback])
      (timedMachine driver state (.poll timeMs permitted feedback)).2 := by
  by_cases hnone : (timedMachine driver state (.poll timeMs permitted feedback)).2.1.1.fault = .none
  · have hkept : PollKept state.1.1 (timedMachine driver state
        (.poll timeMs permitted feedback)).2.1.1 (UInt32.ofNat timeMs) permitted :=
      poll_kept hin.sound hnone
    have hobserved : (timedMachine driver state (.poll timeMs permitted feedback)).2.2.observedAt =
        timeMs := observedAt_of_fault_none rfl hnone
    have hlast : lastTime TimedRequest.pollTimeMs (requests ++ [.poll timeMs permitted feedback]) =
        some timeMs := by simp [lastTime_concat, TimedRequest.pollTimeMs]
    refine ⟨fun _ _ => ⟨timeMs, hlast, Nat.le_of_eq hobserved.symm⟩, fun _ hon => ?_⟩
    have hbefore : state.1.1.starterCommanded = true :=
      (congrArg Prod.snd hkept.commanded).symm.trans hon
    obtain ⟨engagedAt, polledAt, hat, hpolled, hle⟩ := h.starter hkept.fault hbefore
    obtain ⟨stampedAt, hat', hstamp, hearlier⟩ := (hin.dated hkept.fault).engaged hbefore
    obtain rfl : engagedAt = stampedAt := Option.some.inj (hat.symm.trans hat')
    refine ⟨engagedAt, timeMs, hat, hlast, ?_⟩
    apply engaged_recently hkept.passed _ hon (hkept.engaged.trans hstamp) _ _
      (hnear.last hpolled rfl)
    · rw [hkept.config, hin.config_eq]
      exact hvalid
    · exact Nat.le_trans hearlier (hin.observedAt_le hordered rfl)
    · rw [hkept.config]
      exact hle
  · exact .faulted hnone

theorem Energised.step {requests : List TimedRequest} {state : TimedSupervised W}
    (h : Energised requests state) (hin : InTime config requests state)
    (hvalid : config.isValid = true) {request : TimedRequest}
    (hordered : Ordered (requests ++ [request]))
    (hnear : Near TimedRequest.pollTimeMs (requests ++ [request])) :
    Energised (requests ++ [request]) (timedMachine driver state request).2 := by
  by_cases hnone : (timedMachine driver state request).2.1.1.fault = .none
  swap
  · exact .faulted hnone
  have hstep := perform_stepped driver request.truncated state.1 hin.sound
  have hlater : state.2.observedAt ≤ (timedMachine driver state request).2.2.observedAt := by
    rcases observing_cases driver state.2 state.1 request with hkept | htime
    · exact Nat.le_of_eq hkept.symm
    · exact hin.observedAt_le hordered htime
  cases request with
  | poll => exact h.poll hin hvalid hordered hnear
  | heartbeat timeMs =>
    unfold timedMachine at hnone hlater ⊢
    dsimp only [TimedRequest.truncated] at hstep hnone hlater ⊢
    generalize perform driver (.heartbeat (UInt32.ofNat timeMs)) state.1 = result at *
    obtain ⟨answer, after, world⟩ := result
    dsimp only at hstep hnone hlater ⊢
    cases hstep with
    | heartbeat _ hfault => exact h.kept rfl hfault id hlater id rfl rfl
    | faulted _ _ _ _ hfault => exact absurd hnone hfault
  | resetFault timeMs feedback =>
    unfold timedMachine at hnone ⊢
    dsimp only [TimedRequest.truncated] at hstep hnone ⊢
    generalize perform driver (.resetFault (UInt32.ofNat timeMs) feedback) state.1 = result at *
    obtain ⟨answer, after, world⟩ := result
    dsimp only at hstep hnone ⊢
    cases hstep with
    | reset => exact ⟨fun _ => nofun, fun _ => nofun⟩
    | faulted _ _ _ _ hfault => exact absurd hnone hfault
  | actuator call =>
    unfold timedMachine at hnone hlater ⊢
    dsimp only [TimedRequest.truncated] at hstep hnone hlater ⊢
    generalize perform driver (.actuator call) state.1 = result at *
    obtain ⟨answer, after, world⟩ := result
    dsimp only at hstep hnone hlater ⊢
    cases hstep with
    | ignitionEnabled => exact h.kept rfl hnone id hlater id rfl rfl
    | starterEngaged henergizable =>
      obtain ⟨polledAt, hat, hle⟩ := h.permitted hnone henergizable.permitted
      have hlast : lastTime TimedRequest.pollTimeMs (requests ++ [.actuator .engageStarter]) =
          some polledAt := by
        simp [lastTime_concat, TimedRequest.pollTimeMs, hat]
      exact ⟨fun _ _ => ⟨polledAt, hlast, hle⟩, fun _ _ =>
        ⟨state.2.observedAt, polledAt, rfl, hlast, Nat.le_add_right_of_le hle⟩⟩
    | starterDisengaged => exact h.kept rfl hnone id hlater nofun rfl rfl
    | remoteControlReleased => exact h.kept rfl hnone id hlater nofun rfl rfl
    | secured => exact h.kept rfl hnone id hlater nofun rfl rfl
    | faulted _ _ _ _ hfault => exact absurd hnone hfault

theorem run_energised (driver : ActuatorPort W) (hvalid : config.isValid = true) (timeMs : Nat)
    (world : W) {requests : List TimedRequest} (hordered : Ordered requests)
    (hnear : Near TimedRequest.pollTimeMs requests) :
    Energised requests
      ((timedMachine driver).final (builtAt driver config timeMs world) requests) := by
  induction requests using List.reverseRecOn with
  | nil =>
    obtain ⟨-, -, -, hpermitted, -, hstarter, -⟩ := construct_lastObservedMs driver config world
    refine ⟨fun _ h => ?_, fun _ h => ?_⟩
    · exact absurd (hpermitted.symm.trans h) Bool.false_ne_true
    · exact absurd (hstarter.symm.trans h) Bool.false_ne_true
  | append_singleton requests request ih =>
    rw [Machine.final_concat]
    exact (ih hordered.init hnear.init).step (run_inTime driver config timeMs world hordered.init)
      hvalid hordered hnear

/-- A poll that leaves the starter commanded comes no later than the longest activation
after the observation at which the starter was engaged, in true time and whatever came in
between; one that leaves any output commanded was given the permission and has found an
accepted heartbeat of a recent stamp. -/
theorem bounded_energisation (driver : ActuatorPort W) (config : ActuatorSafetyConfig)
    (hvalid : config.isValid = true) (buildMs : Nat) (world : W) (earlier : List TimedRequest)
    (timeMs : Nat) (permitted : Bool) (feedback : ActuatorFeedback)
    (hordered : Ordered (earlier ++ [.poll timeMs permitted feedback]))
    (hnear : Near TimedRequest.pollTimeMs (earlier ++ [.poll timeMs permitted feedback])) :
    let (supervised, timeline) := (timedMachine driver).final
      (builtAt driver config buildMs world) (earlier ++ [.poll timeMs permitted feedback])
    (supervised.1.starterCommanded = true → ∃ engagedAt,
      timeline.engagedAt = some engagedAt ∧ engagedAt ≤ timeMs ∧
        timeMs ≤ engagedAt + config.maximumStarterActiveMs.toNat) ∧
    (supervised.1.ignitionCommanded = true ∨ supervised.1.starterCommanded = true →
      permitted = true ∧ timeline.heartbeatAt.isSome = true ∧
        UInt32.ofNat timeMs - supervised.1.lastHeartbeatMs ≤ config.watchdogTimeoutMs) := by
  have hin := run_inTime driver config buildMs world hordered
  have henergised := run_energised driver hvalid buildMs world hordered hnear
  have hbefore := run_inTime driver config buildMs world hordered.init
  rw [Machine.final_concat] at hin henergised ⊢
  generalize (timedMachine driver).final (builtAt driver config buildMs world) earlier = state at *
  dsimp only
  constructor
  · intro hon
    have hnone := hin.sound.ignition (hin.sound.starter hon)
    obtain ⟨engagedAt, hat, -, hle⟩ := (hin.dated hnone).engaged hon
    obtain ⟨engagedAt', polledAt, hat', hpolled, hbound⟩ := henergised.starter hnone hon
    obtain rfl : engagedAt = engagedAt' := Option.some.inj (hat.symm.trans hat')
    have hlast : timeMs = polledAt := by
      simpa [lastTime_concat, TimedRequest.pollTimeMs] using hpolled
    rw [observedAt_of_fault_none rfl hnone] at hle
    rw [hin.config_eq, ← hlast] at hbound
    exact ⟨engagedAt, hat, hle, hbound⟩
  · intro hon
    have hnone := hin.sound.ignition (hon.elim id hin.sound.starter)
    have hkept := poll_kept hbefore.sound hnone
    have hactive : (timedMachine driver state
        (.poll timeMs permitted feedback)).2.1.1.outputsActive = true := by
      simpa [outputsActive] using hon
    obtain ⟨hbeaten, hrecent⟩ := hkept.passed.watchdog hactive
    obtain ⟨beatenAt, hat, -⟩ := (hin.dated hnone).heartbeat hbeaten
    refine ⟨hkept.permission.symm.trans (hkept.passed.interlock hactive), ?_, ?_⟩
    · rw [hat]
      rfl
    · rw [hkept.config, hbefore.config_eq] at hrecent
      exact hrecent

def cranking : List TimedRequest :=
  [.heartbeat 0, .poll 0 true {}, .actuator .enableIgnition, .poll 200 true ignitionFeedback,
    .heartbeat 300, .actuator .engageStarter]

def crankingFeedback : ActuatorFeedback := { ignitionFeedback with starterActive := true }

theorem bounded_energisation_cranking :
    ∃ engagedAt, ((timedMachine willingDriver).final (builtAt willingDriver {} 0 ())
        (cranking ++ [.poll 400 true crankingFeedback])).2.engagedAt = some engagedAt ∧
      engagedAt ≤ 400 ∧ 400 ≤ engagedAt + 5000 :=
  (bounded_energisation willingDriver {} (by decide) 0 () cranking 400 true crankingFeedback
    (by decide) (by decide)).1 (by decide)

end BmwRemote.Infrastructure.ActuatorSafetySupervisor
