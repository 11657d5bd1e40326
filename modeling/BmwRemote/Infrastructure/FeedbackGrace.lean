import BmwRemote.Infrastructure.BoundedEnergisation

/-! The grace period of the feedback. It runs from the last accepted command or reset,
not from the last change of the commanded outputs. -/
namespace BmwRemote.Infrastructure.ActuatorSafetySupervisor

open BmwRemote.Lib

universe u

variable {W : Type u} {driver : ActuatorPort W} {config : ActuatorSafetyConfig}

structure Current (requests : List TimedRequest) (state : TimedSupervised W) : Prop where
  unset : state.1.1.fault = .none → lastTime TimedRequest.timeMs requests = none →
    state.1.1.clockInitialized = false
  observed : state.1.1.fault = .none → ∀ timeMs,
    lastTime TimedRequest.timeMs requests = some timeMs → state.2.observedAt = timeMs

theorem clock_of_actuator {before after : ActuatorSafetySupervisor} {call : ActuatorCall}
    {answer : Answer} (hstep : Stepped before (.actuator call) answer after)
    (hnone : after.fault = .none) :
    before.fault = .none ∧ after.clockInitialized = before.clockInitialized := by
  cases hstep with
  | faulted _ _ _ _ hfault => exact absurd hnone hfault
  | _ => exact ⟨hnone, rfl⟩

theorem Current.step {requests : List TimedRequest} {state : TimedSupervised W}
    (h : Current requests state) (hsound : state.1.1.Sound) (driver : ActuatorPort W)
    (request : TimedRequest) :
    Current (requests ++ [request]) (timedMachine driver state request).2 := by
  cases htime : request.timeMs with
  | none =>
    have hlast : lastTime TimedRequest.timeMs (requests ++ [request]) =
        lastTime TimedRequest.timeMs requests := by
      simp [lastTime_concat, htime]
    cases request with
    | heartbeat | poll | resetFault => cases htime
    | actuator call =>
      have hstep := perform_stepped driver (.actuator call) state.1 hsound
      constructor
      · intro hnone hunset
        obtain ⟨hbefore, hclock⟩ := clock_of_actuator hstep hnone
        exact hclock.trans (h.unset hbefore (hlast.symm.trans hunset))
      · intro hnone timeMs hset
        exact h.observed (clock_of_actuator hstep hnone).1 timeMs (hlast.symm.trans hset)
  | some timeMs =>
    have hlast : lastTime TimedRequest.timeMs (requests ++ [request]) = some timeMs := by
      simp [lastTime_concat, htime]
    constructor
    · intro _ hunset
      rw [hlast] at hunset
      cases hunset
    · intro hnone other hset
      rw [hlast, Option.some.injEq] at hset
      rw [observedAt_of_fault_none htime hnone, hset]

theorem run_current (driver : ActuatorPort W) (config : ActuatorSafetyConfig) (buildMs : Nat)
    (world : W) {requests : List TimedRequest} (hordered : Ordered requests) :
    Current requests
      ((timedMachine driver).final (builtAt driver config buildMs world) requests) := by
  induction requests using List.reverseRecOn with
  | nil =>
    refine ⟨fun _ _ => ?_, fun _ _ hset => ?_⟩
    · change (construct driver config world).1.clockInitialized = false
      unfold construct safeDownstream
      dsimp only
      repeat' split
      all_goals rfl
    · cases hset
  | append_singleton requests request ih =>
    rw [Machine.final_concat]
    exact (ih hordered.init).step (run_inTime driver config buildMs world hordered.init).sound
      driver request

theorem Current.accepts {requests : List TimedRequest} {state : TimedSupervised W}
    (h : Current requests state) (driver : ActuatorPort W) (hin : InTime config requests state)
    (hfault : state.1.1.fault = .none) {request : TimedRequest} {timeMs : Nat}
    (htime : request.timeMs = some timeMs) (hordered : Ordered (requests ++ [request]))
    (hnear : Near TimedRequest.timeMs (requests ++ [request])) :
    observeClock driver (UInt32.ofNat timeMs) state.1 =
      (true, (state.1.1.observed (UInt32.ofNat timeMs), state.1.2)) := by
  unfold observeClock
  refine if_neg ?_
  cases hlast : lastTime TimedRequest.timeMs requests with
  | none => simp [h.unset hfault hlast]
  | some earlier =>
    have hobserved := h.observed hfault earlier hlast
    have hle := hin.observedAt_le hordered htime
    have hlt := hnear.last hlast htime
    rw [(hin.dated hfault).observed, hobserved, Bool.and_assoc]
    rw [(regressed_ofNat_iff (hobserved ▸ hle)).2]
    · simp
    · have hhalf : halfCounterRange.toNat = 2147483648 := rfl
      rw [hobserved] at hle
      simp only [UInt32.size]
      omega

theorem pollFault_of_passed {supervisor : ActuatorSafetySupervisor} {nowMs : UInt32}
    {feedback : ActuatorFeedback} (hpassed : supervisor.Passed nowMs)
    (havailable : feedback.available = true) (hdisagrees : supervisor.agreesWith feedback = false) :
    supervisor.pollFault nowMs feedback =
      if nowMs - supervisor.lastOutputChangeMs > supervisor.config.feedbackGraceMs then
        some .feedbackMismatch else none := by
  have hinterlock : (supervisor.outputsActive && !supervisor.hardwareStartPermitted) = false := by
    by_cases hactive : supervisor.outputsActive = true
    · simp [hpassed.interlock hactive]
    · simp [hactive]
  have hwatchdog : (supervisor.outputsActive && (!supervisor.heartbeatInitialized ||
      decide (nowMs - supervisor.lastHeartbeatMs > supervisor.config.watchdogTimeoutMs))) =
        false := by
    by_cases hactive : supervisor.outputsActive = true
    · obtain ⟨hbeaten, hrecent⟩ := hpassed.watchdog hactive
      simpa [hbeaten] using fun _ => hrecent
    · simp [hactive]
  have hstarter : (supervisor.starterCommanded && decide (nowMs - supervisor.starterEngagedAtMs >
      supervisor.config.maximumStarterActiveMs)) = false := by
    by_cases hcommanded : supervisor.starterCommanded = true
    · simpa [hcommanded] using hpassed.starter hcommanded
    · simp [hcommanded]
  unfold pollFault
  dsimp only
  rw [hinterlock, hwatchdog, hstarter, havailable, hdisagrees]
  by_cases helapsed : nowMs - supervisor.lastOutputChangeMs > supervisor.config.feedbackGraceMs
  · simp [helapsed]
  · simp [helapsed]

/-- A fault, with both outputs off and the driver asked to make them safe. -/
def FaultSecured (driver : ActuatorPort W) (world : W) (after : Supervised W) : Prop :=
  after.1.fault ≠ .none ∧ after.1.commanded = (false, false) ∧
    after.2 = (driver.secureOutputs (driver.disengageStarter world).2).2

/-- Of a poll that passes the checks before, feedback that disagrees makes a fault exactly
when the stamp of the last output change is old enough. -/
theorem poll_disagreeing {nowMs : UInt32} {permitted : Bool} {feedback : ActuatorFeedback}
    {state : Supervised W} (hsound : state.1.Sound) (hfault : state.1.fault = .none)
    (haccepts : observeClock driver nowMs state = (true, (state.1.observed nowMs, state.2)))
    (hpassed : ((state.1.observed nowMs).permitting permitted).Passed nowMs)
    (havailable : feedback.available = true) (hdisagrees : state.1.agreesWith feedback = false) :
    FaultSecured driver state.2 (poll driver nowMs permitted feedback state).2 ↔
      nowMs - state.1.lastOutputChangeMs > state.1.config.feedbackGraceMs := by
  have hcheck : ((state.1.observed nowMs).permitting permitted).pollFault nowMs feedback =
      if nowMs - state.1.lastOutputChangeMs > state.1.config.feedbackGraceMs then
        some .feedbackMismatch else none :=
    pollFault_of_passed hpassed havailable hdisagrees
  have hready : (state.1.observed nowMs).initialized = true := hsound.ready hfault
  have hclear : (state.1.observed nowMs).isFaulted = false := isFaulted_eq_false_iff.2 hfault
  unfold poll
  rw [haccepts]
  simp only [hready, hclear, hcheck, Bool.not_true, Bool.or_self, Bool.false_eq_true, ↓reduceIte]
  by_cases helapsed : nowMs - state.1.lastOutputChangeMs > state.1.config.feedbackGraceMs
  · simp only [helapsed, ↓reduceIte, iff_true]
    exact ⟨trip_fault_ne_none (by decide) _, rfl, rfl⟩
  · simp only [helapsed, ↓reduceIte, iff_false]
    rintro ⟨hfaulted, -⟩
    apply hfaulted
    split <;> exact hfault

/-- Over every run whose times never go back and are near: a poll that passes the checks
before and is given available feedback that disagrees with outputs unchanged for more than
the grace period faults and makes them safe exactly when, in true time, the last accepted
command or reset is itself more than the grace period back (modulo 2^32). -/
theorem feedback_grace_iff (driver : ActuatorPort W) (config : ActuatorSafetyConfig)
    (buildMs : Nat) (world : W) (earlier : List TimedRequest) (timeMs : Nat) (permitted : Bool)
    (feedback : ActuatorFeedback)
    (hordered : Ordered (earlier ++ [.poll timeMs permitted feedback]))
    (hnear : Near TimedRequest.timeMs (earlier ++ [.poll timeMs permitted feedback])) :
    let state := (timedMachine driver).final (builtAt driver config buildMs world) earlier
    let next := (timedMachine driver state (.poll timeMs permitted feedback)).2
    state.1.1.fault = .none →
    ((state.1.1.observed (UInt32.ofNat timeMs)).permitting permitted).Passed (UInt32.ofNat timeMs) →
    feedback.available = true → state.1.1.agreesWith feedback = false →
    state.2.changedAt + config.feedbackGraceMs.toNat < timeMs →
      (FaultSecured driver state.1.2 next.1 ↔
        config.feedbackGraceMs.toNat < (timeMs - state.2.stampedAt) % UInt32.size) := by
  intro state next hfault hpassed havailable hdisagrees _
  have hin := run_inTime driver config buildMs world hordered.init
  have hdated := hin.dated hfault
  have haccepts := (run_current driver config buildMs world hordered.init).accepts driver hin
    hfault rfl hordered hnear
  have hle : state.2.stampedAt ≤ timeMs :=
    Nat.le_trans hdated.stamped.2 (hin.observedAt_le hordered rfl)
  have hpoll := poll_disagreeing hin.sound hfault haccepts hpassed havailable hdisagrees
  rw [hdated.stamped.1, gt_iff_lt, UInt32.lt_iff_toNat_lt, toNat_ofNat_sub hle,
    hin.config_eq] at hpoll
  exact hpoll

/-- The ignition is enabled at 0 ms, and once more at 90 ms. -/
def enabledTwice : List TimedRequest :=
  [.heartbeat 0, .poll 0 true {}, .actuator .enableIgnition, .heartbeat 90,
    .actuator .enableIgnition]

def idleFeedback : ActuatorFeedback := { available := true }

theorem repeated_command_extends_grace :
    let state := (timedMachine willingDriver).final (builtAt willingDriver {} 0 ()) enabledTwice
    let next := (timedMachine willingDriver state (.poll 150 true idleFeedback)).2
    Ordered (enabledTwice ++ [.poll 150 true idleFeedback]) ∧
      Near TimedRequest.timeMs (enabledTwice ++ [.poll 150 true idleFeedback]) ∧
      state.2.changedAt = 0 ∧ state.1.1.commanded = (true, false) ∧
      state.1.1.agreesWith idleFeedback = false ∧
      ((state.1.1.observed 150).permitting true).Passed 150 ∧
      next.1.1.fault = .none ∧ ¬ FaultSecured willingDriver state.1.2 next.1 := by
  intro state next
  have hnone : next.1.1.fault = .none := by decide
  refine ⟨by decide, by decide, by decide, by decide, by decide, ?_, hnone, fun h => h.1 hnone⟩
  constructor
  · decide
  · decide
  · decide

theorem feedback_grace_iff_enabledTwice :
    let state := (timedMachine willingDriver).final (builtAt willingDriver {} 0 ()) enabledTwice
    FaultSecured willingDriver state.1.2
        (timedMachine willingDriver state (.poll 191 true idleFeedback)).2.1 ↔
      100 < (191 - state.2.stampedAt) % UInt32.size :=
  feedback_grace_iff willingDriver {} 0 () enabledTwice 191 true idleFeedback (by decide)
    (by decide) (by decide) ⟨by decide, by decide, by decide⟩ (by decide) (by decide) (by decide)

end BmwRemote.Infrastructure.ActuatorSafetySupervisor
