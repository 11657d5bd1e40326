import BmwRemote.Infrastructure.ActuatorSafetySupervisor
import BmwRemote.Lib.Transcript

/-! The requests of the supervisor as one machine, and everything one request can
do: every invariant below is read off this list. -/
namespace BmwRemote.Infrastructure.ActuatorSafetySupervisor

open BmwRemote.Lib

universe u

inductive Request where
  | heartbeat (nowMs : UInt32)
  | poll (nowMs : UInt32) (hardwareStartPermitted : Bool) (feedback : ActuatorFeedback)
  | resetFault (nowMs : UInt32) (feedback : ActuatorFeedback)
  | actuator (call : ActuatorCall)
  deriving DecidableEq

inductive Answer where
  | accepted (accepted : Bool)
  | polled (status : ActuatorSupervisorStatus)
  deriving DecidableEq

variable {W : Type u}

def perform (driver : ActuatorPort W) : Request → Supervised W → Answer × Supervised W
  | .heartbeat nowMs, state =>
      let result := heartbeat driver nowMs state
      (.accepted result.1, result.2)
  | .poll nowMs hardwareStartPermitted feedback, state =>
      let result := poll driver nowMs hardwareStartPermitted feedback state
      (.polled result.1, result.2)
  | .resetFault nowMs feedback, state =>
      let result := resetFault driver nowMs feedback state
      (.accepted result.1, result.2)
  | .actuator call, state =>
      let result := (port driver).perform call state
      (.accepted result.1, result.2)

def machine (driver : ActuatorPort W) : Machine (Supervised W) Request Answer :=
  fun state request => perform driver request state

structure Sound (supervisor : ActuatorSafetySupervisor) : Prop where
  ready : supervisor.fault = .none → supervisor.initialized = true
  ignition : supervisor.ignitionCommanded = true → supervisor.fault = .none
  starter : supervisor.starterCommanded = true → supervisor.ignitionCommanded = true

/-- The conditions under which `canEnergize` says yes. -/
structure Energizable (supervisor : ActuatorSafetySupervisor) : Prop where
  fault : supervisor.fault = .none
  heartbeat : supervisor.heartbeatInitialized = true
  permitted : supervisor.hardwareStartPermitted = true
  watchdog : supervisor.lastObservedMs - supervisor.lastHeartbeatMs ≤
    supervisor.config.watchdogTimeoutMs

/-- Everything one request can do to a sound supervisor. -/
inductive Stepped (before : ActuatorSafetySupervisor) :
    Request → Answer → ActuatorSafetySupervisor → Prop
  | heartbeat (nowMs : UInt32) (hfault : before.fault = .none) :
      Stepped before (.heartbeat nowMs) (.accepted true) ((before.observed nowMs).beaten nowMs)
  | polled (nowMs : UInt32) (permitted : Bool) (feedback : ActuatorFeedback)
      (hfault : before.fault = .none) :
      Stepped before (.poll nowMs permitted feedback)
        (.polled ((before.observed nowMs).permitting permitted).status)
        ((before.observed nowMs).permitting permitted)
  | confirmed (nowMs : UInt32) (permitted : Bool) (feedback : ActuatorFeedback)
      (hfault : before.fault = .none) (havailable : feedback.available = true)
      (hagrees : before.agreesWith feedback = true) :
      Stepped before (.poll nowMs permitted feedback)
        (.polled ((before.observed nowMs).permitting permitted).confirmed.status)
        ((before.observed nowMs).permitting permitted).confirmed
  | reset (nowMs : UInt32) (feedback : ActuatorFeedback) :
      Stepped before (.resetFault nowMs feedback) (.accepted true)
        ((before.observed nowMs).safed true).cleared
  | ignitionEnabled (henergizable : before.Energizable) :
      Stepped before (.actuator .enableIgnition) (.accepted true) before.ignitionEnabled
  | starterEngaged (henergizable : before.Energizable)
      (hignition : before.ignitionCommanded = true)
      (hconfirmed : before.config.requireFeedback = true →
        before.ignitionFeedbackConfirmed = true) :
      Stepped before (.actuator .engageStarter) (.accepted true) before.starterEngaged
  | starterDisengaged :
      Stepped before (.actuator .disengageStarter) (.accepted true) before.starterDisengaged
  | remoteControlReleased :
      Stepped before (.actuator .releaseRemoteControl) (.accepted true)
        before.remoteControlReleased
  | secured :
      Stepped before (.actuator .secureOutputs) (.accepted true) (before.safed true)
  | faulted (request : Request) (answer : Answer) (after : ActuatorSafetySupervisor)
      (hconfig : after.config = before.config) (hfault : after.fault ≠ .none)
      (hignition : after.ignitionCommanded = false) (hstarter : after.starterCommanded = false) :
      Stepped before request answer after

@[simp] theorem isFaulted_eq_true_iff {supervisor : ActuatorSafetySupervisor} :
    supervisor.isFaulted = true ↔ supervisor.fault ≠ .none := by
  simp [isFaulted]

@[simp] theorem isFaulted_eq_false_iff {supervisor : ActuatorSafetySupervisor} :
    supervisor.isFaulted = false ↔ supervisor.fault = .none := by
  simp [isFaulted]

@[simp] theorem fault_observed (supervisor : ActuatorSafetySupervisor) (nowMs : UInt32) :
    (supervisor.observed nowMs).fault = supervisor.fault := rfl

theorem refused_observed_iff {supervisor : ActuatorSafetySupervisor}
    (hready : supervisor.fault = .none → supervisor.initialized = true) (nowMs : UInt32) :
    (!(supervisor.observed nowMs).initialized || (supervisor.observed nowMs).isFaulted) = true ↔
      supervisor.fault ≠ .none := by
  rw [Bool.or_eq_true, isFaulted_eq_true_iff, fault_observed, or_iff_right_iff_imp]
  intro huninitialized hnone
  have hinitialized : (supervisor.observed nowMs).initialized = true := hready hnone
  rw [hinitialized] at huninitialized
  cases huninitialized

@[simp] theorem trip_fault (driver : ActuatorPort W) (fault : ActuatorSupervisorFault)
    (state : Supervised W) :
    (trip driver fault state).1.fault = if state.1.fault = .none then fault else state.1.fault := by
  unfold trip safeDownstream
  dsimp only [safed]
  split <;> rfl

@[simp] theorem trip_config (driver : ActuatorPort W) (fault : ActuatorSupervisorFault)
    (state : Supervised W) : (trip driver fault state).1.config = state.1.config := by
  unfold trip safeDownstream
  dsimp only [safed]
  split <;> rfl

theorem trip_fault_ne_none {driver : ActuatorPort W} {fault : ActuatorSupervisorFault}
    (hfault : fault ≠ .none) (state : Supervised W) :
    (trip driver fault state).1.fault ≠ .none := by
  rw [trip_fault]
  split
  · exact hfault
  · assumption

theorem stepped_trip (driver : ActuatorPort W) {before : ActuatorSafetySupervisor}
    (fault : ActuatorSupervisorFault) (state : Supervised W) (request : Request) (answer : Answer)
    (hfault : fault ≠ .none) (hconfig : state.1.config = before.config) :
    Stepped before request answer (trip driver fault state).1 := by
  apply Stepped.faulted
  · rw [trip_config, hconfig]
  · exact trip_fault_ne_none hfault state
  · rfl
  · rfl

theorem Sound.stepped_latched {before : ActuatorSafetySupervisor} (hsound : before.Sound)
    (hfault : before.fault ≠ .none) (after : ActuatorSafetySupervisor)
    (hconfig : after.config = before.config) (hafter : after.fault = before.fault)
    (hignition : after.ignitionCommanded = before.ignitionCommanded)
    (hstarter : after.starterCommanded = before.starterCommanded)
    (request : Request) (answer : Answer) : Stepped before request answer after := by
  have hoff : before.ignitionCommanded = false := by
    rw [← Bool.not_eq_true]
    exact fun hcommanded => hfault (hsound.ignition hcommanded)
  apply Stepped.faulted
  · exact hconfig
  · rw [hafter]
    exact hfault
  · rw [hignition, hoff]
  · rw [hstarter, ← Bool.not_eq_true]
    intro hcommanded
    rw [hsound.starter hcommanded] at hoff
    cases hoff

theorem observeClock_cases (driver : ActuatorPort W) (nowMs : UInt32) (state : Supervised W) :
    observeClock driver nowMs state = (false, trip driver .clockRegression state) ∨
      observeClock driver nowMs state = (true, (state.1.observed nowMs, state.2)) := by
  unfold observeClock
  split
  · exact .inl rfl
  · exact .inr rfl

/-- The guard of the energising calls. -/
theorem canEnergize_eq (driver : ActuatorPort W) (state : Supervised W) :
    (canEnergize driver state = (true, state) ∧ state.1.Energizable) ∨
      (canEnergize driver state = (false, state) ∧ state.1.fault ≠ .none) ∨
      ∃ fault, fault ≠ .none ∧ canEnergize driver state = (false, trip driver fault state) := by
  unfold canEnergize
  dsimp only
  split
  · exact .inr (.inr ⟨.initializationFailure, by decide, rfl⟩)
  split
  · rename_i hfault
    exact .inr (.inl ⟨rfl, isFaulted_eq_true_iff.1 hfault⟩)
  split
  · exact .inr (.inr ⟨.watchdogExpired, by decide, rfl⟩)
  split
  · exact .inr (.inr ⟨.hardwareInterlockLost, by decide, rfl⟩)
  split
  · exact .inr (.inr ⟨.watchdogExpired, by decide, rfl⟩)
  · rename_i hfault hheartbeat hpermitted hwatchdog
    rw [Bool.or_eq_true, not_or] at hheartbeat
    refine .inl ⟨rfl, ?_, ?_, ?_, ?_⟩
    · simpa using hfault
    · simpa using hheartbeat.2
    · simpa using hpermitted
    · exact UInt32.not_lt.1 hwatchdog

theorem canEnergize_cases (driver : ActuatorPort W) (state : Supervised W)
    (hsound : state.1.Sound) :
    (canEnergize driver state = (true, state) ∧ state.1.Energizable) ∨
      ((canEnergize driver state).1 = false ∧
        ∀ request answer, Stepped state.1 request answer (canEnergize driver state).2.1) := by
  rcases canEnergize_eq driver state with hgranted | ⟨hguard, hfault⟩ | ⟨fault, hfault, hguard⟩
  · exact .inl hgranted
  · rw [hguard]
    exact .inr ⟨rfl, hsound.stepped_latched hfault state.1 rfl rfl rfl rfl⟩
  · rw [hguard]
    exact .inr ⟨rfl, fun request answer =>
      stepped_trip driver fault state request answer hfault rfl⟩

theorem Sound.observed_cases {state : Supervised W} (hsound : state.1.Sound)
    (driver : ActuatorPort W) (nowMs : UInt32) :
    ((observeClock driver nowMs state).1 = false ∧ ∀ request answer,
      Stepped state.1 request answer (observeClock driver nowMs state).2.1) ∨
    (observeClock driver nowMs state = (true, (state.1.observed nowMs, state.2)) ∧
      (state.1.observed nowMs).isFaulted = true ∧
      ∀ request answer, Stepped state.1 request answer (state.1.observed nowMs)) ∨
    (observeClock driver nowMs state = (true, (state.1.observed nowMs, state.2)) ∧
      (state.1.observed nowMs).isFaulted = false ∧
      (state.1.observed nowMs).initialized = true) := by
  rcases observeClock_cases driver nowMs state with h | h
  · rw [h]
    exact .inl ⟨rfl, fun request answer =>
      stepped_trip driver .clockRegression state request answer (by decide) rfl⟩
  · by_cases hfault : state.1.fault = .none
    · exact .inr (.inr ⟨h, by simpa using hfault, hsound.ready hfault⟩)
    · exact .inr (.inl ⟨h, by simpa using hfault,
        hsound.stepped_latched hfault (state.1.observed nowMs) rfl rfl rfl rfl⟩)

theorem heartbeat_stepped (driver : ActuatorPort W) (nowMs : UInt32) (state : Supervised W)
    (hsound : state.1.Sound) :
    Stepped state.1 (.heartbeat nowMs) (.accepted (heartbeat driver nowMs state).1)
      (heartbeat driver nowMs state).2.1 := by
  unfold heartbeat
  rcases hsound.observed_cases driver nowMs with ⟨hrefused, hstepped⟩ | ⟨h, hfault, hstepped⟩ |
    ⟨h, hfault, hready⟩
  · simp only [hrefused, Bool.not_false, ↓reduceIte]
    exact hstepped _ _
  · simp only [h, hfault, Bool.not_true, Bool.false_eq_true, Bool.or_true, ↓reduceIte]
    exact hstepped _ _
  · simp only [h, hfault, hready, Bool.not_true, Bool.false_eq_true, Bool.or_self, ↓reduceIte]
    split
    · exact stepped_trip driver .watchdogExpired _ _ _ (by decide) rfl
    · exact .heartbeat nowMs (by simpa using hfault)

theorem pollFault_ne_none {supervisor : ActuatorSafetySupervisor} {nowMs : UInt32}
    {feedback : ActuatorFeedback} {fault : ActuatorSupervisorFault}
    (h : supervisor.pollFault nowMs feedback = some fault) : fault ≠ .none := by
  rintro rfl
  unfold pollFault at h
  dsimp only at h
  repeat (split at h; · cases h)
  cases h

theorem poll_stepped (driver : ActuatorPort W) (nowMs : UInt32) (permitted : Bool)
    (feedback : ActuatorFeedback) (state : Supervised W) (hsound : state.1.Sound) :
    Stepped state.1 (.poll nowMs permitted feedback)
      (.polled (poll driver nowMs permitted feedback state).1)
      (poll driver nowMs permitted feedback state).2.1 := by
  unfold poll
  rcases hsound.observed_cases driver nowMs with ⟨hrefused, hstepped⟩ | ⟨h, hfault, hstepped⟩ |
    ⟨h, hfault, hready⟩
  · simp only [hrefused, Bool.not_false, ↓reduceIte]
    exact hstepped _ _
  · simp only [h, hfault, Bool.not_true, Bool.false_eq_true, Bool.or_true, ↓reduceIte]
    exact hstepped _ _
  · simp only [h, hfault, hready, Bool.not_true, Bool.false_eq_true, Bool.or_self, ↓reduceIte]
    have hnone : state.1.fault = .none := by simpa using hfault
    split
    · rename_i fault hpoll
      exact stepped_trip driver fault _ _ _ (pollFault_ne_none hpoll) rfl
    split
    · rename_i hagrees
      rw [Bool.and_eq_true] at hagrees
      exact .confirmed nowMs permitted feedback hnone hagrees.1 hagrees.2
    · exact .polled nowMs permitted feedback hnone

theorem stepped_safed {before : ActuatorSafetySupervisor} (supervisor : ActuatorSafetySupervisor)
    (fault : ActuatorSupervisorFault) (secured : Bool) (request : Request) (answer : Answer)
    (hfault : fault ≠ .none) (hconfig : supervisor.config = before.config) :
    Stepped before request answer ((supervisor.safed secured).faulted fault) :=
  .faulted request answer _ hconfig hfault rfl rfl

theorem resetFault_stepped (driver : ActuatorPort W) (nowMs : UInt32)
    (feedback : ActuatorFeedback) (state : Supervised W) :
    Stepped state.1 (.resetFault nowMs feedback)
      (.accepted (resetFault driver nowMs feedback state).1)
      (resetFault driver nowMs feedback state).2.1 := by
  unfold resetFault
  rcases observeClock_cases driver nowMs state with h | h
  · rw [h]
    exact stepped_trip driver .clockRegression state _ _ (by decide) rfl
  rw [h]
  simp only [Bool.not_true, Bool.false_eq_true, ↓reduceIte]
  split
  · exact stepped_safed (state.1.observed nowMs) .invalidConfiguration _ _ _ (by decide) rfl
  split
  · exact stepped_safed (state.1.observed nowMs) .safingFailure _ _ _ (by decide) rfl
  split
  · have hfault : (if feedback.available then ActuatorSupervisorFault.feedbackMismatch
        else .feedbackUnavailable) ≠ .none := by split <;> decide
    exact stepped_safed (state.1.observed nowMs) _ _ _ _ hfault rfl
  · rename_i hsecured _
    rw [Bool.not_eq_true, Bool.not_eq_false'] at hsecured
    unfold safeDownstream at hsecured ⊢
    dsimp only at hsecured ⊢
    rw [hsecured]
    exact .reset nowMs feedback

theorem enableIgnition_stepped (driver : ActuatorPort W) (state : Supervised W)
    (hsound : state.1.Sound) :
    Stepped state.1 (.actuator .enableIgnition) (.accepted (enableIgnition driver state).1)
      (enableIgnition driver state).2.1 := by
  unfold enableIgnition
  rcases canEnergize_cases driver state hsound with ⟨h, henergizable⟩ | ⟨hrefused, hstepped⟩
  · simp only [h, Bool.not_true, Bool.false_eq_true, ↓reduceIte]
    split
    · exact stepped_trip driver .driverFailure _ _ _ (by decide) rfl
    · exact .ignitionEnabled henergizable
  · simp only [hrefused, Bool.not_false, ↓reduceIte]
    exact hstepped _ _

theorem engageStarter_stepped (driver : ActuatorPort W) (state : Supervised W)
    (hsound : state.1.Sound) :
    Stepped state.1 (.actuator .engageStarter) (.accepted (engageStarter driver state).1)
      (engageStarter driver state).2.1 := by
  unfold engageStarter
  rcases canEnergize_cases driver state hsound with ⟨h, henergizable⟩ | ⟨hrefused, hstepped⟩
  · simp only [h, Bool.not_true, Bool.false_eq_true, ↓reduceIte]
    split
    · exact stepped_trip driver .commandSequence _ _ _ (by decide) rfl
    · rename_i hsequence
      split
      · exact stepped_trip driver .driverFailure _ _ _ (by decide) rfl
      · simp only [Bool.or_eq_true, Bool.and_eq_true, not_or, not_and, Bool.not_eq_true,
          Bool.not_eq_false'] at hsequence
        exact .starterEngaged henergizable hsequence.1.2 hsequence.2
  · simp only [hrefused, Bool.not_false, ↓reduceIte]
    exact hstepped _ _

theorem disengageStarter_stepped (driver : ActuatorPort W) (state : Supervised W) :
    Stepped state.1 (.actuator .disengageStarter) (.accepted (disengageStarter driver state).1)
      (disengageStarter driver state).2.1 := by
  unfold disengageStarter
  dsimp only
  split
  · exact stepped_trip driver .driverFailure _ _ _ (by decide) rfl
  · exact .starterDisengaged

theorem releaseRemoteControl_stepped (driver : ActuatorPort W) (state : Supervised W)
    (hsound : state.1.Sound) :
    Stepped state.1 (.actuator .releaseRemoteControl)
      (.accepted (releaseRemoteControl driver state).1)
      (releaseRemoteControl driver state).2.1 := by
  unfold releaseRemoteControl
  rcases canEnergize_cases driver state hsound with ⟨h, -⟩ | ⟨hrefused, hstepped⟩
  · simp only [h, Bool.not_true, Bool.false_eq_true, ↓reduceIte]
    split
    · exact stepped_trip driver .commandSequence _ _ _ (by decide) rfl
    split
    · exact stepped_trip driver .driverFailure _ _ _ (by decide) rfl
    · exact .remoteControlReleased
  · simp only [hrefused, Bool.not_false, ↓reduceIte]
    exact hstepped _ _

theorem secureOutputs_stepped (driver : ActuatorPort W) (state : Supervised W) :
    Stepped state.1 (.actuator .secureOutputs) (.accepted (secureOutputs driver state).1)
      (secureOutputs driver state).2.1 := by
  unfold secureOutputs safeDownstream
  dsimp only
  split
  · exact stepped_safed state.1 .safingFailure _ _ _ (by decide) rfl
  · rename_i hsecured
    rw [Bool.not_eq_true, Bool.not_eq_false'] at hsecured
    rw [hsecured]
    exact .secured

/-- The step lemma: every request to a sound supervisor does one of these things. -/
theorem perform_stepped (driver : ActuatorPort W) (request : Request) (state : Supervised W)
    (hsound : state.1.Sound) :
    Stepped state.1 request (perform driver request state).1 (perform driver request state).2.1 := by
  cases request with
  | heartbeat nowMs => exact heartbeat_stepped driver nowMs state hsound
  | poll nowMs permitted feedback => exact poll_stepped driver nowMs permitted feedback state hsound
  | resetFault nowMs feedback => exact resetFault_stepped driver nowMs feedback state
  | actuator call =>
    cases call with
    | enableIgnition => exact enableIgnition_stepped driver state hsound
    | engageStarter => exact engageStarter_stepped driver state hsound
    | disengageStarter => exact disengageStarter_stepped driver state
    | releaseRemoteControl => exact releaseRemoteControl_stepped driver state hsound
    | secureOutputs => exact secureOutputs_stepped driver state

theorem Stepped.config {before after : ActuatorSafetySupervisor} {request : Request}
    {answer : Answer} (h : Stepped before request answer after) : after.config = before.config := by
  cases h with
  | faulted _ _ _ hconfig => exact hconfig
  | _ => rfl

theorem Stepped.sound {before after : ActuatorSafetySupervisor} {request : Request}
    {answer : Answer} (h : Stepped before request answer after) (hsound : before.Sound) :
    after.Sound := by
  cases h with
  | faulted _ _ _ _ hfault hignition hstarter =>
    exact ⟨fun hnone => absurd hnone hfault, by simp [hignition], by simp [hstarter]⟩
  | reset => exact ⟨fun _ => rfl, nofun, nofun⟩
  | secured => exact ⟨hsound.ready, nofun, nofun⟩
  | remoteControlReleased => exact ⟨hsound.ready, nofun, nofun⟩
  | starterDisengaged => exact ⟨hsound.ready, hsound.ignition, nofun⟩
  | ignitionEnabled henergizable => exact ⟨hsound.ready, fun _ => henergizable.fault, fun _ => rfl⟩
  | starterEngaged _ hignition => exact ⟨hsound.ready, hsound.ignition, fun _ => hignition⟩
  | heartbeat => exact ⟨hsound.ready, hsound.ignition, hsound.starter⟩
  | polled => exact ⟨hsound.ready, hsound.ignition, hsound.starter⟩
  | confirmed => exact ⟨hsound.ready, hsound.ignition, hsound.starter⟩

theorem construct_sound (driver : ActuatorPort W) (config : ActuatorSafetyConfig) (world : W) :
    (construct driver config world).1.Sound := by
  unfold construct safeDownstream
  dsimp only
  split
  · exact ⟨nofun, nofun, nofun⟩
  split
  · exact ⟨nofun, nofun, nofun⟩
  · exact ⟨fun _ => rfl, nofun, nofun⟩

def willingDriver : ActuatorPort Unit := .ofDevice fun _ world => (true, world)

end BmwRemote.Infrastructure.ActuatorSafetySupervisor
