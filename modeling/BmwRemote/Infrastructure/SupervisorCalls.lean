import BmwRemote.Infrastructure.SupervisorStep

/-! The supervisor of a driver that accepts every call. Its actuator calls do what they
say, or find a fault latched, or trip; they leave alone what the supervisor's own
requests keep. -/
namespace BmwRemote.Infrastructure.ActuatorSafetySupervisor

open BmwRemote.Lib

universe u

variable {W : Type u} {driver : ActuatorPort W}

def AcceptsAll (driver : ActuatorPort W) : Prop :=
  ∀ call world, (driver.perform call world).1 = true

/-- What heartbeats, polls and resets keep of the time and of the permission. -/
structure Watch where
  config : ActuatorSafetyConfig
  lastObservedMs : UInt32
  lastHeartbeatMs : UInt32
  clockInitialized : Bool
  heartbeatInitialized : Bool
  hardwareStartPermitted : Bool
  deriving DecidableEq

def watch (supervisor : ActuatorSafetySupervisor) : Watch where
  config := supervisor.config
  lastObservedMs := supervisor.lastObservedMs
  lastHeartbeatMs := supervisor.lastHeartbeatMs
  clockInitialized := supervisor.clockInitialized
  heartbeatInitialized := supervisor.heartbeatInitialized
  hardwareStartPermitted := supervisor.hardwareStartPermitted

def accepting (supervisor : ActuatorSafetySupervisor) : ActuatorCall → ActuatorSafetySupervisor
  | .enableIgnition => supervisor.ignitionEnabled
  | .engageStarter => supervisor.starterEngaged
  | .disengageStarter => supervisor.starterDisengaged
  | .releaseRemoteControl => supervisor.remoteControlReleased
  | .secureOutputs => supervisor.safed true

/-- The world after a call that is passed on; the starter is released before the outputs
are made safe. -/
def passedOn (driver : ActuatorPort W) (world : W) : ActuatorCall → W
  | .secureOutputs => (driver.secureOutputs (driver.disengageStarter world).2).2
  | call => (driver.perform call world).2

def Allows (supervisor : ActuatorSafetySupervisor) : ActuatorCall → Prop
  | .enableIgnition => supervisor.Energizable
  | .engageStarter => supervisor.Energizable ∧ supervisor.ignitionCommanded = true
  | .releaseRemoteControl => supervisor.Energizable ∧ supervisor.starterCommanded = false
  | .disengageStarter | .secureOutputs => True

@[simp] theorem watch_accepting (supervisor : ActuatorSafetySupervisor) (call : ActuatorCall) :
    (supervisor.accepting call).watch = supervisor.watch := by
  cases call <;> rfl

@[simp] theorem fault_accepting (supervisor : ActuatorSafetySupervisor) (call : ActuatorCall) :
    (supervisor.accepting call).fault = supervisor.fault := by
  cases call <;> rfl

@[simp] theorem watch_trip (fault : ActuatorSupervisorFault) (state : Supervised W) :
    (trip driver fault state).1.watch = state.1.watch := by
  unfold trip
  dsimp only
  split <;> rfl

inductive Called (driver : ActuatorPort W) (state : Supervised W) (call : ActuatorCall) :
    Bool × Supervised W → Prop
  | accepted (h : state.1.Allows call) :
      Called driver state call (true, state.1.accepting call, passedOn driver state.2 call)
  | latched (hfault : state.1.fault ≠ .none) : Called driver state call (false, state)
  | tripped (fault : ActuatorSupervisorFault) (hfault : fault ≠ .none) :
      Called driver state call (false, trip driver fault state)

theorem called_of_guard {state : Supervised W} {call : ActuatorCall}
    {result : Bool × Supervised W}
    (hrefused : ∀ after, canEnergize driver state = (false, after) → result = (false, after))
    (hgranted : canEnergize driver state = (true, state) → state.1.Energizable →
      Called driver state call result) : Called driver state call result := by
  rcases canEnergize_eq driver state with ⟨hguard, henergizable⟩ | ⟨hguard, hfault⟩ |
    ⟨fault, hfault, hguard⟩
  · exact hgranted hguard henergizable
  · rw [hrefused state hguard]
    exact .latched hfault
  · rw [hrefused _ hguard]
    exact .tripped fault hfault

theorem AcceptsAll.called (h : AcceptsAll driver) (state : Supervised W) (call : ActuatorCall) :
    Called driver state call ((port driver).perform call state) := by
  have haccepted : ∀ call, (driver.perform call state.2).1 = true := fun call => h call state.2
  cases call with
  | enableIgnition =>
    change Called driver state .enableIgnition (enableIgnition driver state)
    have hdriver : (driver.enableIgnition state.2).1 = true := haccepted .enableIgnition
    unfold enableIgnition
    apply called_of_guard
    · intro after hguard
      rw [hguard]
      rfl
    · intro hguard henergizable
      rw [hguard]
      simp only [Bool.not_true, Bool.false_eq_true, ↓reduceIte, hdriver]
      exact .accepted henergizable
  | engageStarter =>
    change Called driver state .engageStarter (engageStarter driver state)
    have hdriver : (driver.engageStarter state.2).1 = true := haccepted .engageStarter
    unfold engageStarter
    apply called_of_guard
    · intro after hguard
      rw [hguard]
      rfl
    · intro hguard henergizable
      rw [hguard]
      simp only [Bool.not_true, Bool.false_eq_true, ↓reduceIte, hdriver]
      split
      · exact .tripped .commandSequence (by decide)
      · rename_i hsequence
        simp only [Bool.or_eq_true, not_or, Bool.not_eq_true, Bool.not_eq_false'] at hsequence
        exact .accepted ⟨henergizable, hsequence.1.2⟩
  | disengageStarter =>
    change Called driver state .disengageStarter (disengageStarter driver state)
    unfold disengageStarter
    have hdriver : (driver.disengageStarter state.2).1 = true := haccepted .disengageStarter
    simp only [hdriver, Bool.not_true, Bool.false_eq_true, ↓reduceIte]
    exact .accepted trivial
  | releaseRemoteControl =>
    change Called driver state .releaseRemoteControl (releaseRemoteControl driver state)
    have hdriver : (driver.releaseRemoteControl state.2).1 = true :=
      haccepted .releaseRemoteControl
    unfold releaseRemoteControl
    apply called_of_guard
    · intro after hguard
      rw [hguard]
      rfl
    · intro hguard henergizable
      rw [hguard]
      simp only [Bool.not_true, Bool.false_eq_true, ↓reduceIte, hdriver]
      split
      · exact .tripped .commandSequence (by decide)
      · rename_i hstarter
        exact .accepted ⟨henergizable, by simpa using hstarter⟩
  | secureOutputs =>
    change Called driver state .secureOutputs (secureOutputs driver state)
    unfold secureOutputs safeDownstream
    have hstarter : (driver.disengageStarter state.2).1 = true := haccepted .disengageStarter
    have hsecured : (driver.secureOutputs (driver.disengageStarter state.2).2).1 = true :=
      h .secureOutputs _
    simp only [hstarter, hsecured, Bool.and_self, Bool.not_true, Bool.false_eq_true, ↓reduceIte]
    exact .accepted trivial

section Called

variable {state : Supervised W} {call : ActuatorCall} {result : Bool × Supervised W}

theorem Called.watch (h : Called driver state call result) :
    result.2.1.watch = state.1.watch := by
  cases h with
  | accepted => exact watch_accepting state.1 call
  | latched => rfl
  | tripped fault => exact watch_trip fault state

theorem Called.fault (h : Called driver state call result) :
    if result.1 then result.2.1.fault = state.1.fault else result.2.1.fault ≠ .none := by
  cases h with
  | accepted => exact fault_accepting state.1 call
  | latched hfault => exact hfault
  | tripped fault hfault => exact trip_fault_ne_none hfault state

theorem Called.starterEngagedAtMs (h : Called driver state call result)
    (hother : call ≠ .engageStarter) :
    result.2.1.starterEngagedAtMs = state.1.starterEngagedAtMs := by
  cases h with
  | accepted => cases call <;> first | rfl | exact absurd rfl hother
  | latched => rfl
  | tripped fault =>
    unfold trip
    dsimp only
    split <;> rfl

end Called

theorem resetFault_accepted {nowMs : UInt32} {feedback : ActuatorFeedback} {state : Supervised W}
    (h : (resetFault driver nowMs feedback state).1 = true) :
    (resetFault driver nowMs feedback state).2.1 = ((state.1.observed nowMs).safed true).cleared := by
  unfold resetFault at h ⊢
  rcases observeClock_cases driver nowMs state with hclock | hclock
  · rw [hclock] at h
    cases h
  rw [hclock] at h ⊢
  simp only [Bool.not_true, Bool.false_eq_true, ↓reduceIte] at h ⊢
  split at h
  · cases h
  split at h
  · cases h
  split at h
  · cases h
  · rename_i hconfig hsecured hfeedback
    rw [if_neg hconfig, if_neg hsecured, if_neg hfeedback]
    rw [Bool.not_eq_true, Bool.not_eq_false'] at hsecured
    unfold safeDownstream at hsecured ⊢
    dsimp only at hsecured ⊢
    rw [hsecured]

/-! Heartbeats and polls that find nothing wrong. -/

/-- Nothing that the supervisor checks at `nowMs` is wrong, feedback apart. -/
structure Calm (supervisor : ActuatorSafetySupervisor) (nowMs : UInt32) (permitted : Bool) :
    Prop where
  initialized : supervisor.initialized = true
  fault : supervisor.fault = .none
  clock : supervisor.clockInitialized = true →
    nowMs = supervisor.lastObservedMs ∨ strictlyNewer nowMs supervisor.lastObservedMs = true
  permitted : supervisor.outputsActive = true → permitted = true
  attendance : supervisor.outputsActive = true → supervisor.heartbeatInitialized = true ∧
    nowMs - supervisor.lastHeartbeatMs ≤ supervisor.config.watchdogTimeoutMs
  starter : supervisor.starterCommanded = true →
    nowMs - supervisor.starterEngagedAtMs ≤ supervisor.config.maximumStarterActiveMs

def attended (supervisor : ActuatorSafetySupervisor) (nowMs : UInt32) (permitted : Bool) :
    ActuatorSafetySupervisor :=
  (((supervisor.observed nowMs).beaten nowMs).permitting permitted).confirmed

section Attended

variable (supervisor : ActuatorSafetySupervisor) (nowMs : UInt32) (permitted : Bool)

@[simp] theorem fault_attended :
    (supervisor.attended nowMs permitted).fault = supervisor.fault := rfl

@[simp] theorem config_attended :
    (supervisor.attended nowMs permitted).config = supervisor.config := rfl

@[simp] theorem lastObservedMs_attended :
    (supervisor.attended nowMs permitted).lastObservedMs = nowMs := rfl

@[simp] theorem lastHeartbeatMs_attended :
    (supervisor.attended nowMs permitted).lastHeartbeatMs = nowMs := rfl

@[simp] theorem heartbeatInitialized_attended :
    (supervisor.attended nowMs permitted).heartbeatInitialized = true := rfl

@[simp] theorem ignitionCommanded_attended :
    (supervisor.attended nowMs permitted).ignitionCommanded = supervisor.ignitionCommanded := rfl

@[simp] theorem starterCommanded_attended :
    (supervisor.attended nowMs permitted).starterCommanded = supervisor.starterCommanded := rfl

@[simp] theorem starterEngagedAtMs_attended :
    (supervisor.attended nowMs permitted).starterEngagedAtMs = supervisor.starterEngagedAtMs := rfl

end Attended

section Calm

variable {supervisor : ActuatorSafetySupervisor} {state : Supervised W} {nowMs : UInt32}
  {permitted : Bool} {feedback : ActuatorFeedback}

theorem observeClock_of_ordered (h : state.1.clockInitialized = true →
    nowMs = state.1.lastObservedMs ∨ strictlyNewer nowMs state.1.lastObservedMs = true) :
    observeClock driver nowMs state = (true, (state.1.observed nowMs, state.2)) := by
  unfold observeClock
  split
  · rename_i hregressed
    simp only [Bool.and_eq_true, bne_iff_ne, ne_eq, Bool.not_eq_true'] at hregressed
    rcases h hregressed.1.1 with hsame | hnewer
    · exact absurd hsame hregressed.1.2
    · rw [hregressed.2] at hnewer
      cases hnewer
  · rfl

theorem heartbeat_ordered (hclock : state.1.clockInitialized = true →
    nowMs = state.1.lastObservedMs ∨ strictlyNewer nowMs state.1.lastObservedMs = true)
    (hready : state.1.fault = .none → state.1.initialized = true) :
    ((heartbeat driver nowMs state).2 = (state.1.observed nowMs, state.2) ∧
        state.1.fault ≠ .none) ∨
      (heartbeat driver nowMs state).2 =
        trip driver .watchdogExpired (state.1.observed nowMs, state.2) ∨
      (heartbeat driver nowMs state).2 = ((state.1.observed nowMs).beaten nowMs, state.2) := by
  unfold heartbeat
  rw [observeClock_of_ordered hclock]
  simp only [Bool.not_true, Bool.false_eq_true, ↓reduceIte]
  split
  · rename_i hrefused
    exact .inl ⟨rfl, (refused_observed_iff hready nowMs).1 hrefused⟩
  split
  · exact .inr (.inl rfl)
  · exact .inr (.inr rfl)

theorem poll_ordered (hclock : state.1.clockInitialized = true →
    nowMs = state.1.lastObservedMs ∨ strictlyNewer nowMs state.1.lastObservedMs = true)
    (hready : state.1.fault = .none → state.1.initialized = true) :
    ((poll driver nowMs permitted feedback state).2 = (state.1.observed nowMs, state.2) ∧
        state.1.fault ≠ .none) ∨
      (∃ fault, fault ≠ .none ∧ (poll driver nowMs permitted feedback state).2 =
        trip driver fault ((state.1.observed nowMs).permitting permitted, state.2)) ∨
      (((poll driver nowMs permitted feedback state).2 =
          ((state.1.observed nowMs).permitting permitted, state.2) ∨
        (poll driver nowMs permitted feedback state).2 =
          (((state.1.observed nowMs).permitting permitted).confirmed, state.2)) ∧
        (state.1.outputsActive = true → permitted = true ∧
          nowMs - state.1.lastHeartbeatMs ≤ state.1.config.watchdogTimeoutMs)) := by
  unfold poll
  rw [observeClock_of_ordered hclock]
  simp only [Bool.not_true, Bool.false_eq_true, ↓reduceIte]
  split
  · rename_i hrefused
    exact .inl ⟨rfl, (refused_observed_iff hready nowMs).1 hrefused⟩
  split
  · rename_i fault hpoll
    exact .inr (.inl ⟨fault, pollFault_ne_none hpoll, rfl⟩)
  · rename_i hpoll
    refine .inr (.inr ⟨?_, fun hactive => ?_⟩)
    · split
      · exact .inr rfl
      · exact .inl rfl
    · have hsame : ((state.1.observed nowMs).permitting permitted).outputsActive = true := hactive
      unfold pollFault at hpoll
      dsimp only at hpoll
      rw [hsame] at hpoll
      split at hpoll
      · cases hpoll
      rename_i hpermitted
      split at hpoll
      · cases hpoll
      rename_i hwatchdog
      rw [Bool.true_and, Bool.or_eq_true, not_or, decide_eq_true_eq] at hwatchdog
      exact ⟨by simpa [permitting] using hpermitted, UInt32.not_lt.1 hwatchdog.2⟩

theorem Calm.heartbeat_eq (h : state.1.Calm nowMs permitted) :
    (heartbeat driver nowMs state).2 = ((state.1.observed nowMs).beaten nowMs, state.2) := by
  have hfault : (state.1.observed nowMs).isFaulted = false := isFaulted_eq_false_iff.2 h.fault
  have hinitialized : (state.1.observed nowMs).initialized = true := h.initialized
  unfold heartbeat
  rw [observeClock_of_ordered h.clock]
  simp only [hinitialized, hfault, Bool.not_true, Bool.false_eq_true, Bool.or_self, ↓reduceIte]
  split
  · rename_i hlate
    simp only [Bool.and_eq_true, decide_eq_true_eq] at hlate
    exact absurd (h.attendance hlate.1.2).2 (UInt32.not_le.2 hlate.2)
  · rfl

theorem Calm.pollFault_eq (h : supervisor.Calm nowMs permitted)
    (hagrees : supervisor.agreesWith feedback = true) (havailable : feedback.available = true) :
    ((supervisor.observed nowMs).permitting permitted).pollFault nowMs feedback = none := by
  unfold pollFault
  dsimp only
  rw [if_neg, if_neg, if_neg, if_neg, if_neg]
  · simp [havailable]
  · change ¬ ((_ && _ && !supervisor.agreesWith feedback) = true)
    simp [hagrees]
  · rw [Bool.and_eq_true, decide_eq_true_eq, not_and]
    exact fun hstarter => UInt32.not_lt.2 (h.starter hstarter)
  · rw [Bool.and_eq_true, not_and, Bool.or_eq_true, not_or, decide_eq_true_eq]
    intro hactive
    have hattendance := h.attendance hactive
    exact ⟨by simp [permitting, observed, hattendance.1], UInt32.not_lt.2 hattendance.2⟩
  · rw [Bool.and_eq_true, not_and]
    intro hactive
    simp [permitting, h.permitted hactive]

theorem Calm.poll_eq (h : state.1.Calm nowMs permitted)
    (hagrees : state.1.agreesWith feedback = true) (havailable : feedback.available = true) :
    (poll driver nowMs permitted feedback state).2 =
      (((state.1.observed nowMs).permitting permitted).confirmed, state.2) := by
  have hfault : (state.1.observed nowMs).isFaulted = false := isFaulted_eq_false_iff.2 h.fault
  have hinitialized : (state.1.observed nowMs).initialized = true := h.initialized
  have hsame : ((state.1.observed nowMs).permitting permitted).agreesWith feedback = true := hagrees
  unfold poll
  rw [observeClock_of_ordered h.clock]
  simp only [hinitialized, hfault, Bool.not_true, Bool.false_eq_true, Bool.or_self, ↓reduceIte,
    h.pollFault_eq hagrees havailable, havailable, hsame, Bool.and_self]

theorem Calm.beaten (h : supervisor.Calm nowMs permitted) :
    ((supervisor.observed nowMs).beaten nowMs).Calm nowMs permitted where
  initialized := h.initialized
  fault := h.fault
  clock := fun _ => .inl rfl
  permitted := h.permitted
  attendance := fun _ => ⟨rfl, by
    change nowMs - nowMs ≤ _
    rw [UInt32.sub_self]
    exact UInt32.zero_le⟩
  starter := h.starter

theorem Calm.attend_eq (h : state.1.Calm nowMs permitted)
    (hagrees : state.1.agreesWith feedback = true) (havailable : feedback.available = true) :
    (poll driver nowMs permitted feedback (heartbeat driver nowMs state).2).2 =
      (state.1.attended nowMs permitted, state.2) := by
  rw [h.heartbeat_eq]
  exact h.beaten.poll_eq hagrees havailable

end Calm

end BmwRemote.Infrastructure.ActuatorSafetySupervisor
