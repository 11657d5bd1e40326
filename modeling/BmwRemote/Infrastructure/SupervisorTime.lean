import BmwRemote.Infrastructure.SupervisorStep
import Mathlib.Algebra.Group.Nat.Defs
import Mathlib.Data.List.Chain

/-! The supervisor in true time. A request is made at a time of any size, of which the
supervisor is given 32 bits; beside it runs a record of the true times that its stamps
stand for. -/
namespace BmwRemote.Infrastructure.ActuatorSafetySupervisor

open BmwRemote.Lib

universe u

variable {W : Type u}

/-- A request, with the true time in milliseconds where it carries one. -/
inductive TimedRequest where
  | heartbeat (timeMs : Nat)
  | poll (timeMs : Nat) (hardwareStartPermitted : Bool) (feedback : ActuatorFeedback)
  | resetFault (timeMs : Nat) (feedback : ActuatorFeedback)
  | actuator (call : ActuatorCall)
  deriving DecidableEq

namespace TimedRequest

def truncated : TimedRequest → Request
  | .heartbeat timeMs => .heartbeat (UInt32.ofNat timeMs)
  | .poll timeMs permitted feedback => .poll (UInt32.ofNat timeMs) permitted feedback
  | .resetFault timeMs feedback => .resetFault (UInt32.ofNat timeMs) feedback
  | .actuator call => .actuator call

def timeMs : TimedRequest → Option Nat
  | .heartbeat timeMs | .poll timeMs _ _ | .resetFault timeMs _ => some timeMs
  | .actuator _ => none

def pollTimeMs : TimedRequest → Option Nat
  | .poll timeMs _ _ => some timeMs
  | _ => none

end TimedRequest

def Ordered (requests : List TimedRequest) : Prop :=
  (requests.filterMap TimedRequest.timeMs).Pairwise (· ≤ ·)

instance (requests : List TimedRequest) : Decidable (Ordered requests) :=
  inferInstanceAs (Decidable (List.Pairwise _ _))

/-- The times of one kind are less than half the clock's range apart. -/
def Near (time : TimedRequest → Option Nat) (requests : List TimedRequest) : Prop :=
  (requests.filterMap time).IsChain fun earlier later => later < earlier + 2 ^ 31

instance (time : TimedRequest → Option Nat) (requests : List TimedRequest) :
    Decidable (Near time requests) :=
  inferInstanceAs (Decidable (List.IsChain _ _))

def lastTime (time : TimedRequest → Option Nat) (requests : List TimedRequest) : Option Nat :=
  (requests.filterMap time).getLast?

theorem lastTime_concat (time : TimedRequest → Option Nat) (requests : List TimedRequest)
    (request : TimedRequest) :
    lastTime time (requests ++ [request]) = (time request).or (lastTime time requests) := by
  unfold lastTime
  rw [List.filterMap_append, List.getLast?_append]
  cases h : time request <;> simp [h]

theorem Near.init {time : TimedRequest → Option Nat} {requests : List TimedRequest}
    {request : TimedRequest} (h : Near time (requests ++ [request])) : Near time requests := by
  unfold Near at h ⊢
  rw [List.filterMap_append, List.isChain_append] at h
  exact h.1

theorem Near.last {time : TimedRequest → Option Nat} {requests : List TimedRequest}
    {request : TimedRequest} {earlier timeMs : Nat} (h : Near time (requests ++ [request]))
    (hearlier : lastTime time requests = some earlier) (htime : time request = some timeMs) :
    timeMs < earlier + 2 ^ 31 := by
  unfold Near at h
  rw [List.filterMap_append, List.isChain_append] at h
  exact h.2.2 earlier hearlier timeMs (by simp [htime])

/-- The true times behind the stamps of a supervisor. -/
structure Timeline where
  /-- the last clock observation that was not refused -/
  observedAt : Nat := 0
  /-- the last accepted heartbeat since the last successful reset -/
  heartbeatAt : Option Nat := none
  /-- the observation current when the starter was last engaged -/
  engagedAt : Option Nat := none
  /-- the observation current at the last accepted output command or reset -/
  stampedAt : Nat := 0
  /-- the observation current when the commanded outputs last changed -/
  changedAt : Nat := 0
  deriving DecidableEq

def commanded (supervisor : ActuatorSafetySupervisor) : Bool × Bool :=
  (supervisor.ignitionCommanded, supervisor.starterCommanded)

namespace Timeline

def observing (driver : ActuatorPort W) (timeline : Timeline) (before : Supervised W)
    (request : TimedRequest) : Nat :=
  match request.timeMs with
  | some timeMs =>
    if (observeClock driver (UInt32.ofNat timeMs) before).1 then timeMs else timeline.observedAt
  | none => timeline.observedAt

def extended (timeline : Timeline) (observedAt : Nat) (request : TimedRequest) (answer : Answer)
    (changed : Bool) : Timeline where
  observedAt := observedAt
  heartbeatAt :=
    match request, answer with
    | .heartbeat timeMs, .accepted true => some timeMs
    | .resetFault _ _, .accepted true => none
    | _, _ => timeline.heartbeatAt
  engagedAt :=
    match request, answer with
    | .actuator .engageStarter, .accepted true => some observedAt
    | _, _ => timeline.engagedAt
  stampedAt :=
    match request, answer with
    | .actuator _, .accepted true | .resetFault _ _, .accepted true => observedAt
    | _, _ => timeline.stampedAt
  changedAt := if changed then observedAt else timeline.changedAt

end Timeline

abbrev TimedSupervised (W : Type u) := Supervised W × Timeline

def timedMachine (driver : ActuatorPort W) :
    Machine (TimedSupervised W) TimedRequest Answer := fun state request =>
  let (answer, after) := perform driver request.truncated state.1
  (answer, after, state.2.extended (state.2.observing driver state.1 request) request answer
    (after.1.commanded != state.1.1.commanded))

def builtAt (driver : ActuatorPort W) (config : ActuatorSafetyConfig) (timeMs : Nat) (world : W) :
    TimedSupervised W :=
  (construct driver config world, { changedAt := timeMs })

/-- The stamps of a supervisor without fault are the words of the recorded times. -/
structure Dated (supervisor : ActuatorSafetySupervisor) (timeline : Timeline) : Prop where
  observed : supervisor.lastObservedMs = UInt32.ofNat timeline.observedAt
  heartbeat : supervisor.heartbeatInitialized = true → ∃ beatenAt,
    timeline.heartbeatAt = some beatenAt ∧
      supervisor.lastHeartbeatMs = UInt32.ofNat beatenAt ∧ beatenAt ≤ timeline.observedAt
  stamped : supervisor.lastOutputChangeMs = UInt32.ofNat timeline.stampedAt ∧
    timeline.stampedAt ≤ timeline.observedAt
  engaged : supervisor.starterCommanded = true → ∃ engagedAt,
    timeline.engagedAt = some engagedAt ∧
      supervisor.starterEngagedAtMs = UInt32.ofNat engagedAt ∧ engagedAt ≤ timeline.observedAt

theorem fault_of_unobserved {driver : ActuatorPort W} {request : TimedRequest} {timeMs : Nat}
    {state : Supervised W} (htime : request.timeMs = some timeMs)
    (hrefused : (observeClock driver (UInt32.ofNat timeMs) state).1 = false) :
    (perform driver request.truncated state).2.1.fault ≠ .none := by
  have htrip : (trip driver .clockRegression state).1.fault ≠ .none := by
    rw [trip_fault]
    split
    · decide
    · assumption
  have hobserve : observeClock driver (UInt32.ofNat timeMs) state =
      (false, trip driver .clockRegression state) := by
    rcases observeClock_cases driver (UInt32.ofNat timeMs) state with h | h
    · exact h
    · rw [h] at hrefused
      cases hrefused
  cases request with
  | actuator => cases htime
  | heartbeat =>
    cases htime
    change (heartbeat driver (UInt32.ofNat timeMs) state).2.1.fault ≠ .none
    unfold heartbeat
    rw [hobserve]
    exact htrip
  | poll _ permitted feedback =>
    cases htime
    change (poll driver (UInt32.ofNat timeMs) permitted feedback state).2.1.fault ≠ .none
    unfold poll
    rw [hobserve]
    exact htrip
  | resetFault _ feedback =>
    cases htime
    change (resetFault driver (UInt32.ofNat timeMs) feedback state).2.1.fault ≠ .none
    unfold resetFault
    rw [hobserve]
    exact htrip

theorem observing_of_fault_none {driver : ActuatorPort W} {request : TimedRequest} {timeMs : Nat}
    {state : Supervised W} (timeline : Timeline) (htime : request.timeMs = some timeMs)
    (hnone : (perform driver request.truncated state).2.1.fault = .none) :
    timeline.observing driver state request = timeMs := by
  unfold Timeline.observing
  rw [htime]
  refine if_pos ?_
  by_contra hrefused
  exact fault_of_unobserved htime (by simpa using hrefused) hnone

theorem observedAt_of_fault_none {driver : ActuatorPort W} {request : TimedRequest} {timeMs : Nat}
    {state : TimedSupervised W} (htime : request.timeMs = some timeMs)
    (hnone : (timedMachine driver state request).2.1.1.fault = .none) :
    (timedMachine driver state request).2.2.observedAt = timeMs :=
  observing_of_fault_none state.2 htime hnone

theorem dated_extended {before after : ActuatorSafetySupervisor} {request : TimedRequest}
    {answer : Answer} {timeline : Timeline} {observedAt : Nat} (changed : Bool)
    (hstep : Stepped before request.truncated answer after) (hnone : after.fault = .none)
    (hdated : before.fault = .none → Dated before timeline)
    (htime : ∀ timeMs, request.timeMs = some timeMs → observedAt = timeMs)
    (hkept : request.timeMs = none → observedAt = timeline.observedAt)
    (horder : timeline.observedAt ≤ observedAt) :
    Dated after (timeline.extended observedAt request answer changed) := by
  -- what a request that leaves the stamps alone keeps of them
  have hstamped : before.fault = .none → before.lastOutputChangeMs =
      UInt32.ofNat timeline.stampedAt ∧ timeline.stampedAt ≤ observedAt := fun hfault =>
    ⟨(hdated hfault).stamped.1, Nat.le_trans (hdated hfault).stamped.2 horder⟩
  have hheartbeat : before.fault = .none → before.heartbeatInitialized = true → ∃ beatenAt,
      timeline.heartbeatAt = some beatenAt ∧
        before.lastHeartbeatMs = UInt32.ofNat beatenAt ∧ beatenAt ≤ observedAt := by
    intro hfault hbeaten
    obtain ⟨beatenAt, hat, hstamp, hle⟩ := (hdated hfault).heartbeat hbeaten
    exact ⟨beatenAt, hat, hstamp, Nat.le_trans hle horder⟩
  have hengaged : before.fault = .none → before.starterCommanded = true → ∃ engagedAt,
      timeline.engagedAt = some engagedAt ∧
        before.starterEngagedAtMs = UInt32.ofNat engagedAt ∧ engagedAt ≤ observedAt := by
    intro hfault hcommanded
    obtain ⟨engagedAt, hat, hstamp, hle⟩ := (hdated hfault).engaged hcommanded
    exact ⟨engagedAt, hat, hstamp, Nat.le_trans hle horder⟩
  cases request with
  | heartbeat timeMs =>
    obtain rfl := htime timeMs rfl
    cases hstep with
    | heartbeat _ hfault =>
      exact ⟨rfl, fun _ => ⟨_, rfl, rfl, Nat.le_refl _⟩, hstamped hfault, hengaged hfault⟩
    | faulted _ _ _ _ hfault => exact absurd hnone hfault
  | poll timeMs permitted feedback =>
    obtain rfl := htime timeMs rfl
    cases hstep with
    | polled _ _ _ hfault => exact ⟨rfl, hheartbeat hfault, hstamped hfault, hengaged hfault⟩
    | confirmed _ _ _ hfault => exact ⟨rfl, hheartbeat hfault, hstamped hfault, hengaged hfault⟩
    | faulted _ _ _ _ hfault => exact absurd hnone hfault
  | resetFault timeMs feedback =>
    obtain rfl := htime timeMs rfl
    cases hstep with
    | reset => exact ⟨rfl, nofun, ⟨rfl, Nat.le_refl _⟩, nofun⟩
    | faulted _ _ _ _ hfault => exact absurd hnone hfault
  | actuator call =>
    obtain rfl := hkept rfl
    cases hstep with
    | ignitionEnabled =>
      have h := hdated hnone
      exact ⟨h.observed, h.heartbeat, ⟨h.observed, Nat.le_refl _⟩, h.engaged⟩
    | starterEngaged =>
      have h := hdated hnone
      exact ⟨h.observed, h.heartbeat, ⟨h.observed, Nat.le_refl _⟩,
        fun _ => ⟨_, rfl, h.observed, Nat.le_refl _⟩⟩
    | starterDisengaged =>
      have h := hdated hnone
      exact ⟨h.observed, h.heartbeat, ⟨h.observed, Nat.le_refl _⟩, nofun⟩
    | remoteControlReleased =>
      have h := hdated hnone
      exact ⟨h.observed, h.heartbeat, ⟨h.observed, Nat.le_refl _⟩, nofun⟩
    | secured =>
      have h := hdated hnone
      exact ⟨h.observed, h.heartbeat, ⟨h.observed, Nat.le_refl _⟩, nofun⟩
    | faulted _ _ _ _ hfault => exact absurd hnone hfault

theorem Ordered.init {requests : List TimedRequest} {request : TimedRequest}
    (h : Ordered (requests ++ [request])) : Ordered requests := by
  unfold Ordered at h ⊢
  rw [List.filterMap_append, List.pairwise_append] at h
  exact h.1

theorem Ordered.last {requests : List TimedRequest} {request : TimedRequest} {timeMs : Nat}
    (h : Ordered (requests ++ [request])) (htime : request.timeMs = some timeMs) :
    ∀ earlier ∈ requests.filterMap TimedRequest.timeMs, earlier ≤ timeMs := by
  unfold Ordered at h
  rw [List.filterMap_append, List.pairwise_append] at h
  exact fun earlier hearlier => h.2.2 earlier hearlier timeMs (by simp [htime])

theorem construct_lastObservedMs (driver : ActuatorPort W) (config : ActuatorSafetyConfig)
    (world : W) : (construct driver config world).1.lastObservedMs = 0 ∧
      (construct driver config world).1.lastOutputChangeMs = 0 ∧
      (construct driver config world).1.heartbeatInitialized = false ∧
      (construct driver config world).1.hardwareStartPermitted = false ∧
      (construct driver config world).1.ignitionCommanded = false ∧
      (construct driver config world).1.starterCommanded = false ∧
      (construct driver config world).1.config = config := by
  unfold construct safeDownstream
  dsimp only
  split
  · exact ⟨rfl, rfl, rfl, rfl, rfl, rfl, rfl⟩
  · split <;> exact ⟨rfl, rfl, rfl, rfl, rfl, rfl, rfl⟩

theorem construct_dated (driver : ActuatorPort W) (config : ActuatorSafetyConfig) (timeMs : Nat)
    (world : W) : Dated (builtAt driver config timeMs world).1.1
      (builtAt driver config timeMs world).2 := by
  obtain ⟨hobserved, hstamped, hheartbeat, -, -, hstarter, -⟩ :=
    construct_lastObservedMs driver config world
  refine ⟨hobserved, fun h => ?_, ⟨hstamped, Nat.le_refl _⟩, fun h => ?_⟩
  · exact absurd (hheartbeat.symm.trans h) Bool.false_ne_true
  · exact absurd (hstarter.symm.trans h) Bool.false_ne_true

structure InTime (config : ActuatorSafetyConfig) (requests : List TimedRequest)
    (state : TimedSupervised W) : Prop where
  sound : state.1.1.Sound
  config_eq : state.1.1.config = config
  dated : state.1.1.fault = .none → Dated state.1.1 state.2
  observed : state.2.observedAt = 0 ∨
    state.2.observedAt ∈ requests.filterMap TimedRequest.timeMs

theorem InTime.observedAt_le {config : ActuatorSafetyConfig} {requests : List TimedRequest}
    {state : TimedSupervised W} (h : InTime config requests state) {request : TimedRequest}
    {timeMs : Nat} (hordered : Ordered (requests ++ [request]))
    (htime : request.timeMs = some timeMs) : state.2.observedAt ≤ timeMs := by
  rcases h.observed with hzero | hmem
  · rw [hzero]
    exact Nat.zero_le _
  · exact hordered.last htime _ hmem

theorem observing_cases (driver : ActuatorPort W) (timeline : Timeline) (before : Supervised W)
    (request : TimedRequest) :
    timeline.observing driver before request = timeline.observedAt ∨
      request.timeMs = some (timeline.observing driver before request) := by
  unfold Timeline.observing
  cases htime : request.timeMs with
  | none => exact .inl rfl
  | some timeMs =>
    dsimp only
    split
    · exact .inr rfl
    · exact .inl rfl

theorem InTime.step {config : ActuatorSafetyConfig} {requests : List TimedRequest}
    {state : TimedSupervised W} (h : InTime config requests state) (driver : ActuatorPort W)
    {request : TimedRequest} (hordered : Ordered (requests ++ [request])) :
    InTime config (requests ++ [request]) (timedMachine driver state request).2 := by
  have hstep := perform_stepped driver request.truncated state.1 h.sound
  refine ⟨hstep.sound h.sound, hstep.config.trans h.config_eq, fun hnone => ?_, ?_⟩
  · refine dated_extended _ hstep hnone h.dated ?_ ?_ ?_
    · exact fun timeMs htime => observing_of_fault_none state.2 htime hnone
    · intro htime
      unfold Timeline.observing
      rw [htime]
    · rcases observing_cases driver state.2 state.1 request with hkept | htime
      · exact Nat.le_of_eq hkept.symm
      · exact h.observedAt_le hordered htime
  · have hobserved : (timedMachine driver state request).2.2.observedAt =
        state.2.observing driver state.1 request := rfl
    rw [hobserved, List.filterMap_append, List.mem_append]
    rcases observing_cases driver state.2 state.1 request with hkept | htime
    · rw [hkept]
      exact h.observed.imp_right Or.inl
    · exact .inr (.inr (List.mem_filterMap.2 ⟨request, List.mem_singleton_self _, htime⟩))

theorem builtAt_inTime (driver : ActuatorPort W) (config : ActuatorSafetyConfig) (timeMs : Nat)
    (world : W) : InTime config [] (builtAt driver config timeMs world) :=
  ⟨construct_sound driver config world, (construct_lastObservedMs driver config world).2.2.2.2.2.2,
    fun _ => construct_dated driver config timeMs world, .inl rfl⟩

theorem run_inTime (driver : ActuatorPort W) (config : ActuatorSafetyConfig) (timeMs : Nat)
    (world : W) {requests : List TimedRequest} (hordered : Ordered requests) :
    InTime config requests
      ((timedMachine driver).final (builtAt driver config timeMs world) requests) := by
  induction requests using List.reverseRecOn with
  | nil => exact builtAt_inTime driver config timeMs world
  | append_singleton requests request ih =>
    rw [Machine.final_concat]
    exact (ih hordered.init).step driver hordered

def ignitionFeedback : ActuatorFeedback := { available := true, ignitionActive := true }

end BmwRemote.Infrastructure.ActuatorSafetySupervisor
