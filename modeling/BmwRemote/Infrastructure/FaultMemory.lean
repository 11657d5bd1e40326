import BmwRemote.Infrastructure.SupervisorHistory

/-! The fault that a supervisor remembers. A trip keeps the one there is; a refused reset
and a failed `secureOutputs` write their own over it. -/
namespace BmwRemote.Infrastructure.ActuatorSafetySupervisor

open BmwRemote.Lib

universe u

variable {W : Type u}

def secures (driver : ActuatorPort W) (world : W) : Bool :=
  let starterReleased := driver.disengageStarter world
  starterReleased.1 && (driver.secureOutputs starterReleased.2).1

def regressing (supervisor : ActuatorSafetySupervisor) (nowMs : UInt32) : Bool :=
  supervisor.clockInitialized && nowMs != supervisor.lastObservedMs &&
    !strictlyNewer nowMs supervisor.lastObservedMs

/-- The request is a refused reset or a failed `secureOutputs` that writes another fault over
the one there is. -/
def Overwrites (driver : ActuatorPort W) (state : Supervised W) : Request → Prop
  | .resetFault nowMs feedback =>
    state.1.regressing nowMs = false ∧
      if state.1.config.isValid = false then state.1.fault ≠ .invalidConfiguration
      else if secures driver state.2 = false then state.1.fault ≠ .safingFailure
      else if state.1.config.requireFeedback = true ∧ feedback.available = false then
        state.1.fault ≠ .feedbackUnavailable
      else feedback.available = true ∧ (feedback.ignitionActive = true ∨
        feedback.starterActive = true) ∧ state.1.fault ≠ .feedbackMismatch
  | .actuator .secureOutputs => secures driver state.2 = false ∧ state.1.fault ≠ .safingFailure
  | _ => False

theorem trip_kept (driver : ActuatorPort W) (fault : ActuatorSupervisorFault) (state : Supervised W)
    (h : state.1.fault ≠ .none) : (trip driver fault state).1.fault = state.1.fault := by
  rw [trip_fault, if_neg h]

theorem observeClock_fault (driver : ActuatorPort W) (nowMs : UInt32) (state : Supervised W)
    (h : state.1.fault ≠ .none) :
    (observeClock driver nowMs state).2.1.fault = state.1.fault := by
  rcases observeClock_cases driver nowMs state with hclock | hclock
  · rw [hclock]
    exact trip_kept driver _ state h
  · rw [hclock]
    rfl

theorem heartbeat_fault (driver : ActuatorPort W) (nowMs : UInt32) (state : Supervised W)
    (h : state.1.fault ≠ .none) : (heartbeat driver nowMs state).2.1.fault = state.1.fault := by
  have hclock := observeClock_fault driver nowMs state h
  have hfaulted := isFaulted_eq_true_iff.2 (hclock ▸ h)
  unfold heartbeat
  simp only [hfaulted, Bool.or_true, ↓reduceIte, ite_self]
  exact hclock

theorem poll_fault (driver : ActuatorPort W) (nowMs : UInt32) (permitted : Bool)
    (feedback : ActuatorFeedback) (state : Supervised W) (h : state.1.fault ≠ .none) :
    (poll driver nowMs permitted feedback state).2.1.fault = state.1.fault := by
  have hclock := observeClock_fault driver nowMs state h
  have hfaulted := isFaulted_eq_true_iff.2 (hclock ▸ h)
  unfold poll
  simp only [hfaulted, Bool.or_true, ↓reduceIte, ite_self]
  exact hclock

theorem canEnergize_fault (driver : ActuatorPort W) (state : Supervised W)
    (h : state.1.fault ≠ .none) : (canEnergize driver state).1 = false ∧
      (canEnergize driver state).2.1.fault = state.1.fault := by
  rcases canEnergize_eq driver state with ⟨-, henergizable⟩ | ⟨hguard, -⟩ | ⟨fault, -, hguard⟩
  · exact absurd henergizable.fault h
  · rw [hguard]
    exact ⟨rfl, rfl⟩
  · rw [hguard]
    exact ⟨rfl, trip_kept driver fault state h⟩

theorem actuator_fault (driver : ActuatorPort W) (call : ActuatorCall) (state : Supervised W)
    (h : state.1.fault ≠ .none) (hcall : call ≠ .secureOutputs) :
    (perform driver (.actuator call) state).2.1.fault = state.1.fault := by
  obtain ⟨hrefused, hkept⟩ := canEnergize_fault driver state h
  simp only [perform, port]
  cases call with
  | enableIgnition => simpa [ActuatorPort.perform, enableIgnition, hrefused] using hkept
  | engageStarter => simpa [ActuatorPort.perform, engageStarter, hrefused] using hkept
  | releaseRemoteControl =>
    simpa [ActuatorPort.perform, releaseRemoteControl, hrefused] using hkept
  | disengageStarter =>
    change (disengageStarter driver state).2.1.fault = state.1.fault
    unfold disengageStarter
    dsimp only
    split
    · exact trip_kept driver _ (_, _) h
    · rfl
  | secureOutputs => exact absurd rfl hcall

theorem safeDownstream_secures (driver : ActuatorPort W) (state : Supervised W) :
    safeDownstream driver state =
      (secures driver state.2, state.1.safed (secures driver state.2),
        (driver.secureOutputs (driver.disengageStarter state.2).2).2) := rfl

theorem secureOutputs_fault (driver : ActuatorPort W) (state : Supervised W) :
    (secureOutputs driver state).2.1.fault =
      if secures driver state.2 then state.1.fault else .safingFailure := by
  unfold secureOutputs
  rw [safeDownstream_secures]
  cases secures driver state.2 <;> rfl

theorem observeClock_eq (driver : ActuatorPort W) (nowMs : UInt32) (state : Supervised W) :
    observeClock driver nowMs state =
      if state.1.regressing nowMs then (false, trip driver .clockRegression state)
      else (true, (state.1.observed nowMs, state.2)) := rfl

theorem resetFault_regressing (driver : ActuatorPort W) (nowMs : UInt32)
    (feedback : ActuatorFeedback) (state : Supervised W) (htime : state.1.regressing nowMs = true) :
    resetFault driver nowMs feedback state = (false, trip driver .clockRegression state) := by
  unfold resetFault
  rw [observeClock_eq, htime]
  rfl

def resetRefusal (driver : ActuatorPort W) (state : Supervised W) (feedback : ActuatorFeedback) :
    Option ActuatorSupervisorFault :=
  if state.1.config.isValid = false then some .invalidConfiguration
  else if secures driver state.2 = false then some .safingFailure
  else if state.1.config.requireFeedback = true ∧ feedback.available = false then
    some .feedbackUnavailable
  else if feedback.available = true ∧ (feedback.ignitionActive = true ∨
    feedback.starterActive = true) then some .feedbackMismatch
  else none

theorem resetFault_observed (driver : ActuatorPort W) (nowMs : UInt32)
    (feedback : ActuatorFeedback) (state : Supervised W)
    (htime : state.1.regressing nowMs = false) :
    (resetFault driver nowMs feedback state).1 = (resetRefusal driver state feedback).isNone ∧
      (resetFault driver nowMs feedback state).2.1.fault =
        (resetRefusal driver state feedback).getD .none := by
  unfold resetFault resetRefusal
  rw [observeClock_eq, htime]
  simp only [Bool.false_eq_true, ↓reduceIte, Bool.not_true]
  change (if !state.1.config.isValid then _ else _ : Bool × Supervised W).1 = _ ∧
    (if !state.1.config.isValid then _ else _ : Bool × Supervised W).2.1.fault = _
  cases state.1.config.isValid with
  | false => exact ⟨rfl, rfl⟩
  | true =>
    simp only [Bool.not_true, Bool.false_eq_true, ↓reduceIte]
    rw [safeDownstream_secures]
    cases secures driver state.2 with
    | false => exact ⟨rfl, rfl⟩
    | true =>
      have hconfig : ((state.1.observed nowMs).safed true).config = state.1.config := rfl
      simp only [Bool.not_true, Bool.true_eq_false, Bool.false_eq_true, ↓reduceIte, hconfig]
      cases state.1.config.requireFeedback <;> cases feedback.available <;>
        cases feedback.ignitionActive <;> cases feedback.starterActive <;> exact ⟨rfl, rfl⟩

theorem resetRefusal_overwrites (driver : ActuatorPort W) (nowMs : UInt32)
    (feedback : ActuatorFeedback) (state : Supervised W)
    (htime : state.1.regressing nowMs = false) :
    Overwrites driver state (.resetFault nowMs feedback) ↔
      ∃ fault, resetRefusal driver state feedback = some fault ∧ fault ≠ state.1.fault := by
  simp only [Overwrites, htime, true_and, resetRefusal]
  split
  · simp [eq_comm]
  · split
    · simp [eq_comm]
    · split
      · simp [eq_comm]
      · split
        · rename_i hactive
          rw [← and_assoc, and_iff_right hactive]
          simp [eq_comm]
        · rename_i hquiet
          simpa using fun havailable hactive => absurd ⟨havailable, hactive⟩ hquiet

/-- A latched fault survives a call, unless that is a successful reset, exactly when the call
does not overwrite it. -/
theorem fault_kept_iff (driver : ActuatorPort W) (request : Request) (state : Supervised W)
    (h : state.1.fault ≠ .none) :
    (¬ ResetSucceeded ((machine driver).stepOf state request) →
      (machine driver state request).2.1.fault = state.1.fault) ↔
    ¬ Overwrites driver state request := by
  cases request with
  | heartbeat nowMs =>
    exact iff_of_true (fun _ => heartbeat_fault driver nowMs state h) not_false
  | poll nowMs permitted feedback =>
    exact iff_of_true (fun _ => poll_fault driver nowMs permitted feedback state h) not_false
  | resetFault nowMs feedback =>
    have hsucceeded :
        ResetSucceeded ((machine driver).stepOf state (.resetFault nowMs feedback)) ↔
          (resetFault driver nowMs feedback state).1 = true := by
      simp [ResetSucceeded, machine, perform]
    rw [hsucceeded]
    change (_ → (resetFault driver nowMs feedback state).2.1.fault = _) ↔ _
    cases htime : state.1.regressing nowMs with
    | true =>
      rw [resetFault_regressing driver nowMs feedback state htime]
      simpa [Overwrites, htime] using trip_kept driver _ state h
    | false =>
      obtain ⟨hanswer, hfault⟩ := resetFault_observed driver nowMs feedback state htime
      rw [resetRefusal_overwrites driver nowMs feedback state htime, hanswer, hfault]
      cases resetRefusal driver state feedback with
      | none => simp
      | some fault => simp
  | actuator call =>
    by_cases hcall : call = .secureOutputs
    · subst hcall
      have hnot : ¬ ResetSucceeded ((machine driver).stepOf state (.actuator .secureOutputs)) := by
        simp [ResetSucceeded]
      have hfault : (machine driver state (.actuator .secureOutputs)).2.1.fault =
          if secures driver state.2 then state.1.fault else .safingFailure :=
        secureOutputs_fault driver state
      rw [imp_iff_right hnot, hfault]
      cases hsecured : secures driver state.2 with
      | true => simp [Overwrites, hsecured]
      | false => simp [Overwrites, hsecured, eq_comm]
    · have hkept := actuator_fault driver call state h hcall
      cases call with
      | secureOutputs => exact absurd rfl hcall
      | _ => exact iff_of_true (fun _ => hkept) not_false

/-- Over every run: a fault stays as it was until a reset succeeds, in every part of the run,
exactly when no refused reset and no failed `secureOutputs` writes another one over it. -/
theorem fault_memorised_iff (driver : ActuatorPort W) (config : ActuatorSafetyConfig) (world : W)
    (requests : List Request) :
    let start := construct driver config world
    (∀ earlier middle later, requests = earlier ++ middle ++ later →
      ((machine driver).final start earlier).1.fault ≠ .none →
      (∀ call ∈ (machine driver).transcript ((machine driver).final start earlier) middle,
        ¬ ResetSucceeded call) →
      ((machine driver).final start (earlier ++ middle)).1.fault =
        ((machine driver).final start earlier).1.fault) ↔
    ∀ call ∈ (machine driver).transcript start requests, call.before.1.fault ≠ .none →
      ¬ Overwrites driver call.before call.input := by
  intro start
  have hkept := (machine driver).kept_iff (fun state => state.1.fault) (· ≠ .none) ResetSucceeded
    start requests
  rw [hkept]
  apply forall_congr'
  intro call
  apply forall_congr'
  intro hmem
  apply forall_congr'
  intro hlatched
  have hstep := fault_kept_iff driver call.input call.before hlatched
  rw [(machine driver).eq_stepOf_of_mem hmem] at hlatched ⊢
  exact hstep

/-- The watchdog fault of a command without a heartbeat. A reset without feedback is refused
and forgets it. -/
theorem refused_reset_forgets_fault :
    let start := construct willingDriver {} ()
    let state := (machine willingDriver).final start [.actuator .enableIgnition]
    let reset := (machine willingDriver).stepOf state (.resetFault 0 {})
    state.1.fault = .watchdogExpired ∧ ¬ ResetSucceeded reset ∧
      reset.after.1.fault = .feedbackUnavailable := by
  intro start state reset
  refine ⟨by decide, ?_, by decide⟩
  rintro ⟨nowMs, feedback, -, houtput⟩
  have hrefused : reset.output = .accepted false := by decide
  rw [hrefused] at houtput
  cases houtput

end BmwRemote.Infrastructure.ActuatorSafetySupervisor
