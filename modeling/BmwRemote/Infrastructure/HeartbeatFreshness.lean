import BmwRemote.Infrastructure.SupervisorHistory
import BmwRemote.Infrastructure.SupervisorTime
import Mathlib.Algebra.Group.Nat.Defs

/-! How old the heartbeat is, in true time, when the supervisor energises an output. Polls
go on moving the clock while the outputs are off and judge no heartbeat there, so after a
whole range of the clock an old heartbeat has a recent stamp. -/
namespace BmwRemote.Infrastructure.ActuatorSafetySupervisor

open BmwRemote.Lib

universe u

variable {W : Type u}

theorem canEnergize_unenergised (driver : ActuatorPort W) (state : Supervised (DriverLog W))
    (hsound : state.1.Sound) :
    state.1.Energizable ∨ (canEnergize driver.traced state).1 = false ∧
      Unenergised state.2 (canEnergize driver.traced state).2.2 := by
  rcases canEnergize_cases driver.traced state hsound with ⟨-, henergizable⟩ | ⟨hrefused, -⟩
  · exact .inl henergizable
  · exact .inr ⟨hrefused, unenergised_canEnergize driver state⟩

theorem perform_unenergised (driver : ActuatorPort W) (request : Request)
    (state : Supervised (DriverLog W)) (hsound : state.1.Sound) :
    state.1.Energizable ∨ Unenergised state.2 (perform driver.traced request state).2.2 := by
  have hguard := canEnergize_unenergised driver state hsound
  cases request with
  | heartbeat nowMs => exact .inr (unenergised_heartbeat driver nowMs state)
  | poll nowMs permitted feedback =>
    exact .inr (unenergised_poll driver nowMs permitted feedback state)
  | resetFault nowMs feedback => exact .inr (unenergised_resetFault driver nowMs feedback state)
  | actuator call =>
    cases call with
    | enableIgnition =>
      apply hguard.imp_right
      rintro ⟨hrefused, hlog⟩
      change Unenergised state.2 (enableIgnition driver.traced state).2.2
      simpa [enableIgnition, hrefused] using hlog
    | engageStarter =>
      apply hguard.imp_right
      rintro ⟨hrefused, hlog⟩
      change Unenergised state.2 (engageStarter driver.traced state).2.2
      simpa [engageStarter, hrefused] using hlog
    | releaseRemoteControl =>
      apply hguard.imp_right
      rintro ⟨hrefused, hlog⟩
      change Unenergised state.2 (releaseRemoteControl driver.traced state).2.2
      simpa [releaseRemoteControl, hrefused] using hlog
    | disengageStarter => exact .inr (unenergised_disengageStarter driver state)
    | secureOutputs => exact .inr (unenergised_secureOutputs driver state)

/-- The calls that the supervisor makes on its driver for a request. -/
def forwarded (driver : ActuatorPort W) (state : TimedSupervised (DriverLog W))
    (request : TimedRequest) : List (ActuatorCall × Bool) :=
  (timedMachine driver.traced state request).2.1.2.2.drop state.1.2.2.length

theorem energizable_of_forwarded {driver : ActuatorPort W} {state : TimedSupervised (DriverLog W)}
    {request : TimedRequest} {call : ActuatorCall} {answer : Bool} (hsound : state.1.1.Sound)
    (hforwarded : (call, answer) ∈ forwarded driver state request) (hcall : call ∈ energising) :
    state.1.1.Energizable := by
  rcases perform_unenergised driver request.truncated state.1 hsound with henergizable | hlog
  · exact henergizable
  · obtain ⟨calls, hcalls, hnone⟩ := hlog
    have hlogged : (timedMachine driver.traced state request).2.1.2.2 =
        state.1.2.2 ++ calls := hcalls
    rw [forwarded, hlogged, List.drop_left] at hforwarded
    exact absurd hcall (hnone _ hforwarded)

/-- A recent stamp belongs to a recent heartbeat exactly when that is less than a whole
range of the clock old. -/
theorem recent_iff {observedAt beatenAt : Nat} {timeoutMs : UInt32} (hle : beatenAt ≤ observedAt)
    (hstamp : UInt32.ofNat observedAt - UInt32.ofNat beatenAt ≤ timeoutMs) :
    observedAt ≤ beatenAt + timeoutMs.toNat ↔ observedAt < beatenAt + UInt32.size := by
  rw [UInt32.le_iff_toNat_le, toNat_ofNat_sub hle] at hstamp
  have htimeout := timeoutMs.toNat_lt
  simp only [UInt32.size] at hstamp ⊢
  omega

/-- Over every run whose times never go back: a call that energises is forwarded after an
accepted heartbeat, which is no older in true time than the watchdog allows exactly when it
is less than 2^32 ms old. -/
theorem fresh_heartbeat_iff (driver : ActuatorPort W) (config : ActuatorSafetyConfig)
    (buildMs : Nat) (world : W) (requests : List TimedRequest) (hordered : Ordered requests)
    (request : TimedRequest) (call : ActuatorCall) (answer : Bool) (hcall : call ∈ energising) :
    let start := builtAt driver.traced config buildMs (world, [])
    let state := (timedMachine driver.traced).final start requests
    (call, answer) ∈ forwarded driver state request →
      ((∃ beatenAt, state.2.heartbeatAt = some beatenAt ∧ beatenAt ≤ state.2.observedAt ∧
          state.2.observedAt ≤ beatenAt + config.watchdogTimeoutMs.toNat) ↔
        ∀ beatenAt, state.2.heartbeatAt = some beatenAt →
          state.2.observedAt < beatenAt + UInt32.size) := by
  intro start state hforwarded
  have hin := run_inTime driver.traced config buildMs (world, []) hordered
  have henergizable := energizable_of_forwarded hin.sound hforwarded hcall
  have hdated := hin.dated henergizable.fault
  obtain ⟨beatenAt, hat, hstamp, hle⟩ := hdated.heartbeat henergizable.heartbeat
  have hwatchdog := henergizable.watchdog
  rw [hdated.observed, hstamp, hin.config_eq] at hwatchdog
  have hiff := recent_iff hle hwatchdog
  constructor
  · rintro ⟨other, hother, -, hrecent⟩ last hlast
    obtain rfl : beatenAt = last := Option.some.inj (hat.symm.trans hlast)
    obtain rfl : beatenAt = other := Option.some.inj (hat.symm.trans hother)
    exact hiff.1 hrecent
  · intro hnear
    exact ⟨beatenAt, hat, hle, hiff.2 (hnear beatenAt hat)⟩

/-- One heartbeat, then polls for a whole range of the clock. -/
def polledOnly : List TimedRequest :=
  [.heartbeat 0, .poll 2147483647 true {}, .poll 4294967294 true {}, .poll 4294967296 true {}]

/-- The heartbeat is 2^32 ms old, and the ignition is enabled. -/
theorem old_heartbeat_energises :
    let start := builtAt willingDriver.traced {} 0 ((), [])
    let state := (timedMachine willingDriver.traced).final start polledOnly
    Ordered polledOnly ∧ Near TimedRequest.timeMs polledOnly ∧
      (.enableIgnition, true) ∈ forwarded willingDriver state (.actuator .enableIgnition) ∧
      state.2.heartbeatAt = some 0 ∧ state.2.observedAt = 4294967296 ∧
      ¬ ∃ beatenAt, state.2.heartbeatAt = some beatenAt ∧ beatenAt ≤ state.2.observedAt ∧
        state.2.observedAt ≤ beatenAt + 500 := by
  intro start state
  have hbeaten : state.2.heartbeatAt = some 0 := by decide
  have hobserved : state.2.observedAt = 4294967296 := by decide
  refine ⟨by decide, by decide, by decide, hbeaten, hobserved, ?_⟩
  rintro ⟨beatenAt, hat, -, hrecent⟩
  rw [hbeaten, Option.some.injEq] at hat
  omega

theorem fresh_heartbeat_iff_polledOnly :
    let start := builtAt willingDriver.traced {} 0 ((), [])
    let state := (timedMachine willingDriver.traced).final start [.heartbeat 0, .poll 0 true {}]
    ∃ beatenAt, state.2.heartbeatAt = some beatenAt ∧ beatenAt ≤ state.2.observedAt ∧
      state.2.observedAt ≤ beatenAt + 500 :=
  (fresh_heartbeat_iff willingDriver {} 0 () [.heartbeat 0, .poll 0 true {}] (by decide)
    (.actuator .enableIgnition) .enableIgnition true (by decide) (by decide)).2 (by
      intro beatenAt _
      exact Nat.lt_add_left beatenAt (by decide))

end BmwRemote.Infrastructure.ActuatorSafetySupervisor
