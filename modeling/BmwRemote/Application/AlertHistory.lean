import BmwRemote.Application.TelemetryHistory
import Mathlib.Data.List.Chain

/-! The alerts of a condition over a run of the telemetry monitor. -/
namespace BmwRemote.Application.TelemetryMonitor

open BmwRemote.Domain BmwRemote.Lib

def alerts (condition : TelemetryCondition) (calls : List Call) : List TelemetryAlertType :=
  calls.flatMap fun call => condition.alertsIn call.output

/-- The condition was announced as active, and not as recovered since. -/
def Announced (condition : TelemetryCondition) (past : List Call) : Prop :=
  (alerts condition past).getLast? = some condition.activated

instance (condition : TelemetryCondition) (past : List Call) :
    Decidable (Announced condition past) :=
  inferInstanceAs (Decidable (_ = _))

/-- Activations and recoveries alternate, and a return to normal after an announced
activation is announced by one recovery. -/
structure Alternates (condition : TelemetryCondition) (calls : List Call) : Prop where
  first : ∀ alert ∈ (alerts condition calls).head?, alert = condition.activated
  strict : (alerts condition calls).IsChain (· ≠ ·)
  recovery : ∀ past call future, calls = past ++ call :: future →
    condition.stateIn call.output = .normal → Announced condition past →
    condition.alertsIn call.output = [condition.recovered]

variable {config : TelemetryMonitorConfig} {condition : TelemetryCondition} {past : List Call}
  {call : Call}

@[simp] theorem alerts_nil : alerts condition [] = [] := rfl

@[simp] theorem alerts_concat :
    alerts condition (past ++ [call]) =
      alerts condition past ++ condition.alertsIn call.output := by
  simp [alerts]

theorem alternates_nil : Alternates condition [] :=
  ⟨by simp, by simp, by simp⟩

theorem Alternates.init (h : Alternates condition (past ++ [call])) :
    Alternates condition past := by
  obtain ⟨hfirst, hstrict, hrecovery⟩ := h
  rw [forall_split_concat] at hrecovery
  rw [alerts_concat] at hfirst hstrict
  refine ⟨?_, (List.isChain_append.1 hstrict).1, hrecovery.1⟩
  intro alert halert
  apply hfirst alert
  rw [List.head?_append, Option.mem_def.1 halert]
  rfl

theorem alternates_silent (h : condition.alertsIn call.output = []) :
    Alternates condition (past ++ [call]) ↔ Alternates condition past ∧
      ¬ (condition.stateIn call.output = .normal ∧ Announced condition past) := by
  constructor
  · intro halternates
    refine ⟨halternates.init, ?_⟩
    rintro ⟨hnormal, hannounced⟩
    have hrecovered := halternates.recovery past call [] rfl hnormal hannounced
    rw [h] at hrecovered
    cases hrecovered
  · rintro ⟨⟨hfirst, hstrict, hrecovery⟩, hnot⟩
    constructor
    · simpa [h] using hfirst
    · simpa [h] using hstrict
    · rw [forall_split_concat]
      exact ⟨hrecovery, fun hnormal hannounced => absurd ⟨hnormal, hannounced⟩ hnot⟩

theorem alternates_activated (h : condition.alertsIn call.output = [condition.activated])
    (hactive : condition.stateIn call.output = .active) :
    Alternates condition (past ++ [call]) ↔ Alternates condition past ∧
      ¬ Announced condition past := by
  constructor
  · intro halternates
    refine ⟨halternates.init, ?_⟩
    intro hannounced
    have hstrict := halternates.strict
    rw [alerts_concat, h, List.isChain_append] at hstrict
    exact hstrict.2.2 _ hannounced _ rfl rfl
  · rintro ⟨⟨hfirst, hstrict, hrecovery⟩, hnot⟩
    constructor
    · rw [alerts_concat, h, List.head?_append]
      cases hhead : (alerts condition past).head? with
      | none => simp
      | some alert => simpa [hhead] using hfirst
    · rw [alerts_concat, h, List.isChain_append]
      refine ⟨hstrict, .singleton _, ?_⟩
      intro last hlast alert halert hsame
      cases halert
      rw [hsame] at hlast
      exact hnot hlast
    · rw [forall_split_concat]
      refine ⟨hrecovery, ?_⟩
      intro hnormal
      rw [hactive] at hnormal
      cases hnormal

theorem activated_ne_recovered (condition : TelemetryCondition) :
    condition.activated ≠ condition.recovered := by
  cases condition <;> decide

theorem alternates_recovered (h : condition.alertsIn call.output = [condition.recovered])
    (hannounced : Announced condition past) :
    Alternates condition (past ++ [call]) ↔ Alternates condition past := by
  constructor
  · exact Alternates.init
  · rintro ⟨hfirst, hstrict, hrecovery⟩
    constructor
    · rw [alerts_concat, h, List.head?_append]
      cases hhead : (alerts condition past).head? with
      | none =>
        rw [List.head?_eq_none_iff] at hhead
        rw [Announced, hhead] at hannounced
        cases hannounced
      | some alert => simpa [hhead] using hfirst
    · rw [alerts_concat, h, List.isChain_append]
      refine ⟨hstrict, .singleton _, ?_⟩
      intro last hlast alert halert
      cases halert
      obtain rfl : condition.activated = last :=
        Option.some.inj (hannounced.symm.trans hlast)
      exact activated_ne_recovered condition
    · rw [forall_split_concat]
      exact ⟨hrecovery, fun _ _ => h⟩

theorem announced_iff (condition : TelemetryCondition) (config : TelemetryMonitorConfig)
    (vehicles : List VehicleState)
    (h : Alternates condition (machine.transcript { config := config } vehicles)) :
    Announced condition (machine.transcript { config := config } vehicles) ↔
      Lost condition (machine.transcript { config := config } vehicles) ∨
        condition.previous (machine.final { config := config } vehicles) = .active := by
  induction vehicles using List.reverseRecOn with
  | nil =>
    have hinactive : condition.previous { config := config } ≠ .active := by
      cases condition <;> nofun
    simp [Announced, Lost, hinactive]
  | append_singleton vehicles vehicle ih =>
    rw [lost_step, machine.final_concat]
    rw [machine.transcript_concat] at h ⊢
    have hbefore := ih h.init
    rw [Announced, alerts_concat]
    change (_ ++ condition.alertsIn ((machine.final { config := config } vehicles).evaluate
        vehicle).1).getLast? = _ ↔
      _ ∨ condition.previous ((machine.final { config := config } vehicles).evaluate
        vehicle).2 = .active
    cases condition.evaluated (machine.final { config := config } vehicles) vehicle with
    | activated _ hafter _ halerts => simp [halerts, hafter]
    | kept hactive hafter _ halerts =>
      rw [halerts, List.append_nil]
      simp only [hafter, or_true, iff_true]
      exact hbefore.2 (.inr hactive)
    | recovered _ hafter hobserved halerts =>
      simp [halerts, hafter, hobserved, (activated_ne_recovered condition).symm]
    | normal _ hafter hobserved halerts =>
      have hsilent := (alternates_silent halerts).1 h
      rw [halerts, List.append_nil]
      simp only [hafter, hobserved, reduceCtorEq, false_and, or_self, iff_false]
      intro hannounced
      exact hsilent.2 ⟨(condition.stateIn_evaluate _ vehicle).trans hafter, hannounced⟩
    | hidden hactive _ hhidden halerts =>
      rw [halerts, List.append_nil, ← Announced, hbefore]
      simp only [hactive, or_false, iff_and_self]
      intro hopen
      exact hhidden (monitored_of_lost config vehicles hopen.symm)

/-- One more report keeps the alternation unless it finds the signals again after a loss. -/
theorem alternates_step (condition : TelemetryCondition) (config : TelemetryMonitorConfig)
    (vehicles : List VehicleState) (vehicle : VehicleState) :
    Alternates condition (machine.transcript { config := config } vehicles ++
        [machine.stepOf (machine.final { config := config } vehicles) vehicle]) ↔
      Alternates condition (machine.transcript { config := config } vehicles) ∧
        ¬ (Lost condition (machine.transcript { config := config } vehicles) ∧
          condition.observed vehicle = true) := by
  have hopen := announced_iff condition config vehicles
  have hlost := not_active_of_lost condition config vehicles
  have hstate := condition.stateIn_evaluate (machine.final { config := config } vehicles) vehicle
  cases condition.evaluated (machine.final { config := config } vehicles) vehicle with
  | activated hbefore hafter hobserved halerts =>
    rw [alternates_activated halerts (hstate.trans hafter)]
    apply and_congr_right
    intro halternates
    rw [hopen halternates]
    simp [hbefore, hobserved]
  | kept hbefore hafter _ halerts =>
    rw [alternates_silent halerts]
    apply and_congr_right
    intro _
    apply iff_of_true
    · rintro ⟨hnormal, -⟩
      have hboth := (hstate.trans hafter).symm.trans hnormal
      cases hboth
    · exact fun hboth => (hlost hboth.1).1 hbefore
  | recovered hbefore hafter _ halerts =>
    constructor
    · intro halternates
      exact ⟨halternates.init, fun hboth => (hlost hboth.1).1 hbefore⟩
    · rintro ⟨halternates, -⟩
      exact (alternates_recovered halerts ((hopen halternates).2 (.inr hbefore))).2 halternates
  | normal hbefore hafter hobserved halerts =>
    rw [alternates_silent halerts]
    apply and_congr_right
    intro halternates
    rw [hopen halternates]
    simp only [hbefore, or_false, hobserved, and_true, not_iff_not, and_iff_right_iff_imp]
    exact fun _ => hstate.trans hafter
  | hidden hactive hnormal hhidden halerts =>
    rw [alternates_silent halerts]
    apply and_congr_right
    intro _
    apply iff_of_true
    · exact fun hboth => hnormal (hstate.symm.trans hboth.1)
    · rintro ⟨hboth, hobserved⟩
      rw [hhidden (monitored_of_lost config vehicles (.inr hboth))] at hobserved
      cases hobserved

/-- Over every run and for each condition: the alerts alternate, and every return to normal
is announced, exactly when signals that were lost right after an active report never come
back. -/
theorem alerts_alternate_iff (config : TelemetryMonitorConfig) (condition : TelemetryCondition)
    (vehicles : List VehicleState) :
    Alternates condition (machine.transcript { config := config } vehicles) ↔
      ∀ past call future,
        machine.transcript { config := config } vehicles = past ++ call :: future →
        ¬ (Lost condition past ∧ condition.observed call.input = true) :=
  machine.history_iff (Alternates condition)
    (fun past call => ¬ (Lost condition past ∧ condition.observed call.input = true))
    alternates_nil (fun vehicles vehicle => alternates_step condition config vehicles vehicle)
    vehicles

def regenerating : VehicleState := { dpfRegenerationActive := ⟨true, .fresh⟩ }

def stopped : VehicleState := { dpfRegenerationActive := ⟨false, .fresh⟩ }

/-- One lost reading repeats the activation, or hides the recovery. -/
theorem lost_reading_breaks_alternation :
    let start : TelemetryMonitor := { config := simulatedTelemetryConfig }
    alerts .dpf (machine.transcript start [regenerating, {}, regenerating]) =
        [.dpfRegenerationStarted, .dpfRegenerationStarted] ∧
      ¬ Alternates .dpf (machine.transcript start [regenerating, {}, regenerating]) ∧
      (machine.transcript start [regenerating, {}, stopped]).map
        (fun call => call.output.dpfRegeneration) = [.active, .unavailable, .normal] ∧
      alerts .dpf (machine.transcript start [regenerating, {}, stopped]) =
        [.dpfRegenerationStarted] ∧
      ¬ Alternates .dpf (machine.transcript start [regenerating, {}, stopped]) := by
  intro start
  refine ⟨by decide, ?_, by decide, by decide, ?_⟩
  · intro halternates
    exact absurd halternates.strict (by decide)
  · intro halternates
    have hrecovered := halternates.recovery (machine.transcript start [regenerating, {}]) _ [] rfl
      (by decide) (by decide)
    exact absurd hrecovered (by decide)

end BmwRemote.Application.TelemetryMonitor
