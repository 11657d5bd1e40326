import BmwRemote.Application.TelemetryMonitor
import BmwRemote.Lib.Transcript

/-! Runs of the telemetry monitor, as one of its three conditions sees them. -/
namespace BmwRemote.Application

open BmwRemote.Domain BmwRemote.Lib

inductive TelemetryCondition where
  | coldEngine
  | dpf
  | transmission
  deriving DecidableEq, Repr

namespace TelemetryCondition

def activated : TelemetryCondition → TelemetryAlertType
  | .coldEngine => .coldEngineHighRpm
  | .dpf => .dpfRegenerationStarted
  | .transmission => .transmissionOverheat

def recovered : TelemetryCondition → TelemetryAlertType
  | .coldEngine => .coldEngineRecovered
  | .dpf => .dpfRegenerationStopped
  | .transmission => .transmissionTemperatureRecovered

def feature (condition : TelemetryCondition) (config : TelemetryMonitorConfig) :
    FeatureResolution :=
  resolveFeature config.requestedFeatures
    (match condition with
      | .coldEngine => .coldEngineGuard
      | .dpf => .dpfRegenerationIndicator
      | .transmission => .transmissionOverheatAlert) config.runtime

def stateIn (condition : TelemetryCondition) (report : TelemetryReport) : TelemetryConditionState :=
  match condition with
  | .coldEngine => report.coldEngineGuard
  | .dpf => report.dpfRegeneration
  | .transmission => report.transmissionOverheat

def previous (condition : TelemetryCondition) (monitor : TelemetryMonitor) :
    TelemetryConditionState :=
  match condition with
  | .coldEngine => monitor.previousColdEngine
  | .dpf => monitor.previousDpf
  | .transmission => monitor.previousTransmission

/-- The snapshot has the fresh signals that the condition is judged by. -/
def observed (condition : TelemetryCondition) (vehicle : VehicleState) : Bool :=
  match condition with
  | .coldEngine => vehicle.engineRpm.isFresh &&
      (vehicle.engineOilTemperatureC.isFresh || vehicle.coolantTemperatureC.isFresh)
  | .dpf => vehicle.dpfRegenerationActive.isFresh
  | .transmission => vehicle.transmissionOilTemperatureC.isFresh

def holds (condition : TelemetryCondition) (monitor : TelemetryMonitor) (vehicle : VehicleState) :
    Bool :=
  match condition with
  | .coldEngine =>
    ((vehicle.engineOilTemperatureC.isFresh &&
        decide (vehicle.engineOilTemperatureC.value < monitor.config.engineWarmTemperatureC)) ||
      (vehicle.coolantTemperatureC.isFresh &&
        decide (vehicle.coolantTemperatureC.value < monitor.config.engineWarmTemperatureC))) &&
      decide (vehicle.engineRpm.value > monitor.config.coldEngineMaximumRpm)
  | .dpf => vehicle.dpfRegenerationActive.value
  | .transmission =>
    decide (vehicle.transmissionOilTemperatureC.value ≥ monitor.overheatThreshold)

def alertsIn (condition : TelemetryCondition) (report : TelemetryReport) :
    List TelemetryAlertType :=
  report.alerts.toList.filter fun alert =>
    alert == condition.activated || alert == condition.recovered

def transition (condition : TelemetryCondition) (previous current : TelemetryConditionState) :
    List TelemetryAlertType :=
  if current = .active ∧ previous ≠ .active then [condition.activated]
  else if current = .normal ∧ previous = .active then [condition.recovered]
  else []

@[simp] theorem transition_active (condition : TelemetryCondition)
    {before : TelemetryConditionState} (h : before ≠ .active) :
    condition.transition before .active = [condition.activated] := by
  simp [transition, h]

@[simp] theorem transition_kept (condition : TelemetryCondition) :
    condition.transition .active .active = [] := by
  simp [transition]

@[simp] theorem transition_recovered (condition : TelemetryCondition) :
    condition.transition .active .normal = [condition.recovered] := by
  simp [transition]

theorem transition_of_ne (condition : TelemetryCondition)
    {before current : TelemetryConditionState} (hbefore : before ≠ .active)
    (hcurrent : current ≠ .active) : condition.transition before current = [] := by
  simp [transition, hbefore, hcurrent]

theorem transition_unobserved (condition : TelemetryCondition)
    {before current : TelemetryConditionState} (hactive : current ≠ .active)
    (hnormal : current ≠ .normal) : condition.transition before current = [] := by
  simp [transition, hactive, hnormal]

theorem length_transition (condition : TelemetryCondition)
    (before current : TelemetryConditionState) :
    (condition.transition before current).length ≤ 1 := by
  unfold transition
  split
  · simp
  · split <;> simp

theorem filter_transition (condition other : TelemetryCondition)
    (before current : TelemetryConditionState) :
    (other.transition before current).filter (fun alert =>
        alert == condition.activated || alert == condition.recovered) =
      if other = condition then condition.transition before current else [] := by
  unfold transition
  split
  · cases condition <;> cases other <;> rfl
  · split
    · cases condition <;> cases other <;> rfl
    · simp

theorem toList_appendTransitionAlerts (condition : TelemetryCondition)
    (before current : TelemetryConditionState) {alerts : TelemetryAlerts}
    (h : alerts.toList.length < TelemetryReport.maximumAlerts) :
    (TelemetryMonitor.appendTransitionAlerts before current condition.activated
        condition.recovered alerts).toList =
      alerts.toList ++ condition.transition before current := by
  unfold TelemetryMonitor.appendTransitionAlerts transition TelemetryAlerts.add
  rw [dif_pos h, dif_pos h]
  split
  · rfl
  · split <;> simp

variable {monitor : TelemetryMonitor} {vehicle : VehicleState}

theorem stateIn_evaluate (condition : TelemetryCondition) (monitor : TelemetryMonitor)
    (vehicle : VehicleState) :
    condition.stateIn (monitor.evaluate vehicle).1 =
      condition.previous (monitor.evaluate vehicle).2 := by
  cases condition <;> rfl

theorem toList_alerts_evaluate (monitor : TelemetryMonitor) (vehicle : VehicleState) :
    let after := (monitor.evaluate vehicle).2
    (monitor.evaluate vehicle).1.alerts.toList =
      coldEngine.transition (coldEngine.previous monitor) (coldEngine.previous after) ++
        dpf.transition (dpf.previous monitor) (dpf.previous after) ++
        transmission.transition (transmission.previous monitor) (transmission.previous after) := by
  intro after
  have hcold := coldEngine.length_transition (coldEngine.previous monitor)
    (coldEngine.previous after)
  have hdpf := dpf.length_transition (dpf.previous monitor) (dpf.previous after)
  have hempty : TelemetryAlerts.empty.toList.length < TelemetryReport.maximumAlerts := by decide
  have hmaximum : TelemetryReport.maximumAlerts = 6 := rfl
  have hfirst := coldEngine.toList_appendTransitionAlerts (coldEngine.previous monitor)
    (coldEngine.previous after) hempty
  rw [show TelemetryAlerts.empty.toList = [] from rfl, List.nil_append] at hfirst
  have hsecond := dpf.toList_appendTransitionAlerts (dpf.previous monitor) (dpf.previous after)
    (by rw [hfirst]; omega)
  rw [hfirst] at hsecond
  have hthird := transmission.toList_appendTransitionAlerts (transmission.previous monitor)
    (transmission.previous after) (by rw [hsecond, List.length_append]; omega)
  rw [hsecond] at hthird
  exact hthird

def changes (before after : TelemetryCondition → TelemetryConditionState) :
    List TelemetryAlertType :=
  coldEngine.transition (before coldEngine) (after coldEngine) ++
    dpf.transition (before dpf) (after dpf) ++
    transmission.transition (before transmission) (after transmission)

theorem changes_evaluate (monitor : TelemetryMonitor) (vehicle : VehicleState) :
    (monitor.evaluate vehicle).1.alerts.toList =
      changes (·.previous monitor) (·.stateIn (monitor.evaluate vehicle).1) :=
  toList_alerts_evaluate monitor vehicle

theorem filter_changes (condition : TelemetryCondition)
    (before after : TelemetryCondition → TelemetryConditionState) :
    (changes before after).filter (fun alert =>
        alert == condition.activated || alert == condition.recovered) =
      condition.transition (before condition) (after condition) := by
  rw [changes, List.filter_append, List.filter_append, filter_transition, filter_transition,
    filter_transition]
  cases condition <;> simp

theorem alertsIn_evaluate (condition : TelemetryCondition) (monitor : TelemetryMonitor)
    (vehicle : VehicleState) :
    condition.alertsIn (monitor.evaluate vehicle).1 =
      condition.transition (condition.previous monitor)
        (condition.previous (monitor.evaluate vehicle).2) := by
  rw [alertsIn, changes_evaluate, filter_changes]
  rfl

theorem changes_eq_iff {before other after last : TelemetryCondition → TelemetryConditionState} :
    changes before after = changes other last ↔ ∀ condition : TelemetryCondition,
      condition.transition (before condition) (after condition) =
        condition.transition (other condition) (last condition) := by
  constructor
  · intro heq condition
    rw [← filter_changes, heq, filter_changes]
  · intro hall
    rw [changes, changes, hall, hall, hall]

theorem transition_self (condition : TelemetryCondition) (state : TelemetryConditionState) :
    condition.transition state state = [] := by
  cases state <;> rfl

theorem changes_self (states : TelemetryCondition → TelemetryConditionState) :
    changes states states = [] := by
  rw [changes, transition_self, transition_self, transition_self]
  rfl

theorem transition_disabled_iff (condition : TelemetryCondition)
    (before after : TelemetryConditionState) :
    condition.transition .disabled after = condition.transition before after ↔
      (before = .active → after ≠ .active ∧ after ≠ .normal) := by
  cases before <;> cases after <;> simp [transition]

theorem previous_evaluate (condition : TelemetryCondition) (monitor : TelemetryMonitor)
    (vehicle : VehicleState) :
    condition.previous (monitor.evaluate vehicle).2 =
      if monitor.monitored (condition.feature monitor.config) = false then
        TelemetryMonitor.inactive (condition.feature monitor.config)
      else if condition.observed vehicle = false then .unavailable
      else TelemetryMonitor.activeIf (condition.holds monitor vehicle) := by
  cases condition with
  | coldEngine =>
    change monitor.evaluateColdEngine vehicle _ = _
    unfold TelemetryMonitor.evaluateColdEngine observed
    cases vehicle.engineRpm.isFresh
    · simp [feature]
    · simp [feature, holds]
  | dpf =>
    change monitor.evaluateDpf vehicle _ = _
    simp only [TelemetryMonitor.evaluateDpf, Bool.not_eq_true']
    rfl
  | transmission =>
    change monitor.evaluateTransmission vehicle _ = _
    simp [TelemetryMonitor.evaluateTransmission, observed, feature, holds]

theorem inactive_ne (resolution : FeatureResolution) :
    TelemetryMonitor.inactive resolution ≠ .active ∧
      TelemetryMonitor.inactive resolution ≠ .normal := by
  unfold TelemetryMonitor.inactive
  split <;> decide

theorem previous_of_unobserved (condition : TelemetryCondition) (monitor : TelemetryMonitor)
    (h : condition.observed vehicle = false) :
    condition.previous (monitor.evaluate vehicle).2 ≠ .active ∧
      condition.previous (monitor.evaluate vehicle).2 ≠ .normal := by
  rw [previous_evaluate, if_pos h]
  split
  · exact inactive_ne _
  · decide

theorem previous_of_observed (condition : TelemetryCondition)
    (hmonitored : monitor.monitored (condition.feature monitor.config) = true)
    (h : condition.observed vehicle = true) :
    condition.previous (monitor.evaluate vehicle).2 = .active ∨
      condition.previous (monitor.evaluate vehicle).2 = .normal := by
  rw [previous_evaluate, hmonitored, h]
  cases condition.holds monitor vehicle
  · exact .inr rfl
  · exact .inl rfl

theorem monitored_of (condition : TelemetryCondition)
    (h : condition.previous (monitor.evaluate vehicle).2 = .active ∨
      condition.previous (monitor.evaluate vehicle).2 = .normal) :
    monitor.monitored (condition.feature monitor.config) = true := by
  cases hmonitored : monitor.monitored (condition.feature monitor.config) with
  | true => rfl
  | false =>
    rw [previous_evaluate, if_pos hmonitored] at h
    exact absurd h (not_or.2 (inactive_ne _))

theorem observed_of (condition : TelemetryCondition)
    (h : condition.previous (monitor.evaluate vehicle).2 = .active ∨
      condition.previous (monitor.evaluate vehicle).2 = .normal) :
    condition.observed vehicle = true := by
  cases hobserved : condition.observed vehicle with
  | true => rfl
  | false =>
    obtain ⟨hactive, hnormal⟩ := condition.previous_of_unobserved monitor hobserved
    exact absurd h (not_or.2 ⟨hactive, hnormal⟩)

/-- Everything one evaluation can do to the condition. -/
inductive Evaluated (condition : TelemetryCondition) (monitor : TelemetryMonitor)
    (vehicle : VehicleState) : Prop
  | activated (hbefore : condition.previous monitor ≠ .active)
      (hafter : condition.previous (monitor.evaluate vehicle).2 = .active)
      (hobserved : condition.observed vehicle = true)
      (halerts : condition.alertsIn (monitor.evaluate vehicle).1 = [condition.activated])
  | kept (hbefore : condition.previous monitor = .active)
      (hafter : condition.previous (monitor.evaluate vehicle).2 = .active)
      (hobserved : condition.observed vehicle = true)
      (halerts : condition.alertsIn (monitor.evaluate vehicle).1 = [])
  | recovered (hbefore : condition.previous monitor = .active)
      (hafter : condition.previous (monitor.evaluate vehicle).2 = .normal)
      (hobserved : condition.observed vehicle = true)
      (halerts : condition.alertsIn (monitor.evaluate vehicle).1 = [condition.recovered])
  | normal (hbefore : condition.previous monitor ≠ .active)
      (hafter : condition.previous (monitor.evaluate vehicle).2 = .normal)
      (hobserved : condition.observed vehicle = true)
      (halerts : condition.alertsIn (monitor.evaluate vehicle).1 = [])
  | hidden (hactive : condition.previous (monitor.evaluate vehicle).2 ≠ .active)
      (hnormal : condition.previous (monitor.evaluate vehicle).2 ≠ .normal)
      (hhidden : monitor.monitored (condition.feature monitor.config) = true →
        condition.observed vehicle = false)
      (halerts : condition.alertsIn (monitor.evaluate vehicle).1 = [])

theorem evaluated (condition : TelemetryCondition) (monitor : TelemetryMonitor)
    (vehicle : VehicleState) : condition.Evaluated monitor vehicle := by
  have halerts := condition.alertsIn_evaluate monitor vehicle
  by_cases hbefore : condition.previous monitor = .active
  · by_cases hactive : condition.previous (monitor.evaluate vehicle).2 = .active
    · rw [hbefore, hactive, transition_kept] at halerts
      exact .kept hbefore hactive (condition.observed_of (.inl hactive)) halerts
    · by_cases hnormal : condition.previous (monitor.evaluate vehicle).2 = .normal
      · rw [hbefore, hnormal, transition_recovered] at halerts
        exact .recovered hbefore hnormal (condition.observed_of (.inr hnormal)) halerts
      · rw [transition_unobserved condition hactive hnormal] at halerts
        refine .hidden hactive hnormal ?_ halerts
        intro hmonitored
        apply Bool.eq_false_iff.2
        intro hobserved
        exact not_or.2 ⟨hactive, hnormal⟩ (condition.previous_of_observed hmonitored hobserved)
  · by_cases hactive : condition.previous (monitor.evaluate vehicle).2 = .active
    · rw [hactive, transition_active condition hbefore] at halerts
      exact .activated hbefore hactive (condition.observed_of (.inl hactive)) halerts
    · rw [transition_of_ne condition hbefore hactive] at halerts
      by_cases hnormal : condition.previous (monitor.evaluate vehicle).2 = .normal
      · exact .normal hbefore hnormal (condition.observed_of (.inr hnormal)) halerts
      · refine .hidden hactive hnormal ?_ halerts
        intro hmonitored
        apply Bool.eq_false_iff.2
        intro hobserved
        exact not_or.2 ⟨hactive, hnormal⟩ (condition.previous_of_observed hmonitored hobserved)

end TelemetryCondition

namespace TelemetryMonitor

def machine : Machine TelemetryMonitor VehicleState TelemetryReport :=
  fun monitor vehicle => monitor.evaluate vehicle

abbrev Call := Step TelemetryMonitor VehicleState TelemetryReport

/-- The signals were lost right after a report that the condition is active, and have not
come back. -/
def Lost (condition : TelemetryCondition) (past : List Call) : Prop :=
  ∃ earlier announced lost, past = earlier ++ announced :: lost ∧
    condition.previous announced.after = .active ∧ lost ≠ [] ∧
    ∀ call ∈ lost, condition.observed call.input = false

variable {config : TelemetryMonitorConfig} {condition : TelemetryCondition}

theorem lost_concat {past : List Call} {call : Call} :
    Lost condition (past ++ [call]) ↔ condition.observed call.input = false ∧
      (Lost condition past ∨ ∃ announced ∈ past.getLast?,
        condition.previous announced.after = .active) := by
  constructor
  · rintro ⟨earlier, announced, lost, hsplit, hactive, hlost, hunobserved⟩
    rcases concat_eq_append_cons hsplit with ⟨-, hnone⟩ | ⟨between, hbetween, hpast⟩
    · exact absurd hnone hlost
    · rw [hbetween, List.forall_mem_append, List.forall_mem_singleton] at hunobserved
      refine ⟨hunobserved.2, ?_⟩
      cases between with
      | nil => exact .inr ⟨announced, by simp [hpast], hactive⟩
      | cons first rest =>
        exact .inl ⟨earlier, announced, first :: rest, hpast, hactive, by simp, hunobserved.1⟩
  · rintro ⟨hcall, ⟨earlier, announced, lost, rfl, hactive, -, hunobserved⟩ | hlast⟩
    · refine ⟨earlier, announced, lost ++ [call], by simp, hactive, by simp, ?_⟩
      simpa [or_imp, forall_and] using ⟨hunobserved, hcall⟩
    · obtain ⟨announced, hmem, hactive⟩ := hlast
      obtain ⟨earlier, rfl⟩ := List.getLast?_eq_some_iff.1 hmem
      exact ⟨earlier, announced, [call], by simp, hactive, by simp, by simpa using hcall⟩

theorem config_final (config : TelemetryMonitorConfig) (vehicles : List VehicleState) :
    (machine.final { config := config } vehicles).config = config :=
  machine.invariant_induction (fun monitor => monitor.config = config) rfl
    (fun _ h _ => h) vehicles

theorem previous_final (config : TelemetryMonitorConfig) (condition : TelemetryCondition)
    (vehicles : List VehicleState) :
    condition.previous (machine.final { config := config } vehicles) = .active ↔
      ∃ announced ∈ (machine.transcript { config := config } vehicles).getLast?,
        condition.previous announced.after = .active := by
  cases List.eq_nil_or_concat vehicles with
  | inl hnone =>
    rw [hnone]
    cases condition <;> simp [TelemetryCondition.previous]
  | inr hmore =>
    obtain ⟨earlier, last, rfl⟩ := hmore
    rw [List.concat_eq_append, machine.final_concat, machine.transcript_concat]
    simp

theorem lost_step (config : TelemetryMonitorConfig) (condition : TelemetryCondition)
    (vehicles : List VehicleState) (vehicle : VehicleState) :
    Lost condition (machine.transcript { config := config } (vehicles ++ [vehicle])) ↔
      condition.observed vehicle = false ∧
        (Lost condition (machine.transcript { config := config } vehicles) ∨
          condition.previous (machine.final { config := config } vehicles) = .active) := by
  rw [machine.transcript_concat, lost_concat, previous_final]
  rfl

theorem not_active_of_lost (condition : TelemetryCondition) (config : TelemetryMonitorConfig)
    (vehicles : List VehicleState)
    (h : Lost condition (machine.transcript { config := config } vehicles)) :
    condition.previous (machine.final { config := config } vehicles) ≠ .active ∧
      condition.previous (machine.final { config := config } vehicles) ≠ .normal := by
  cases List.eq_nil_or_concat vehicles with
  | inl hnone =>
    obtain ⟨earlier, announced, lost, hsplit, -⟩ := h
    simp [hnone] at hsplit
  | inr hmore =>
    obtain ⟨earlier, last, rfl⟩ := hmore
    rw [List.concat_eq_append] at h ⊢
    rw [machine.final_concat]
    exact condition.previous_of_unobserved _ ((lost_step config condition earlier last).1 h).1

theorem monitored_of_lost (config : TelemetryMonitorConfig) (vehicles : List VehicleState)
    (h : condition.previous (machine.final { config := config } vehicles) = .active ∨
      Lost condition (machine.transcript { config := config } vehicles)) :
    let monitor := machine.final { config := config } vehicles
    monitor.monitored (condition.feature monitor.config) = true := by
  intro monitor
  have hconfig : monitor.config = config := config_final config vehicles
  unfold monitored
  rw [hconfig]
  induction vehicles using List.reverseRecOn with
  | nil =>
    rcases h with hactive | ⟨earlier, announced, lost, hsplit, -⟩
    · cases condition <;> cases hactive
    · simp at hsplit
  | append_singleton vehicles vehicle ih =>
    rcases h with hactive | hlost
    · rw [machine.final_concat] at hactive
      have hmonitored := condition.monitored_of (.inl hactive)
      unfold monitored at hmonitored
      rwa [config_final] at hmonitored
    · exact ih ((lost_step config condition vehicles vehicle).1 hlost).2.symm
        (config_final config vehicles)

def simulatedTelemetryConfig : TelemetryMonitorConfig where
  requestedFeatures := ⟨7⟩
  runtime :=
    { target := .simulation, implementedFeatures := 7,
      availableCapabilities := FeatureCapability.vehicleStateRead, vehicleSignalsQualified := true }

end TelemetryMonitor

end BmwRemote.Application
