import BmwRemote.Application.TelemetryHistory

/-! The hysteresis of the transmission overheat, over runs in which the temperature may be
lost. -/
namespace BmwRemote.Application.TelemetryMonitor

open BmwRemote.Domain BmwRemote.Lib

def recoveryTemperature (config : TelemetryMonitorConfig) : Int :=
  config.transmissionOverheatTemperatureC.toInt - config.temperatureHysteresisC.toNat

/-- A fresh temperature below the recovery temperature. -/
def Cooled (config : TelemetryMonitorConfig) (vehicle : VehicleState) : Prop :=
  vehicle.transmissionOilTemperatureC.isFresh = true ∧
    vehicle.transmissionOilTemperatureC.value.toInt < recoveryTemperature config

/-- A fresh temperature between the recovery temperature and the threshold. -/
def InBand (config : TelemetryMonitorConfig) (vehicle : VehicleState) : Prop :=
  vehicle.transmissionOilTemperatureC.isFresh = true ∧
    recoveryTemperature config ≤ vehicle.transmissionOilTemperatureC.value.toInt ∧
    vehicle.transmissionOilTemperatureC.value < config.transmissionOverheatTemperatureC

/-- After an active report, and without a cooled snapshot since. -/
def Overheated (config : TelemetryMonitorConfig) (past : List Call) : Prop :=
  ∃ earlier announced since, past = earlier ++ announced :: since ∧
    announced.output.transmissionOverheat = .active ∧
    ∀ call ∈ since, ¬ Cooled config call.input

def HoldsHysteresis (config : TelemetryMonitorConfig) (calls : List Call) : Prop :=
  ∀ past call future, calls = past ++ call :: future →
    call.output.transmissionOverheat = .normal → Overheated config past →
    Cooled config call.input

variable {config : TelemetryMonitorConfig} {monitor : TelemetryMonitor} {vehicle : VehicleState}

theorem toInt_recovery (hvalid : validTelemetryMonitorConfig config = true) :
    (config.transmissionOverheatTemperatureC -
      config.temperatureHysteresisC.toUInt16.toInt16).toInt = recoveryTemperature config := by
  simp only [validTelemetryMonitorConfig, Bool.and_eq_true, decide_eq_true_eq] at hvalid
  obtain ⟨⟨⟨⟨-, hlower⟩, hupper⟩, -⟩, hhysteresis⟩ := hvalid
  have hlow := Int16.le_iff_toInt_le.1 hlower
  have hhigh := Int16.le_iff_toInt_le.1 hupper
  have hbound := UInt8.le_iff_toNat_le.1 hhysteresis
  have hminimum : TelemetryMonitorLimits.minimumTransmissionOverheatTemperatureC.toInt = 80 := rfl
  have hmaximum : TelemetryMonitorLimits.maximumTransmissionOverheatTemperatureC.toInt = 150 := rfl
  have htwenty : TelemetryMonitorLimits.maximumTemperatureHysteresisC.toNat = 20 := rfl
  have hsame : config.temperatureHysteresisC.toUInt16.toNat = config.temperatureHysteresisC.toNat :=
    UInt8.toNat_toUInt16 config.temperatureHysteresisC
  have hwidened : config.temperatureHysteresisC.toUInt16.toInt16.toInt =
      config.temperatureHysteresisC.toUInt16.toNat :=
    toInt_toInt16 (by omega)
  rw [Int16.toInt_sub, hwidened, hsame, recoveryTemperature]
  apply Int.bmod_eq_of_le
  · omega
  · omega

theorem active_iff
    (h : TelemetryCondition.transmission.previous (monitor.evaluate vehicle).2 = .active ∨
      TelemetryCondition.transmission.previous (monitor.evaluate vehicle).2 = .normal) :
    validTelemetryMonitorConfig monitor.config = true ∧
      (TelemetryCondition.transmission.previous (monitor.evaluate vehicle).2 = .active ↔
        vehicle.transmissionOilTemperatureC.value ≥ monitor.overheatThreshold) := by
  have hmonitored := TelemetryCondition.transmission.monitored_of h
  have hobserved := TelemetryCondition.transmission.observed_of h
  constructor
  · unfold monitored at hmonitored
    rw [Bool.and_eq_true] at hmonitored
    exact hmonitored.1
  · rw [TelemetryCondition.previous_evaluate, hmonitored, hobserved]
    simp only [TelemetryCondition.holds, Bool.true_eq_false, ↓reduceIte, activeIf]
    by_cases habove : vehicle.transmissionOilTemperatureC.value ≥ monitor.overheatThreshold
    · simp [habove]
    · simp [habove]

theorem cooled_of_recovered
    (hbefore : TelemetryCondition.transmission.previous monitor = .active)
    (hafter : TelemetryCondition.transmission.previous (monitor.evaluate vehicle).2 = .normal) :
    Cooled monitor.config vehicle := by
  obtain ⟨hvalid, hactive⟩ := active_iff (.inr hafter)
  refine ⟨TelemetryCondition.transmission.observed_of (.inr hafter), ?_⟩
  have hthreshold : monitor.overheatThreshold =
      monitor.config.transmissionOverheatTemperatureC -
        monitor.config.temperatureHysteresisC.toUInt16.toInt16 := if_pos hbefore
  rw [hafter, hthreshold, ge_iff_le, Int16.le_iff_toInt_le, toInt_recovery hvalid] at hactive
  simpa using hactive

theorem active_iff_threshold
    (hbefore : TelemetryCondition.transmission.previous monitor ≠ .active)
    (h : TelemetryCondition.transmission.previous (monitor.evaluate vehicle).2 = .active ∨
      TelemetryCondition.transmission.previous (monitor.evaluate vehicle).2 = .normal) :
    TelemetryCondition.transmission.previous (monitor.evaluate vehicle).2 = .active ↔
      ¬ vehicle.transmissionOilTemperatureC.value <
        monitor.config.transmissionOverheatTemperatureC := by
  have hthreshold : monitor.overheatThreshold =
      monitor.config.transmissionOverheatTemperatureC := if_neg hbefore
  rw [(active_iff h).2, Int16.not_lt, hthreshold]

theorem overheated_concat {past : List Call} {call : Call} :
    Overheated config (past ++ [call]) ↔ call.output.transmissionOverheat = .active ∨
      (Overheated config past ∧ ¬ Cooled config call.input) := by
  constructor
  · rintro ⟨earlier, announced, since, hsplit, hactive, hsince⟩
    rcases concat_eq_append_cons hsplit with ⟨hlast, -⟩ | ⟨between, hbetween, hpast⟩
    · exact .inl (hlast ▸ hactive)
    · rw [hbetween, List.forall_mem_append, List.forall_mem_singleton] at hsince
      exact .inr ⟨⟨earlier, announced, between, hpast, hactive, hsince.1⟩, hsince.2⟩
  · rintro (hactive | ⟨⟨earlier, announced, since, rfl, hactive, hsince⟩, hcall⟩)
    · exact ⟨past, call, [], rfl, hactive, by simp⟩
    · refine ⟨earlier, announced, since ++ [call], by simp, hactive, ?_⟩
      simpa [or_imp, forall_and] using ⟨hsince, hcall⟩

theorem overheated_iff (config : TelemetryMonitorConfig) (vehicles : List VehicleState)
    (h : HoldsHysteresis config (machine.transcript { config := config } vehicles)) :
    Overheated config (machine.transcript { config := config } vehicles) ↔
      Lost .transmission (machine.transcript { config := config } vehicles) ∨
        TelemetryCondition.transmission.previous
          (machine.final { config := config } vehicles) = .active := by
  induction vehicles using List.reverseRecOn with
  | nil =>
    simp [Overheated, Lost, TelemetryCondition.previous]
  | append_singleton vehicles vehicle ih =>
    rw [lost_step, machine.final_concat]
    rw [machine.transcript_concat] at h ⊢
    rw [HoldsHysteresis, forall_split_concat] at h
    have hbefore := ih h.1
    have hhere := h.2
    rw [overheated_concat]
    change TelemetryCondition.transmission.previous
        ((machine.final { config := config } vehicles).evaluate vehicle).2 = .active ∨ _ ↔
      _ ∨ TelemetryCondition.transmission.previous
        ((machine.final { config := config } vehicles).evaluate vehicle).2 = .active
    cases TelemetryCondition.transmission.evaluated
        (machine.final { config := config } vehicles) vehicle with
    | activated _ hafter => simp [hafter]
    | kept _ hafter => simp [hafter]
    | recovered _ hafter hobserved =>
      simp only [hafter, hobserved, reduceCtorEq, false_and, or_self, false_or, iff_false, not_and,
        not_not]
      exact hhere hafter
    | normal _ hafter hobserved =>
      simp only [hafter, hobserved, reduceCtorEq, false_and, or_self, false_or, iff_false, not_and,
        not_not]
      exact hhere hafter
    | hidden hactive _ hhidden =>
      simp only [hactive, false_or, or_false, hbefore]
      constructor
      · rintro ⟨hopen, -⟩
        exact ⟨hhidden (monitored_of_lost config vehicles hopen.symm), hopen⟩
      · rintro ⟨hunobserved, hopen⟩
        refine ⟨hopen, ?_⟩
        rintro ⟨hfresh, -⟩
        exact Bool.false_ne_true (hunobserved.symm.trans hfresh)

/-- One more report keeps the hysteresis unless it finds the temperature in the band after a
loss. -/
theorem holdsHysteresis_step (config : TelemetryMonitorConfig) (vehicles : List VehicleState)
    (vehicle : VehicleState) :
    HoldsHysteresis config (machine.transcript { config := config } vehicles ++
        [machine.stepOf (machine.final { config := config } vehicles) vehicle]) ↔
      HoldsHysteresis config (machine.transcript { config := config } vehicles) ∧
        ¬ (Lost .transmission (machine.transcript { config := config } vehicles) ∧
          InBand config vehicle) := by
  rw [HoldsHysteresis, forall_split_concat]
  apply and_congr_right
  intro hholds
  rw [overheated_iff config vehicles hholds]
  have hlost := not_active_of_lost .transmission config vehicles
  have hconfig := config_final config vehicles
  change (TelemetryCondition.transmission.previous
      ((machine.final { config := config } vehicles).evaluate vehicle).2 = .normal → _ →
    Cooled config vehicle) ↔ _
  cases TelemetryCondition.transmission.evaluated
      (machine.final { config := config } vehicles) vehicle with
  | activated hbefore hafter =>
    have habove := (active_iff_threshold hbefore (.inl hafter)).1 hafter
    rw [hconfig] at habove
    simp [hafter, InBand, habove]
  | kept hbefore hafter =>
    simp only [hafter, reduceCtorEq, false_imp_iff, true_iff]
    exact fun hboth => (hlost hboth.1).1 hbefore
  | recovered hbefore hafter =>
    have hcooled := cooled_of_recovered hbefore hafter
    rw [hconfig] at hcooled
    apply iff_of_true
    · exact fun _ _ => hcooled
    · exact fun hboth => (hlost hboth.1).1 hbefore
  | normal hbefore hafter hobserved =>
    have hthreshold := active_iff_threshold hbefore (.inr hafter)
    rw [hconfig, hafter] at hthreshold
    have hbelow : vehicle.transmissionOilTemperatureC.value <
        config.transmissionOverheatTemperatureC := by simpa using hthreshold
    have hfresh : vehicle.transmissionOilTemperatureC.isFresh = true := hobserved
    simp [hafter, hbefore, Cooled, InBand, hfresh, hbelow]
  | hidden _ hnormal hhidden =>
    apply iff_of_true
    · exact fun hafter => absurd hafter hnormal
    · rintro ⟨hopen, hfresh, -⟩
      have hunobserved := hhidden (monitored_of_lost config vehicles (.inr hopen))
      exact Bool.false_ne_true (hunobserved.symm.trans hfresh)

/-- Over every run: the overheat ends only on a snapshot below the recovery temperature
exactly when no temperature in the band above it is the first one after a loss that followed
an active report. -/
theorem hysteresis_iff (config : TelemetryMonitorConfig) (vehicles : List VehicleState) :
    HoldsHysteresis config (machine.transcript { config := config } vehicles) ↔
      ∀ past call future,
        machine.transcript { config := config } vehicles = past ++ call :: future →
        ¬ (Lost .transmission past ∧ InBand config call.input) :=
  machine.history_iff (HoldsHysteresis config)
    (fun past call => ¬ (Lost .transmission past ∧ InBand config call.input))
    (by simp [HoldsHysteresis])
    (fun vehicles vehicle => holdsHysteresis_step config vehicles vehicle) vehicles

def oilAt (temperatureC : Int16) : VehicleState :=
  { transmissionOilTemperatureC := ⟨temperatureC, .fresh⟩ }

/-- Active at 110 °C, lost, and normal at 107 °C with a hysteresis of 5 °C. -/
theorem loss_ends_overheat :
    let start : TelemetryMonitor := { config := simulatedTelemetryConfig }
    let calls := machine.transcript start [oilAt 110, {}, oilAt 107]
    validTelemetryMonitorConfig simulatedTelemetryConfig = true ∧
      calls.map (fun call => call.output.transmissionOverheat) =
        [.active, .unavailable, .normal] ∧
      recoveryTemperature simulatedTelemetryConfig = 105 ∧
      ¬ HoldsHysteresis simulatedTelemetryConfig calls := by
  intro start calls
  refine ⟨by decide, by decide, by decide, ?_⟩
  intro hholds
  have hoverheated : Overheated simulatedTelemetryConfig
      (machine.transcript start [oilAt 110, {}]) := by
    refine ⟨[], machine.stepOf start (oilAt 110),
      [machine.stepOf (machine start (oilAt 110)).2 {}], rfl, by decide, ?_⟩
    rw [List.forall_mem_singleton]
    rintro ⟨hfresh, -⟩
    cases hfresh
  have hcooled := hholds (machine.transcript start [oilAt 110, {}]) _ [] rfl (by decide)
    hoverheated
  exact absurd hcooled.2 (by decide)

end BmwRemote.Application.TelemetryMonitor
