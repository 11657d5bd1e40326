import BmwRemote.Application.FeatureCatalog

/-! The telemetry monitor: three conditions of the vehicle, each reported as a state
with an alert when it begins and one when it ends. -/
namespace BmwRemote.Application

open BmwRemote.Domain

inductive TelemetryConditionState where
  | disabled
  | unavailable
  | normal
  | active
  deriving DecidableEq, Repr

inductive TelemetryAlertType where
  | coldEngineHighRpm
  | coldEngineRecovered
  | dpfRegenerationStarted
  | dpfRegenerationStopped
  | transmissionOverheat
  | transmissionTemperatureRecovered
  deriving DecidableEq, Repr

theorem toInt_toInt16 {value : UInt16} (h : value.toNat < 2 ^ 15) :
    value.toInt16.toInt = value.toNat := by
  change value.toBitVec.toInt = _
  rw [BitVec.toInt_eq_toNat_of_lt]
  · rfl
  · change 2 * value.toNat < 2 ^ 16
    omega

namespace TelemetryMonitorLimits

def minimumColdEngineMaximumRpm : UInt16 := 1000
def maximumColdEngineMaximumRpm : UInt16 := 4500
def minimumEngineWarmTemperatureC : Int16 := 40
def maximumEngineWarmTemperatureC : Int16 := 110
def minimumTransmissionOverheatTemperatureC : Int16 := 80
def maximumTransmissionOverheatTemperatureC : Int16 := 150
def minimumTemperatureHysteresisC : UInt8 := 1
def maximumTemperatureHysteresisC : UInt8 := 20

end TelemetryMonitorLimits

open TelemetryMonitorLimits in
def validTelemetryMonitorConfig (config : TelemetryMonitorConfig) : Bool :=
  config.requestedFeatures.valid &&
    decide (config.coldEngineMaximumRpm ≥ minimumColdEngineMaximumRpm) &&
    decide (config.coldEngineMaximumRpm ≤ maximumColdEngineMaximumRpm) &&
    decide (config.engineWarmTemperatureC ≥ minimumEngineWarmTemperatureC) &&
    decide (config.engineWarmTemperatureC ≤ maximumEngineWarmTemperatureC) &&
    decide (config.transmissionOverheatTemperatureC ≥ minimumTransmissionOverheatTemperatureC) &&
    decide (config.transmissionOverheatTemperatureC ≤ maximumTransmissionOverheatTemperatureC) &&
    decide (config.temperatureHysteresisC ≥ minimumTemperatureHysteresisC) &&
    decide (config.temperatureHysteresisC ≤ maximumTemperatureHysteresisC)

def TelemetryReport.maximumAlerts : Nat := 6

structure TelemetryAlerts where
  toList : List TelemetryAlertType
  bounded : toList.length ≤ TelemetryReport.maximumAlerts
  deriving DecidableEq

namespace TelemetryAlerts

def empty : TelemetryAlerts := ⟨[], by decide⟩

def add (alerts : TelemetryAlerts) (type : TelemetryAlertType) : TelemetryAlerts :=
  if h : alerts.toList.length < TelemetryReport.maximumAlerts then
    ⟨alerts.toList ++ [type], by rw [List.length_append]; exact h⟩
  else alerts

end TelemetryAlerts

structure TelemetryReport where
  coldEngineGuard : TelemetryConditionState := .disabled
  dpfRegeneration : TelemetryConditionState := .disabled
  transmissionOverheat : TelemetryConditionState := .disabled
  coldEngineFeature : FeatureResolution := {}
  dpfFeature : FeatureResolution := {}
  transmissionFeature : FeatureResolution := {}
  alerts : TelemetryAlerts := .empty
  deriving DecidableEq

/-- `configValid_` is the validity of `config`, which nothing assigns later. -/
structure TelemetryMonitor where
  config : TelemetryMonitorConfig := {}
  previousColdEngine : TelemetryConditionState := .disabled
  previousDpf : TelemetryConditionState := .disabled
  previousTransmission : TelemetryConditionState := .disabled
  deriving DecidableEq

namespace TelemetryMonitor

def inactive (resolution : FeatureResolution) : TelemetryConditionState :=
  if resolution.status = .disabledByUser then .disabled else .unavailable

def monitored (monitor : TelemetryMonitor) (resolution : FeatureResolution) : Bool :=
  validTelemetryMonitorConfig monitor.config && resolution.effective

def activeIf (condition : Bool) : TelemetryConditionState :=
  if condition then .active else .normal

def evaluateColdEngine (monitor : TelemetryMonitor) (vehicle : VehicleState)
    (resolution : FeatureResolution) : TelemetryConditionState :=
  let oil := vehicle.engineOilTemperatureC
  let coolant := vehicle.coolantTemperatureC
  let temperatureAvailable := oil.isFresh || coolant.isFresh
  let engineCold :=
    (oil.isFresh && decide (oil.value < monitor.config.engineWarmTemperatureC)) ||
      (coolant.isFresh && decide (coolant.value < monitor.config.engineWarmTemperatureC))
  if !monitor.monitored resolution then inactive resolution
  else if !vehicle.engineRpm.isFresh then .unavailable
  else if !temperatureAvailable then .unavailable
  else activeIf
    (engineCold && decide (vehicle.engineRpm.value > monitor.config.coldEngineMaximumRpm))

def evaluateDpf (monitor : TelemetryMonitor) (vehicle : VehicleState)
    (resolution : FeatureResolution) : TelemetryConditionState :=
  if !monitor.monitored resolution then inactive resolution
  else if !vehicle.dpfRegenerationActive.isFresh then .unavailable
  else activeIf vehicle.dpfRegenerationActive.value

/-- An active overheat ends only below the threshold less the hysteresis. -/
def overheatThreshold (monitor : TelemetryMonitor) : Int16 :=
  if monitor.previousTransmission = .active then
    monitor.config.transmissionOverheatTemperatureC -
      monitor.config.temperatureHysteresisC.toUInt16.toInt16
  else monitor.config.transmissionOverheatTemperatureC

def evaluateTransmission (monitor : TelemetryMonitor) (vehicle : VehicleState)
    (resolution : FeatureResolution) : TelemetryConditionState :=
  if !monitor.monitored resolution then inactive resolution
  else if !vehicle.transmissionOilTemperatureC.isFresh then .unavailable
  else activeIf
    (decide (vehicle.transmissionOilTemperatureC.value ≥ monitor.overheatThreshold))

def appendTransitionAlerts (previous current : TelemetryConditionState)
    (activated recovered : TelemetryAlertType) (alerts : TelemetryAlerts) : TelemetryAlerts :=
  if current = .active ∧ previous ≠ .active then alerts.add activated
  else if current = .normal ∧ previous = .active then alerts.add recovered
  else alerts

def evaluate (monitor : TelemetryMonitor) (vehicle : VehicleState) :
    TelemetryReport × TelemetryMonitor :=
  let resolve := fun id =>
    resolveFeature monitor.config.requestedFeatures id monitor.config.runtime
  let coldEngineFeature := resolve .coldEngineGuard
  let dpfFeature := resolve .dpfRegenerationIndicator
  let transmissionFeature := resolve .transmissionOverheatAlert
  let coldEngineGuard := monitor.evaluateColdEngine vehicle coldEngineFeature
  let dpfRegeneration := monitor.evaluateDpf vehicle dpfFeature
  let transmissionOverheat := monitor.evaluateTransmission vehicle transmissionFeature
  let alerts := TelemetryAlerts.empty
    |> appendTransitionAlerts monitor.previousColdEngine coldEngineGuard
      .coldEngineHighRpm .coldEngineRecovered
    |> appendTransitionAlerts monitor.previousDpf dpfRegeneration
      .dpfRegenerationStarted .dpfRegenerationStopped
    |> appendTransitionAlerts monitor.previousTransmission transmissionOverheat
      .transmissionOverheat .transmissionTemperatureRecovered
  ({ coldEngineGuard, dpfRegeneration, transmissionOverheat, coldEngineFeature, dpfFeature,
      transmissionFeature, alerts },
    { monitor with
      previousColdEngine := coldEngineGuard
      previousDpf := dpfRegeneration
      previousTransmission := transmissionOverheat })

end TelemetryMonitor

end BmwRemote.Application
