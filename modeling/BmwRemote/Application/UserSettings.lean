import BmwRemote.Application.Controller

/-! The settings a user can change, and the limits they have to keep. -/
namespace BmwRemote.Application

/-- A `HoodMonitoringMode` can be cast from any stored byte, so it is that byte. -/
structure HoodMonitoringMode where
  raw : UInt8
  deriving DecidableEq, Repr

namespace HoodMonitoringMode

def required : HoodMonitoringMode := ⟨0⟩
def disabled : HoodMonitoringMode := ⟨1⟩

end HoodMonitoringMode

def featureCount : UInt64 := 3

structure FeatureRequests where
  mask : UInt64 := 0
  deriving DecidableEq, Repr

namespace FeatureRequests

def validMask : UInt64 := ((1 : UInt64) <<< featureCount) - 1

def valid (features : FeatureRequests) : Bool := (features.mask &&& ~~~validMask) == 0

end FeatureRequests

structure UserSettings where
  remoteStartEnabled : Bool := true
  hoodMonitoring : HoodMonitoringMode := .required
  driverEntryMode : DriverEntryMode := .requireTakeover
  maximumRemoteRunTimeMs : UInt32 := 15 * 60 * 1000
  driverTakeoverTimeoutMs : UInt32 := 60000
  lockPressCount : UInt8 := 3
  lockMinimumGapMs : UInt32 := 80
  lockMaximumGapMs : UInt32 := 1500
  lockMaximumSequenceMs : UInt32 := 3000
  features : FeatureRequests := {}
  coldEngineMaximumRpm : UInt16 := 2200
  engineWarmTemperatureC : UInt16 := 75
  transmissionOverheatTemperatureC : UInt16 := 110
  temperatureAlertHysteresisC : UInt16 := 5
  deriving DecidableEq, Repr

namespace UserSettingsLimits

def minimumRemoteRunTimeMs : UInt32 := 60000
def maximumRemoteRunTimeMs : UInt32 := 60 * 60 * 1000
def minimumTakeoverTimeoutMs : UInt32 := 10000
def maximumTakeoverTimeoutMs : UInt32 := 5 * 60 * 1000
def minimumLockPressCount : UInt8 := 2
def maximumLockPressCount : UInt8 := 5
def minimumLockGapMs : UInt32 := 50
def maximumLockGapMs : UInt32 := 5000
def minimumLockSequenceMs : UInt32 := 500
def maximumLockSequenceMs : UInt32 := 15000
def minimumColdEngineMaximumRpm : UInt16 := 1000
def maximumColdEngineMaximumRpm : UInt16 := 4500
def minimumEngineWarmTemperatureC : UInt16 := 40
def maximumEngineWarmTemperatureC : UInt16 := 110
def minimumTransmissionOverheatTemperatureC : UInt16 := 80
def maximumTransmissionOverheatTemperatureC : UInt16 := 150
def minimumTemperatureAlertHysteresisC : UInt16 := 1
def maximumTemperatureAlertHysteresisC : UInt16 := 20

end UserSettingsLimits

inductive UserSettingsReason where
  | unsupportedHoodMode
  | unsupportedDriverEntryMode
  | remoteRunTimeOutOfRange
  | takeoverTimeoutOutOfRange
  | lockPressCountOutOfRange
  | lockMinimumGapOutOfRange
  | lockMaximumGapOutOfRange
  | lockSequenceTimeOutOfRange
  | inconsistentLockTiming
  | invalidFeatureMask
  | coldEngineMaximumRpmOutOfRange
  | engineWarmTemperatureOutOfRange
  | transmissionOverheatTemperatureOutOfRange
  | temperatureAlertHysteresisOutOfRange
  deriving DecidableEq, Repr

def userSettingsMask : UserSettingsReason → UInt16
  | .unsupportedHoodMode => (1 : UInt16) <<< 0
  | .unsupportedDriverEntryMode => (1 : UInt16) <<< 1
  | .remoteRunTimeOutOfRange => (1 : UInt16) <<< 2
  | .takeoverTimeoutOutOfRange => (1 : UInt16) <<< 3
  | .lockPressCountOutOfRange => (1 : UInt16) <<< 4
  | .lockMinimumGapOutOfRange => (1 : UInt16) <<< 5
  | .lockMaximumGapOutOfRange => (1 : UInt16) <<< 6
  | .lockSequenceTimeOutOfRange => (1 : UInt16) <<< 7
  | .inconsistentLockTiming => (1 : UInt16) <<< 8
  | .invalidFeatureMask => (1 : UInt16) <<< 9
  | .coldEngineMaximumRpmOutOfRange => (1 : UInt16) <<< 10
  | .engineWarmTemperatureOutOfRange => (1 : UInt16) <<< 11
  | .transmissionOverheatTemperatureOutOfRange => (1 : UInt16) <<< 12
  | .temperatureAlertHysteresisOutOfRange => (1 : UInt16) <<< 13

structure UserSettingsValidation where
  reasons : UInt16 := 0
  deriving DecidableEq, Repr

namespace UserSettingsValidation

def valid (validation : UserSettingsValidation) : Bool := validation.reasons == 0

def addIf (validation : UserSettingsValidation) (condition : Bool) (reason : UserSettingsReason) :
    UserSettingsValidation :=
  if condition then ⟨validation.reasons ||| userSettingsMask reason⟩ else validation

end UserSettingsValidation

def outside {T : Type} [LT T] [DecidableLT T] (value minimum maximum : T) : Bool :=
  decide (value < minimum) || decide (value > maximum)

open UserSettingsLimits in
def validateUserSettings (settings : UserSettings) : UserSettingsValidation :=
  let requiredIntervals : UInt32 :=
    if settings.lockPressCount = 0 then 0 else (settings.lockPressCount - 1).toUInt32
  let minimumSequenceTime := requiredIntervals.toUInt64 * settings.lockMinimumGapMs.toUInt64
  let inconsistentLockTiming := decide (settings.lockMinimumGapMs > settings.lockMaximumGapMs) ||
    decide (settings.lockMaximumGapMs > settings.lockMaximumSequenceMs) ||
    decide (minimumSequenceTime > settings.lockMaximumSequenceMs.toUInt64)
  let validation : UserSettingsValidation := {}
  validation
    |>.addIf (settings.hoodMonitoring != .required && settings.hoodMonitoring != .disabled)
      .unsupportedHoodMode
    |>.addIf (settings.driverEntryMode != .requireTakeover &&
        settings.driverEntryMode != .stopImmediately) .unsupportedDriverEntryMode
    |>.addIf (outside settings.maximumRemoteRunTimeMs minimumRemoteRunTimeMs
        maximumRemoteRunTimeMs) .remoteRunTimeOutOfRange
    |>.addIf (outside settings.driverTakeoverTimeoutMs minimumTakeoverTimeoutMs
        maximumTakeoverTimeoutMs) .takeoverTimeoutOutOfRange
    |>.addIf (outside settings.lockPressCount minimumLockPressCount maximumLockPressCount)
      .lockPressCountOutOfRange
    |>.addIf (outside settings.lockMinimumGapMs minimumLockGapMs maximumLockGapMs)
      .lockMinimumGapOutOfRange
    |>.addIf (outside settings.lockMaximumGapMs minimumLockGapMs maximumLockGapMs)
      .lockMaximumGapOutOfRange
    |>.addIf (outside settings.lockMaximumSequenceMs minimumLockSequenceMs maximumLockSequenceMs)
      .lockSequenceTimeOutOfRange
    |>.addIf inconsistentLockTiming .inconsistentLockTiming
    |>.addIf (!settings.features.valid) .invalidFeatureMask
    |>.addIf (outside settings.coldEngineMaximumRpm minimumColdEngineMaximumRpm
        maximumColdEngineMaximumRpm) .coldEngineMaximumRpmOutOfRange
    |>.addIf (outside settings.engineWarmTemperatureC minimumEngineWarmTemperatureC
        maximumEngineWarmTemperatureC) .engineWarmTemperatureOutOfRange
    |>.addIf (outside settings.transmissionOverheatTemperatureC
        minimumTransmissionOverheatTemperatureC maximumTransmissionOverheatTemperatureC)
      .transmissionOverheatTemperatureOutOfRange
    |>.addIf (outside settings.temperatureAlertHysteresisC minimumTemperatureAlertHysteresisC
        maximumTemperatureAlertHysteresisC) .temperatureAlertHysteresisOutOfRange

/-- The defaults keep their own limits. -/
example : (validateUserSettings {}).valid = true := by decide

theorem valid_addIf (validation : UserSettingsValidation) (condition : Bool)
    (reason : UserSettingsReason) :
    (validation.addIf condition reason).valid = true ↔
      validation.valid = true ∧ condition = false := by
  have hmask : userSettingsMask reason ≠ 0 := by cases reason <;> decide
  cases condition with
  | false => simp [UserSettingsValidation.addIf]
  | true => simp [UserSettingsValidation.addIf, UserSettingsValidation.valid, hmask]

theorem outside_eq_false_iff {T : Type} [LT T] [LE T] [DecidableLT T]
    (not_lt : ∀ {left right : T}, ¬ left < right ↔ right ≤ left) (value minimum maximum : T) :
    outside value minimum maximum = false ↔ minimum ≤ value ∧ value ≤ maximum := by
  unfold outside
  rw [Bool.or_eq_false_iff, decide_eq_false_iff_not, decide_eq_false_iff_not, not_lt, gt_iff_lt,
    not_lt]

open UserSettingsLimits in
theorem times_of_valid {settings : UserSettings}
    (h : (validateUserSettings settings).valid = true) :
    (minimumRemoteRunTimeMs ≤ settings.maximumRemoteRunTimeMs ∧
        settings.maximumRemoteRunTimeMs ≤ maximumRemoteRunTimeMs) ∧
      (minimumTakeoverTimeoutMs ≤ settings.driverTakeoverTimeoutMs ∧
        settings.driverTakeoverTimeoutMs ≤ maximumTakeoverTimeoutMs) := by
  unfold validateUserSettings at h
  simp only [valid_addIf] at h
  rw [← outside_eq_false_iff UInt32.not_lt, ← outside_eq_false_iff UInt32.not_lt]
  simp only [h, and_self]

end BmwRemote.Application
