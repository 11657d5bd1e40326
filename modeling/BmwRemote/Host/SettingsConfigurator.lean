import BmwRemote.Host.UserSettingsSave

/-! The assistant that asks a user for the settings, one after the other, and keeps them in
the settings file. Answers come as lines of text; at the end of the input the assistant gives
up. -/
namespace BmwRemote.Host.SettingsConfigurator

open BmwRemote.Application BmwRemote.Lib BmwRemote.Host.UserSettingsFile
open BmwRemote.Lib.Text (ascii)

/-- The lines that are still to be read. -/
abbrev Console := List Text

def toLower (character : UInt8) : UInt8 :=
  if 65 ≤ character ∧ character ≤ 90 then character + 32 else character

def readAnswer (line : Text) : Text := (Text.strip line).map toLower

/-- The loop of every prompt: no answer keeps the value, and what is not understood is asked
again. -/
def prompt {T : Type} (parse : Text → Option T) (value : T) : Console → Option (T × Console)
  | [] => none
  | line :: lines =>
    if readAnswer line = [] then some (value, lines)
    else
      match parse (readAnswer line) with
      | some answer => some (answer, lines)
      | none => prompt parse value lines

def choose {T : Type} (choices : List (String × T)) (answer : Text) : Option T :=
  (choices.find? fun choice => answer == ascii choice.1).map fun choice => choice.2

def promptBoolean : Bool → Console → Option (Bool × Console) :=
  prompt (choose [("o", true), ("oui", true), ("y", true), ("yes", true), ("true", true),
    ("1", true), ("n", false), ("non", false), ("no", false), ("false", false), ("0", false)])

def parseNumber (minimum maximum : UInt32) (answer : Text) : Option UInt32 :=
  (parseUnsigned answer).filter fun parsed =>
    decide (parsed ≥ minimum) && decide (parsed ≤ maximum)

def promptNumber (minimum maximum : UInt32) : UInt32 → Console → Option (UInt32 × Console) :=
  prompt (parseNumber minimum maximum)

def promptHoodMode : HoodMonitoringMode → Console → Option (HoodMonitoringMode × Console) :=
  prompt (choose [("1", .required), ("obligatoire", .required), ("required", .required),
    ("2", .disabled), ("desactive", .disabled), ("disabled", .disabled), ("optional", .disabled)])

def promptDriverEntryMode : DriverEntryMode → Console → Option (DriverEntryMode × Console) :=
  prompt (choose [("1", .requireTakeover), ("reprise", .requireTakeover),
    ("require_takeover", .requireTakeover), ("2", .stopImmediately), ("arret", .stopImmediately),
    ("stop_immediately", .stopImmediately)])

def promptFeatures (features : FeatureRequests) (lines : Console) :
    List FeatureDescriptor → Option (FeatureRequests × Console)
  | [] => some (features, lines)
  | feature :: others => do
    let (enabled, lines) ← promptBoolean (features.enabled feature.id) lines
    let features ← features.setEnabled feature.id enabled
    promptFeatures features lines others

def promptFeatureSelection (settings : UserSettings) (lines : Console) :
    Option (UserSettings × Console) := do
  let (editFeatures, lines) ← promptBoolean false lines
  if !editFeatures then return (settings, lines)
  let (features, lines) ← promptFeatures settings.features lines featureCatalog
  return ({ settings with features }, lines)

def promptLockTimings (settings : UserSettings) (lines : Console) :
    Option (UserSettings × Console) := do
  let (pressCount, lines) ← promptNumber 2 5 settings.lockPressCount.toUInt32 lines
  let (lockMinimumGapMs, lines) ← promptNumber 50 5000 settings.lockMinimumGapMs lines
  let (lockMaximumGapMs, lines) ← promptNumber 50 5000 settings.lockMaximumGapMs lines
  let (lockMaximumSequenceMs, lines) ←
    promptNumber 500 15000 settings.lockMaximumSequenceMs lines
  return ({ settings with
    lockPressCount := pressCount.toUInt8, lockMinimumGapMs, lockMaximumGapMs,
    lockMaximumSequenceMs }, lines)

variable {T : Type} {parse : Text → Option T} {value after : T} {lines rest : Console}

theorem prompt_spec (h : prompt parse value lines = some (after, rest)) :
    (after = value ∨ ∃ answer, parse answer = some after) ∧ rest.length < lines.length := by
  induction lines with
  | nil => cases h
  | cons line lines ih =>
    unfold prompt at h
    split at h
    · cases h
      exact ⟨.inl rfl, Nat.lt_succ_self _⟩
    cases hparse : parse (readAnswer line) with
    | some answer =>
      rw [hparse] at h
      cases h
      exact ⟨.inr ⟨_, hparse⟩, Nat.lt_succ_self _⟩
    | none =>
      rw [hparse] at h
      obtain ⟨hafter, hlength⟩ := ih h
      exact ⟨hafter, Nat.lt_succ_of_lt hlength⟩

theorem promptLockTimings_shorter {settings next : UserSettings}
    (h : promptLockTimings settings lines = some (next, rest)) : rest.length < lines.length := by
  unfold promptLockTimings at h
  obtain ⟨⟨_, _⟩, hcount, h⟩ := Option.bind_eq_some_iff.mp h
  obtain ⟨⟨_, _⟩, hminimum, h⟩ := Option.bind_eq_some_iff.mp h
  obtain ⟨⟨_, _⟩, hmaximum, h⟩ := Option.bind_eq_some_iff.mp h
  obtain ⟨⟨_, _⟩, hsequence, h⟩ := Option.bind_eq_some_iff.mp h
  cases h
  have hfirst := (prompt_spec hcount).2
  have hsecond := (prompt_spec hminimum).2
  have hthird := (prompt_spec hmaximum).2
  have hfourth := (prompt_spec hsequence).2
  omega

def configureLock (settings : UserSettings) (lines : Console) : Option (UserSettings × Console) :=
  match _h : promptLockTimings settings lines with
  | none => none
  | some (next, rest) =>
    if (validateUserSettings next).valid then some (next, rest) else configureLock next rest
termination_by lines.length
decreasing_by exact promptLockTimings_shorter ‹_›

open UserSettingsLimits in
def configureTelemetry (settings : UserSettings) (lines : Console) :
    Option (UserSettings × Console) := do
  let (coldMaximumRpm, lines) ← promptNumber minimumColdEngineMaximumRpm.toUInt32
    maximumColdEngineMaximumRpm.toUInt32 settings.coldEngineMaximumRpm.toUInt32 lines
  let (warmTemperature, lines) ← promptNumber minimumEngineWarmTemperatureC.toUInt32
    maximumEngineWarmTemperatureC.toUInt32 settings.engineWarmTemperatureC.toUInt32 lines
  let (transmissionOverheat, lines) ←
    promptNumber minimumTransmissionOverheatTemperatureC.toUInt32
      maximumTransmissionOverheatTemperatureC.toUInt32
      settings.transmissionOverheatTemperatureC.toUInt32 lines
  let (temperatureHysteresis, lines) ← promptNumber minimumTemperatureAlertHysteresisC.toUInt32
    maximumTemperatureAlertHysteresisC.toUInt32 settings.temperatureAlertHysteresisC.toUInt32 lines
  return ({ settings with
    coldEngineMaximumRpm := coldMaximumRpm.toUInt16
    engineWarmTemperatureC := warmTemperature.toUInt16
    transmissionOverheatTemperatureC := transmissionOverheat.toUInt16
    temperatureAlertHysteresisC := temperatureHysteresis.toUInt16 }, lines)

def millisecondsPerMinute : UInt32 := 60000
def millisecondsPerSecond : UInt32 := 1000

def configureSession (settings : UserSettings) (lines : Console) :
    Option (UserSettings × Console) := do
  let (remoteStartEnabled, lines) ← promptBoolean settings.remoteStartEnabled lines
  let (hoodMonitoring, lines) ← promptHoodMode settings.hoodMonitoring lines
  let (remoteRunMinutes, lines) ←
    promptNumber 1 60 (settings.maximumRemoteRunTimeMs / millisecondsPerMinute) lines
  let (driverEntryMode, lines) ← promptDriverEntryMode settings.driverEntryMode lines
  let (takeoverSeconds, lines) ←
    promptNumber 10 300 (settings.driverTakeoverTimeoutMs / millisecondsPerSecond) lines
  return ({ settings with
    remoteStartEnabled, hoodMonitoring, driverEntryMode
    maximumRemoteRunTimeMs := remoteRunMinutes * millisecondsPerMinute
    driverTakeoverTimeoutMs := takeoverSeconds * millisecondsPerSecond }, lines)

def configureInteractively (settings : UserSettings) (lines : Console) :
    Option (UserSettings × Console) := do
  let (settings, lines) ← configureSession settings lines
  let (settings, lines) ← configureLock settings lines
  let (settings, lines) ← configureTelemetry settings lines
  promptFeatureSelection settings lines

/-- How the file system answers the assistant. -/
structure InteractiveAnswers where
  inspected : Option Text
  existing : ReadAnswer
  saving : SaveAnswers

inductive InteractiveEnd where
  | uninspectable (message : Text)
  | unreadable (error : Text)
  | cancelled
  | unsaved (settings : UserSettings) (error : Text)
  | saved (settings : UserSettings)

def InteractiveEnd.exitCode : InteractiveEnd → Nat
  | .uninspectable _ | .unreadable _ | .unsaved _ _ => 2
  | .cancelled | .saved _ => 0

def loadExisting (path : Text) (answers : InteractiveAnswers) (files : Files) : Outcome :=
  if (files path).isSome then loadUserSettingsFile path answers.existing files {}
  else ⟨true, {}, []⟩

def runInteractive (path : Text) (answers : InteractiveAnswers) (lines : Console)
    (disk : Disk Text Text) : InteractiveEnd × Disk Text Text :=
  match answers.inspected with
  | some message => (.uninspectable message, disk)
  | none =>
    let existing := loadExisting path answers disk.files
    if !existing.success then (.unreadable existing.error, disk)
    else
      match configureInteractively existing.settings lines with
      | none => (.cancelled, disk)
      | some (settings, _) =>
        let ((saved, error), disk) := saveUserSettingsFile path settings answers.saving disk
        (if saved then .saved settings else .unsaved settings error, disk)

/-! The limits, by the groups of questions. -/

section Limits

open UserSettingsLimits

def SessionKept (settings : UserSettings) : Prop :=
  (settings.hoodMonitoring != .required && settings.hoodMonitoring != .disabled) = false ∧
  (settings.driverEntryMode != .requireTakeover &&
    settings.driverEntryMode != .stopImmediately) = false ∧
  outside settings.maximumRemoteRunTimeMs minimumRemoteRunTimeMs maximumRemoteRunTimeMs = false ∧
  outside settings.driverTakeoverTimeoutMs minimumTakeoverTimeoutMs
    maximumTakeoverTimeoutMs = false

def LockKept (settings : UserSettings) : Prop :=
  outside settings.lockPressCount minimumLockPressCount maximumLockPressCount = false ∧
  outside settings.lockMinimumGapMs minimumLockGapMs maximumLockGapMs = false ∧
  outside settings.lockMaximumGapMs minimumLockGapMs maximumLockGapMs = false ∧
  outside settings.lockMaximumSequenceMs minimumLockSequenceMs maximumLockSequenceMs = false ∧
  (decide (settings.lockMinimumGapMs > settings.lockMaximumGapMs) ||
    decide (settings.lockMaximumGapMs > settings.lockMaximumSequenceMs) ||
    decide ((if settings.lockPressCount = 0 then 0
        else (settings.lockPressCount - 1).toUInt32 : UInt32).toUInt64 *
      settings.lockMinimumGapMs.toUInt64 > settings.lockMaximumSequenceMs.toUInt64)) = false

def TelemetryKept (settings : UserSettings) : Prop :=
  outside settings.coldEngineMaximumRpm minimumColdEngineMaximumRpm
    maximumColdEngineMaximumRpm = false ∧
  outside settings.engineWarmTemperatureC minimumEngineWarmTemperatureC
    maximumEngineWarmTemperatureC = false ∧
  outside settings.transmissionOverheatTemperatureC minimumTransmissionOverheatTemperatureC
    maximumTransmissionOverheatTemperatureC = false ∧
  outside settings.temperatureAlertHysteresisC minimumTemperatureAlertHysteresisC
    maximumTemperatureAlertHysteresisC = false

theorem valid_iff (settings : UserSettings) :
    (validateUserSettings settings).valid = true ↔ SessionKept settings ∧ LockKept settings ∧
      settings.features.valid = true ∧ TelemetryKept settings := by
  have hnone : ({} : UserSettingsValidation).valid = true := rfl
  unfold validateUserSettings SessionKept LockKept TelemetryKept
  simp only [valid_addIf, hnone, true_and, Bool.not_eq_false', and_assoc]

end Limits

/-! What a prompt answers. -/

theorem promptNumber_spec {minimum maximum value after : UInt32}
    (h : promptNumber minimum maximum value lines = some (after, rest)) :
    after = value ∨ minimum ≤ after ∧ after ≤ maximum := by
  rcases (prompt_spec h).1 with hkept | ⟨answer, hparse⟩
  · exact .inl hkept
  · obtain ⟨-, hbounds⟩ := Option.filter_eq_some_iff.mp hparse
    rw [Bool.and_eq_true, decide_eq_true_iff, decide_eq_true_iff] at hbounds
    exact .inr hbounds

theorem promptNumber_kept {minimum maximum value : UInt16} {after : UInt32}
    (hvalue : outside value minimum maximum = false)
    (h : promptNumber minimum.toUInt32 maximum.toUInt32 value.toUInt32 lines =
      some (after, rest)) : outside after.toUInt16 minimum maximum = false := by
  rcases promptNumber_spec h with rfl | ⟨hminimum, hmaximum⟩
  · rwa [UInt16.toUInt16_toUInt32]
  · rw [outside_eq_false_iff UInt16.not_lt, UInt16.le_iff_toNat_le, UInt16.le_iff_toNat_le]
    rw [UInt32.le_iff_toNat_le, UInt16.toNat_toUInt32] at hminimum hmaximum
    have hsmall := maximum.toNat_lt
    rw [UInt32.toNat_toUInt16]
    omega

/-! What each group of questions leaves alone. -/

theorem configureTelemetry_spec {settings after : UserSettings}
    (h : configureTelemetry settings lines = some (after, rest)) :
    (TelemetryKept settings → TelemetryKept after) ∧
      ∃ coldMaximumRpm warmTemperature transmissionOverheat temperatureHysteresis,
        after = { settings with
          coldEngineMaximumRpm := coldMaximumRpm
          engineWarmTemperatureC := warmTemperature
          transmissionOverheatTemperatureC := transmissionOverheat
          temperatureAlertHysteresisC := temperatureHysteresis } := by
  unfold configureTelemetry at h
  obtain ⟨⟨_, _⟩, hcold, h⟩ := Option.bind_eq_some_iff.mp h
  obtain ⟨⟨_, _⟩, hwarm, h⟩ := Option.bind_eq_some_iff.mp h
  obtain ⟨⟨_, _⟩, htransmission, h⟩ := Option.bind_eq_some_iff.mp h
  obtain ⟨⟨_, _⟩, hhysteresis, h⟩ := Option.bind_eq_some_iff.mp h
  cases h
  refine ⟨fun hkept => ?_, _, _, _, _, rfl⟩
  exact ⟨promptNumber_kept hkept.1 hcold, promptNumber_kept hkept.2.1 hwarm,
    promptNumber_kept hkept.2.2.1 htransmission, promptNumber_kept hkept.2.2.2 hhysteresis⟩

theorem promptFeatures_valid {features after : FeatureRequests}
    {catalog : List FeatureDescriptor} (hvalid : features.valid = true)
    (h : promptFeatures features lines catalog = some (after, rest)) : after.valid = true := by
  induction catalog generalizing features lines with
  | nil =>
    cases h
    exact hvalid
  | cons feature others ih =>
    unfold promptFeatures at h
    obtain ⟨⟨_, _⟩, -, h⟩ := Option.bind_eq_some_iff.mp h
    obtain ⟨next, hset, h⟩ := Option.bind_eq_some_iff.mp h
    exact ih (FeatureRequests.valid_setEnabled hvalid hset) h

theorem promptFeatureSelection_spec {settings after : UserSettings}
    (h : promptFeatureSelection settings lines = some (after, rest)) :
    (settings.features.valid = true → after.features.valid = true) ∧
      ∃ features, after = { settings with features } := by
  unfold promptFeatureSelection at h
  obtain ⟨⟨editFeatures, _⟩, -, h⟩ := Option.bind_eq_some_iff.mp h
  cases editFeatures with
  | false =>
    cases h
    exact ⟨id, settings.features, rfl⟩
  | true =>
    obtain ⟨⟨features, _⟩, hfeatures, h⟩ := Option.bind_eq_some_iff.mp h
    cases h
    exact ⟨fun hvalid => promptFeatures_valid hvalid hfeatures, features, rfl⟩

theorem promptLockTimings_spec {settings after : UserSettings}
    (h : promptLockTimings settings lines = some (after, rest)) :
    after.maximumRemoteRunTimeMs = settings.maximumRemoteRunTimeMs ∧
      after.driverTakeoverTimeoutMs = settings.driverTakeoverTimeoutMs := by
  unfold promptLockTimings at h
  obtain ⟨⟨_, _⟩, -, h⟩ := Option.bind_eq_some_iff.mp h
  obtain ⟨⟨_, _⟩, -, h⟩ := Option.bind_eq_some_iff.mp h
  obtain ⟨⟨_, _⟩, -, h⟩ := Option.bind_eq_some_iff.mp h
  obtain ⟨⟨_, _⟩, -, h⟩ := Option.bind_eq_some_iff.mp h
  cases h
  exact ⟨rfl, rfl⟩

theorem configureLock_turn {settings next : UserSettings}
    (h : promptLockTimings settings lines = some (next, rest)) :
    configureLock settings lines =
      if (validateUserSettings next).valid then some (next, rest) else configureLock next rest := by
  rw [configureLock, h]

theorem configureLock_once {settings next : UserSettings}
    (h : promptLockTimings settings lines = some (next, rest))
    (hvalid : (validateUserSettings next).valid = true) :
    configureLock settings lines = some (next, rest) := by
  rw [configureLock_turn h, if_pos hvalid]

theorem configureLock_spec {settings after : UserSettings}
    (h : configureLock settings lines = some (after, rest)) :
    (validateUserSettings after).valid = true ∧
      after.maximumRemoteRunTimeMs = settings.maximumRemoteRunTimeMs ∧
      after.driverTakeoverTimeoutMs = settings.driverTakeoverTimeoutMs := by
  induction settings, lines using configureLock.induct with
  | case1 settings lines hlines =>
    rw [configureLock, hlines] at h
    cases h
  | case2 settings lines next others hlines hvalid =>
    rw [configureLock_turn hlines, if_pos hvalid] at h
    cases h
    exact ⟨hvalid, promptLockTimings_spec hlines⟩
  | case3 settings lines next others hlines hinvalid ih =>
    rw [configureLock_turn hlines, if_neg hinvalid] at h
    obtain ⟨hvalid, hrun, htakeover⟩ := ih h
    obtain ⟨hrun', htakeover'⟩ := promptLockTimings_spec hlines
    exact ⟨hvalid, hrun.trans hrun', htakeover.trans htakeover'⟩

theorem dvd_of_prompt {unit limit value after : UInt32} (hunit : unit.toNat * limit.toNat < 2 ^ 32)
    {minimum : UInt32} (h : promptNumber minimum limit (value / unit) lines = some (after, rest)) :
    unit.toNat ∣ (after * unit).toNat := by
  have hfits : after.toNat * unit.toNat < 2 ^ 32 := by
    rcases promptNumber_spec h with rfl | ⟨-, hlimit⟩
    · rw [UInt32.toNat_div]
      exact (Nat.div_mul_le_self _ _).trans_lt value.toNat_lt
    · rw [UInt32.le_iff_toNat_le] at hlimit
      rw [Nat.mul_comm]
      exact (Nat.mul_le_mul_left _ hlimit).trans_lt hunit
  rw [UInt32.toNat_mul, Nat.mod_eq_of_lt hfits]
  exact Nat.dvd_mul_left _ _

theorem configureSession_spec {settings after : UserSettings}
    (h : configureSession settings lines = some (after, rest)) :
    60000 ∣ after.maximumRemoteRunTimeMs.toNat ∧ 1000 ∣ after.driverTakeoverTimeoutMs.toNat := by
  unfold configureSession at h
  obtain ⟨⟨_, _⟩, -, h⟩ := Option.bind_eq_some_iff.mp h
  obtain ⟨⟨_, _⟩, -, h⟩ := Option.bind_eq_some_iff.mp h
  obtain ⟨⟨_, _⟩, hminutes, h⟩ := Option.bind_eq_some_iff.mp h
  obtain ⟨⟨_, _⟩, -, h⟩ := Option.bind_eq_some_iff.mp h
  obtain ⟨⟨_, _⟩, hseconds, h⟩ := Option.bind_eq_some_iff.mp h
  cases h
  exact ⟨dvd_of_prompt (by decide) hminutes, dvd_of_prompt (by decide) hseconds⟩

theorem representable_of_configure {settings after : UserSettings}
    (h : configureInteractively settings lines = some (after, rest)) : Representable after := by
  unfold configureInteractively at h
  obtain ⟨⟨session, _⟩, hsession, h⟩ := Option.bind_eq_some_iff.mp h
  obtain ⟨⟨gesture, _⟩, hgesture, h⟩ := Option.bind_eq_some_iff.mp h
  obtain ⟨⟨telemetry, _⟩, htelemetry, h⟩ := Option.bind_eq_some_iff.mp h
  obtain ⟨hminutes, hseconds⟩ := configureSession_spec hsession
  obtain ⟨hvalid, hrun, htakeover⟩ := configureLock_spec hgesture
  rw [← hrun] at hminutes
  rw [← htakeover] at hseconds
  obtain ⟨hsessionKept, hlockKept, hfeatures, htelemetryKept⟩ := (valid_iff gesture).mp hvalid
  obtain ⟨hkept, _, _, _, _, rfl⟩ := configureTelemetry_spec htelemetry
  obtain ⟨hkeptFeatures, features, rfl⟩ := promptFeatureSelection_spec h
  refine ⟨(valid_iff _).mpr ⟨hsessionKept, hlockKept, hkeptFeatures hfeatures, ?_⟩, hminutes,
    hseconds⟩
  exact hkept htelemetryKept

/-! The answers that ask for given settings: the values as the file spells them. -/

def sessionQuestions : List Setting :=
  [.remoteStartEnabled, .hoodMonitoring, .remoteRunMinutes, .driverEntryMode,
    .takeoverTimeoutSeconds]

def lockQuestions : List Setting :=
  [.lockPressCount, .lockMinimumGapMs, .lockMaximumGapMs, .lockSequenceWindowMs]

def telemetryQuestions : List Setting :=
  [.coldEngineMaximumRpm, .engineWarmTemperatureC, .transmissionOverheatTemperatureC,
    .temperatureAlertHysteresisC]

def featureQuestions : List Setting :=
  [.feature .coldEngineGuard coldEngineGuard_known,
    .feature .dpfRegenerationIndicator dpfRegenerationIndicator_known,
    .feature .transmissionOverheatAlert transmissionOverheatAlert_known]

def answersFor (settings : UserSettings) : Console :=
  (sessionQuestions ++ lockQuestions ++ telemetryQuestions).map (valueText settings) ++
    ascii "oui" :: featureQuestions.map (valueText settings)

theorem promptBoolean_typed (answer value : Bool) (rest : Console) :
    promptBoolean value (boolean answer :: rest) = some (answer, rest) := by
  cases answer <;> rfl

theorem promptHoodMode_typed {mode : HoodMonitoringMode} (h : mode = .required ∨ mode = .disabled)
    (value : HoodMonitoringMode) (rest : Console) :
    promptHoodMode value (hoodMonitoringText mode :: rest) = some (mode, rest) := by
  rcases h with rfl | rfl
  · rfl
  · rfl

theorem promptDriverEntryMode_typed {mode : DriverEntryMode}
    (h : mode = .requireTakeover ∨ mode = .stopImmediately) (value : DriverEntryMode)
    (rest : Console) :
    promptDriverEntryMode value (driverEntryModeText mode :: rest) = some (mode, rest) := by
  rcases h with rfl | rfl
  · rfl
  · rfl

theorem readAnswer_decimal (value : Nat) :
    readAnswer (Text.decimal value) = Text.decimal value := by
  obtain ⟨hnonempty, hsolid, -, -⟩ := plain_decimal value
  have hlower : ∀ character ∈ Text.decimal value, toLower character = character := by
    rw [Text.decimal, List.forall_mem_map]
    exact Text.forall_toDigits (by decide) (by decide) value
  rw [readAnswer, Text.strip_solid ⟨hnonempty, hsolid⟩, List.map_congr_left hlower, List.map_id']

theorem promptNumber_typed {minimum maximum number : UInt32} (hminimum : minimum ≤ number)
    (hmaximum : number ≤ maximum) {digits : Nat} (hdigits : number.toNat = digits)
    (value : UInt32) (rest : Console) :
    promptNumber minimum maximum value (Text.decimal digits :: rest) = some (number, rest) := by
  have hparse : parseNumber minimum maximum (Text.decimal digits) = some number := by
    have hsize := number.toNat_lt
    unfold parseNumber
    rw [parseUnsigned_eq, Text.number_decimal, Option.bind_some, ← hdigits, if_pos hsize,
      UInt32.ofNat_toNat]
    simp [hminimum, hmaximum]
  unfold promptNumber prompt
  rw [readAnswer_decimal, if_neg (plain_decimal digits).nonempty, hparse]

theorem units_of_dvd {unit duration : UInt32} (h : unit.toNat ∣ duration.toNat) :
    duration / unit * unit = duration := by
  rw [← UInt32.toNat_inj, UInt32.toNat_mul, UInt32.toNat_div, Nat.div_mul_cancel h]
  exact Nat.mod_eq_of_lt duration.toNat_lt

theorem promptUnits_typed {unit minimum maximum duration : UInt32} (hunit : 0 < unit.toNat)
    (hminimum : minimum.toNat * unit.toNat ≤ duration.toNat)
    (hmaximum : duration.toNat ≤ maximum.toNat * unit.toNat) (value : UInt32) (rest : Console) :
    promptNumber minimum maximum value (Text.decimal (duration / unit).toNat :: rest) =
      some (duration / unit, rest) := by
  refine promptNumber_typed ?_ ?_ rfl value rest
  · rw [UInt32.le_iff_toNat_le, UInt32.toNat_div]
    exact (Nat.le_div_iff_mul_le hunit).mpr hminimum
  · rw [UInt32.le_iff_toNat_le, UInt32.toNat_div]
    exact Nat.div_le_of_le_mul (Nat.mul_comm .. ▸ hmaximum)

theorem minutes_typed {settings : UserSettings} (h : Representable settings) :
    settings.maximumRemoteRunTimeMs / millisecondsPerMinute * millisecondsPerMinute =
      settings.maximumRemoteRunTimeMs := units_of_dvd h.minutes

theorem seconds_typed {settings : UserSettings} (h : Representable settings) :
    settings.driverTakeoverTimeoutMs / millisecondsPerSecond * millisecondsPerSecond =
      settings.driverTakeoverTimeoutMs := units_of_dvd h.seconds

theorem configureSession_typed (settings : UserSettings) {after : UserSettings}
    (h : Representable after) (rest : Console) :
    configureSession settings (sessionQuestions.map (valueText after) ++ rest) =
      some ({ settings with
        remoteStartEnabled := after.remoteStartEnabled
        hoodMonitoring := after.hoodMonitoring
        driverEntryMode := after.driverEntryMode
        maximumRemoteRunTimeMs := after.maximumRemoteRunTimeMs
        driverTakeoverTimeoutMs := after.driverTakeoverTimeoutMs }, rest) := by
  obtain ⟨hhood, hentry⟩ := modes_of_valid h.valid
  obtain ⟨⟨hshort, hlong⟩, hbrief, hlate⟩ := times_of_valid h.valid
  rw [UInt32.le_iff_toNat_le] at hshort hlong hbrief hlate
  have hminutes := @promptUnits_typed millisecondsPerMinute 1 60 after.maximumRemoteRunTimeMs
    (by decide) hshort hlong
  have hseconds := @promptUnits_typed millisecondsPerSecond 10 300 after.driverTakeoverTimeoutMs
    (by decide) hbrief hlate
  unfold configureSession
  refine Option.bind_eq_some_iff.mpr ⟨_, promptBoolean_typed after.remoteStartEnabled _ _, ?_⟩
  refine Option.bind_eq_some_iff.mpr ⟨_, promptHoodMode_typed hhood _ _, ?_⟩
  refine Option.bind_eq_some_iff.mpr ⟨_, hminutes _ _, ?_⟩
  refine Option.bind_eq_some_iff.mpr ⟨_, promptDriverEntryMode_typed hentry _ _, ?_⟩
  refine Option.bind_eq_some_iff.mpr ⟨_, hseconds _ _, ?_⟩
  dsimp only
  rw [minutes_typed h, seconds_typed h]
  rfl

theorem promptLockTimings_typed (settings : UserSettings) {after : UserSettings}
    (h : LockKept after) (rest : Console) :
    promptLockTimings settings (lockQuestions.map (valueText after) ++ rest) =
      some ({ settings with
        lockPressCount := after.lockPressCount
        lockMinimumGapMs := after.lockMinimumGapMs
        lockMaximumGapMs := after.lockMaximumGapMs
        lockMaximumSequenceMs := after.lockMaximumSequenceMs }, rest) := by
  obtain ⟨hcount, hminimum, hmaximum, hsequence, -⟩ := h
  rw [outside_eq_false_iff UInt8.not_lt] at hcount
  rw [outside_eq_false_iff UInt32.not_lt] at hminimum hmaximum hsequence
  have hpresses : 2 ≤ after.lockPressCount.toUInt32 ∧ after.lockPressCount.toUInt32 ≤ 5 := by
    rw [UInt32.le_iff_toNat_le, UInt32.le_iff_toNat_le, UInt8.toNat_toUInt32]
    exact ⟨UInt8.le_iff_toNat_le.mp hcount.1, UInt8.le_iff_toNat_le.mp hcount.2⟩
  unfold promptLockTimings
  refine Option.bind_eq_some_iff.mpr ⟨_,
    promptNumber_typed hpresses.1 hpresses.2 (UInt8.toNat_toUInt32 _) _ _, ?_⟩
  refine Option.bind_eq_some_iff.mpr ⟨_, promptNumber_typed hminimum.1 hminimum.2 rfl _ _, ?_⟩
  refine Option.bind_eq_some_iff.mpr ⟨_, promptNumber_typed hmaximum.1 hmaximum.2 rfl _ _, ?_⟩
  refine Option.bind_eq_some_iff.mpr ⟨_, promptNumber_typed hsequence.1 hsequence.2 rfl _ _, ?_⟩
  dsimp only
  rw [UInt8.toUInt8_toUInt32]
  rfl

theorem promptField_typed {minimum maximum field : UInt16}
    (h : outside field minimum maximum = false) (value : UInt32) (rest : Console) :
    promptNumber minimum.toUInt32 maximum.toUInt32 value (Text.decimal field.toNat :: rest) =
      some (field.toUInt32, rest) := by
  rw [outside_eq_false_iff UInt16.not_lt] at h
  refine promptNumber_typed ?_ ?_ (UInt16.toNat_toUInt32 _) value rest
  · rw [UInt32.le_iff_toNat_le, UInt16.toNat_toUInt32, UInt16.toNat_toUInt32]
    exact UInt16.le_iff_toNat_le.mp h.1
  · rw [UInt32.le_iff_toNat_le, UInt16.toNat_toUInt32, UInt16.toNat_toUInt32]
    exact UInt16.le_iff_toNat_le.mp h.2

theorem configureTelemetry_typed (settings : UserSettings) {after : UserSettings}
    (h : TelemetryKept after) (rest : Console) :
    configureTelemetry settings (telemetryQuestions.map (valueText after) ++ rest) =
      some ({ settings with
        coldEngineMaximumRpm := after.coldEngineMaximumRpm
        engineWarmTemperatureC := after.engineWarmTemperatureC
        transmissionOverheatTemperatureC := after.transmissionOverheatTemperatureC
        temperatureAlertHysteresisC := after.temperatureAlertHysteresisC }, rest) := by
  obtain ⟨hcold, hwarm, htransmission, hhysteresis⟩ := h
  unfold configureTelemetry
  refine Option.bind_eq_some_iff.mpr ⟨_, promptField_typed hcold _ _, ?_⟩
  refine Option.bind_eq_some_iff.mpr ⟨_, promptField_typed hwarm _ _, ?_⟩
  refine Option.bind_eq_some_iff.mpr ⟨_, promptField_typed htransmission _ _, ?_⟩
  refine Option.bind_eq_some_iff.mpr ⟨_, promptField_typed hhysteresis _ _, ?_⟩
  dsimp only
  rw [UInt16.toUInt16_toUInt32, UInt16.toUInt16_toUInt32, UInt16.toUInt16_toUInt32,
    UInt16.toUInt16_toUInt32]
  rfl

theorem promptFeatures_typed (asked : FeatureRequests) {features : FeatureRequests}
    {catalog : List FeatureDescriptor} (hvalid : features.valid = true)
    (hknown : ∀ feature ∈ catalog, feature.id ≠ .count) (rest : Console) :
    ∃ result, promptFeatures features
        (catalog.map (fun feature => boolean (asked.enabled feature.id)) ++ rest) catalog =
          some (result, rest) ∧ result.valid = true ∧
      ∀ id, result.enabled id = asked.enabled id ∨
        id ∉ catalog.map (·.id) ∧ result.enabled id = features.enabled id := by
  induction catalog generalizing features with
  | nil => exact ⟨features, rfl, hvalid, fun id => .inr ⟨List.not_mem_nil, rfl⟩⟩
  | cons feature others ih =>
    obtain ⟨hfeature, hothers⟩ := List.forall_mem_cons.mp hknown
    obtain ⟨next, hset⟩ :=
      FeatureRequests.exists_setEnabled hfeature features (asked.enabled feature.id)
    obtain ⟨result, hprompt, hresult, hkept⟩ :=
      ih (FeatureRequests.valid_setEnabled hvalid hset) hothers
    refine ⟨result, ?_, hresult, fun id => ?_⟩
    · unfold promptFeatures
      refine Option.bind_eq_some_iff.mpr ⟨_, promptBoolean_typed _ _ _, ?_⟩
      exact Option.bind_eq_some_iff.mpr ⟨_, hset, hprompt⟩
    · have henabled := FeatureRequests.enabled_setEnabled hset id
      rcases hkept id with hasked | ⟨hother, hsame⟩
      · exact .inl hasked
      · by_cases hid : id = feature.id
        · rw [hsame, henabled, if_pos hid, hid]
          exact .inl rfl
        · rw [hsame, henabled, if_neg hid]
          refine .inr ⟨?_, rfl⟩
          rw [List.map_cons, List.mem_cons, not_or]
          exact ⟨hid, hother⟩

theorem promptFeatureSelection_typed (settings : UserSettings) {after : UserSettings}
    (hsettings : settings.features.valid = true) (hafter : after.features.valid = true)
    (rest : Console) :
    promptFeatureSelection settings
        (ascii "oui" :: featureQuestions.map (valueText after) ++ rest) =
      some ({ settings with features := after.features }, rest) := by
  have hknown : ∀ feature ∈ featureCatalog, feature.id ≠ .count := by decide
  have hlisted : ∀ id, id = FeatureId.count ∨ id ∈ featureCatalog.map (·.id) := by
    intro id
    cases id <;> decide
  obtain ⟨result, hprompt, hresult, hkept⟩ :=
    promptFeatures_typed after.features hsettings hknown rest
  have hsame : result = after.features := by
    refine FeatureRequests.eq_of_enabled hresult hafter fun id hid => ?_
    rcases hkept id with hasked | ⟨hother, -⟩
    · exact hasked
    · exact absurd ((hlisted id).resolve_left hid) hother
  unfold promptFeatureSelection
  refine Option.bind_eq_some_iff.mpr ⟨(true, _), rfl, ?_⟩
  refine Option.bind_eq_some_iff.mpr ⟨_, hprompt, ?_⟩
  rw [hsame]
  rfl

/-- The assistant takes the values as the file spells them. -/
theorem configure_typed {settings after : UserSettings}
    (hsettings : (validateUserSettings settings).valid = true) (h : Representable after)
    (rest : Console) :
    configureInteractively settings (answersFor after ++ rest) = some (after, rest) := by
  obtain ⟨-, -, hfeatures, htelemetry⟩ := (valid_iff settings).mp hsettings
  obtain ⟨hsession', hlock', hfeatures', htelemetry'⟩ := (valid_iff after).mp h.valid
  unfold answersFor configureInteractively
  rw [List.map_append, List.map_append, List.append_assoc, List.append_assoc, List.append_assoc]
  refine Option.bind_eq_some_iff.mpr ⟨_, configureSession_typed settings h _, ?_⟩
  refine Option.bind_eq_some_iff.mpr ⟨_, configureLock_once (promptLockTimings_typed _ hlock' _)
    ((valid_iff _).mpr ⟨hsession', hlock', hfeatures, htelemetry⟩), ?_⟩
  refine Option.bind_eq_some_iff.mpr ⟨_, configureTelemetry_typed _ htelemetry' _, ?_⟩
  exact promptFeatureSelection_typed { after with features := settings.features } hfeatures
    hfeatures' rest

/-! Without answers, everything stays. -/

def enters (count : Nat) : Console := List.replicate count []

theorem configure_blank {settings : UserSettings} (h : Representable settings) (rest : Console) :
    configureInteractively settings (enters 14 ++ rest) = some (settings, rest) := by
  have hsession : configureSession settings (enters 14 ++ rest) =
      some (settings, enters 9 ++ rest) := by
    change some (_, _) = some (_, _)
    rw [minutes_typed h, seconds_typed h]
    rfl
  have hlock : promptLockTimings settings (enters 9 ++ rest) =
      some (settings, enters 5 ++ rest) := by
    change some (_, _) = some (_, _)
    rw [UInt8.toUInt8_toUInt32]
    rfl
  have htelemetry : configureTelemetry settings (enters 5 ++ rest) =
      some (settings, enters 1 ++ rest) := by
    change some (_, _) = some (_, _)
    rw [UInt16.toUInt16_toUInt32, UInt16.toUInt16_toUInt32, UInt16.toUInt16_toUInt32,
      UInt16.toUInt16_toUInt32]
    rfl
  unfold configureInteractively
  refine Option.bind_eq_some_iff.mpr ⟨_, hsession, ?_⟩
  refine Option.bind_eq_some_iff.mpr ⟨_, configureLock_once hlock h.valid, ?_⟩
  exact Option.bind_eq_some_iff.mpr ⟨_, htelemetry, rfl⟩

/-- The assistant gives exactly the settings that the file has values for. Whatever is typed,
no others come out; each of them can be asked for, whatever valid settings it starts
from; and a user who only presses the enter key keeps those that he has. -/
theorem assistant_reaches (settings : UserSettings) :
    (∀ lines after rest, configureInteractively settings lines = some (after, rest) →
      Representable after) ∧
    ((validateUserSettings settings).valid = true → ∀ after, Representable after → ∀ rest,
      configureInteractively settings (answersFor after ++ rest) = some (after, rest)) ∧
    (Representable settings → ∀ rest,
      configureInteractively settings (enters 14 ++ rest) = some (settings, rest)) :=
  ⟨fun _ _ _ h => representable_of_configure h, fun hvalid _ h rest => configure_typed hvalid h rest,
    fun h rest => configure_blank h rest⟩

/-! What the file is read as. -/

theorem spelled_of_mem_assignments {setting : Setting} {number : Nat}
    (h : (setting, number) ∈ assignments lines) :
    ∃ text, setting.spelling.parse text = some number := by
  obtain ⟨line, -, hline⟩ := List.mem_flatMap.mp h
  unfold assigned at hline
  split at hline
  · cases hline
  split at hline
  · cases hline
  rename_i key text _
  cases hsetting : settingOf key with
  | none =>
    rw [hsetting] at hline
    cases hline
  | some other =>
    rw [hsetting, Option.bind_some] at hline
    cases hparse : other.spelling.parse text with
    | none =>
      rw [hparse] at hline
      cases hline
    | some value =>
      rw [hparse, Option.map_some, Option.getD_some, List.mem_singleton] at hline
      cases hline
      exact ⟨text, hparse⟩

theorem dvd_of_spelled {unit size number : Nat} {text : Text}
    (h : (Spelling.number unit size).parse text = some number) : unit ∣ number := by
  obtain ⟨value, -, h⟩ := Option.bind_eq_some_iff.mp h
  split at h
  · cases h
    exact Nat.dvd_mul_left _ _
  · cases h

theorem dvd_of_parse {input : InputStream} {settings : UserSettings}
    (h : parseInput input = .ok settings) {setting : Setting} {unit size : Nat}
    (hspelling : setting.spelling = .number unit size) (hdefault : unit ∣ reading {} setting) :
    unit ∣ reading settings setting := by
  obtain ⟨-, hformed, -, hreading⟩ := (parseInput_eq_ok_iff input settings).mp h
  rw [hreading]
  by_cases hmem : setting ∈ (assignments input.lines).map Prod.fst
  · obtain ⟨⟨_, number⟩, hassignment, rfl⟩ := List.mem_map.mp hmem
    obtain ⟨text, htext⟩ := spelled_of_mem_assignments hassignment
    rw [hspelling] at htext
    rw [assign_of_mem hformed.distinct hassignment]
    exact dvd_of_spelled htext
  · rw [assign_of_not_mem hmem]
    exact hdefault

theorem representable_of_parse {input : InputStream} {settings : UserSettings}
    (h : parseInput input = .ok settings) : Representable settings where
  valid := ((parseInput_eq_ok_iff input settings).mp h).2.2.1
  minutes := @dvd_of_parse _ _ h .remoteRunMinutes _ _ rfl (by decide)
  seconds := @dvd_of_parse _ _ h .takeoverTimeoutSeconds _ _ rfl (by decide)

/-! Runs of the assistant. -/

variable {path : Text} {answers : InteractiveAnswers} {start : Files} {existing settings : UserSettings}

structure Begins (path : Text) (answers : InteractiveAnswers) (start : Files)
    (existing : UserSettings) : Prop where
  inspected : answers.inspected = none
  loaded : start path = none ∧ existing = {} ∨
    path ≠ [] ∧ answers.existing = .whole ∧ ∃ text, start path = some text ∧ Reads text existing

def Completes (path : Text) (answers : InteractiveAnswers) (lines : Console) (start : Files)
    (settings : UserSettings) : Prop :=
  ∃ existing rest, Begins path answers start existing ∧
    configureInteractively existing lines = some (settings, rest)

theorem Begins.representable (h : Begins path answers start existing) : Representable existing := by
  rcases h.loaded with ⟨-, rfl⟩ | ⟨-, -, text, -, hreads⟩
  · exact ⟨by decide, by decide, by decide⟩
  · exact representable_of_parse hreads

theorem Begins.loadExisting_eq (h : Begins path answers start existing) :
    loadExisting path answers start = ⟨true, existing, []⟩ := by
  unfold loadExisting
  rcases h.loaded with ⟨hmissing, rfl⟩ | ⟨hpath, hwhole, text, htext, hreads⟩
  · rw [hmissing]
    rfl
  · rw [htext, Option.isSome_some, if_pos rfl, hwhole]
    exact load_whole hpath htext hreads {}

theorem begins_of_load (hinspected : answers.inspected = none)
    (h : (loadExisting path answers start).success = true) :
    Begins path answers start (loadExisting path answers start).settings := by
  refine ⟨hinspected, ?_⟩
  unfold loadExisting at h ⊢
  cases htext : start path with
  | none => exact .inl ⟨rfl, rfl⟩
  | some text =>
    rw [htext, Option.isSome_some, if_pos rfl] at h
    rw [Option.isSome_some, if_pos rfl]
    obtain ⟨hpath, hwhole, stored, read, hstored, hreads, hload⟩ := load_success_iff.mp h
    rw [hload]
    rw [htext] at hstored
    cases hstored
    exact .inr ⟨hpath, hwhole, text, rfl, hreads⟩

theorem runInteractive_completes (h : Completes path answers lines start settings) :
    runInteractive path answers lines { files := start } =
      let saved := saveUserSettingsFile path settings answers.saving { files := start }
      (if saved.1.1 then .saved settings else .unsaved settings saved.1.2, saved.2) := by
  obtain ⟨existing, rest, hbegins, hconfigure⟩ := h
  unfold runInteractive
  rw [hbegins.inspected]
  dsimp only
  rw [hbegins.loadExisting_eq, hconfigure]
  rfl

theorem runInteractive_untouched (h : ∀ settings, ¬ Completes path answers lines start settings) :
    (runInteractive path answers lines { files := start }).2 = { files := start } ∧
      ∀ settings, (runInteractive path answers lines { files := start }).1 ≠ .saved settings := by
  unfold runInteractive
  cases hinspected : answers.inspected with
  | some message => exact ⟨rfl, nofun⟩
  | none =>
    dsimp only
    cases hloaded : (loadExisting path answers start).success with
    | false => exact ⟨rfl, nofun⟩
    | true =>
      have hbegins := begins_of_load hinspected hloaded
      cases hconfigure : configureInteractively (loadExisting path answers start).settings lines with
      | none => exact ⟨rfl, nofun⟩
      | some outcome => exact absurd ⟨_, outcome.2, hbegins, hconfigure⟩ (h outcome.1)

theorem Completes.representable (h : Completes path answers lines start settings) :
    Representable settings := by
  obtain ⟨_, _, _, hconfigure⟩ := h
  exact representable_of_configure hconfigure

theorem Completes.unique {other : UserSettings} (h : Completes path answers lines start settings)
    (hother : Completes path answers lines start other) : settings = other := by
  obtain ⟨existing, rest, hbegins, hconfigure⟩ := h
  obtain ⟨existing', rest', hbegins', hconfigure'⟩ := hother
  have hload := hbegins.loadExisting_eq.symm.trans hbegins'.loadExisting_eq
  cases hload
  rw [hconfigure] at hconfigure'
  cases hconfigure'
  rfl

theorem Begins.completes_blank (h : Begins path answers start existing) (rest : Console) :
    Completes path answers (enters 14 ++ rest) start existing :=
  ⟨existing, rest, h, configure_blank h.representable rest⟩

/-- The assistant loses nothing and saves nothing half. For every file, every line of input,
every failure of the file system and every point at which it is stopped: it comes to its
end with settings that a file has values for only, and saves exactly when every call of the
save then works; the file loads as them. What can be got back is otherwise what it was, and a run that is
given up has not touched the files. Who only presses the enter key comes to the end with the
settings that were there. -/
theorem assistant_never_loses (path : Text) (answers : InteractiveAnswers) (lines : Console)
    (start : Files) :
    let run := runInteractive path answers lines { files := start }
    (∀ settings, Completes path answers lines start settings → Representable settings) ∧
    (∀ settings, run.1 = .saved settings ↔ Completes path answers lines start settings ∧
      SaveWorks path settings answers.saving start) ∧
    (∀ settings, run.1 = .saved settings → ∀ before,
      loadUserSettingsFile path .whole run.2.files before = ⟨true, settings, []⟩) ∧
    ((∀ settings, run.1 ≠ .saved settings) → recovered path run.2.files = recovered path start) ∧
    ((∀ settings, ¬ Completes path answers lines start settings) → run.2 = { files := start }) ∧
    (run.2.Always fun files => Untouched path start files ∧
      (recovered path files = recovered path start ∨
        ∃ settings, Completes path answers lines start settings ∧
          ∃ text, recovered path files = some text ∧ Reads text settings)) ∧
    ∀ existing rest, Begins path answers start existing → lines = enters 14 ++ rest →
      Completes path answers lines start existing := by
  intro run
  have hblank : ∀ existing rest, Begins path answers start existing → lines = enters 14 ++ rest →
      Completes path answers lines start existing := by
    rintro existing rest hbegins rfl
    exact hbegins.completes_blank rest
  by_cases hcompletes : ∃ settings, Completes path answers lines start settings
  · obtain ⟨settings, hsettings⟩ := hcompletes
    have hrun := runInteractive_completes hsettings
    have hkept := saveUserSettingsFile_kept path settings answers.saving start
    have hworks := save_succeeds_iff path settings answers.saving start
    have hloads := load_saved path settings answers.saving start
    change run = _ at hrun
    generalize saveUserSettingsFile path settings answers.saving { files := start } = saved
      at hrun hkept hworks hloads
    have hsaved : ∀ other, run.1 = .saved other ↔ saved.1.1 = true ∧ settings = other := by
      intro other
      rw [hrun]
      dsimp only
      split
      · rename_i hsuccess
        simp [hsuccess]
      · rename_i hfailed
        simp [hfailed]
    have hdisk : run.2 = saved.2 := congrArg Prod.snd hrun
    rw [hdisk]
    refine ⟨fun _ h => h.representable, fun other => ?_, fun other h => ?_, fun h => ?_,
      fun h => absurd hsettings (h settings), ?_, hblank⟩
    · rw [hsaved]
      constructor
      · rintro ⟨hsuccess, rfl⟩
        exact ⟨hsettings, hworks.mp hsuccess⟩
      · rintro ⟨hother, hother'⟩
        obtain rfl := hsettings.unique hother
        exact ⟨hworks.mpr hother', rfl⟩
    · obtain ⟨hsuccess, rfl⟩ := (hsaved other).mp h
      exact hloads hsuccess
    · refine (hkept.failure ?_).1
      rw [← Bool.not_eq_true]
      exact fun hsuccess => h settings ((hsaved settings).mpr ⟨hsuccess, rfl⟩)
    · refine hkept.always.mono fun files hsafe => ⟨hsafe.untouched, ?_⟩
      rcases hsafe.recovered with hsame | hreads
      · exact .inl hsame
      · exact .inr ⟨settings, hsettings, hreads⟩
  · have hnone : ∀ settings, ¬ Completes path answers lines start settings :=
      fun settings h => hcompletes ⟨settings, h⟩
    obtain ⟨huntouched, hunsaved⟩ := runInteractive_untouched hnone
    change run.2 = _ at huntouched
    change ∀ settings, run.1 ≠ _ at hunsaved
    refine ⟨fun _ h => h.representable, fun settings => ?_,
      fun settings h => absurd h (hunsaved settings), fun _ => ?_, fun _ => huntouched, ?_, hblank⟩
    · exact ⟨fun h => absurd h (hunsaved settings), fun h => absurd h.1 (hnone settings)⟩
    · rw [huntouched]
    · rw [huntouched]
      exact Disk.always_start ⟨fun _ _ _ _ => rfl, .inl rfl⟩

end BmwRemote.Host.SettingsConfigurator
