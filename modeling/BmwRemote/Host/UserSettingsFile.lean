import BmwRemote.Application.FeatureCatalog
import BmwRemote.Lib.TextWriting

/-! The file that keeps a user's settings: one `key=value` on a line, comments behind `#`. -/
namespace BmwRemote.Host.UserSettingsFile

open BmwRemote.Application BmwRemote.Lib

def comment : UInt8 := 35
def equals : UInt8 := 61

def featureKeyPrefix : Text := .ascii "feature."

/-- A number that does not fit 32 bits is out of range for `std::from_chars` here. -/
def parseUnsigned (text : Text) : Option UInt32 :=
  if text = [] then none
  else
    match Text.fromChars 10 text with
    | (some parsed, []) => if parsed.toNat < UInt32.size then some parsed.toUInt32 else none
    | _ => none

def parseScaledDuration (text : Text) (scale : UInt32) : Option UInt32 :=
  (parseUnsigned text).bind fun value =>
    if value > 4294967295 / scale then none else some (value * scale)

def parseBoolean (text : Text) : Option Bool :=
  if text = .ascii "true" then some true
  else if text = .ascii "false" then some false
  else none

def hasKey (keys : List Text) (key : Text) : Bool := decide (key ∈ keys)

def lineError (lineNumber : Nat) (message : Text) : Text :=
  .ascii "line " ++ Text.decimal lineNumber ++ .ascii ": " ++ message

def isFeatureKey (key : Text) : Bool :=
  decide (key.length > featureKeyPrefix.length) &&
    key.take featureKeyPrefix.length == featureKeyPrefix

def applySetting (key value : Text) (settings : UserSettings) : Option UserSettings :=
  if key = .ascii "remote_start_enabled" then
    (parseBoolean value).map fun enabled => { settings with remoteStartEnabled := enabled }
  else if key = .ascii "hood_monitoring" then
    if value = .ascii "required" then some { settings with hoodMonitoring := .required }
    else if value = .ascii "disabled" ∨ value = .ascii "optional" then
      some { settings with hoodMonitoring := .disabled }
    else none
  else if key = .ascii "driver_entry_mode" then
    if value = .ascii "require_takeover" ∨ value = .ascii "require-takeover" then
      some { settings with driverEntryMode := .requireTakeover }
    else if value = .ascii "stop_immediately" ∨ value = .ascii "stop-immediately" then
      some { settings with driverEntryMode := .stopImmediately }
    else none
  else if key = .ascii "remote_run_minutes" then
    (parseScaledDuration value 60000).map fun duration =>
      { settings with maximumRemoteRunTimeMs := duration }
  else if key = .ascii "takeover_timeout_seconds" then
    (parseScaledDuration value 1000).map fun duration =>
      { settings with driverTakeoverTimeoutMs := duration }
  else if isFeatureKey key then
    (findFeatureByCode (key.drop featureKeyPrefix.length)).bind fun feature =>
      (parseBoolean value).bind fun enabled =>
        (settings.features.setEnabled feature.id enabled).map fun features =>
          { settings with features := features }
  else
    (parseUnsigned value).bind fun parsed =>
      if key = .ascii "lock_press_count" then
        if parsed > 255 then none else some { settings with lockPressCount := parsed.toUInt8 }
      else if key = .ascii "lock_minimum_gap_ms" then
        some { settings with lockMinimumGapMs := parsed }
      else if key = .ascii "lock_maximum_gap_ms" then
        some { settings with lockMaximumGapMs := parsed }
      else if key = .ascii "lock_sequence_window_ms" then
        some { settings with lockMaximumSequenceMs := parsed }
      else if parsed > 65535 then none
      else if key = .ascii "cold_engine_maximum_rpm" then
        some { settings with coldEngineMaximumRpm := parsed.toUInt16 }
      else if key = .ascii "engine_warm_temperature_c" then
        some { settings with engineWarmTemperatureC := parsed.toUInt16 }
      else if key = .ascii "transmission_overheat_temperature_c" then
        some { settings with transmissionOverheatTemperatureC := parsed.toUInt16 }
      else if key = .ascii "temperature_alert_hysteresis_c" then
        some { settings with temperatureAlertHysteresisC := parsed.toUInt16 }
      else none

def knownKey (key : Text) : Bool :=
  if isFeatureKey key then (findFeatureByCode (key.drop featureKeyPrefix.length)).isSome
  else key == .ascii "remote_start_enabled" || key == .ascii "hood_monitoring" ||
    key == .ascii "driver_entry_mode" || key == .ascii "remote_run_minutes" ||
    key == .ascii "takeover_timeout_seconds" || key == .ascii "lock_press_count" ||
    key == .ascii "lock_minimum_gap_ms" || key == .ascii "lock_maximum_gap_ms" ||
    key == .ascii "lock_sequence_window_ms" || key == .ascii "cold_engine_maximum_rpm" ||
    key == .ascii "engine_warm_temperature_c" ||
    key == .ascii "transmission_overheat_temperature_c" ||
    key == .ascii "temperature_alert_hysteresis_c"

/-! Reading. -/

/-- What `std::getline` yields of a stream, and whether the stream has then come to its end. -/
structure InputStream where
  lines : List Text
  eof : Bool

def InputStream.ofText (text : Text) : InputStream := ⟨text.lines, true⟩

/-- What counts of a line. -/
def content (line : Text) : Text :=
  Text.strip
    (match Text.cut comment line with
    | none => line
    | some (before, _) => before)

def splitContent (content : Text) : Except Text (Text × Text) :=
  match Text.cut equals content with
  | none => .error (.ascii "expected key=value")
  | some (before, after) =>
    if equals ∈ after then .error (.ascii "expected key=value")
    else if before.strip = [] ∨ after.strip = [] then
      .error (.ascii "key and value must not be empty")
    else .ok (before.strip, after.strip)

def quoted (message : String) (key : Text) : Text := .ascii message ++ key ++ .ascii "'"

def parseLine (line : Text) (parsed : UserSettings) (keys : List Text) :
    Except Text (UserSettings × List Text) :=
  if content line = [] then .ok (parsed, keys)
  else do
    let (key, value) ← splitContent (content line)
    if knownKey key = false then throw (quoted "unknown setting '" key)
    if hasKey keys key then throw (quoted "duplicate setting '" key)
    match applySetting key value parsed with
    | none => throw (quoted "invalid value for '" key)
    | some parsed => pure (parsed, keys ++ [key])

def parseLines : Nat → List Text → UserSettings → List Text → Except Text UserSettings
  | _, [], parsed, _ => .ok parsed
  | lineNumber, line :: lines, parsed, keys =>
    match parseLine line parsed keys with
    | .error message => .error (lineError (lineNumber + 1) message)
    | .ok (parsed, keys) => parseLines (lineNumber + 1) lines parsed keys

def boundsError (validation : UserSettingsValidation) : Text :=
  .ascii "configuration rejected by safety bounds, reasons_mask=" ++
    Text.decimal validation.reasons.toNat

def parseInput (input : InputStream) : Except Text UserSettings := do
  let parsed ← parseLines 0 input.lines {} []
  if input.eof = false then throw (.ascii "unable to read configuration")
  let validation := validateUserSettings parsed
  if validation.valid = false then throw (boundsError validation)
  pure parsed

/-- What a caller is left with: the answer, the settings that it passed and the error. -/
structure Outcome where
  success : Bool
  settings : UserSettings
  error : Text
  deriving DecidableEq

def parseUserSettings (input : InputStream) (settings : UserSettings) : Outcome :=
  match parseInput input with
  | .error error => ⟨false, settings, error⟩
  | .ok parsed => ⟨true, parsed, []⟩

/-! Writing. -/

/-- A stream that has failed takes nothing more. -/
structure OutputStream where
  written : Text := []
  failed : Bool := false
  deriving DecidableEq

def OutputStream.put (output : OutputStream) (text : Text) : OutputStream :=
  if output.failed then output else { output with written := output.written ++ text }

def boolean (value : Bool) : Text := if value then .ascii "true" else .ascii "false"

def hoodMonitoringText (mode : HoodMonitoringMode) : Text :=
  if mode = .required then .ascii "required"
  else if mode = .disabled then .ascii "disabled"
  else .ascii "unknown"

def driverEntryModeText (mode : DriverEntryMode) : Text :=
  if mode = .requireTakeover then .ascii "require_takeover"
  else if mode = .stopImmediately then .ascii "stop_immediately"
  else .ascii "unknown"

def entry (key value : Text) : Text := key ++ equals :: value

def settingsLines (settings : UserSettings) : List Text :=
  [Text.ascii "# BMW E9x Remote Control - configuration utilisateur",
    Text.ascii "# Generee par le configurateur ; les valeurs invalides sont refusees.",
    [],
    entry (Text.ascii "remote_start_enabled") (boolean settings.remoteStartEnabled),
    entry (Text.ascii "hood_monitoring") (hoodMonitoringText settings.hoodMonitoring),
    entry (Text.ascii "remote_run_minutes")
      (Text.decimal (settings.maximumRemoteRunTimeMs / 60000).toNat),
    entry (Text.ascii "driver_entry_mode") (driverEntryModeText settings.driverEntryMode),
    entry (Text.ascii "takeover_timeout_seconds")
      (Text.decimal (settings.driverTakeoverTimeoutMs / 1000).toNat),
    entry (Text.ascii "lock_press_count") (Text.decimal settings.lockPressCount.toNat),
    entry (Text.ascii "lock_minimum_gap_ms") (Text.decimal settings.lockMinimumGapMs.toNat),
    entry (Text.ascii "lock_maximum_gap_ms") (Text.decimal settings.lockMaximumGapMs.toNat),
    entry (Text.ascii "lock_sequence_window_ms") (Text.decimal settings.lockMaximumSequenceMs.toNat),
    [],
    Text.ascii "# Seuils de telemetrie en lecture seule.",
    entry (Text.ascii "cold_engine_maximum_rpm") (Text.decimal settings.coldEngineMaximumRpm.toNat),
    entry (Text.ascii "engine_warm_temperature_c")
      (Text.decimal settings.engineWarmTemperatureC.toNat),
    entry (Text.ascii "transmission_overheat_temperature_c")
      (Text.decimal settings.transmissionOverheatTemperatureC.toNat),
    entry (Text.ascii "temperature_alert_hysteresis_c")
      (Text.decimal settings.temperatureAlertHysteresisC.toNat),
    [],
    Text.ascii "# Fonctionnalites modulaires ; toutes sont desactivees par defaut."] ++
  featureCatalog.map fun feature =>
    entry (featureKeyPrefix ++ feature.code) (boolean (settings.features.enabled feature.id))

structure WriteOutcome where
  success : Bool
  output : OutputStream
  error : Text
  deriving DecidableEq

def writeUserSettings (output : OutputStream) (settings : UserSettings) : WriteOutcome :=
  let validation := validateUserSettings settings
  if validation.valid = false then ⟨false, output, boundsError validation⟩
  else if settings.maximumRemoteRunTimeMs % 60000 ≠ 0 then
    ⟨false, output, .ascii "remote run time cannot be represented as whole minutes"⟩
  else if settings.driverTakeoverTimeoutMs % 1000 ≠ 0 then
    ⟨false, output, .ascii "takeover timeout cannot be represented as whole seconds"⟩
  else
    let output := output.put (Text.unlines (settingsLines settings))
    if output.failed then ⟨false, output, .ascii "unable to write configuration"⟩
    else ⟨true, output, []⟩

end BmwRemote.Host.UserSettingsFile
