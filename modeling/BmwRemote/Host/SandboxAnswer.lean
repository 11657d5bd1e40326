import BmwRemote.Host.SandboxSession
import BmwRemote.Lib.Json

/-! What the sandbox answers to a command: one line of JSON. -/
namespace BmwRemote.Application

/-! `toString`. -/

def ControllerState.toString : ControllerState → String
  | .idle => "idle"
  | .authorizing => "authorizing"
  | .preparing => "preparing"
  | .cranking => "cranking"
  | .running => "running"
  | .awaitingTakeover => "awaiting_takeover"
  | .driverControl => "driver_control"
  | .stopping => "stopping"
  | .fault => "fault"

def FaultCode.toString : FaultCode → String
  | .none => "none"
  | .safetyInterlock => "safety_interlock"
  | .vehicleCommunication => "vehicle_communication"
  | .authorizationTimeout => "authorization_timeout"
  | .crankTimeout => "crank_timeout"
  | .stopTimeout => "stop_timeout"
  | .actuatorFailure => "actuator_failure"
  | .timerFailure => "timer_failure"
  | .internalError => "internal_error"

def EventType.toString : EventType → String
  | .remoteStartRequested => "remote_start_requested"
  | .remoteStopRequested => "remote_stop_requested"
  | .vehicleStateUpdated => "vehicle_state_updated"
  | .timerElapsed => "timer_elapsed"
  | .driverTakeoverConfirmed => "driver_takeover_confirmed"
  | .infrastructureFailure => "infrastructure_failure"
  | .resetRequested => "reset_requested"

def ActionType.toString : ActionType → String
  | .requestVehicleState => "request_vehicle_state"
  | .enableIgnition => "enable_ignition"
  | .engageStarter => "engage_starter"
  | .disengageStarter => "disengage_starter"
  | .releaseRemoteControl => "release_remote_control"
  | .secureOutputs => "secure_outputs"
  | .armTimer => "arm_timer"
  | .cancelTimer => "cancel_timer"
  | .notifyProfileRejected => "notify_profile_rejected"
  | .notifyRemoteStartDisabled => "notify_remote_start_disabled"
  | .notifyStartAccepted => "notify_start_accepted"
  | .notifyStartRejected => "notify_start_rejected"
  | .notifyRunning => "notify_running"
  | .notifyTakeoverPending => "notify_takeover_pending"
  | .notifyTakeoverComplete => "notify_takeover_complete"
  | .notifyStopping => "notify_stopping"
  | .notifyStopped => "notify_stopped"
  | .notifyFault => "notify_fault"
  | .notifyReady => "notify_ready"
  | .notifyRequestIgnored => "notify_request_ignored"
  | .notifyResetRejected => "notify_reset_rejected"

def TelemetryConditionState.toString : TelemetryConditionState → String
  | .disabled => "disabled"
  | .unavailable => "unavailable"
  | .normal => "normal"
  | .active => "active"

def TelemetryAlertType.toString : TelemetryAlertType → String
  | .coldEngineHighRpm => "cold_engine_high_rpm"
  | .coldEngineRecovered => "cold_engine_recovered"
  | .dpfRegenerationStarted => "dpf_regeneration_started"
  | .dpfRegenerationStopped => "dpf_regeneration_stopped"
  | .transmissionOverheat => "transmission_overheat"
  | .transmissionTemperatureRecovered => "transmission_temperature_recovered"

end BmwRemote.Application

namespace BmwRemote.Infrastructure

def ActuatorSupervisorFault.toString : ActuatorSupervisorFault → String
  | .none => "none"
  | .invalidConfiguration => "invalid_configuration"
  | .initializationFailure => "initialization_failure"
  | .clockRegression => "clock_regression"
  | .watchdogExpired => "watchdog_expired"
  | .hardwareInterlockLost => "hardware_interlock_lost"
  | .starterTimeout => "starter_timeout"
  | .commandSequence => "command_sequence"
  | .driverFailure => "driver_failure"
  | .feedbackUnavailable => "feedback_unavailable"
  | .feedbackMismatch => "feedback_mismatch"
  | .safingFailure => "safing_failure"

end BmwRemote.Infrastructure

namespace BmwRemote.Host

open BmwRemote.Domain BmwRemote.Application BmwRemote.Infrastructure BmwRemote.Lib
open BmwRemote.Lib.Text (ascii decimal)

def gearToString : Gear → String
  | .park => "park"
  | .neutral => "neutral"
  | .reverse => "reverse"
  | .drive => "drive"
  | .unknown => "unknown"

def escapeJsonCharacter (character : UInt8) : Text :=
  if character = 34 then ascii "\\\""
  else if character = 92 then ascii "\\\\"
  else if character = 8 then ascii "\\b"
  else if character = 12 then ascii "\\f"
  else if character = 10 then ascii "\\n"
  else if character = 13 then ascii "\\r"
  else if character = 9 then ascii "\\t"
  else if character < 32 then ascii "?"
  else [character]

def escapeJson (value : Text) : Text := value.flatMap escapeJsonCharacter

def boolalpha (value : Bool) : Text := ascii (if value then "true" else "false")

def signed (value : Int16) : Text :=
  if value < 0 then ascii "-" ++ decimal value.toInt.natAbs else decimal value.toInt.natAbs

def quoted (name : String) : Text := ascii "\"" ++ ascii name ++ ascii "\""

def label (name : String) : Text := quoted name ++ ascii ":"

def encodeNames (names : List String) : Text :=
  match names with
  | [] => []
  | name :: others =>
      quoted name ++ others.flatMap fun name => ascii "," ++ quoted name

def encodeSandboxResult (result : SandboxResult) : Text :=
  let snapshot := result.snapshot
  let vehicle := snapshot.vehicle
  ascii "\x7b" ++ label "ok" ++ boolalpha result.ok
    ++ ascii "," ++ label "error" ++ ascii "\"" ++ escapeJson result.error ++ ascii "\""
    ++ ascii "," ++ label "time_ms" ++ decimal snapshot.timeMs.toNat
    ++ ascii "," ++ label "state" ++ quoted snapshot.state.toString
    ++ ascii "," ++ label "fault" ++ quoted snapshot.fault.toString
    ++ ascii "," ++ label "supervisor_fault" ++ quoted snapshot.supervisorFault.toString
    ++ ascii "," ++ label "timer_armed" ++ boolalpha snapshot.timerArmed
    ++ ascii "," ++ label "timer_due_ms" ++ decimal snapshot.timerDueMs.toNat
    ++ ascii "," ++ label "timer_duration_ms" ++ decimal snapshot.timerDurationMs.toNat
    ++ ascii "," ++ label "ignition_active" ++ boolalpha snapshot.ignitionActive
    ++ ascii "," ++ label "starter_active" ++ boolalpha snapshot.starterActive
    ++ ascii "," ++ label "hardware_start_permitted" ++ boolalpha snapshot.hardwareStartPermitted
    ++ ascii "," ++ label "hood_monitoring_required" ++ boolalpha snapshot.hoodMonitoringRequired
    ++ ascii "," ++ label "vehicle" ++ ascii "\x7b"
    ++ label "battery_mv" ++ decimal vehicle.batteryMillivolts.value.toNat
    ++ ascii "," ++ label "rpm" ++ decimal vehicle.engineRpm.value.toNat
    ++ ascii "," ++ label "coolant_temperature_c" ++ signed vehicle.coolantTemperatureC.value
    ++ ascii "," ++ label "engine_oil_temperature_c" ++ signed vehicle.engineOilTemperatureC.value
    ++ ascii "," ++ label "transmission_oil_temperature_c"
    ++ signed vehicle.transmissionOilTemperatureC.value
    ++ ascii "," ++ label "dpf_regeneration_active" ++ boolalpha vehicle.dpfRegenerationActive.value
    ++ ascii "," ++ label "hood_available" ++ boolalpha (vehicle.hoodClosed.quality != .unavailable)
    ++ ascii "," ++ label "hood_closed" ++ boolalpha vehicle.hoodClosed.value
    ++ ascii "," ++ label "doors_closed" ++ boolalpha vehicle.doorsClosed.value
    ++ ascii "," ++ label "trunk_closed" ++ boolalpha vehicle.trunkClosed.value
    ++ ascii "," ++ label "brake_pressed" ++ boolalpha vehicle.brakePressed.value
    ++ ascii "," ++ label "parking_applied" ++ boolalpha vehicle.parkingBrakeApplied.value
    ++ ascii "," ++ label "gear" ++ quoted (gearToString vehicle.gear.value)
    ++ ascii "," ++ label "critical_fault" ++ boolalpha vehicle.criticalFaultPresent.value
    ++ ascii "\x7d"
    ++ ascii "," ++ label "features" ++ ascii "\x7b"
    ++ label "cold_engine_guard"
    ++ boolalpha (snapshot.requestedFeatures.enabled .coldEngineGuard)
    ++ ascii "," ++ label "dpf_regeneration_indicator"
    ++ boolalpha (snapshot.requestedFeatures.enabled .dpfRegenerationIndicator)
    ++ ascii "," ++ label "transmission_overheat_alert"
    ++ boolalpha (snapshot.requestedFeatures.enabled .transmissionOverheatAlert)
    ++ ascii "\x7d"
    ++ ascii "," ++ label "telemetry" ++ ascii "\x7b"
    ++ label "cold_engine_guard" ++ quoted snapshot.telemetry.coldEngineGuard.toString
    ++ ascii "," ++ label "dpf_regeneration" ++ quoted snapshot.telemetry.dpfRegeneration.toString
    ++ ascii "," ++ label "transmission_overheat"
    ++ quoted snapshot.telemetry.transmissionOverheat.toString
    ++ ascii "," ++ label "alerts" ++ ascii "["
    ++ encodeNames (snapshot.telemetry.alerts.toList.map TelemetryAlertType.toString)
    ++ ascii "]" ++ ascii "\x7d"
    ++ ascii "," ++ label "last_event" ++ quoted snapshot.lastEvent.toString
    ++ ascii "," ++ label "safety_reasons" ++ decimal snapshot.lastDecision.safety.reasons.toNat
    ++ ascii "," ++ label "diagnostic_records" ++ decimal snapshot.diagnosticRecords
    ++ ascii "," ++ label "last_actions" ++ ascii "["
    ++ encodeNames (snapshot.lastDecision.actions.toList.map fun action => action.type.toString)
    ++ ascii "]" ++ ascii "\x7d"

/-! The answer itself. -/

/-- What a client learns from an answer. -/
structure SandboxAnswer where
  ok : Bool
  error : Text
  timeMs : UInt32
  state : ControllerState
  fault : FaultCode
  supervisorFault : ActuatorSupervisorFault
  timerArmed : Bool
  timerDueMs : UInt32
  timerDurationMs : UInt32
  ignitionActive : Bool
  starterActive : Bool
  hardwareStartPermitted : Bool
  hoodMonitoringRequired : Bool
  batteryMv : UInt16
  rpm : UInt16
  coolantTemperatureC : Int16
  engineOilTemperatureC : Int16
  transmissionOilTemperatureC : Int16
  dpfRegenerationActive : Bool
  hoodAvailable : Bool
  hoodClosed : Bool
  doorsClosed : Bool
  trunkClosed : Bool
  brakePressed : Bool
  parkingApplied : Bool
  gear : Gear
  criticalFault : Bool
  coldEngineGuardRequested : Bool
  dpfRegenerationIndicatorRequested : Bool
  transmissionOverheatAlertRequested : Bool
  coldEngineGuard : TelemetryConditionState
  dpfRegeneration : TelemetryConditionState
  transmissionOverheat : TelemetryConditionState
  alerts : List TelemetryAlertType
  lastEvent : EventType
  safetyReasons : UInt16
  diagnosticRecords : Nat
  lastActions : List ActionType

/-- The control characters that the answer does not write. -/
def legible (character : UInt8) : UInt8 :=
  if character < 32 ∧ character ∉ [8, 9, 10, 12, 13] then 63 else character

def SandboxResult.answer (result : SandboxResult) : SandboxAnswer :=
  let snapshot := result.snapshot
  let vehicle := snapshot.vehicle
  { ok := result.ok
    error := result.error.map legible
    timeMs := snapshot.timeMs
    state := snapshot.state
    fault := snapshot.fault
    supervisorFault := snapshot.supervisorFault
    timerArmed := snapshot.timerArmed
    timerDueMs := snapshot.timerDueMs
    timerDurationMs := snapshot.timerDurationMs
    ignitionActive := snapshot.ignitionActive
    starterActive := snapshot.starterActive
    hardwareStartPermitted := snapshot.hardwareStartPermitted
    hoodMonitoringRequired := snapshot.hoodMonitoringRequired
    batteryMv := vehicle.batteryMillivolts.value
    rpm := vehicle.engineRpm.value
    coolantTemperatureC := vehicle.coolantTemperatureC.value
    engineOilTemperatureC := vehicle.engineOilTemperatureC.value
    transmissionOilTemperatureC := vehicle.transmissionOilTemperatureC.value
    dpfRegenerationActive := vehicle.dpfRegenerationActive.value
    hoodAvailable := vehicle.hoodClosed.quality != .unavailable
    hoodClosed := vehicle.hoodClosed.value
    doorsClosed := vehicle.doorsClosed.value
    trunkClosed := vehicle.trunkClosed.value
    brakePressed := vehicle.brakePressed.value
    parkingApplied := vehicle.parkingBrakeApplied.value
    gear := vehicle.gear.value
    criticalFault := vehicle.criticalFaultPresent.value
    coldEngineGuardRequested := snapshot.requestedFeatures.enabled .coldEngineGuard
    dpfRegenerationIndicatorRequested :=
      snapshot.requestedFeatures.enabled .dpfRegenerationIndicator
    transmissionOverheatAlertRequested :=
      snapshot.requestedFeatures.enabled .transmissionOverheatAlert
    coldEngineGuard := snapshot.telemetry.coldEngineGuard
    dpfRegeneration := snapshot.telemetry.dpfRegeneration
    transmissionOverheat := snapshot.telemetry.transmissionOverheat
    alerts := snapshot.telemetry.alerts.toList
    lastEvent := snapshot.lastEvent
    safetyReasons := snapshot.lastDecision.safety.reasons
    diagnosticRecords := snapshot.diagnosticRecords
    lastActions := snapshot.lastDecision.actions.toList.map Action.type }

def word (name : String) : Json := .string (ascii name)

def count (value : Nat) : Json := .number value

def words (names : List String) : Json := .array (names.map word)

def members (values : List (String × Json)) : Json :=
  .object (values.map fun (name, value) => (ascii name, value))

def SandboxAnswer.document (answer : SandboxAnswer) : Json :=
  members [
    ("ok", .boolean answer.ok),
    ("error", .string answer.error),
    ("time_ms", count answer.timeMs.toNat),
    ("state", word answer.state.toString),
    ("fault", word answer.fault.toString),
    ("supervisor_fault", word answer.supervisorFault.toString),
    ("timer_armed", .boolean answer.timerArmed),
    ("timer_due_ms", count answer.timerDueMs.toNat),
    ("timer_duration_ms", count answer.timerDurationMs.toNat),
    ("ignition_active", .boolean answer.ignitionActive),
    ("starter_active", .boolean answer.starterActive),
    ("hardware_start_permitted", .boolean answer.hardwareStartPermitted),
    ("hood_monitoring_required", .boolean answer.hoodMonitoringRequired),
    ("vehicle", members [
      ("battery_mv", count answer.batteryMv.toNat),
      ("rpm", count answer.rpm.toNat),
      ("coolant_temperature_c", .number answer.coolantTemperatureC.toInt),
      ("engine_oil_temperature_c", .number answer.engineOilTemperatureC.toInt),
      ("transmission_oil_temperature_c", .number answer.transmissionOilTemperatureC.toInt),
      ("dpf_regeneration_active", .boolean answer.dpfRegenerationActive),
      ("hood_available", .boolean answer.hoodAvailable),
      ("hood_closed", .boolean answer.hoodClosed),
      ("doors_closed", .boolean answer.doorsClosed),
      ("trunk_closed", .boolean answer.trunkClosed),
      ("brake_pressed", .boolean answer.brakePressed),
      ("parking_applied", .boolean answer.parkingApplied),
      ("gear", word (gearToString answer.gear)),
      ("critical_fault", .boolean answer.criticalFault)]),
    ("features", members [
      ("cold_engine_guard", .boolean answer.coldEngineGuardRequested),
      ("dpf_regeneration_indicator", .boolean answer.dpfRegenerationIndicatorRequested),
      ("transmission_overheat_alert", .boolean answer.transmissionOverheatAlertRequested)]),
    ("telemetry", members [
      ("cold_engine_guard", word answer.coldEngineGuard.toString),
      ("dpf_regeneration", word answer.dpfRegeneration.toString),
      ("transmission_overheat", word answer.transmissionOverheat.toString),
      ("alerts", words (answer.alerts.map TelemetryAlertType.toString))]),
    ("last_event", word answer.lastEvent.toString),
    ("safety_reasons", count answer.safetyReasons.toNat),
    ("diagnostic_records", count answer.diagnosticRecords),
    ("last_actions", words (answer.lastActions.map ActionType.toString))]

/-! The names are written as they are, and no two of them are the same. -/

def isName (name : String) : Bool :=
  name.toList.all fun character => decide (95 ≤ character.toNat) && decide (character.toNat ≤ 122)

theorem isName_iff {name : String} :
    isName name = true ↔
      ∀ character ∈ name.toList, 95 ≤ character.toNat ∧ character.toNat ≤ 122 := by
  simp [isName]

theorem plain_name {name : String} (h : isName name = true) : Json.Plain (ascii name) := by
  have hplain : ∀ code ≤ 122, 95 ≤ code →
      Json.escape (UInt8.ofNat code) = [UInt8.ofNat code] := by decide
  unfold ascii Json.Plain
  rw [List.forall_mem_map]
  intro character hmem
  obtain ⟨hlow, hhigh⟩ := isName_iff.mp h character hmem
  exact hplain character.toNat hhigh hlow

theorem quote_name {name : String} (h : isName name = true) :
    Json.quote (ascii name) = quoted name := (plain_name h).quote

theorem ascii_inj {name other : String} (hname : isName name = true) (hother : isName other = true)
    (h : ascii name = ascii other) : name = other := by
  have hascii {name : String} (hname : isName name = true) :
      utf8 name.toList = ascii name := by
    refine utf8_ascii fun character hmem => decide_eq_true ?_
    have hhigh := (isName_iff.mp hname character hmem).2
    omega
  rw [← hascii hname, ← hascii hother] at h
  exact String.toList_inj.mp (utf8_injective h)

theorem render_boolean (value : Bool) : (Json.boolean value).render = boolalpha value := rfl

theorem render_count (value : Nat) : (count value).render = decimal value := by
  unfold count Json.render Json.signed
  rw [if_neg (by omega), Int.natAbs_natCast]

theorem render_number (value : Int16) : (Json.number value.toInt).render = signed value := by
  have hsign : value < 0 ↔ value.toInt < 0 := Int16.lt_iff_toInt_lt
  unfold Json.render Json.signed signed
  by_cases hnegative : value < 0
  · rw [if_pos hnegative, if_pos (hsign.mp hnegative)]
    rfl
  · rw [if_neg hnegative, if_neg (mt hsign.mpr hnegative)]

theorem render_word {name : String} (h : isName name = true) : (word name).render = quoted name :=
  quote_name h

theorem renderItems_words {names : List String} (h : ∀ name ∈ names, isName name = true) :
    Json.renderItems (names.map word) =
      (names.flatMap fun name => ascii "," ++ quoted name) ++ ascii "]" := by
  induction names with
  | nil => rfl
  | cons name names ih =>
    obtain ⟨hname, hnames⟩ := List.forall_mem_cons.mp h
    rw [List.map_cons, Json.renderItems, render_word hname, ih hnames, List.flatMap_cons,
      List.append_assoc, List.append_assoc]
    rfl

theorem render_words {names : List String} (h : ∀ name ∈ names, isName name = true) :
    (words names).render = ascii "[" ++ encodeNames names ++ ascii "]" := by
  cases names with
  | nil => rfl
  | cons name names =>
    obtain ⟨hname, hnames⟩ := List.forall_mem_cons.mp h
    unfold words
    rw [List.map_cons, Json.render, render_word hname, renderItems_words hnames, encodeNames,
      List.append_assoc, List.append_assoc]
    rfl

theorem escapeJsonCharacter_eq (character : UInt8) :
    escapeJsonCharacter character = Json.escape (legible character) := by
  have hall : ∀ code < 256, escapeJsonCharacter (UInt8.ofNat code) =
      Json.escape (legible (UInt8.ofNat code)) := by decide +kernel
  have hcharacter := hall character.toNat character.toNat_lt
  rwa [UInt8.ofNat_toNat] at hcharacter

theorem render_error (error : Text) :
    (Json.string (error.map legible)).render = ascii "\"" ++ escapeJson error ++ ascii "\"" := by
  have hescape : (error.map legible).flatMap Json.escape = escapeJson error := by
    rw [List.flatMap_map]
    exact congrArg (List.flatMap · error) (funext fun character =>
      (escapeJsonCharacter_eq character).symm)
  unfold Json.render Json.quote
  rw [hescape]
  rfl

theorem isName_state (state : ControllerState) : isName state.toString = true := by
  cases state <;> rfl

theorem isName_fault (fault : FaultCode) : isName fault.toString = true := by cases fault <;> rfl

theorem isName_supervisorFault (fault : ActuatorSupervisorFault) :
    isName fault.toString = true := by cases fault <;> rfl

theorem isName_event (event : EventType) : isName event.toString = true := by cases event <;> rfl

theorem isName_action (action : ActionType) : isName action.toString = true := by
  cases action <;> rfl

theorem isName_condition (condition : TelemetryConditionState) :
    isName condition.toString = true := by cases condition <;> rfl

theorem isName_alert (alert : TelemetryAlertType) : isName alert.toString = true := by
  cases alert <;> rfl

theorem isName_gear (gear : Gear) : isName (gearToString gear) = true := by cases gear <;> rfl

theorem renderMembers_map {values : List (String × Json)}
    (h : (values.map Prod.fst).all isName = true) :
    Json.renderMembers (values.map fun (name, value) => (ascii name, value)) =
      (values.flatMap fun member => ascii "," ++ (label member.1 ++ member.2.render)) ++
        ascii "\x7d" := by
  induction values with
  | nil => rfl
  | cons member values ih =>
    rw [List.map_cons, List.all_cons, Bool.and_eq_true] at h
    rw [List.map_cons, Json.renderMembers, quote_name h.1, ih h.2, List.flatMap_cons]
    simp only [label, List.append_assoc]
    rfl

theorem render_members {name : String} {value : Json} {others : List (String × Json)}
    (h : (((name, value) :: others).map Prod.fst).all isName = true) :
    (members ((name, value) :: others)).render =
      ascii "\x7b" ++ (label name ++ (value.render ++
        ((others.flatMap fun member => ascii "," ++ (label member.1 ++ member.2.render)) ++
          ascii "\x7d"))) := by
  rw [List.map_cons, List.all_cons, Bool.and_eq_true] at h
  unfold members
  rw [List.map_cons, Json.render, quote_name h.1, renderMembers_map h.2]
  simp only [label, List.append_assoc]
  rfl

set_option maxRecDepth 1000 in
theorem encodeSandboxResult_eq (result : SandboxResult) :
    encodeSandboxResult result = result.answer.document.render := by
  have halerts : ∀ name ∈ result.answer.alerts.map TelemetryAlertType.toString,
      isName name = true := List.forall_mem_map.mpr fun alert _ => isName_alert alert
  have hactions : ∀ name ∈ result.answer.lastActions.map ActionType.toString,
      isName name = true := List.forall_mem_map.mpr fun action _ => isName_action action
  have hnames : ["ok", "error", "time_ms", "state", "fault", "supervisor_fault", "timer_armed",
      "timer_due_ms", "timer_duration_ms", "ignition_active", "starter_active",
      "hardware_start_permitted", "hood_monitoring_required", "vehicle", "features", "telemetry",
      "last_event", "safety_reasons", "diagnostic_records", "last_actions"].all isName = true := by
    decide +kernel
  have hvehicle : ["battery_mv", "rpm", "coolant_temperature_c", "engine_oil_temperature_c",
      "transmission_oil_temperature_c", "dpf_regeneration_active", "hood_available",
      "hood_closed", "doors_closed", "trunk_closed", "brake_pressed", "parking_applied", "gear",
      "critical_fault"].all isName = true := by decide +kernel
  have hfeatures : ["cold_engine_guard", "dpf_regeneration_indicator",
      "transmission_overheat_alert"].all isName = true := by decide +kernel
  have htelemetry : ["cold_engine_guard", "dpf_regeneration", "transmission_overheat",
      "alerts"].all isName = true := by decide +kernel
  have herror : (Json.string result.answer.error).render =
      ascii "\"" ++ escapeJson result.error ++ ascii "\"" := render_error result.error
  have hlast : result.answer.lastActions.map ActionType.toString =
      result.snapshot.lastDecision.actions.toList.map fun action => action.type.toString :=
    List.map_map
  unfold SandboxAnswer.document
  rw [render_members]
  swap
  · exact hnames
  simp only [List.flatMap_cons, List.flatMap_nil]
  rw [render_members, render_members, render_members]
  · simp only [List.flatMap_cons, List.flatMap_nil, render_boolean, render_count, render_number,
      render_words halerts, render_words hactions, render_word (isName_state _),
      render_word (isName_fault _), render_word (isName_supervisorFault _),
      render_word (isName_event _), render_word (isName_condition _), render_word (isName_gear _)]
    rw [herror, hlast]
    unfold encodeSandboxResult
    simp only [List.append_assoc, List.nil_append]
    rfl
  · exact htelemetry
  · exact hfeatures
  · exact hvehicle

/-! An answer is known by its document. -/

theorem toString_state_injective : Function.Injective ControllerState.toString := by
  intro state other h
  cases state <;> cases other <;> first | rfl | exact absurd h (by decide)

theorem toString_fault_injective : Function.Injective FaultCode.toString := by
  intro fault other h
  cases fault <;> cases other <;> first | rfl | exact absurd h (by decide)

theorem toString_supervisorFault_injective :
    Function.Injective ActuatorSupervisorFault.toString := by
  intro fault other h
  cases fault <;> cases other <;> first | rfl | exact absurd h (by decide)

theorem toString_event_injective : Function.Injective EventType.toString := by
  intro event other h
  cases event <;> cases other <;> first | rfl | exact absurd h (by decide)

theorem toString_action_injective : Function.Injective ActionType.toString := by
  intro action other h
  cases action <;> cases other <;> first | rfl | exact absurd h (by decide)

theorem toString_condition_injective : Function.Injective TelemetryConditionState.toString := by
  intro condition other h
  cases condition <;> cases other <;> first | rfl | exact absurd h (by decide)

theorem toString_alert_injective : Function.Injective TelemetryAlertType.toString := by
  intro alert other h
  cases alert <;> cases other <;> first | rfl | exact absurd h (by decide)

theorem gearToString_injective : Function.Injective gearToString := by
  intro gear other h
  cases gear <;> cases other <;> first | rfl | exact absurd h (by decide)

theorem count_inj {value other : Nat} : count value = count other ↔ value = other := by
  rw [count, count, Json.number.injEq]
  exact Int.ofNat_inj

section Names

variable {T : Type} {toString : T → String} (hname : ∀ value, isName (toString value) = true)
  (hinjective : Function.Injective toString)

include hname hinjective

theorem ascii_toString_injective : Function.Injective fun value => ascii (toString value) :=
  fun _ _ h => hinjective (ascii_inj (hname _) (hname _) h)

theorem word_inj {value other : T} :
    word (toString value) = word (toString other) ↔ value = other :=
  ⟨fun h => ascii_toString_injective hname hinjective (Json.string.inj h), fun h => h ▸ rfl⟩

theorem words_inj {values others : List T} :
    words (values.map toString) = words (others.map toString) ↔ values = others := by
  have hword : Function.Injective (word ∘ toString) := fun _ _ h =>
    (word_inj hname hinjective).mp h
  unfold words
  rw [Json.array.injEq, List.map_map, List.map_map]
  exact hword.list_map.eq_iff

end Names

/-- No two answers are shown alike. -/
theorem document_injective : Function.Injective SandboxAnswer.document := by
  intro answer other h
  cases answer
  cases other
  simp only [SandboxAnswer.document, members, List.map_cons, List.map_nil, Json.object.injEq,
    List.cons.injEq, Prod.mk.injEq, true_and, and_true, Json.boolean.injEq, Json.string.injEq,
    Json.number.injEq, count_inj, UInt32.toNat_inj, UInt16.toNat_inj, Int16.toInt_inj,
    word_inj isName_state toString_state_injective,
    word_inj isName_fault toString_fault_injective,
    word_inj isName_supervisorFault toString_supervisorFault_injective,
    word_inj isName_event toString_event_injective,
    word_inj isName_condition toString_condition_injective,
    word_inj isName_gear gearToString_injective,
    words_inj isName_alert toString_alert_injective,
    words_inj isName_action toString_action_injective, and_assoc] at h
  rw [SandboxAnswer.mk.injEq]
  exact h

end BmwRemote.Host
