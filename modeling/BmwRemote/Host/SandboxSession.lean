import BmwRemote.Application.TelemetryMonitor
import BmwRemote.Infrastructure.SupervisedRuntime
import BmwRemote.Simulation.SyntheticCan

/-! The sandbox: the controller, the runtime and the supervisor over a simulated
vehicle, driven by lines of text. Time passes only when a command says so. -/
namespace BmwRemote.Host

open BmwRemote.Domain BmwRemote.Application BmwRemote.Infrastructure BmwRemote.Simulation
  BmwRemote.Lib

def supervisorServicePeriodMs : UInt32 := 250

structure SandboxActuatorDriver where
  ignitionActive : Bool := false
  starterActive : Bool := false
  deriving DecidableEq

def SandboxActuatorDriver.feedback (driver : SandboxActuatorDriver) : ActuatorFeedback :=
  ⟨true, driver.ignitionActive, driver.starterActive⟩

structure SandboxTimer where
  armed : Bool := false
  changed : Bool := false
  duration : UInt32 := 0
  due : UInt32 := 0
  deriving DecidableEq

namespace SandboxTimer

def arm (durationMs : UInt32) (timer : SandboxTimer) : SandboxTimer :=
  { timer with armed := true, duration := durationMs, changed := true }

def cancel (_timer : SandboxTimer) : SandboxTimer := {}

def settle (nowMs : UInt32) (timer : SandboxTimer) : SandboxTimer :=
  if timer.armed && timer.changed then { timer with due := nowMs + timer.duration, changed := false }
  else timer

end SandboxTimer

structure SandboxNotifications where
  lastNotification : ActionType := .notifyReady
  available : Bool := false
  deriving DecidableEq

/-- What is behind the ports. -/
structure SandboxWorld where
  requestCount : UInt32 := 0
  driver : SandboxActuatorDriver := {}
  timer : SandboxTimer := {}
  notifications : SandboxNotifications := {}
  deriving DecidableEq

namespace SandboxWorld

def drive (update : SandboxActuatorDriver → SandboxActuatorDriver) (world : SandboxWorld) :
    Bool × SandboxWorld :=
  (true, { world with driver := update world.driver })

def setTimer (update : SandboxTimer → SandboxTimer) (world : SandboxWorld) : Bool × SandboxWorld :=
  (true, { world with timer := update world.timer })

end SandboxWorld

def sandboxPorts : Ports SandboxWorld where
  vehicleGateway := ⟨fun world => (true, { world with requestCount := world.requestCount + 1 })⟩
  actuators :=
    { enableIgnition := SandboxWorld.drive fun driver => { driver with ignitionActive := true }
      engageStarter := SandboxWorld.drive fun driver => { driver with starterActive := true }
      disengageStarter := SandboxWorld.drive fun driver => { driver with starterActive := false }
      releaseRemoteControl := SandboxWorld.drive fun _ => {}
      secureOutputs := SandboxWorld.drive fun _ => {} }
  timer := ⟨fun durationMs => SandboxWorld.setTimer (.arm durationMs), SandboxWorld.setTimer .cancel⟩
  notifications := ⟨fun notification world =>
    { world with notifications := ⟨notification.notification, true⟩ }⟩

def makeSafeVehicle : VehicleState where
  batteryMillivolts := .ofFresh 12500
  engineRpm := .ofFresh 0
  coolantTemperatureC := .ofFresh 20
  engineOilTemperatureC := .ofFresh 20
  transmissionOilTemperatureC := .ofFresh 20
  dpfRegenerationActive := .ofFresh false
  hoodClosed := .ofFresh true
  doorsClosed := .ofFresh true
  trunkClosed := .ofFresh true
  brakePressed := .ofFresh false
  parkingBrakeApplied := .ofFresh true
  transmission := .ofFresh .automatic
  gear := .ofFresh .park
  criticalFaultPresent := .ofFresh false

/-! The words of a command. -/

def trim (value : Text) : Text :=
  Text.strip (if [0xEF, 0xBB, 0xBF].isPrefixOf value then value.drop 3 else value)

def parseWord {T : Type} (choices : List (String × T)) (value : Text) : Option T :=
  (choices.find? fun choice => value == Text.ascii choice.1).map fun choice => choice.2

def parseOnOff : Text → Option Bool := parseWord [("on", true), ("off", false)]

def parseClosedOpen : Text → Option Bool := parseWord [("closed", true), ("open", false)]

def parseUnsigned (value : Text) (maximum : Nat) : Option Nat :=
  if value = [] then none
  else value.foldlM (fun parsed character =>
    (Text.digit 10 character).bind fun digit =>
      if parsed * 10 + digit > maximum then none else some (parsed * 10 + digit)) 0

def parseSigned (value : Text) (minimum maximum : Int) : Option Int :=
  let negative := value.head? == some 45
  let parsed := parseUnsigned (if negative then value.drop 1 else value) 1000
  (parsed.map fun magnitude => if negative then -(magnitude : Int) else magnitude).filter
    fun result => decide (minimum ≤ result) && decide (result ≤ maximum)

structure SandboxSnapshot where
  timeMs : UInt32
  state : ControllerState
  fault : FaultCode
  supervisorFault : ActuatorSupervisorFault
  timerArmed : Bool
  timerDueMs : UInt32
  timerDurationMs : UInt32
  ignitionActive : Bool
  starterActive : Bool
  hardwareStartPermitted : Bool
  hoodMonitoringRequired : Bool
  vehicle : VehicleState
  requestedFeatures : FeatureRequests
  telemetry : TelemetryReport
  lastEvent : EventType
  lastDecision : Decision
  diagnosticRecords : Nat

structure SandboxResult where
  ok : Bool
  error : Text
  snapshot : SandboxSnapshot

/-- The sums by which the session computes a time of its own, and the target and the last
service time of each call of `serviceSupervisor`. Kept for the statements only: the source
has no such record and nothing reads it. -/
structure Timekeeping where
  sums : List (UInt32 × UInt32) := []
  services : List (UInt32 × UInt32) := []
  deriving DecidableEq

/-- `SandboxSession::Implementation`. The driver, the timer and the sinks are in the world
behind the supervisor; the runtime holds the journal. -/
structure SandboxSession where
  supervised : Supervised SandboxWorld
  runtime : Runtime
  vehicle : VehicleState := makeSafeVehicle
  lastDecision : Decision := {}
  settings : UserSettings := {}
  telemetryMonitor : TelemetryMonitor := {}
  telemetryReport : TelemetryReport := {}
  lastEvent : EventType := .vehicleStateUpdated
  nowMs : UInt32 := 0
  lastSupervisorServiceMs : UInt32 := 0
  hardwareStartPermitted : Bool := true
  hoodMonitoringRequired : Bool := true
  timekeeping : Timekeeping := {}

namespace SandboxSession

def supervisor (session : SandboxSession) : ActuatorSafetySupervisor := session.supervised.1
def driver (session : SandboxSession) : SandboxActuatorDriver := session.supervised.2.driver
def timer (session : SandboxSession) : SandboxTimer := session.supervised.2.timer
def state (session : SandboxSession) : ControllerState := session.runtime.state

def snapshot (session : SandboxSession) : SandboxSnapshot where
  timeMs := session.nowMs
  state := session.state
  fault := session.lastDecision.fault
  supervisorFault := session.supervisor.fault
  timerArmed := session.timer.armed
  timerDueMs := session.timer.due
  timerDurationMs := session.timer.duration
  ignitionActive := session.driver.ignitionActive
  starterActive := session.driver.starterActive
  hardwareStartPermitted := session.hardwareStartPermitted
  hoodMonitoringRequired := session.hoodMonitoringRequired
  vehicle := session.vehicle
  requestedFeatures := session.settings.features
  telemetry := session.telemetryReport
  lastEvent := session.lastEvent
  lastDecision := session.lastDecision
  diagnosticRecords := (session.runtime.diagnosticJournal.map fun journal => journal.size).getD 0

def success (session : SandboxSession) : SandboxResult × SandboxSession :=
  (⟨true, [], session.snapshot⟩, session)

def failure (session : SandboxSession) (error : Text) : SandboxResult × SandboxSession :=
  (⟨false, error, session.snapshot⟩, session)

/-! The calls of the supervisor, all with the session's own permission and feedback. -/

def heartbeat (nowMs : UInt32) (session : SandboxSession) : SandboxSession :=
  { session with
    supervised :=
      (ActuatorSafetySupervisor.heartbeat sandboxPorts.actuators nowMs session.supervised).2 }

def poll (nowMs : UInt32) (session : SandboxSession) : SandboxSession :=
  { session with
    supervised := (ActuatorSafetySupervisor.poll sandboxPorts.actuators nowMs
      session.hardwareStartPermitted session.driver.feedback session.supervised).2 }

def polled (atMs : UInt32) (session : SandboxSession) : SandboxSession :=
  { session.poll atMs with lastSupervisorServiceMs := atMs }

def serviced (atMs : UInt32) (session : SandboxSession) : SandboxSession :=
  (session.heartbeat atMs).polled atMs

def implementedFeatures : UInt64 :=
  FeatureRequests.bit .coldEngineGuard ||| FeatureRequests.bit .dpfRegenerationIndicator |||
    FeatureRequests.bit .transmissionOverheatAlert

def rebuildTelemetryMonitor (session : SandboxSession) : SandboxSession :=
  let configuration := makeUserConfiguration session.settings (some syntheticVehicleProfile)
  let runtime : FeatureRuntimeContext :=
    { configuration.telemetry.runtime with
      target := .simulation
      implementedFeatures := implementedFeatures
      availableCapabilities := FeatureCapability.vehicleStateRead
      vehicleSignalsQualified := true }
  let monitor : TelemetryMonitor := { config := { configuration.telemetry with runtime } }
  let (report, monitor) := monitor.evaluate session.vehicle
  { session with telemetryMonitor := monitor, telemetryReport := report }

def settingsFor (requireHood : Bool) : UserSettings :=
  { hoodMonitoring := if requireHood then .required else .disabled }

def restarted (requireHood : Bool) : SandboxSession :=
  let settings := settingsFor requireHood
  let userConfiguration := makeUserConfiguration settings (some syntheticVehicleProfile)
  let session : SandboxSession :=
    { supervised := ActuatorSafetySupervisor.construct sandboxPorts.actuators {} {}
      runtime := ⟨Controller.new userConfiguration.controller, some {}⟩
      settings
      hoodMonitoringRequired := requireHood }
  ((session.heartbeat 0).poll 0).rebuildTelemetryMonitor

def restart (session : SandboxSession) (requireHood : Bool) : SandboxSession :=
  { restarted requireHood with timekeeping := session.timekeeping }

def new : SandboxSession := restarted true

/-! Time. -/

def settling (nowMs : UInt32) (timer : SandboxTimer) : List (UInt32 × UInt32) :=
  if timer.armed && timer.changed then [(nowMs, timer.duration)] else []

def dispatch (event : Event) (session : SandboxSession) : SandboxSession :=
  let (decision, runtime, supervisor, world) := Runtime.dispatch (supervisedPorts sandboxPorts)
    session.runtime ⟨event, session.vehicle, session.nowMs⟩ session.supervised
  { session with
    lastEvent := event.type
    lastDecision := decision
    runtime := runtime
    supervised := (supervisor, { world with timer := world.timer.settle session.nowMs })
    timekeeping := { session.timekeeping with
      sums := session.timekeeping.sums ++ settling session.nowMs world.timer } }

def serviceFrom (targetMs : UInt32) : Nat → SandboxSession → SandboxSession
  | 0, session => session.serviced targetMs
  | turns + 1, session =>
    if targetMs - session.lastSupervisorServiceMs > supervisorServicePeriodMs then
      let session :=
        session.serviced (session.lastSupervisorServiceMs + supervisorServicePeriodMs)
      if session.supervisor.fault ≠ .none then session else serviceFrom targetMs turns session
    else session.serviced targetMs

/-- Every turn brings the last service one period closer, so these turns are enough. -/
def serviceTo (targetMs : UInt32) (session : SandboxSession) : SandboxSession :=
  serviceFrom targetMs
    ((targetMs - session.lastSupervisorServiceMs).toNat / supervisorServicePeriodMs.toNat) session

def serviceSupervisor (targetMs : UInt32) (session : SandboxSession) : SandboxSession :=
  serviceTo targetMs { session with
    timekeeping := { session.timekeeping with
      services := session.timekeeping.services ++ [(targetMs, session.lastSupervisorServiceMs)] } }

def propagateSupervisorFault (session : SandboxSession) : SandboxSession :=
  if session.supervisor.fault = .none ∨ session.state = .fault then session
  else session.dispatch (.infrastructureFailure .actuatorFailure)

/-! The commands. -/

/-- A dispatch that a session in `Fault` is not given. -/
def dispatchUnlessFault (event : Event) (session : SandboxSession) : SandboxSession :=
  if session.state ≠ .fault then session.dispatch event else session

def request (type : EventType) (feedAuthorizationState : Bool) (session : SandboxSession) :
    SandboxSession :=
  let session := (session.serviceSupervisor session.nowMs).propagateSupervisorFault
  let session := session.dispatchUnlessFault { type }
  if feedAuthorizationState ∧ session.state = .authorizing then
    session.dispatch { type := .vehicleStateUpdated }
  else session

def dispatchWithoutArguments (session : SandboxSession) (arguments : List Text) (type : EventType)
    (feedAuthorizationState : Bool) : SandboxResult × SandboxSession :=
  if arguments ≠ [] then session.failure (Text.ascii "command does not accept arguments")
  else (session.request type feedAuthorizationState).success

/-- Time goes on to the deadline of the timer, with heartbeats. -/
def advanced (session : SandboxSession) : SandboxSession :=
  { session.serviceSupervisor session.timer.due with nowMs := session.timer.due }

def elapse (session : SandboxSession) : SandboxSession :=
  session.advanced.propagateSupervisorFault.dispatchUnlessFault { type := .timerElapsed }

def resetRefusal : Text :=
  Text.ascii "actuator supervisor cannot be reset while outputs are unsafe"

def reset (session : SandboxSession) : SandboxResult × SandboxSession :=
  if session.supervisor.fault = .none then
    (session.dispatch { type := .resetRequested }).success
  else
    let (accepted, supervised) := ActuatorSafetySupervisor.resetFault sandboxPorts.actuators
      session.nowMs session.driver.feedback session.supervised
    let session := { session with supervised }
    if !accepted then session.failure resetRefusal
    else ((session.serviced session.nowMs).dispatch { type := .resetRequested }).success

def watchdogDelayMs : UInt32 := 501

/-- Time goes on without a heartbeat. -/
def suspended (session : SandboxSession) : SandboxSession :=
  { session with
    nowMs := session.lastSupervisorServiceMs + watchdogDelayMs
    timekeeping := { session.timekeeping with
      sums := session.timekeeping.sums ++ [(session.lastSupervisorServiceMs, watchdogDelayMs)] } }

def watchdog (session : SandboxSession) : SandboxSession :=
  (session.suspended.polled session.suspended.nowMs).propagateSupervisorFault

def permitting (enabled : Bool) (session : SandboxSession) : SandboxSession :=
  { session with hardwareStartPermitted := enabled }

def interlock (enabled : Bool) (session : SandboxSession) : SandboxSession :=
  ((session.permitting enabled).serviced session.nowMs).propagateSupervisorFault

/-- The parsed value is stored, or the whole command is refused. -/
def storing {T : Type} (parsed : Option T) (refusal : String) (store : T → VehicleState) :
    Except Text VehicleState :=
  match parsed with
  | none => .error (Text.ascii refusal)
  | some value => .ok (store value)

def parseTemperature (value : Text) : Option Int16 := (parseSigned value (-40) 215).map Int16.ofInt

def vehicleField (candidate : VehicleState) (key value : Text) : Except Text VehicleState :=
  if key = Text.ascii "rpm" then
    storing (parseUnsigned value 8000) "rpm must be between 0 and 8000"
      fun parsed => { candidate with engineRpm := .ofFresh (UInt16.ofNat parsed) }
  else if key = Text.ascii "battery" then
    storing ((parseUnsigned value 16000).filter fun parsed => decide (9000 ≤ parsed))
      "battery must be between 9000 and 16000 millivolts"
      fun parsed => { candidate with batteryMillivolts := .ofFresh (UInt16.ofNat parsed) }
  else if key = Text.ascii "coolant" then
    storing (parseTemperature value) "coolant must be between -40 and 215 C"
      fun parsed => { candidate with coolantTemperatureC := .ofFresh parsed }
  else if key = Text.ascii "oil" then
    storing (parseTemperature value) "oil must be between -40 and 215 C"
      fun parsed => { candidate with engineOilTemperatureC := .ofFresh parsed }
  else if key = Text.ascii "transmission_temperature" then
    storing (parseTemperature value) "transmission_temperature must be between -40 and 215 C"
      fun parsed => { candidate with transmissionOilTemperatureC := .ofFresh parsed }
  else if key = Text.ascii "dpf" then
    storing (parseOnOff value) "dpf must be on or off"
      fun parsed => { candidate with dpfRegenerationActive := .ofFresh parsed }
  else if key = Text.ascii "doors" then
    storing (parseClosedOpen value) "doors must be closed or open"
      fun parsed => { candidate with doorsClosed := .ofFresh parsed }
  else if key = Text.ascii "hood" then
    storing
      (if value = Text.ascii "unavailable" then some .unavailable
        else (parseClosedOpen value).map .ofFresh)
      "hood must be closed, open or unavailable"
      fun parsed => { candidate with hoodClosed := parsed }
  else if key = Text.ascii "trunk" then
    storing (parseClosedOpen value) "trunk must be closed or open"
      fun parsed => { candidate with trunkClosed := .ofFresh parsed }
  else if key = Text.ascii "brake" then
    storing (parseWord [("pressed", true), ("released", false)] value)
      "brake must be pressed or released"
      fun parsed => { candidate with brakePressed := .ofFresh parsed }
  else if key = Text.ascii "parking" then
    storing (parseWord [("applied", true), ("released", false)] value)
      "parking must be applied or released"
      fun parsed => { candidate with parkingBrakeApplied := .ofFresh parsed }
  else if key = Text.ascii "gear" then
    storing (parseWord [("park", .park), ("neutral", .neutral), ("reverse", .reverse),
        ("drive", .drive)] value)
      "gear must be park, neutral, reverse or drive"
      fun parsed => { candidate with gear := .ofFresh parsed }
  else if key = Text.ascii "critical" then
    storing (parseOnOff value) "critical must be on or off"
      fun parsed => { candidate with criticalFaultPresent := .ofFresh parsed }
  else .error (Text.ascii "unknown vehicle field: " ++ key)

def equalsSign : UInt8 := 61

def vehicleToken (candidate : VehicleState) (token : Text) : Except Text VehicleState :=
  match Text.cut equalsSign token with
  | none => .error (Text.ascii "vehicle values must use key=value")
  | some (key, value) =>
    if key = [] ∨ value = [] then .error (Text.ascii "vehicle values must use key=value")
    else vehicleField candidate key value

def evaluateTelemetry (session : SandboxSession) : SandboxSession :=
  let (report, monitor) := session.telemetryMonitor.evaluate session.vehicle
  { session with telemetryMonitor := monitor, telemetryReport := report }

def seeing (candidate : VehicleState) (session : SandboxSession) : SandboxSession :=
  { session with vehicle := candidate }

def applyVehicle (candidate : VehicleState) (session : SandboxSession) : SandboxSession :=
  ((session.seeing candidate).serviceSupervisor session.nowMs).propagateSupervisorFault
    |>.dispatchUnlessFault { type := .vehicleStateUpdated }
    |>.evaluateTelemetry

def updateVehicle (session : SandboxSession) (tokens : List Text) :
    SandboxResult × SandboxSession :=
  match tokens.foldlM vehicleToken session.vehicle with
  | .error error => session.failure error
  | .ok candidate =>
    if tokens = [] then session.failure (Text.ascii "vehicle requires at least one key=value")
    else (session.applyVehicle candidate).success

def requesting (features : FeatureRequests) (session : SandboxSession) : SandboxSession :=
  { session with settings := { session.settings with features } }

def updateFeature (session : SandboxSession) (arguments : List Text) :
    SandboxResult × SandboxSession :=
  match arguments with
  | [code, value] =>
    match parseOnOff value with
    | none => session.failure (Text.ascii "usage: feature <code> on|off")
    | some enabled =>
      match findFeatureByCode code with
      | none => session.failure (Text.ascii "unknown feature: " ++ code)
      | some feature =>
        match session.settings.features.setEnabled feature.id enabled with
        | none => session.failure (Text.ascii "feature cannot be represented")
        | some features => (session.requesting features).rebuildTelemetryMonitor.success
  | _ => session.failure (Text.ascii "usage: feature <code> on|off")

def parseHoodMode : List Text → Option Bool
  | [mode] => parseWord [("required", true), ("optional", false)] mode
  | _ => none

def parseInterlock : List Text → Option Bool
  | [value] => parseOnOff value
  | _ => none

def execute (session : SandboxSession) (rawCommand : Text) : SandboxResult × SandboxSession :=
  match Text.words (trim rawCommand) with
  | [] => session.failure (Text.ascii "empty command")
  | verb :: arguments =>
    if verb = Text.ascii "status" ∨ verb = Text.ascii "quit" then
      if arguments ≠ [] then session.failure (Text.ascii "unexpected argument for " ++ verb)
      else session.success
    else if verb = Text.ascii "new" then
      match parseHoodMode arguments with
      | none => session.failure (Text.ascii "usage: new required|optional")
      | some requireHood => (session.restart requireHood).success
    else if verb = Text.ascii "start" then
      session.dispatchWithoutArguments arguments .remoteStartRequested true
    else if verb = Text.ascii "stop" then
      session.dispatchWithoutArguments arguments .remoteStopRequested false
    else if verb = Text.ascii "takeover" then
      session.dispatchWithoutArguments arguments .driverTakeoverConfirmed false
    else if verb = Text.ascii "timer" then
      if arguments ≠ [] then session.failure (Text.ascii "timer does not accept arguments")
      else if !session.timer.armed then session.failure (Text.ascii "no timer is armed")
      else session.elapse.success
    else if verb = Text.ascii "reset" then
      if arguments ≠ [] then session.failure (Text.ascii "reset does not accept arguments")
      else session.reset
    else if verb = Text.ascii "watchdog" then
      if arguments ≠ [] then session.failure (Text.ascii "watchdog does not accept arguments")
      else session.watchdog.success
    else if verb = Text.ascii "interlock" then
      match parseInterlock arguments with
      | none => session.failure (Text.ascii "usage: interlock on|off")
      | some enabled => (session.interlock enabled).success
    else if verb = Text.ascii "vehicle" then session.updateVehicle arguments
    else if verb = Text.ascii "feature" then session.updateFeature arguments
    else session.failure (Text.ascii "unknown command: " ++ verb)

def machine : Machine SandboxSession Text SandboxResult := execute

end SandboxSession

end BmwRemote.Host
