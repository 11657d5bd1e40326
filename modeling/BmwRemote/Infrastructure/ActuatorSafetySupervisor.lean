import BmwRemote.Infrastructure.Ports
import BmwRemote.Lib.SerialNumber

/-! The supervisor between the runtime and the actuator driver. It refuses to
energise anything without a heartbeat, a hardware permission and, where it is
required, confirmed feedback; a trip makes the driver safe and is latched until
a reset succeeds. -/
namespace BmwRemote.Infrastructure

open BmwRemote.Lib

universe u

structure ActuatorFeedback where
  available : Bool := false
  ignitionActive : Bool := false
  starterActive : Bool := false
  deriving DecidableEq, Repr

structure ActuatorSafetyConfig where
  watchdogTimeoutMs : UInt32 := 500
  maximumStarterActiveMs : UInt32 := 5000
  feedbackGraceMs : UInt32 := 100
  requireFeedback : Bool := true
  deriving DecidableEq, Repr

namespace ActuatorSafetyConfig

def maximumWatchdogTimeoutMs : UInt32 := 5000
def maximumStarterActiveLimitMs : UInt32 := 10000
def maximumFeedbackGraceMs : UInt32 := 1000

def isValid (config : ActuatorSafetyConfig) : Bool :=
  config.watchdogTimeoutMs != 0 &&
    decide (config.watchdogTimeoutMs ≤ maximumWatchdogTimeoutMs) &&
    config.maximumStarterActiveMs != 0 &&
    decide (config.maximumStarterActiveMs ≤ maximumStarterActiveLimitMs) &&
    decide (config.feedbackGraceMs ≤ maximumFeedbackGraceMs) &&
    decide (config.feedbackGraceMs ≤ config.watchdogTimeoutMs)

end ActuatorSafetyConfig

inductive ActuatorSupervisorFault where
  | none
  | invalidConfiguration
  | initializationFailure
  | clockRegression
  | watchdogExpired
  | hardwareInterlockLost
  | starterTimeout
  | commandSequence
  | driverFailure
  | feedbackUnavailable
  | feedbackMismatch
  | safingFailure
  deriving DecidableEq, Repr

structure ActuatorSupervisorStatus where
  fault : ActuatorSupervisorFault := .none
  initialized : Bool := false
  ignitionCommanded : Bool := false
  starterCommanded : Bool := false
  ignitionFeedbackConfirmed : Bool := false
  safingFailed : Bool := false
  deriving DecidableEq, Repr

structure ActuatorSafetySupervisor where
  config : ActuatorSafetyConfig
  fault : ActuatorSupervisorFault := .none
  lastObservedMs : UInt32 := 0
  lastHeartbeatMs : UInt32 := 0
  starterEngagedAtMs : UInt32 := 0
  lastOutputChangeMs : UInt32 := 0
  initialized : Bool := false
  clockInitialized : Bool := false
  heartbeatInitialized : Bool := false
  hardwareStartPermitted : Bool := false
  ignitionCommanded : Bool := false
  starterCommanded : Bool := false
  ignitionFeedbackConfirmed : Bool := false
  safingFailed : Bool := false
  deriving DecidableEq

/-- A supervisor with the driver's world behind it. -/
abbrev Supervised (W : Type u) := ActuatorSafetySupervisor × W

namespace ActuatorSafetySupervisor

variable {W : Type u}

def status (supervisor : ActuatorSafetySupervisor) : ActuatorSupervisorStatus where
  fault := supervisor.fault
  initialized := supervisor.initialized
  ignitionCommanded := supervisor.ignitionCommanded
  starterCommanded := supervisor.starterCommanded
  ignitionFeedbackConfirmed := supervisor.ignitionFeedbackConfirmed
  safingFailed := supervisor.safingFailed

def outputsActive (supervisor : ActuatorSafetySupervisor) : Bool :=
  supervisor.ignitionCommanded || supervisor.starterCommanded

/-- `feedback` shows the outputs as they are commanded. -/
def agreesWith (supervisor : ActuatorSafetySupervisor) (feedback : ActuatorFeedback) : Bool :=
  feedback.ignitionActive == supervisor.ignitionCommanded &&
    feedback.starterActive == supervisor.starterCommanded

def isFaulted (supervisor : ActuatorSafetySupervisor) : Bool := supervisor.fault != .none

/-! The updates of the operations below. -/

def observed (supervisor : ActuatorSafetySupervisor) (nowMs : UInt32) : ActuatorSafetySupervisor :=
  { supervisor with lastObservedMs := nowMs, clockInitialized := true }

def beaten (supervisor : ActuatorSafetySupervisor) (nowMs : UInt32) : ActuatorSafetySupervisor :=
  { supervisor with lastHeartbeatMs := nowMs, heartbeatInitialized := true }

def permitting (supervisor : ActuatorSafetySupervisor) (hardwareStartPermitted : Bool) :
    ActuatorSafetySupervisor :=
  { supervisor with hardwareStartPermitted := hardwareStartPermitted }

def faulted (supervisor : ActuatorSafetySupervisor) (fault : ActuatorSupervisorFault) :
    ActuatorSafetySupervisor :=
  { supervisor with fault := fault }

def confirmed (supervisor : ActuatorSafetySupervisor) : ActuatorSafetySupervisor :=
  { supervisor with ignitionFeedbackConfirmed := supervisor.ignitionCommanded }

def cleared (supervisor : ActuatorSafetySupervisor) : ActuatorSafetySupervisor :=
  { supervisor with
    fault := .none
    safingFailed := false
    heartbeatInitialized := false
    hardwareStartPermitted := false
    initialized := true }

def ignitionEnabled (supervisor : ActuatorSafetySupervisor) : ActuatorSafetySupervisor :=
  { supervisor with
    ignitionCommanded := true
    ignitionFeedbackConfirmed := !supervisor.config.requireFeedback
    lastOutputChangeMs := supervisor.lastObservedMs }

def starterEngaged (supervisor : ActuatorSafetySupervisor) : ActuatorSafetySupervisor :=
  { supervisor with
    starterCommanded := true
    starterEngagedAtMs := supervisor.lastObservedMs
    lastOutputChangeMs := supervisor.lastObservedMs }

def starterDisengaged (supervisor : ActuatorSafetySupervisor) : ActuatorSafetySupervisor :=
  { supervisor with
    starterCommanded := false
    lastOutputChangeMs := supervisor.lastObservedMs }

def remoteControlReleased (supervisor : ActuatorSafetySupervisor) : ActuatorSafetySupervisor :=
  { supervisor with
    ignitionCommanded := false
    starterCommanded := false
    ignitionFeedbackConfirmed := false
    lastOutputChangeMs := supervisor.lastObservedMs }

def safed (supervisor : ActuatorSafetySupervisor) (secured : Bool) : ActuatorSafetySupervisor :=
  { supervisor with
    ignitionCommanded := false
    starterCommanded := false
    ignitionFeedbackConfirmed := false
    lastOutputChangeMs := supervisor.lastObservedMs
    safingFailed := if secured then supervisor.safingFailed else true }

def safeDownstream (driver : ActuatorPort W) (state : Supervised W) : Bool × Supervised W :=
  let starterReleased := driver.disengageStarter state.2
  let outputsSecured := driver.secureOutputs starterReleased.2
  let secured := starterReleased.1 && outputsSecured.1
  (secured, (state.1.safed secured, outputsSecured.2))

/-- The first fault stays until a reset. -/
def trip (driver : ActuatorPort W) (fault : ActuatorSupervisorFault) (state : Supervised W) :
    Supervised W :=
  let supervisor := if state.1.fault = .none then state.1.faulted fault else state.1
  (safeDownstream driver (supervisor, state.2)).2

def construct (driver : ActuatorPort W) (config : ActuatorSafetyConfig) (world : W) :
    Supervised W :=
  let supervisor : ActuatorSafetySupervisor := { config := config }
  if !config.isValid then
    (safeDownstream driver (supervisor.faulted .invalidConfiguration, world)).2
  else
    let (secured, supervisor, world) := safeDownstream driver (supervisor, world)
    if !secured then (supervisor.faulted .initializationFailure, world)
    else ({ supervisor with initialized := true }, world)

def observeClock (driver : ActuatorPort W) (nowMs : UInt32) (state : Supervised W) :
    Bool × Supervised W :=
  if state.1.clockInitialized && nowMs != state.1.lastObservedMs &&
      !strictlyNewer nowMs state.1.lastObservedMs then
    (false, trip driver .clockRegression state)
  else
    (true, (state.1.observed nowMs, state.2))

def canEnergize (driver : ActuatorPort W) (state : Supervised W) : Bool × Supervised W :=
  let supervisor := state.1
  if !supervisor.initialized then
    (false, trip driver .initializationFailure state)
  else if supervisor.isFaulted then
    (false, state)
  else if !supervisor.clockInitialized || !supervisor.heartbeatInitialized then
    (false, trip driver .watchdogExpired state)
  else if !supervisor.hardwareStartPermitted then
    (false, trip driver .hardwareInterlockLost state)
  else if supervisor.lastObservedMs - supervisor.lastHeartbeatMs >
      supervisor.config.watchdogTimeoutMs then
    (false, trip driver .watchdogExpired state)
  else
    (true, state)

def heartbeat (driver : ActuatorPort W) (nowMs : UInt32) (state : Supervised W) :
    Bool × Supervised W :=
  let (observed, supervisor, world) := observeClock driver nowMs state
  if !observed then
    (false, (supervisor, world))
  else if !supervisor.initialized || supervisor.isFaulted then
    (false, (supervisor, world))
  else if supervisor.heartbeatInitialized && supervisor.outputsActive &&
      decide (nowMs - supervisor.lastHeartbeatMs > supervisor.config.watchdogTimeoutMs) then
    (false, trip driver .watchdogExpired (supervisor, world))
  else
    (true, (supervisor.beaten nowMs, world))

/-- The checks of `poll`, in order: the fault it trips with, if any. -/
def pollFault (supervisor : ActuatorSafetySupervisor) (nowMs : UInt32)
    (feedback : ActuatorFeedback) : Option ActuatorSupervisorFault :=
  let config := supervisor.config
  let feedbackGraceElapsed := decide (nowMs - supervisor.lastOutputChangeMs > config.feedbackGraceMs)
  if supervisor.outputsActive && !supervisor.hardwareStartPermitted then
    some .hardwareInterlockLost
  else if supervisor.outputsActive && (!supervisor.heartbeatInitialized ||
      decide (nowMs - supervisor.lastHeartbeatMs > config.watchdogTimeoutMs)) then
    some .watchdogExpired
  else if supervisor.starterCommanded &&
      decide (nowMs - supervisor.starterEngagedAtMs > config.maximumStarterActiveMs) then
    some .starterTimeout
  else if feedbackGraceElapsed && feedback.available && !supervisor.agreesWith feedback then
    some .feedbackMismatch
  else if feedbackGraceElapsed && config.requireFeedback && supervisor.outputsActive &&
      !feedback.available then
    some .feedbackUnavailable
  else none

def poll (driver : ActuatorPort W) (nowMs : UInt32) (hardwareStartPermitted : Bool)
    (feedback : ActuatorFeedback) (state : Supervised W) :
    ActuatorSupervisorStatus × Supervised W :=
  let (observed, supervisor, world) := observeClock driver nowMs state
  if !observed then
    (supervisor.status, (supervisor, world))
  else if !supervisor.initialized || supervisor.isFaulted then
    (supervisor.status, (supervisor, world))
  else
    let supervisor := supervisor.permitting hardwareStartPermitted
    match supervisor.pollFault nowMs feedback with
    | some fault =>
        let (supervisor, world) := trip driver fault (supervisor, world)
        (supervisor.status, (supervisor, world))
    | none =>
        let supervisor :=
          if feedback.available && supervisor.agreesWith feedback then supervisor.confirmed
          else supervisor
        (supervisor.status, (supervisor, world))

def resetFault (driver : ActuatorPort W) (nowMs : UInt32) (feedback : ActuatorFeedback)
    (state : Supervised W) : Bool × Supervised W :=
  let (observed, supervisor, world) := observeClock driver nowMs state
  if !observed then
    (false, (supervisor, world))
  else if !supervisor.config.isValid then
    (false, (safeDownstream driver (supervisor.faulted .invalidConfiguration, world)).2)
  else
    let (secured, supervisor, world) := safeDownstream driver (supervisor, world)
    if !secured then
      (false, (supervisor.faulted .safingFailure, world))
    else if (supervisor.config.requireFeedback && !feedback.available) ||
        (feedback.available && (feedback.ignitionActive || feedback.starterActive)) then
      (false, (supervisor.faulted
        (if feedback.available then .feedbackMismatch else .feedbackUnavailable), world))
    else
      (true, (supervisor.cleared, world))

def enableIgnition (driver : ActuatorPort W) (state : Supervised W) : Bool × Supervised W :=
  let (permitted, supervisor, world) := canEnergize driver state
  if !permitted then
    (false, (supervisor, world))
  else
    let (accepted, world) := driver.enableIgnition world
    if !accepted then
      (false, trip driver .driverFailure (supervisor, world))
    else
      (true, (supervisor.ignitionEnabled, world))

def engageStarter (driver : ActuatorPort W) (state : Supervised W) : Bool × Supervised W :=
  let (permitted, supervisor, world) := canEnergize driver state
  if !permitted then
    (false, (supervisor, world))
  else if supervisor.starterCommanded || !supervisor.ignitionCommanded ||
      (supervisor.config.requireFeedback && !supervisor.ignitionFeedbackConfirmed) then
    (false, trip driver .commandSequence (supervisor, world))
  else
    let (accepted, world) := driver.engageStarter world
    if !accepted then
      (false, trip driver .driverFailure (supervisor, world))
    else
      (true, (supervisor.starterEngaged, world))

def disengageStarter (driver : ActuatorPort W) (state : Supervised W) : Bool × Supervised W :=
  let (accepted, world) := driver.disengageStarter state.2
  if !accepted then
    (false, trip driver .driverFailure (state.1, world))
  else
    (true, (state.1.starterDisengaged, world))

def releaseRemoteControl (driver : ActuatorPort W) (state : Supervised W) : Bool × Supervised W :=
  let (permitted, supervisor, world) := canEnergize driver state
  if !permitted then
    (false, (supervisor, world))
  else if supervisor.starterCommanded then
    (false, trip driver .commandSequence (supervisor, world))
  else
    let (accepted, world) := driver.releaseRemoteControl world
    if !accepted then
      (false, trip driver .driverFailure (supervisor, world))
    else
      (true, (supervisor.remoteControlReleased, world))

def secureOutputs (driver : ActuatorPort W) (state : Supervised W) : Bool × Supervised W :=
  let (secured, supervisor, world) := safeDownstream driver state
  if !secured then
    (false, (supervisor.faulted .safingFailure, world))
  else
    (true, (supervisor, world))

def port (driver : ActuatorPort W) : ActuatorPort (Supervised W) where
  enableIgnition := enableIgnition driver
  engageStarter := engageStarter driver
  disengageStarter := disengageStarter driver
  releaseRemoteControl := releaseRemoteControl driver
  secureOutputs := secureOutputs driver

end ActuatorSafetySupervisor

end BmwRemote.Infrastructure
