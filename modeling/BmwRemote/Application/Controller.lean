import BmwRemote.Application.ProfileReadiness
import BmwRemote.Application.SafetyPolicy

/-! The remote-start controller: one event and one vehicle snapshot in, one
decision out. The decision lists the actions the runtime has to execute. -/
namespace BmwRemote.Application

open BmwRemote.Domain

inductive ControllerState where
  | idle
  | authorizing
  | preparing
  | cranking
  | running
  | awaitingTakeover
  | driverControl
  | stopping
  | fault
  deriving DecidableEq, Repr

inductive FaultCode where
  | none
  | safetyInterlock
  | vehicleCommunication
  | authorizationTimeout
  | crankTimeout
  | stopTimeout
  | actuatorFailure
  | timerFailure
  | internalError
  deriving DecidableEq, Repr

inductive EventType where
  | remoteStartRequested
  | remoteStopRequested
  | vehicleStateUpdated
  | timerElapsed
  | driverTakeoverConfirmed
  | infrastructureFailure
  | resetRequested
  deriving DecidableEq, Repr

structure Event where
  type : EventType := .vehicleStateUpdated
  fault : FaultCode := .none
  deriving DecidableEq, Repr

def Event.infrastructureFailure (code : FaultCode) : Event := ⟨.infrastructureFailure, code⟩

inductive ActionType where
  | requestVehicleState
  | enableIgnition
  | engageStarter
  | disengageStarter
  | releaseRemoteControl
  | secureOutputs
  | armTimer
  | cancelTimer
  | notifyProfileRejected
  | notifyRemoteStartDisabled
  | notifyStartAccepted
  | notifyStartRejected
  | notifyRunning
  | notifyTakeoverPending
  | notifyTakeoverComplete
  | notifyStopping
  | notifyStopped
  | notifyFault
  | notifyReady
  | notifyRequestIgnored
  | notifyResetRejected
  deriving DecidableEq, Repr

structure Action where
  type : ActionType
  durationMs : UInt32 := 0
  deriving DecidableEq, Repr

def Decision.maximumActions : Nat := 8

/-- The fixed action array of a decision with its fill count: a list that never
outgrows the array. -/
structure ActionList where
  toList : List Action
  bounded : toList.length ≤ Decision.maximumActions
  deriving DecidableEq

namespace ActionList

def empty : ActionList := ⟨[], by decide⟩

def add (actions : ActionList) (type : ActionType) (durationMs : UInt32 := 0) : ActionList :=
  if h : actions.toList.length < Decision.maximumActions then
    ⟨actions.toList ++ [⟨type, durationMs⟩], by rw [List.length_append]; exact h⟩
  else actions

@[simp] theorem toList_add (actions : ActionList) (type : ActionType) (durationMs : UInt32) :
    (actions.add type durationMs).toList =
      if actions.toList.length < 8 then actions.toList ++ [⟨type, durationMs⟩]
      else actions.toList := by
  unfold add Decision.maximumActions
  split <;> rfl

end ActionList

structure Decision where
  previousState : ControllerState := .idle
  state : ControllerState := .idle
  previousFault : FaultCode := .none
  fault : FaultCode := .none
  safety : SafetyAssessment := {}
  profileReadiness : ProfileReadinessAssessment := {}
  actions : ActionList := .empty
  deriving DecidableEq

namespace Decision

def contains (decision : Decision) (type : ActionType) : Bool :=
  decision.actions.toList.any fun action => action.type == type

def add (decision : Decision) (type : ActionType) (durationMs : UInt32 := 0) : Decision :=
  { decision with actions := decision.actions.add type durationMs }

end Decision

/-- A `DriverEntryMode` can be cast from any stored byte, so it is that byte. -/
structure DriverEntryMode where
  raw : UInt8
  deriving DecidableEq, Repr

namespace DriverEntryMode

def requireTakeover : DriverEntryMode := ⟨0⟩
def stopImmediately : DriverEntryMode := ⟨1⟩

end DriverEntryMode

structure ControllerConfig where
  vehicleProfile : Option VehicleProfile := none
  profilePolicy : ProfileReadinessPolicy := {}
  safety : SafetyPolicyConfig := {}
  remoteStartEnabled : Bool := true
  driverEntryMode : DriverEntryMode := .requireTakeover
  authorizationTimeoutMs : UInt32 := 2000
  preparationDelayMs : UInt32 := 1500
  maximumCrankTimeMs : UInt32 := 5000
  maximumRemoteRunTimeMs : UInt32 := 15 * 60 * 1000
  driverTakeoverTimeoutMs : UInt32 := 60000
  stopConfirmationTimeoutMs : UInt32 := 3000

/-- The constructor derives the safety policy and the profile readiness from
the configuration and nothing assigns them later: below they are functions of
`config`. -/
structure Controller where
  config : ControllerConfig
  state : ControllerState
  fault : FaultCode

namespace Controller

def new (config : ControllerConfig := {}) : Controller := ⟨config, .idle, .none⟩

def safetyPolicy (controller : Controller) : SafetyPolicy := ⟨controller.config.safety⟩

def profileReadiness (controller : Controller) : ProfileReadinessAssessment :=
  assessRemoteStartReadiness controller.config.vehicleProfile controller.config.profilePolicy
    controller.config.safety.requireHoodClosed

abbrev Handling := Controller × Decision

def transition (controller : Controller) (decision : Decision) (next : ControllerState) :
    Handling :=
  ({ controller with state := next }, { decision with state := next })

def engineIsRunning (controller : Controller) (vehicle : VehicleState) : Bool :=
  vehicle.engineRpm.isFresh &&
    decide (vehicle.engineRpm.value ≥ controller.safetyPolicy.runningRpmThreshold)

def driverEntryDetected (vehicle : VehicleState) : Bool :=
  vehicle.doorsClosed.isFresh && !vehicle.doorsClosed.value

def beginPreparing (controller : Controller) (decision : Decision) : Handling :=
  let (controller, decision) := controller.transition decision .preparing
  (controller, decision
    |>.add .cancelTimer
    |>.add .enableIgnition
    |>.add .notifyStartAccepted
    |>.add .armTimer controller.config.preparationDelayMs)

def beginCranking (controller : Controller) (decision : Decision) : Handling :=
  let (controller, decision) := controller.transition decision .cranking
  (controller, decision
    |>.add .cancelTimer
    |>.add .engageStarter
    |>.add .armTimer controller.config.maximumCrankTimeMs)

def beginRunning (controller : Controller) (decision : Decision) : Handling :=
  let (controller, decision) := controller.transition decision .running
  (controller, decision
    |>.add .cancelTimer
    |>.add .disengageStarter
    |>.add .notifyRunning
    |>.add .armTimer controller.config.maximumRemoteRunTimeMs)

def beginAwaitingTakeover (controller : Controller) (decision : Decision) : Handling :=
  let (controller, decision) := controller.transition decision .awaitingTakeover
  (controller, decision
    |>.add .cancelTimer
    |>.add .notifyTakeoverPending
    |>.add .armTimer controller.config.driverTakeoverTimeoutMs)

def completeDriverTakeover (controller : Controller) (decision : Decision) : Handling :=
  let (controller, decision) := controller.transition decision .driverControl
  (controller, decision
    |>.add .cancelTimer
    |>.add .disengageStarter
    |>.add .releaseRemoteControl
    |>.add .notifyTakeoverComplete)

def beginStopping (controller : Controller) (decision : Decision) : Handling :=
  let (controller, decision) := controller.transition decision .stopping
  (controller, decision
    |>.add .cancelTimer
    |>.add .disengageStarter
    |>.add .secureOutputs
    |>.add .notifyStopping
    |>.add .armTimer controller.config.stopConfirmationTimeoutMs)

def completeStop (controller : Controller) (decision : Decision) : Handling :=
  let (controller, decision) := controller.transition decision .idle
  ({ controller with fault := .none }, decision
    |>.add .cancelTimer
    |>.add .disengageStarter
    |>.add .secureOutputs
    |>.add .notifyStopped)

def enterFault (controller : Controller) (decision : Decision) (fault : FaultCode) : Handling :=
  let (controller, decision) := controller.transition decision .fault
  ({ controller with fault := fault }, decision
    |>.add .cancelTimer
    |>.add .disengageStarter
    |>.add .secureOutputs
    |>.add .notifyFault)

def handleStartRequest (controller : Controller) (decision : Decision) : Handling :=
  if controller.state ≠ .idle then
    (controller, decision.add .notifyRequestIgnored)
  else if controller.config.remoteStartEnabled = false then
    (controller, decision |>.add .secureOutputs |>.add .notifyRemoteStartDisabled)
  else if controller.profileReadiness.ready = false then
    (controller, decision |>.add .secureOutputs |>.add .notifyProfileRejected)
  else
    let (controller, decision) := controller.transition decision .authorizing
    (controller, decision
      |>.add .requestVehicleState
      |>.add .armTimer controller.config.authorizationTimeoutMs)

def handleStopRequest (controller : Controller) (decision : Decision) : Handling :=
  match controller.state with
  | .authorizing | .preparing | .cranking => controller.completeStop decision
  | .running | .awaitingTakeover => controller.beginStopping decision
  | .driverControl => (controller, decision.add .notifyRequestIgnored)
  | .fault => (controller, decision |>.add .secureOutputs |>.add .notifyRequestIgnored)
  | .idle => (controller, decision.add .notifyStopped)
  | .stopping => (controller, decision.add .notifyRequestIgnored)

def handleVehicleUpdate (controller : Controller) (decision : Decision) (vehicle : VehicleState) :
    Handling :=
  match controller.state with
  | .authorizing =>
      let decision := { decision with safety := controller.safetyPolicy.assessStart vehicle }
      if decision.safety.approved then
        controller.beginPreparing decision
      else
        let (controller, decision) := controller.transition decision .idle
        ({ controller with fault := .none }, decision
          |>.add .cancelTimer
          |>.add .secureOutputs
          |>.add .notifyStartRejected)
  | .preparing =>
      let decision := { decision with safety := controller.safetyPolicy.assessStart vehicle }
      if decision.safety.approved then (controller, decision)
      else controller.enterFault decision .safetyInterlock
  | .cranking =>
      let decision := { decision with safety := controller.safetyPolicy.assessCranking vehicle }
      if decision.safety.approved = false then
        controller.enterFault decision .safetyInterlock
      else if controller.engineIsRunning vehicle then
        controller.beginRunning decision
      else (controller, decision)
  | .running =>
      if driverEntryDetected vehicle then
        if controller.config.driverEntryMode = .requireTakeover then
          let decision :=
            { decision with safety := controller.safetyPolicy.assessDriverTakeover vehicle }
          if decision.safety.approved then controller.beginAwaitingTakeover decision
          else controller.enterFault decision .safetyInterlock
        else controller.beginStopping decision
      else
        let decision := { decision with safety := controller.safetyPolicy.assessRemoteRun vehicle }
        if decision.safety.approved then (controller, decision)
        else controller.enterFault decision .safetyInterlock
  | .awaitingTakeover =>
      let decision :=
        { decision with safety := controller.safetyPolicy.assessDriverTakeover vehicle }
      if decision.safety.approved then (controller, decision)
      else controller.enterFault decision .safetyInterlock
  | .driverControl =>
      if vehicle.engineRpm.isFresh && !controller.engineIsRunning vehicle then
        let (controller, decision) := controller.transition decision .idle
        (controller, decision.add .notifyReady)
      else (controller, decision)
  | .stopping =>
      if vehicle.engineRpm.isFresh && !controller.engineIsRunning vehicle then
        controller.completeStop decision
      else (controller, decision)
  | .idle | .fault => (controller, decision)

def handleTimer (controller : Controller) (decision : Decision) (vehicle : VehicleState) :
    Handling :=
  match controller.state with
  | .authorizing => controller.enterFault decision .authorizationTimeout
  | .preparing =>
      let decision := { decision with safety := controller.safetyPolicy.assessStart vehicle }
      if decision.safety.approved then controller.beginCranking decision
      else controller.enterFault decision .safetyInterlock
  | .cranking => controller.enterFault decision .crankTimeout
  | .running => controller.beginStopping decision
  | .awaitingTakeover => controller.beginStopping decision
  | .driverControl => (controller, decision)
  | .stopping => controller.enterFault decision .stopTimeout
  | .idle | .fault => (controller, decision)

def handleDriverTakeover (controller : Controller) (decision : Decision)
    (vehicle : VehicleState) : Handling :=
  if controller.state ≠ .awaitingTakeover then
    (controller, decision.add .notifyRequestIgnored)
  else
    let decision :=
      { decision with safety := controller.safetyPolicy.assessDriverTakeover vehicle }
    if decision.safety.approved = false then controller.enterFault decision .safetyInterlock
    else controller.completeDriverTakeover decision

def handleReset (controller : Controller) (decision : Decision) (vehicle : VehicleState) :
    Handling :=
  if controller.state ≠ .fault then
    (controller, decision.add .notifyRequestIgnored)
  else
    let engineStopped := vehicle.engineRpm.isFresh && !controller.engineIsRunning vehicle
    let noCriticalFault :=
      vehicle.criticalFaultPresent.isFresh && !vehicle.criticalFaultPresent.value
    if !engineStopped || !noCriticalFault then
      (controller, decision |>.add .secureOutputs |>.add .notifyResetRejected)
    else
      let (controller, decision) := controller.transition decision .idle
      ({ controller with fault := .none }, decision
        |>.add .cancelTimer
        |>.add .secureOutputs
        |>.add .notifyReady)

def openDecision (controller : Controller) : Decision where
  previousState := controller.state
  state := controller.state
  previousFault := controller.fault
  fault := controller.fault
  profileReadiness := controller.profileReadiness

def handleEvent (controller : Controller) (event : Event) (vehicle : VehicleState) : Handling :=
  let decision := controller.openDecision
  match event.type with
  | .remoteStartRequested => controller.handleStartRequest decision
  | .remoteStopRequested => controller.handleStopRequest decision
  | .vehicleStateUpdated => controller.handleVehicleUpdate decision vehicle
  | .timerElapsed => controller.handleTimer decision vehicle
  | .driverTakeoverConfirmed => controller.handleDriverTakeover decision vehicle
  | .infrastructureFailure =>
      controller.enterFault decision
        (if event.fault = .none then .internalError else event.fault)
  | .resetRequested => controller.handleReset decision vehicle

def handle (controller : Controller) (event : Event) (vehicle : VehicleState) :
    Decision × Controller :=
  let (controller, decision) := controller.handleEvent event vehicle
  ({ decision with state := controller.state, fault := controller.fault }, controller)

end Controller

end BmwRemote.Application
