import BmwRemote.Application.Controller
import BmwRemote.Application.UserSettings
import BmwRemote.Lib.Device

/-! The ports of the runtime. A port is a record of operations on a world `W`:
whatever the world remembers, an operation answers and leaves the next world,
so one record stands for every pattern of answers a real port can give. -/
namespace BmwRemote.Infrastructure

open BmwRemote.Application BmwRemote.Lib

universe u

structure VehicleGateway (W : Type u) where
  requestState : W → Bool × W

structure ActuatorPort (W : Type u) where
  enableIgnition : W → Bool × W
  engageStarter : W → Bool × W
  disengageStarter : W → Bool × W
  releaseRemoteControl : W → Bool × W
  secureOutputs : W → Bool × W

structure TimerPort (W : Type u) where
  arm : UInt32 → W → Bool × W
  cancel : W → Bool × W

structure Notification where
  notification : ActionType
  state : ControllerState
  fault : FaultCode
  safety : SafetyAssessment
  profileReadiness : ProfileReadinessAssessment
  deriving DecidableEq

structure NotificationSink (W : Type u) where
  publish : Notification → W → W

/-- A load that fails gives no settings that a caller looks at. -/
structure UserSettingsStore (W : Type u) where
  load : W → Option UserSettings × W
  save : UserSettings → W → Bool × W

structure SettingsTransportPort (W : Type u) where
  send : List UInt8 → W → Bool × W

structure Ports (W : Type u) where
  vehicleGateway : VehicleGateway W
  actuators : ActuatorPort W
  timer : TimerPort W
  notifications : NotificationSink W

inductive ActuatorCall where
  | enableIgnition
  | engageStarter
  | disengageStarter
  | releaseRemoteControl
  | secureOutputs
  deriving DecidableEq, Repr

inductive PortCall where
  | requestState
  | actuator (call : ActuatorCall)
  | arm (durationMs : UInt32)
  | cancel
  | publish (notification : Notification)
  deriving DecidableEq

def ActuatorPort.perform {W : Type u} (port : ActuatorPort W) : Device W ActuatorCall
  | .enableIgnition => port.enableIgnition
  | .engageStarter => port.engageStarter
  | .disengageStarter => port.disengageStarter
  | .releaseRemoteControl => port.releaseRemoteControl
  | .secureOutputs => port.secureOutputs

def ActuatorPort.ofDevice {W : Type u} (device : Device W ActuatorCall) : ActuatorPort W where
  enableIgnition := device .enableIgnition
  engageStarter := device .engageStarter
  disengageStarter := device .disengageStarter
  releaseRemoteControl := device .releaseRemoteControl
  secureOutputs := device .secureOutputs

def ActuatorPort.traced {W : Type u} (port : ActuatorPort W) :
    ActuatorPort (W × List (ActuatorCall × Bool)) :=
  ActuatorPort.ofDevice port.perform.traced

namespace Ports

variable {W : Type u}

/-- All ports as one device. A publication returns nothing, so it is never refused. -/
def perform (ports : Ports W) : Device W PortCall
  | .requestState => ports.vehicleGateway.requestState
  | .actuator call => ports.actuators.perform call
  | .arm durationMs => ports.timer.arm durationMs
  | .cancel => ports.timer.cancel
  | .publish notification => fun world => (true, ports.notifications.publish notification world)

def traced (ports : Ports W) : Ports (W × List (PortCall × Bool)) where
  vehicleGateway := ⟨ports.perform.traced .requestState⟩
  actuators := ActuatorPort.ofDevice fun call => ports.perform.traced (.actuator call)
  timer := ⟨fun durationMs => ports.perform.traced (.arm durationMs), ports.perform.traced .cancel⟩
  notifications := ⟨fun notification world =>
    (ports.perform.traced (.publish notification) world).2⟩

@[simp] theorem perform_traced (ports : Ports W) : ports.traced.perform = ports.perform.traced := by
  funext call
  cases call with
  | actuator call => cases call <;> rfl
  | _ => rfl

end Ports

end BmwRemote.Infrastructure
