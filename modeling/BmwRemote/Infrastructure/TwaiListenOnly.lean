/-! The barriers of the listen-only receiver: the transceiver is held silent and its
transmission inhibited, both read back, before a CAN driver is installed. -/
namespace BmwRemote.Infrastructure

inductive GpioLevel where
  | low
  | high
  deriving DecidableEq, Repr

structure TwaiSafetyPinConfig where
  silentPin : Int := -1
  silentLevel : GpioLevel := .high
  transmitInhibitPin : Int := -1
  transmitInhibitLevel : GpioLevel := .high
  deriving DecidableEq, Repr

def isPin (pin : Int) : Bool := decide (pin ≥ 0) && decide (pin ≤ 48)

def TwaiSafetyPinConfig.isValid (config : TwaiSafetyPinConfig) : Bool :=
  isPin config.silentPin && isPin config.transmitInhibitPin &&
    config.silentPin != config.transmitInhibitPin

def pinNumber (pin : Int) : UInt8 := UInt8.ofInt pin

structure GpioTwaiSafetyHal where
  config : TwaiSafetyPinConfig
  silentHeld : Bool := false
  transmitInhibited : Bool := false
  deriving DecidableEq

namespace GpioTwaiSafetyHal

/-- `holdHardwareSilent`; `configured` is the answer of the GPIO. -/
def holdHardwareSilent (safety : GpioTwaiSafetyHal) (configured : Bool) : GpioTwaiSafetyHal :=
  { safety with silentHeld := safety.config.isValid && configured }

def holdTransmitInhibited (safety : GpioTwaiSafetyHal) (configured : Bool) : GpioTwaiSafetyHal :=
  { safety with transmitInhibited := safety.config.isValid && configured }

def readsBack (safety : GpioTwaiSafetyHal) : Bool :=
  safety.config.isValid && safety.silentHeld && safety.transmitInhibited

def levelsConfirmed (safety : GpioTwaiSafetyHal) (silentLevel inhibitLevel : GpioLevel) : Bool :=
  silentLevel == safety.config.silentLevel && inhibitLevel == safety.config.transmitInhibitLevel

end GpioTwaiSafetyHal

/-- A `CanBitrate` can be cast from any number, so it is that number. -/
structure CanReceiverConfig where
  bitrate : UInt32 := 100000
  channel : UInt8 := 0
  deriving DecidableEq, Repr

def CanReceiverConfig.isValid (config : CanReceiverConfig) : Bool :=
  config.bitrate == 100000 || config.bitrate == 500000

structure TwaiListenOnlyConfig where
  receiver : CanReceiverConfig := {}
  receivePin : Int := -1
  transmitPin : Int := -1
  driverReceiveQueueDepth : UInt16 := 64
  receiveTimeoutMs : UInt16 := 10
  taskPriority : UInt8 := 8
  taskCore : Int8 := 0
  deriving DecidableEq, Repr

def TwaiListenOnlyConfig.isValid (config : TwaiListenOnlyConfig) : Bool :=
  config.receiver.isValid && isPin config.receivePin && isPin config.transmitPin &&
    config.receivePin != config.transmitPin &&
    decide (config.driverReceiveQueueDepth > 0) &&
    decide (config.driverReceiveQueueDepth ≤ 256) &&
    decide (config.receiveTimeoutMs > 0) && decide (config.receiveTimeoutMs ≤ 100) &&
    decide (config.taskPriority > 0) && decide (config.taskPriority ≤ 24) &&
    (config.taskCore == 0 || config.taskCore == 1)

end BmwRemote.Infrastructure
