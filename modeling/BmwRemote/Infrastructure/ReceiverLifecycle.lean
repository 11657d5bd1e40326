import BmwRemote.Infrastructure.ReceiverAccounting
import BmwRemote.Infrastructure.TwaiListenOnly
import BmwRemote.Lib.Interleaving

/-! The life of the listen-only receiver, step by step: one control thread that calls
`start` and `stop`, and the receive tasks it has created. Every step takes the answers of
the calls that it makes, and the steps of all threads can come in any order. -/
namespace BmwRemote.Infrastructure

open BmwRemote.CanCore BmwRemote.Lib

inductive CanReceiverState where
  | stopped
  | runningListenOnly
  | fault
  deriving DecidableEq, Repr

inductive CanReceiverStartStatus where
  | started
  | alreadyRunning
  | invalidConfiguration
  | safetyRejected
  | driverInstallFailed
  | driverStartFailed
  | taskStartFailed
  deriving DecidableEq, Repr

inductive DriverCall where
  | start
  | stop
  | configureOutput (pin : UInt8) (level : GpioLevel) (done : Bool)
  | read (pin : UInt8) (level : Option GpioLevel)
  | driverInstall (done : Bool)
  | twaiStart (done : Bool)
  | createTask (done : Bool)
  | twaiStop (done : Bool)
  | driverUninstall (done : Bool)
  deriving DecidableEq

/-- Where the control thread is: the step it takes next, or what its last `start` has
returned. -/
inductive Control where
  | idle (last : Option CanReceiverStartStatus)
  | holdHardwareSilent
  | holdTransmitInhibited
  | readSilent
  | readInhibit (silentLevel : GpioLevel)
  | driverInstall
  | twaiStart
  | uninstallUnstarted
  | clearQueue
  | resetStatistics
  | clearExited
  | setRunning
  | createTask
  | clearRunning
  | setExited
  | stopUncreated
  | uninstallUncreated
  | publish
  | stopRunning
  | twaiStop
  | awaitExit (wait : Nat)
  | checkExit
  | driverUninstall
  deriving DecidableEq

inductive TaskStep where
  | checking
  | receiving
  | enqueueing (nowUs : UInt64) (message : TwaiMessage)
  | updating
  | exiting
  | deleting
  | deleted
  deriving DecidableEq

/-- `EspIdfTwaiReceiver` with its threads. `driver` is whether ESP-IDF holds a driver;
`calls` and `installedAtStart` only remember what has happened. -/
structure ListenOnlyReceiver where
  config : TwaiListenOnlyConfig
  safety : GpioTwaiSafetyHal
  ring : RingReceiver
  state : CanReceiverState := .stopped
  running : Bool := false
  taskExited : Bool := true
  driverInstalled : Bool := false
  taskHandle : Bool := false
  control : Control := .idle none
  tasks : List TaskStep := []
  driver : Bool := false
  calls : List DriverCall := []
  installedAtStart : Bool := false

structure Answer where
  done : Bool := true
  level : Option GpioLevel := none

structure Arrived where
  received : Option (UInt64 × TwaiMessage) := none
  alerts : Option TwaiAlerts := none

inductive LifecycleAction where
  | start
  | stop
  | control (answer : Answer)
  | task (index : Nat) (arrived : Arrived)

namespace ListenOnlyReceiver

def taskWaits : Nat := 20

def log (receiver : ListenOnlyReceiver) (call : DriverCall) : ListenOnlyReceiver :=
  { receiver with calls := receiver.calls ++ [call] }

def goto (receiver : ListenOnlyReceiver) (control : Control) : ListenOnlyReceiver :=
  { receiver with control := control }

def refuse (receiver : ListenOnlyReceiver) (status : CanReceiverStartStatus) :
    ListenOnlyReceiver :=
  { receiver with state := .fault, control := .idle (some status) }

def beginStart (receiver : ListenOnlyReceiver) : ListenOnlyReceiver :=
  let receiver := { receiver.log .start with installedAtStart := receiver.driverInstalled }
  if receiver.state = .runningListenOnly then receiver.goto (.idle (some .alreadyRunning))
  else if !receiver.config.isValid then receiver.refuse .invalidConfiguration
  else receiver.goto .holdHardwareSilent

def beginStop (receiver : ListenOnlyReceiver) : ListenOnlyReceiver :=
  let receiver := receiver.log .stop
  if !receiver.driverInstalled then { receiver with state := .stopped, control := .idle none }
  else receiver.goto .stopRunning

def uninstall (receiver : ListenOnlyReceiver) (done : Bool) : ListenOnlyReceiver :=
  { receiver.log (.driverUninstall done) with
    driver := receiver.driver && !done
    driverInstalled := false }

def controlStep (receiver : ListenOnlyReceiver) (answer : Answer) : Option ListenOnlyReceiver :=
  match receiver.control with
  | .idle _ => none
  | .holdHardwareSilent =>
      let pins := receiver.safety.config
      let safety := receiver.safety.holdHardwareSilent answer.done
      let receiver :=
        if pins.isValid then
          receiver.log (.configureOutput (pinNumber pins.silentPin) pins.silentLevel answer.done)
        else receiver
      let receiver := { receiver with safety := safety }
      some (if safety.silentHeld then receiver.goto .holdTransmitInhibited
        else receiver.refuse .safetyRejected)
  | .holdTransmitInhibited =>
      let pins := receiver.safety.config
      let safety := receiver.safety.holdTransmitInhibited answer.done
      let receiver :=
        if pins.isValid then
          receiver.log (.configureOutput (pinNumber pins.transmitInhibitPin)
            pins.transmitInhibitLevel answer.done)
        else receiver
      let receiver := { receiver with safety := safety }
      some (if safety.transmitInhibited then receiver.goto .readSilent
        else receiver.refuse .safetyRejected)
  | .readSilent =>
      if !receiver.safety.readsBack then some (receiver.refuse .safetyRejected)
      else
        let receiver :=
          receiver.log (.read (pinNumber receiver.safety.config.silentPin) answer.level)
        match answer.level with
        | none => some (receiver.refuse .safetyRejected)
        | some silentLevel => some (receiver.goto (.readInhibit silentLevel))
  | .readInhibit silentLevel =>
      let receiver :=
        receiver.log (.read (pinNumber receiver.safety.config.transmitInhibitPin) answer.level)
      match answer.level with
      | none => some (receiver.refuse .safetyRejected)
      | some inhibitLevel =>
          if receiver.safety.levelsConfirmed silentLevel inhibitLevel then
            some (receiver.goto .driverInstall)
          else some (receiver.refuse .safetyRejected)
  | .driverInstall =>
      let receiver := receiver.log (.driverInstall answer.done)
      if !answer.done then some (receiver.refuse .driverInstallFailed)
      else some { receiver with driver := true, driverInstalled := true, control := .twaiStart }
  | .twaiStart =>
      let receiver := receiver.log (.twaiStart answer.done)
      if !answer.done then some (receiver.goto .uninstallUnstarted)
      else some (receiver.goto .clearQueue)
  | .uninstallUnstarted =>
      some ((receiver.uninstall answer.done).refuse .driverStartFailed)
  | .clearQueue =>
      some { receiver with
        ring := { receiver.ring with queue := receiver.ring.queue.clear }
        control := .resetStatistics }
  | .resetStatistics =>
      -- with `nextSequence_` behind it
      some { receiver with
        ring := { receiver.ring with
          statistics := {}
          currentFrameStatus := .none
          nextSequence := 1 }
        control := .clearExited }
  | .clearExited => some { receiver with taskExited := false, control := .setRunning }
  | .setRunning => some { receiver with running := true, control := .createTask }
  | .createTask =>
      let receiver := receiver.log (.createTask answer.done)
      if answer.done then
        some { receiver with
          tasks := receiver.tasks ++ [.checking]
          taskHandle := true
          control := .publish }
      else some { receiver with taskHandle := false, control := .clearRunning }
  | .clearRunning => some { receiver with running := false, control := .setExited }
  | .setExited => some { receiver with taskExited := true, control := .stopUncreated }
  | .stopUncreated =>
      some ((receiver.log (.twaiStop answer.done)).goto .uninstallUncreated)
  | .uninstallUncreated =>
      some ((receiver.uninstall answer.done).refuse .taskStartFailed)
  | .publish =>
      some { receiver with state := .runningListenOnly, control := .idle (some .started) }
  | .stopRunning => some { receiver with running := false, control := .twaiStop }
  | .twaiStop => some ((receiver.log (.twaiStop answer.done)).goto (.awaitExit 0))
  | .awaitExit wait =>
      if wait < taskWaits ∧ receiver.taskExited = false then
        some (receiver.goto (.awaitExit (wait + 1)))
      else some (receiver.goto .checkExit)
  | .checkExit =>
      if !receiver.taskExited then
        some { receiver with state := .fault, control := .idle none }
      else some (receiver.goto .driverUninstall)
  | .driverUninstall =>
      some { receiver.uninstall answer.done with
        taskHandle := false
        state := .stopped
        control := .idle none }

def moveTask (receiver : ListenOnlyReceiver) (index : Nat) (task : TaskStep) :
    ListenOnlyReceiver :=
  { receiver with tasks := receiver.tasks.set index task }

def taskStep (receiver : ListenOnlyReceiver) (index : Nat) (arrived : Arrived) :
    Option ListenOnlyReceiver :=
  match receiver.tasks[index]? with
  | none => none
  | some .checking =>
      some (receiver.moveTask index (if receiver.running then .receiving else .exiting))
  | some .receiving =>
      match arrived.received with
      | none => some (receiver.moveTask index .updating)
      | some (nowUs, message) => some (receiver.moveTask index (.enqueueing nowUs message))
  | some (.enqueueing nowUs message) =>
      some { receiver.moveTask index .updating with
        ring := receiver.ring.enqueueReceivedFrame nowUs message }
  | some .updating =>
      match arrived.alerts with
      | none => some (receiver.moveTask index .checking)
      | some alerts =>
          some { receiver.moveTask index .checking with ring := receiver.ring.updateAlerts alerts }
  | some .exiting => some { receiver.moveTask index .deleting with taskExited := true }
  | some .deleting => some (receiver.moveTask index .deleted)
  | some .deleted => none

def isIdle (receiver : ListenOnlyReceiver) : Bool :=
  match receiver.control with
  | .idle _ => true
  | _ => false

def step : Interleaving ListenOnlyReceiver LifecycleAction
  | receiver, .start => if receiver.isIdle then some receiver.beginStart else none
  | receiver, .stop => if receiver.isIdle then some receiver.beginStop else none
  | receiver, .control answer => receiver.controlStep answer
  | receiver, .task index arrived => receiver.taskStep index arrived

def new (config : TwaiListenOnlyConfig) (pins : TwaiSafetyPinConfig) (ring : RingReceiver) :
    ListenOnlyReceiver where
  config := config
  safety := { config := pins }
  ring := ring

def benchConfig : TwaiListenOnlyConfig := { receivePin := 4, transmitPin := 5 }

def benchPins : TwaiSafetyPinConfig := { silentPin := 6, transmitInhibitPin := 7 }

def emptyRing : RingReceiver where
  queue := ⟨fun _ => {}, 0, 0, by decide⟩

def startUpToTask : List LifecycleAction :=
  [.start, .control {}, .control {}, .control { level := some .high },
    .control { level := some .high }, .control {}, .control {}, .control {}, .control {},
    .control {}, .control {}]

end ListenOnlyReceiver

end BmwRemote.Infrastructure
