import BmwRemote.Infrastructure.CanFrame
import BmwRemote.Lib.Transcript
import Mathlib.Data.Set.List

/-! The receiver task of the CAN controller, its frame queue and its consumer. The flags of a
frame come from its message and from the error state of the controller. -/
namespace BmwRemote.Infrastructure

open BmwRemote.Lib

structure TwaiMessage where
  identifier : UInt32
  extended : Bool
  remote : Bool
  dlcNonCompliant : Bool
  dataLength : UInt8
  data : Vector UInt8 8
  deriving DecidableEq

def TwaiMessage.Plain (message : TwaiMessage) : Prop :=
  message.remote = false ∧ message.dlcNonCompliant = false ∧
    message.dataLength ≤ CanFrame.maximumDataLength

instance (message : TwaiMessage) : Decidable message.Plain :=
  inferInstanceAs (Decidable (_ ∧ _ ∧ _))

structure TwaiAlerts where
  aboveErrorWarning : Bool := false
  belowErrorWarning : Bool := false
  errorPassive : Bool := false
  errorActive : Bool := false
  busOff : Bool := false
  busRecovered : Bool := false
  peripheralReset : Bool := false

structure ReceiverStatistics where
  framesReceived : UInt64 := 0
  framesQueued : UInt64 := 0
  framesDequeued : UInt64 := 0
  softwareQueueOverruns : UInt64 := 0
  errorWarningTransitions : UInt64 := 0
  errorPassiveTransitions : UInt64 := 0
  busOffTransitions : UInt64 := 0
  peripheralResets : UInt64 := 0
  lastSequence : UInt64 := 0
  queueHighWatermark : UInt16 := 0

structure EspIdfTwaiReceiver where
  bitrate : UInt32 := 100000
  channel : UInt8 := 0
  queue : List CanFrame := []
  statistics : ReceiverStatistics := {}
  currentFrameStatus : CanFrameStatus := .none
  nextSequence : UInt64 := 1

namespace EspIdfTwaiReceiver

def frameQueueCapacity : Nat := 128

/-- The part of `start` that a successful start reaches. -/
def started (receiver : EspIdfTwaiReceiver) : EspIdfTwaiReceiver :=
  { bitrate := receiver.bitrate, channel := receiver.channel }

def receivedFrame (receiver : EspIdfTwaiReceiver) (nowUs : UInt64) (message : TwaiMessage) :
    CanFrame :=
  let dataLength := min message.dataLength CanFrame.maximumDataLength
  let status := if message.remote then receiver.currentFrameStatus.union .remoteFrame
    else receiver.currentFrameStatus
  { timestampUs := nowUs
    sequence := receiver.nextSequence
    bitrate := receiver.bitrate
    identifier := message.identifier
    channel := receiver.channel
    extended := message.extended
    dataLength := dataLength
    status :=
      if message.dlcNonCompliant || decide (message.dataLength > CanFrame.maximumDataLength) then
        status.union .dlcNonCompliant
      else status
    -- the bytes of a remote frame stay as they were initialised
    data := Vector.ofFn fun index =>
      if !message.remote && decide (index.val < dataLength.toNat) then message.data[index] else 0 }

def enqueueReceivedFrame (receiver : EspIdfTwaiReceiver) (nowUs : UInt64) (message : TwaiMessage) :
    EspIdfTwaiReceiver :=
  let frame := receiver.receivedFrame nowUs message
  let statistics := { receiver.statistics with
    framesReceived := receiver.statistics.framesReceived + 1
    lastSequence := frame.sequence }
  let receiver := { receiver with nextSequence := receiver.nextSequence + 1 }
  if receiver.queue.length ≥ frameQueueCapacity then
    { receiver with statistics :=
        { statistics with softwareQueueOverruns := statistics.softwareQueueOverruns + 1 } }
  else
    let queue := receiver.queue ++ [frame]
    { receiver with
      queue := queue
      statistics := { statistics with
        framesQueued := statistics.framesQueued + 1
        queueHighWatermark := max statistics.queueHighWatermark (.ofNat queue.length) } }

def tryReceive (receiver : EspIdfTwaiReceiver) : Option CanFrame × EspIdfTwaiReceiver :=
  match receiver.queue with
  | [] => (none, receiver)
  | frame :: queue =>
    (some frame, { receiver with
      queue := queue
      statistics := { receiver.statistics with
        framesDequeued := receiver.statistics.framesDequeued + 1 } })

def alertedStatus (status : CanFrameStatus) (alerts : TwaiAlerts) : CanFrameStatus :=
  let status := if alerts.aboveErrorWarning then status.union .errorWarning else status
  let status := if alerts.belowErrorWarning then status.without .errorWarning else status
  let status := if alerts.errorPassive then status.union .errorPassive else status
  let status := if alerts.errorActive then status.without .errorPassive else status
  let status := if alerts.busOff then status.union .busOff else status
  let status := if alerts.busRecovered then status.without .busOff else status
  if alerts.peripheralReset then status.union .peripheralReset else status

def updateAlerts (receiver : EspIdfTwaiReceiver) (alerts : TwaiAlerts) : EspIdfTwaiReceiver :=
  let statistics := receiver.statistics
  { receiver with
    currentFrameStatus := alertedStatus receiver.currentFrameStatus alerts
    statistics := { statistics with
      errorWarningTransitions :=
        statistics.errorWarningTransitions + alerts.aboveErrorWarning.toUInt64
      errorPassiveTransitions :=
        statistics.errorPassiveTransitions + alerts.errorPassive.toUInt64
      busOffTransitions := statistics.busOffTransitions + alerts.busOff.toUInt64
      peripheralResets := statistics.peripheralResets + alerts.peripheralReset.toUInt64 } }

/-- What the receiver task and the consumer of its queue do. -/
inductive Event where
  | started
  | received (nowUs : UInt64) (message : TwaiMessage)
  | alerted (alerts : TwaiAlerts)
  | tryReceive

def machine : Machine EspIdfTwaiReceiver Event (Option CanFrame) := fun receiver event =>
  match event with
  | .started => (none, receiver.started)
  | .received nowUs message => (none, receiver.enqueueReceivedFrame nowUs message)
  | .alerted alerts => (none, receiver.updateAlerts alerts)
  | .tryReceive => receiver.tryReceive

structure Unmarked (receiver : EspIdfTwaiReceiver) : Prop where
  remote : receiver.currentFrameStatus.hasStatus .remoteFrame = false
  dlc : receiver.currentFrameStatus.hasStatus .dlcNonCompliant = false

theorem hasStatus_alerted {status flag : CanFrameStatus} (h : status.hasStatus flag = false)
    (hown : ∀ own ∈ [CanFrameStatus.errorWarning, .errorPassive, .busOff, .peripheralReset],
      own.hasStatus flag = false) (alerts : TwaiAlerts) :
    (alertedStatus status alerts).hasStatus flag = false := by
  have hset : ∀ (alert : Bool) (own value : CanFrameStatus),
      own ∈ [CanFrameStatus.errorWarning, .errorPassive, .busOff, .peripheralReset] →
      value.hasStatus flag = false →
      (if alert then value.union own else value).hasStatus flag = false := by
    intro alert own value hmem hvalue
    cases alert
    · exact hvalue
    · simp [hvalue, hown own hmem]
  have hremoved : ∀ (alert : Bool) (own value : CanFrameStatus), value.hasStatus flag = false →
      (if alert then value.without own else value).hasStatus flag = false := by
    intro alert own value hvalue
    cases alert
    · exact hvalue
    · exact CanFrameStatus.hasStatus_without hvalue own
  unfold alertedStatus
  apply hset _ _ _ (by simp)
  apply hremoved
  apply hset _ _ _ (by simp)
  apply hremoved
  apply hset _ _ _ (by simp)
  apply hremoved
  exact hset _ _ _ (by simp) h

theorem Unmarked.alerted {receiver : EspIdfTwaiReceiver} (h : receiver.Unmarked)
    (alerts : TwaiAlerts) : (receiver.updateAlerts alerts).Unmarked :=
  ⟨hasStatus_alerted h.remote (by decide) alerts, hasStatus_alerted h.dlc (by decide) alerts⟩

theorem Unmarked.initial (bitrate : UInt32) (channel : UInt8) :
    Unmarked { bitrate := bitrate, channel := channel } := by
  constructor
  · change CanFrameStatus.none.hasStatus .remoteFrame = false
    decide
  · change CanFrameStatus.none.hasStatus .dlcNonCompliant = false
    decide

end EspIdfTwaiReceiver

/-- A message at the moment it is received. -/
structure Reception where
  receiver : EspIdfTwaiReceiver
  nowUs : UInt64
  message : TwaiMessage
  unmarked : receiver.Unmarked

namespace Reception

def frame (reception : Reception) : CanFrame :=
  reception.receiver.receivedFrame reception.nowUs reception.message

@[simp] theorem frame_identifier (reception : Reception) :
    reception.frame.identifier = reception.message.identifier := rfl

@[simp] theorem frame_extended (reception : Reception) :
    reception.frame.extended = reception.message.extended := rfl

@[simp] theorem frame_direction (reception : Reception) : reception.frame.direction = .rx := rfl

theorem hasStatus_remoteFrame (reception : Reception) :
    reception.frame.status.hasStatus .remoteFrame = reception.message.remote := by
  have hremote := reception.unmarked.remote
  have hown : CanFrameStatus.remoteFrame.hasStatus .remoteFrame = true := by decide
  have hother : CanFrameStatus.dlcNonCompliant.hasStatus .remoteFrame = false := by decide
  unfold frame EspIdfTwaiReceiver.receivedFrame
  dsimp only
  cases reception.message.remote
  · split <;> simp [hremote, hother]
  · split <;> simp [hown]

theorem hasStatus_dlcNonCompliant (reception : Reception) :
    reception.frame.status.hasStatus .dlcNonCompliant =
      (reception.message.dlcNonCompliant ||
        decide (reception.message.dataLength > CanFrame.maximumDataLength)) := by
  have hdlc := reception.unmarked.dlc
  have hown : CanFrameStatus.dlcNonCompliant.hasStatus .dlcNonCompliant = true := by decide
  have hother : CanFrameStatus.remoteFrame.hasStatus .dlcNonCompliant = false := by decide
  unfold frame EspIdfTwaiReceiver.receivedFrame
  dsimp only
  cases reception.message.dlcNonCompliant ||
      decide (reception.message.dataLength > CanFrame.maximumDataLength)
  · cases reception.message.remote <;> simp [hdlc, hother]
  · simp [hown]

theorem genuine_iff (reception : Reception) :
    reception.frame.Genuine ↔ reception.message.Plain := by
  unfold CanFrame.Genuine TwaiMessage.Plain
  rw [hasStatus_remoteFrame, hasStatus_dlcNonCompliant]
  simp

theorem dataLength_le (reception : Reception) :
    reception.frame.dataLength ≤ CanFrame.maximumDataLength :=
  Std.min_le_right

end Reception

namespace EspIdfTwaiReceiver

structure Kept (receiver : EspIdfTwaiReceiver) : Prop where
  unmarked : receiver.Unmarked
  queued : ∀ frame ∈ receiver.queue, frame ∈ Set.range Reception.frame

theorem Kept.received {receiver : EspIdfTwaiReceiver} (h : receiver.Kept) (nowUs : UInt64)
    (message : TwaiMessage) : (receiver.enqueueReceivedFrame nowUs message).Kept := by
  unfold enqueueReceivedFrame
  dsimp only
  split
  · exact ⟨⟨h.unmarked.remote, h.unmarked.dlc⟩, h.queued⟩
  · refine ⟨⟨h.unmarked.remote, h.unmarked.dlc⟩, ?_⟩
    intro frame hmem
    rcases List.mem_append.1 hmem with hold | hnew
    · exact h.queued frame hold
    · rw [List.mem_singleton] at hnew
      exact ⟨⟨receiver, nowUs, message, h.unmarked⟩, hnew.symm⟩

theorem Kept.taken {receiver : EspIdfTwaiReceiver} (h : receiver.Kept) :
    receiver.tryReceive.2.Kept ∧
      ∀ frame, receiver.tryReceive.1 = some frame → frame ∈ Set.range Reception.frame := by
  unfold tryReceive
  cases hqueue : receiver.queue with
  | nil => exact ⟨h, fun _ hnone => by cases hnone⟩
  | cons first rest =>
    have hqueued := h.queued
    rw [hqueue, List.forall_mem_cons] at hqueued
    refine ⟨⟨⟨h.unmarked.remote, h.unmarked.dlc⟩, hqueued.2⟩, ?_⟩
    intro frame hframe
    cases hframe
    exact hqueued.1

theorem Kept.step {receiver : EspIdfTwaiReceiver} (h : receiver.Kept) (event : Event) :
    (machine receiver event).2.Kept := by
  cases event with
  | started => exact ⟨Unmarked.initial _ _, by simp [machine, EspIdfTwaiReceiver.started]⟩
  | received nowUs message => exact h.received nowUs message
  | alerted alerts => exact ⟨h.unmarked.alerted alerts, h.queued⟩
  | tryReceive => exact h.taken.1

/-- The frames that the consumer is given, in every run of the receiver, are frames of
messages. -/
theorem taken_received (bitrate : UInt32) (channel : UInt8) (events : List Event) :
    ∃ receptions : List Reception,
      (machine.transcript { bitrate := bitrate, channel := channel } events).filterMap
        (fun call => call.output) = receptions.map Reception.frame := by
  have hinitial : Kept { bitrate := bitrate, channel := channel } :=
    ⟨Unmarked.initial bitrate channel, by simp⟩
  have hall : ∀ call ∈ machine.transcript { bitrate := bitrate, channel := channel } events,
      ∀ frame, call.output = some frame → frame ∈ Set.range Reception.frame := by
    intro call hmem frame houtput
    obtain ⟨past, future, hsplit⟩ := List.append_of_mem hmem
    obtain ⟨earlier, event, later, -, -, hcall⟩ := machine.transcript_split hsplit
    have hkept := machine.invariant_induction Kept hinitial (fun _ h event => h.step event) earlier
    rw [hcall, Machine.stepOf_output] at houtput
    cases event with
    | tryReceive => exact hkept.taken.2 frame houtput
    | started | received | alerted => cases houtput
  have hrange : (machine.transcript { bitrate := bitrate, channel := channel } events).filterMap
      (fun call => call.output) ∈ Set.range (List.map Reception.frame) := by
    rw [Set.range_list_map]
    intro frame hframe
    obtain ⟨call, hmem, houtput⟩ := List.mem_filterMap.1 hframe
    exact hall call hmem frame houtput
  obtain ⟨receptions, hreceptions⟩ := hrange
  exact ⟨receptions, hreceptions.symm⟩

end EspIdfTwaiReceiver

end BmwRemote.Infrastructure
