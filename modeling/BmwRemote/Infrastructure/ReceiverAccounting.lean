import BmwRemote.CanCore.AtomicQueue
import BmwRemote.Infrastructure.EspIdfTwaiReceiver
import Mathlib.Data.List.Nodup
import Mathlib.Data.Nat.Basic

/-! What the counters of the receiver say about the frames of a run: which of them were
queued, handed out and lost. The queue is the ring of the source, call by call. -/
namespace BmwRemote.Infrastructure

open BmwRemote.CanCore BmwRemote.Lib

/-- `EspIdfTwaiReceiver` with its ring. -/
structure RingReceiver where
  bitrate : UInt32 := 100000
  channel : UInt8 := 0
  queue : AtomicQueue CanFrame EspIdfTwaiReceiver.frameQueueCapacity
  statistics : ReceiverStatistics := {}
  currentFrameStatus : CanFrameStatus := .none
  nextSequence : UInt64 := 1

instance : NeZero EspIdfTwaiReceiver.frameQueueCapacity := ⟨by decide⟩

namespace RingReceiver

def listed (receiver : RingReceiver) : EspIdfTwaiReceiver where
  bitrate := receiver.bitrate
  channel := receiver.channel
  queue := receiver.queue.contents
  statistics := receiver.statistics
  currentFrameStatus := receiver.currentFrameStatus
  nextSequence := receiver.nextSequence

def started (receiver : RingReceiver) : RingReceiver where
  bitrate := receiver.bitrate
  channel := receiver.channel
  queue := receiver.queue.clear

def enqueueReceivedFrame (receiver : RingReceiver) (nowUs : UInt64) (message : TwaiMessage) :
    RingReceiver :=
  let frame := receiver.listed.receivedFrame nowUs message
  let statistics := { receiver.statistics with
    framesReceived := receiver.statistics.framesReceived + 1
    lastSequence := frame.sequence }
  let receiver := { receiver with nextSequence := receiver.nextSequence + 1 }
  let (pushed, queue) := receiver.queue.tryPush frame
  if !pushed then
    { receiver with statistics :=
        { statistics with softwareQueueOverruns := statistics.softwareQueueOverruns + 1 } }
  else
    let depth := queue.size.toUInt16
    { receiver with
      queue := queue
      statistics := { statistics with
        framesQueued := statistics.framesQueued + 1
        queueHighWatermark := max statistics.queueHighWatermark depth } }

def tryReceive (receiver : RingReceiver) : Option CanFrame × RingReceiver :=
  match receiver.queue.tryPop with
  | (none, _) => (none, receiver)
  | (some frame, queue) =>
    (some frame, { receiver with
      queue := queue
      statistics := { receiver.statistics with
        framesDequeued := receiver.statistics.framesDequeued + 1 } })

def updateAlerts (receiver : RingReceiver) (alerts : TwaiAlerts) : RingReceiver :=
  let updated := receiver.listed.updateAlerts alerts
  { receiver with
    statistics := updated.statistics
    currentFrameStatus := updated.currentFrameStatus }

/-- What the receiver task and the consumer do between a start and the next. -/
inductive Event where
  | received (nowUs : UInt64) (message : TwaiMessage)
  | alerted (alerts : TwaiAlerts)
  | tryReceive

def Event.isReceived : Event → Bool
  | .received .. => true
  | _ => false

def Event.listed : Event → EspIdfTwaiReceiver.Event
  | .received nowUs message => .received nowUs message
  | .alerted alerts => .alerted alerts
  | .tryReceive => .tryReceive

def machine : Machine RingReceiver Event (Option CanFrame) := fun receiver event =>
  match event with
  | .received nowUs message => (none, receiver.enqueueReceivedFrame nowUs message)
  | .alerted alerts => (none, receiver.updateAlerts alerts)
  | .tryReceive => receiver.tryReceive

abbrev Call := Step RingReceiver Event (Option CanFrame)

def offered (call : Call) : Option (CanFrame × Bool) :=
  match call.input with
  | .received nowUs message =>
    let frame := call.before.listed.receivedFrame nowUs message
    some (frame, (call.before.queue.tryPush frame).1)
  | _ => none

def offers (calls : List Call) : List (CanFrame × Bool) := calls.filterMap offered

def queuedFrames (calls : List Call) : List CanFrame :=
  ((offers calls).filter fun offer => offer.2).map fun offer => offer.1

def overrunFrames (calls : List Call) : List CanFrame :=
  ((offers calls).filter fun offer => !offer.2).map fun offer => offer.1

def handedOut (calls : List Call) : List CanFrame := calls.filterMap fun call => call.output

def largestSize (calls : List Call) : Nat :=
  (calls.map fun call => call.after.queue.size.toNat).foldl max 0

theorem laps : EspIdfTwaiReceiver.frameQueueCapacity ∣ 2 ^ 64 := ⟨2 ^ 57, by decide⟩

theorem small : EspIdfTwaiReceiver.frameQueueCapacity < 2 ^ 64 := by decide

def counted (receiver : RingReceiver) : ReceiverStatistics :=
  { receiver.statistics with
    framesReceived := receiver.statistics.framesReceived + 1
    lastSequence := receiver.nextSequence }

inductive Enqueued (receiver : RingReceiver) (frame : CanFrame) : RingReceiver → Prop where
  | overrun (hfull : receiver.queue.contents.length = EspIdfTwaiReceiver.frameQueueCapacity)
      (hpush : (receiver.queue.tryPush frame).1 = false) :
      Enqueued receiver frame { receiver with
        nextSequence := receiver.nextSequence + 1
        statistics := { receiver.counted with
          softwareQueueOverruns := receiver.statistics.softwareQueueOverruns + 1 } }
  | queued (queue : AtomicQueue CanFrame EspIdfTwaiReceiver.frameQueueCapacity)
      (hroom : receiver.queue.contents.length < EspIdfTwaiReceiver.frameQueueCapacity)
      (hpush : (receiver.queue.tryPush frame).1 = true)
      (hcontents : queue.contents = receiver.queue.contents ++ [frame]) :
      Enqueued receiver frame { receiver with
        queue := queue
        nextSequence := receiver.nextSequence + 1
        statistics := { receiver.counted with
          framesQueued := receiver.statistics.framesQueued + 1
          queueHighWatermark :=
            max receiver.statistics.queueHighWatermark (.ofNat queue.contents.length) } }

theorem toUInt16_size (queue : AtomicQueue CanFrame EspIdfTwaiReceiver.frameQueueCapacity) :
    queue.size.toUInt16 = UInt16.ofNat queue.contents.length := by
  rw [← AtomicQueue.toNat_size (by decide) queue]
  rfl

theorem enqueueReceivedFrame_enqueued (receiver : RingReceiver) (nowUs : UInt64)
    (message : TwaiMessage) :
    Enqueued receiver (receiver.listed.receivedFrame nowUs message)
      (receiver.enqueueReceivedFrame nowUs message) := by
  unfold enqueueReceivedFrame
  dsimp only
  rcases AtomicQueue.tryPush_cases laps small receiver.queue
      (receiver.listed.receivedFrame nowUs message) with ⟨hfull, hpush⟩ | ⟨hroom, hpush, hcontents⟩
  · have hrefused := congrArg Prod.fst hpush
    rw [hrefused]
    exact .overrun hfull hrefused
  · rw [hpush, toUInt16_size]
    exact .queued _ hroom hpush hcontents

inductive Taken (receiver : RingReceiver) : Option CanFrame → RingReceiver → Prop where
  | nothing (hempty : receiver.queue.contents = []) : Taken receiver none receiver
  | frame (oldest : CanFrame) (queue : AtomicQueue CanFrame EspIdfTwaiReceiver.frameQueueCapacity)
      (hcontents : receiver.queue.contents = oldest :: queue.contents) :
      Taken receiver (some oldest) { receiver with
        queue := queue
        statistics := { receiver.statistics with
          framesDequeued := receiver.statistics.framesDequeued + 1 } }

theorem tryReceive_taken (receiver : RingReceiver) :
    Taken receiver receiver.tryReceive.1 receiver.tryReceive.2 := by
  unfold tryReceive
  rcases AtomicQueue.tryPop_cases laps receiver.queue with
    ⟨hempty, hpop⟩ | ⟨oldest, rest, hcontents, hpop, hrest⟩
  · rw [hpop]
    exact .nothing hempty
  · generalize receiver.queue.tryPop = popped at hpop hrest
    obtain ⟨frame, queue⟩ := popped
    obtain rfl : frame = some oldest := hpop
    exact .frame oldest queue (by rw [hcontents, ← hrest])

section Simulation

variable (receiver : RingReceiver)

theorem listed_enqueueReceivedFrame (nowUs : UInt64) (message : TwaiMessage) :
    (receiver.enqueueReceivedFrame nowUs message).listed =
      receiver.listed.enqueueReceivedFrame nowUs message := by
  have henqueued := receiver.enqueueReceivedFrame_enqueued nowUs message
  generalize receiver.enqueueReceivedFrame nowUs message = after at henqueued
  unfold EspIdfTwaiReceiver.enqueueReceivedFrame
  dsimp only
  cases henqueued with
  | overrun hfull =>
    have hlisted : receiver.listed.queue.length ≥ EspIdfTwaiReceiver.frameQueueCapacity := hfull.ge
    rw [if_pos hlisted]
    rfl
  | queued queue hroom _ hcontents =>
    have hlisted : ¬ receiver.listed.queue.length ≥ EspIdfTwaiReceiver.frameQueueCapacity :=
      Nat.not_le.2 hroom
    rw [if_neg hlisted]
    unfold listed
    dsimp only
    rw [hcontents]
    rfl

theorem listed_tryReceive :
    receiver.tryReceive.1 = receiver.listed.tryReceive.1 ∧
      receiver.tryReceive.2.listed = receiver.listed.tryReceive.2 := by
  unfold EspIdfTwaiReceiver.tryReceive tryReceive
  rcases AtomicQueue.tryPop_cases laps receiver.queue with
    ⟨hempty, hpop⟩ | ⟨oldest, rest, hcontents, hpop, hrest⟩
  · have hlisted : receiver.listed.queue = [] := hempty
    rw [hpop, hlisted]
    exact ⟨rfl, rfl⟩
  · have hlisted : receiver.listed.queue = oldest :: rest := hcontents
    rw [hlisted]
    generalize receiver.queue.tryPop = popped at hpop hrest
    obtain ⟨frame, queue⟩ := popped
    obtain rfl : frame = some oldest := hpop
    refine ⟨rfl, ?_⟩
    unfold listed
    rw [← hrest]

/-- The receiver with its ring does what the one with the list does. -/
theorem listed_machine (event : Event) :
    (machine receiver event).1 = (EspIdfTwaiReceiver.machine receiver.listed event.listed).1 ∧
      (machine receiver event).2.listed =
        (EspIdfTwaiReceiver.machine receiver.listed event.listed).2 := by
  cases event with
  | received nowUs message => exact ⟨rfl, receiver.listed_enqueueReceivedFrame nowUs message⟩
  | alerted => exact ⟨rfl, rfl⟩
  | tryReceive => exact receiver.listed_tryReceive

theorem listed_outputs (receiver : RingReceiver) (events : List Event) :
    (machine.transcript receiver events).map (fun call => call.output) =
      (EspIdfTwaiReceiver.machine.transcript receiver.listed (events.map Event.listed)).map
        fun call => call.output := by
  induction events generalizing receiver with
  | nil => rfl
  | cons event events ih =>
    obtain ⟨houtput, hafter⟩ := receiver.listed_machine event
    rw [List.map_cons, Machine.transcript, Machine.transcript, List.map_cons, List.map_cons, ih,
      hafter]
    exact congrArg (· :: _) houtput

end Simulation

section Concat

variable (calls : List Call) (call : Call)

theorem offers_concat : offers (calls ++ [call]) = offers calls ++ (offered call).toList := by
  unfold offers
  rw [List.filterMap_append]
  cases h : offered call <;> simp [h]

theorem queuedFrames_concat :
    queuedFrames (calls ++ [call]) = queuedFrames calls ++
      (((offered call).toList.filter fun offer => offer.2).map fun offer => offer.1) := by
  unfold queuedFrames
  rw [offers_concat, List.filter_append, List.map_append]

theorem overrunFrames_concat :
    overrunFrames (calls ++ [call]) = overrunFrames calls ++
      (((offered call).toList.filter fun offer => !offer.2).map fun offer => offer.1) := by
  unfold overrunFrames
  rw [offers_concat, List.filter_append, List.map_append]

theorem handedOut_concat : handedOut (calls ++ [call]) = handedOut calls ++ call.output.toList := by
  unfold handedOut
  rw [List.filterMap_append]
  cases h : call.output <;> simp [h]

theorem largestSize_concat :
    largestSize (calls ++ [call]) =
      max (largestSize calls) call.after.queue.contents.length := by
  unfold largestSize
  rw [List.map_append, List.foldl_append, List.map_singleton, ← AtomicQueue.toNat_size (by decide)]
  rfl

end Concat

/-- What the counters and the queue say about the calls since the start. -/
structure Accounted (receiver : RingReceiver) (calls : List Call) : Prop where
  received : receiver.statistics.framesReceived = .ofNat (offers calls).length
  queued : receiver.statistics.framesQueued = .ofNat (queuedFrames calls).length
  overruns : receiver.statistics.softwareQueueOverruns = .ofNat (overrunFrames calls).length
  dequeued : receiver.statistics.framesDequeued = .ofNat (handedOut calls).length
  next : receiver.nextSequence = .ofNat ((offers calls).length + 1)
  last : receiver.statistics.lastSequence = .ofNat (offers calls).length
  order : queuedFrames calls = handedOut calls ++ receiver.queue.contents
  numbers : (offers calls).map (fun offer => offer.1.sequence) =
    (List.range (offers calls).length).map fun index => UInt64.ofNat (index + 1)
  highWatermark : receiver.statistics.queueHighWatermark.toNat = largestSize calls
  within : receiver.queue.contents.length ≤ largestSize calls

theorem accounted_started (prior : RingReceiver) : Accounted prior.started [] := by
  have hempty : prior.started.queue.contents = [] := AtomicQueue.contents_clear _
  refine ⟨rfl, rfl, rfl, rfl, rfl, rfl, ?_, rfl, rfl, ?_⟩
  · rw [hempty]
    rfl
  · rw [hempty]
    exact Nat.le_refl 0

variable {receiver : RingReceiver} {calls : List Call}

theorem Accounted.offered (h : Accounted receiver calls) (frame : CanFrame) (taken : Bool)
    (hsequence : frame.sequence = receiver.nextSequence) :
    (offers calls ++ [(frame, taken)]).map (fun offer => offer.1.sequence) =
      (List.range ((offers calls).length + 1)).map fun index => UInt64.ofNat (index + 1) := by
  rw [List.map_append, List.range_succ, List.map_append, h.numbers, List.map_singleton,
    List.map_singleton, hsequence, h.next]

theorem toNat_max (first second : UInt16) :
    (max first second).toNat = max first.toNat second.toNat := by
  change (if first ≤ second then second else first).toNat = _
  split
  · rename_i h
    rw [Nat.max_eq_right (UInt16.le_iff_toNat_le.1 h)]
  · rename_i h
    rw [UInt16.not_le, UInt16.lt_iff_toNat_lt] at h
    rw [Nat.max_eq_left h.le]

theorem Enqueued.counts {frame : CanFrame} {after : RingReceiver}
    (h : Enqueued receiver frame after) :
    after.statistics.framesReceived = receiver.statistics.framesReceived + 1 ∧
      after.statistics.framesDequeued = receiver.statistics.framesDequeued ∧
      after.statistics.lastSequence = receiver.nextSequence ∧
      after.nextSequence = receiver.nextSequence + 1 := by
  cases h <;> exact ⟨rfl, rfl, rfl, rfl⟩

theorem Accounted.received_step (h : Accounted receiver calls) (nowUs : UInt64)
    (message : TwaiMessage) :
    Accounted (machine receiver (.received nowUs message)).2
      (calls ++ [machine.stepOf receiver (.received nowUs message)]) := by
  have henqueued := receiver.enqueueReceivedFrame_enqueued nowUs message
  have hoffered : RingReceiver.offered (machine.stepOf receiver (.received nowUs message)) =
      some (receiver.listed.receivedFrame nowUs message,
        (receiver.queue.tryPush (receiver.listed.receivedFrame nowUs message)).1) := rfl
  have hafter : (machine.stepOf receiver (.received nowUs message)).after =
      receiver.enqueueReceivedFrame nowUs message := rfl
  have houtput : (machine.stepOf receiver (.received nowUs message)).output = none := rfl
  have hnumber : (receiver.listed.receivedFrame nowUs message).sequence =
      receiver.nextSequence := rfl
  change Accounted (receiver.enqueueReceivedFrame nowUs message) _
  generalize machine.stepOf receiver (.received nowUs message) = call at *
  generalize receiver.listed.receivedFrame nowUs message = frame at *
  generalize receiver.enqueueReceivedFrame nowUs message = after at *
  obtain ⟨hreceived, hdequeued, hlast, hnext⟩ := henqueued.counts
  have hoffers := offers_concat calls call
  have hqueued := queuedFrames_concat calls call
  have hoverruns := overrunFrames_concat calls call
  have hhanded := handedOut_concat calls call
  have hlargest := largestSize_concat calls call
  rw [hoffered, Option.toList_some] at hoffers hqueued hoverruns
  rw [houtput, Option.toList_none, List.append_nil] at hhanded
  rw [hafter] at hlargest
  have hcount : (offers (calls ++ [call])).length = (offers calls).length + 1 := by
    rw [hoffers, List.length_append, List.length_singleton]
  have hwithin := h.within
  have hwatermark := h.highWatermark
  have hone : UInt64.ofNat 1 = 1 := rfl
  constructor
  case received =>
    rw [hcount, UInt64.ofNat_add, ← h.received, hreceived, hone]
  case queued =>
    cases henqueued with
    | overrun _ hpush =>
      rw [hqueued, hpush]
      exact (List.append_nil (queuedFrames calls)).symm ▸ h.queued
    | queued _ _ hpush =>
      rw [hqueued, hpush, List.length_append, UInt64.ofNat_add, ← h.queued]
      rfl
  case overruns =>
    cases henqueued with
    | overrun _ hpush =>
      rw [hoverruns, hpush, List.length_append, UInt64.ofNat_add, ← h.overruns]
      rfl
    | queued _ _ hpush =>
      rw [hoverruns, hpush]
      exact (List.append_nil (overrunFrames calls)).symm ▸ h.overruns
  case dequeued =>
    rw [hdequeued, hhanded, h.dequeued]
  case next =>
    rw [hcount, UInt64.ofNat_add, ← h.next, hnext, hone]
  case last =>
    rw [hcount, hlast, ← h.next]
  case order =>
    cases henqueued with
    | overrun _ hpush =>
      rw [hqueued, hpush, hhanded]
      exact (List.append_nil (queuedFrames calls)).symm ▸ h.order
    | queued queue _ hpush hcontents =>
      rw [hqueued, hpush, hhanded, hcontents, ← List.append_assoc, ← h.order]
      rfl
  case numbers =>
    rw [hcount, hoffers]
    exact h.offered frame _ hnumber
  case highWatermark =>
    cases henqueued with
    | overrun =>
      rw [hlargest]
      exact hwatermark.trans (Nat.max_eq_left hwithin).symm
    | queued queue =>
      have hbounded := queue.length_contents_le
      have hdepth : (UInt16.ofNat queue.contents.length).toNat = queue.contents.length :=
        UInt16.toNat_ofNat_of_lt' (hbounded.trans_lt (by decide))
      rw [hlargest]
      exact (toNat_max _ _).trans (congrArg₂ max hwatermark hdepth)
  case within =>
    rw [hlargest]
    exact Nat.le_max_right _ _

theorem unoffered (call : Call) (calls : List Call) (h : RingReceiver.offered call = none) :
    offers (calls ++ [call]) = offers calls ∧
      queuedFrames (calls ++ [call]) = queuedFrames calls ∧
      overrunFrames (calls ++ [call]) = overrunFrames calls := by
  rw [queuedFrames_concat, overrunFrames_concat, offers_concat, h, Option.toList_none,
    List.filter_nil, List.filter_nil, List.map_nil, List.append_nil, List.append_nil,
    List.append_nil]
  exact ⟨rfl, rfl, rfl⟩

theorem Accounted.silent (h : Accounted receiver calls) {call : Call}
    (hoffered : RingReceiver.offered call = none) (houtput : call.output = none)
    (hqueue : call.after.queue = receiver.queue) : Accounted receiver (calls ++ [call]) := by
  obtain ⟨hoffers, hqueued, hoverruns⟩ := unoffered call calls hoffered
  have hhanded : handedOut (calls ++ [call]) = handedOut calls := by
    rw [handedOut_concat, houtput, Option.toList_none, List.append_nil]
  have hlargest : largestSize (calls ++ [call]) = largestSize calls := by
    rw [largestSize_concat, hqueue]
    exact Nat.max_eq_left h.within
  exact {
    received := hoffers ▸ h.received
    queued := hqueued ▸ h.queued
    overruns := hoverruns ▸ h.overruns
    dequeued := hhanded ▸ h.dequeued
    next := hoffers ▸ h.next
    last := hoffers ▸ h.last
    order := by rw [hqueued, hhanded, h.order]
    numbers := hoffers ▸ h.numbers
    highWatermark := hlargest ▸ h.highWatermark
    within := hlargest ▸ h.within }

theorem Accounted.tryReceive_step (h : Accounted receiver calls) :
    Accounted (machine receiver .tryReceive).2
      (calls ++ [machine.stepOf receiver .tryReceive]) := by
  have htaken := receiver.tryReceive_taken
  have hafter : (machine.stepOf receiver .tryReceive).after = receiver.tryReceive.2 := rfl
  have houtput : (machine.stepOf receiver .tryReceive).output = receiver.tryReceive.1 := rfl
  have hoffered : RingReceiver.offered (machine.stepOf receiver .tryReceive) = none := rfl
  change Accounted receiver.tryReceive.2 _
  generalize machine.stepOf receiver .tryReceive = call at *
  generalize receiver.tryReceive.1 = output at *
  generalize receiver.tryReceive.2 = after at *
  cases htaken with
  | nothing => exact h.silent hoffered houtput (congrArg (·.queue) hafter)
  | frame oldest queue hcontents =>
    obtain ⟨hoffers, hqueued, hoverruns⟩ := unoffered call calls hoffered
    have hhanded : handedOut (calls ++ [call]) = handedOut calls ++ [oldest] := by
      rw [handedOut_concat, houtput, Option.toList_some]
    have hwithin : queue.contents.length ≤ largestSize calls := by
      refine Nat.le_trans ?_ h.within
      rw [hcontents]
      exact Nat.le_succ _
    have hlargest : largestSize (calls ++ [call]) = largestSize calls := by
      rw [largestSize_concat, hafter]
      exact Nat.max_eq_left hwithin
    exact {
      received := hoffers ▸ h.received
      queued := hqueued ▸ h.queued
      overruns := hoverruns ▸ h.overruns
      dequeued := by
        rw [hhanded, List.length_append, UInt64.ofNat_add, ← h.dequeued]
        rfl
      next := hoffers ▸ h.next
      last := hoffers ▸ h.last
      order := by
        rw [hqueued, hhanded, h.order, hcontents, List.append_assoc, List.singleton_append]
      numbers := hoffers ▸ h.numbers
      highWatermark := hlargest ▸ h.highWatermark
      within := hlargest ▸ hwithin }

theorem Accounted.alerted_step (h : Accounted receiver calls) (alerts : TwaiAlerts) :
    Accounted (machine receiver (.alerted alerts)).2
      (calls ++ [machine.stepOf receiver (.alerted alerts)]) := by
  obtain ⟨received, queued, overruns, dequeued, next, last, order, numbers, highWatermark, within⟩ :=
    @Accounted.silent _ _ h (machine.stepOf receiver (.alerted alerts)) rfl rfl rfl
  exact ⟨received, queued, overruns, dequeued, next, last, order, numbers, highWatermark, within⟩

theorem Accounted.step (h : Accounted receiver calls) (event : Event) :
    Accounted (machine receiver event).2 (calls ++ [machine.stepOf receiver event]) := by
  cases event with
  | received nowUs message => exact h.received_step nowUs message
  | alerted alerts => exact h.alerted_step alerts
  | tryReceive => exact h.tryReceive_step

theorem accounted_run (prior : RingReceiver) (events : List Event) :
    Accounted (machine.final prior.started events) (machine.transcript prior.started events) :=
  machine.history_induction Accounted (accounted_started prior) (fun _ _ h event => h.step event)
    events

theorem length_offers (calls : List Call) :
    (offers calls).length = (calls.map fun call => call.input).countP Event.isReceived := by
  unfold offers
  rw [List.length_filterMap_eq_countP, List.countP_map]
  congr 1
  funext call
  unfold RingReceiver.offered
  rw [Function.comp_apply]
  cases call.input <;> rfl

/-- Every offered frame is queued or lost. -/
theorem length_offers_eq (calls : List Call) :
    (offers calls).length = (queuedFrames calls).length + (overrunFrames calls).length := by
  unfold queuedFrames overrunFrames
  rw [List.length_map, List.length_map, ← List.length_append]
  exact (List.filter_append_perm (fun offer => offer.2) (offers calls)).length_eq.symm

section Numbers

variable (h : Accounted receiver calls) (hcount : (offers calls).length < 2 ^ 64)

include h hcount

theorem Accounted.pairwise_offers :
    (offers calls).Pairwise fun earlier later => earlier.1.sequence < later.1.sequence := by
  have hnumbers : ((offers calls).map fun offer => offer.1.sequence).Pairwise (· < ·) := by
    rw [h.numbers, List.pairwise_map]
    apply List.pairwise_lt_range.imp_of_mem
    intro earlier later _ hlater hlt
    have hbound := List.mem_range.1 hlater
    have hsize : UInt64.size = 2 ^ 64 := rfl
    rw [UInt64.lt_iff_toNat_lt, UInt64.toNat_ofNat_of_lt' (by omega),
      UInt64.toNat_ofNat_of_lt' (by omega)]
    omega
  exact List.pairwise_map.1 hnumbers

theorem Accounted.exists_offer {sequence : UInt64} (hfirst : 1 ≤ sequence)
    (hlast : sequence ≤ receiver.statistics.lastSequence) :
    ∃ offer ∈ offers calls, offer.1.sequence = sequence := by
  have hone : (1 : UInt64).toNat = 1 := rfl
  rw [UInt64.le_iff_toNat_le, hone] at hfirst
  rw [UInt64.le_iff_toNat_le, h.last, UInt64.toNat_ofNat_of_lt' hcount] at hlast
  have hmem : sequence ∈ (offers calls).map fun offer => offer.1.sequence := by
    rw [h.numbers, List.mem_map]
    refine ⟨sequence.toNat - 1, List.mem_range.2 (by omega), ?_⟩
    rw [Nat.sub_add_cancel hfirst, UInt64.ofNat_toNat]
  exact List.mem_map.1 hmem

theorem Accounted.queued_ne_overrun {queued overrun : CanFrame}
    (hqueued : queued ∈ queuedFrames calls) (hoverrun : overrun ∈ overrunFrames calls) :
    queued.sequence ≠ overrun.sequence := by
  obtain ⟨first, hfirst, rfl⟩ := List.mem_map.1 hqueued
  obtain ⟨second, hsecond, rfl⟩ := List.mem_map.1 hoverrun
  obtain ⟨hfirst, htaken⟩ := List.mem_filter.1 hfirst
  obtain ⟨hsecond, hrefused⟩ := List.mem_filter.1 hsecond
  intro hsame
  have hnodup : ((offers calls).map fun offer => offer.1.sequence).Nodup := by
    rw [List.nodup_iff_pairwise_ne, List.pairwise_map]
    apply (h.pairwise_offers hcount).imp
    intro earlier later hlt
    exact UInt64.ne_of_lt hlt
  obtain rfl := List.inj_on_of_nodup_map hnodup hfirst hsecond hsame
  rw [Bool.not_eq_true', htaken] at hrefused
  contradiction

end Numbers

theorem length_handedOut_le (receiver : RingReceiver) (events : List Event) :
    (handedOut (machine.transcript receiver events)).length ≤
      events.countP fun event => !event.isReceived := by
  induction events generalizing receiver with
  | nil => exact le_rfl
  | cons event events ih =>
    rw [Machine.transcript, handedOut, List.filterMap_cons, List.countP_cons]
    have hrest := ih (machine receiver event).2
    cases event with
    | received nowUs message => exact hrest
    | alerted alerts => exact hrest.trans (Nat.le_add_right _ _)
    | tryReceive =>
      cases (machine.stepOf receiver .tryReceive).output with
      | none => exact hrest.trans (Nat.le_add_right _ _)
      | some frame => exact Nat.succ_le_succ hrest

/-- What the counters promise about the calls since a start. -/
structure LossAccounting (receiver : RingReceiver) (calls : List Call) : Prop where
  received : receiver.statistics.framesReceived.toNat =
    (calls.map fun call => call.input).countP Event.isReceived
  queued : receiver.statistics.framesQueued.toNat = (queuedFrames calls).length
  overruns : receiver.statistics.softwareQueueOverruns.toNat = (overrunFrames calls).length
  dequeued : receiver.statistics.framesDequeued.toNat = (handedOut calls).length
  split : receiver.statistics.framesReceived.toNat =
    receiver.statistics.framesQueued.toNat + receiver.statistics.softwareQueueOverruns.toNat
  waiting : receiver.statistics.framesQueued.toNat =
    receiver.statistics.framesDequeued.toNat + receiver.queue.size.toNat
  room : receiver.queue.size.toNat ≤ EspIdfTwaiReceiver.frameQueueCapacity
  inOrder : handedOut calls <+: queuedFrames calls
  increasing : (handedOut calls).Pairwise fun earlier later => earlier.sequence < later.sequence
  gaps : receiver.queue.size = 0 → ∀ sequence, 1 ≤ sequence →
    sequence ≤ receiver.statistics.lastSequence →
    ((∀ frame ∈ handedOut calls, frame.sequence ≠ sequence) ↔
      ∃ frame ∈ overrunFrames calls, frame.sequence = sequence)
  highWatermark : receiver.statistics.queueHighWatermark.toNat = largestSize calls

/-- After a successful start, over any calls that receive fewer frames than the counters can
count, every frame is queued or counted as an overrun, and a gap in the sequence numbers is
an overrun. -/
theorem loss_accounting (prior : RingReceiver) (events : List Event)
    (hcount : events.countP Event.isReceived < 2 ^ 64) :
    LossAccounting (machine.final prior.started events)
      (machine.transcript prior.started events) := by
  have h := accounted_run prior events
  have hinputs := machine.map_input_transcript prior.started events
  generalize machine.transcript prior.started events = calls at *
  generalize machine.final prior.started events = receiver at *
  have hoffers := length_offers calls
  have hsplit := length_offers_eq calls
  have horder := congrArg List.length h.order
  rw [List.length_append] at horder
  rw [hinputs] at hoffers
  have hbound : (offers calls).length < 2 ^ 64 := by omega
  have hcounter : UInt64.size = 2 ^ 64 := rfl
  have hreceived : receiver.statistics.framesReceived.toNat = (offers calls).length := by
    rw [h.received, UInt64.toNat_ofNat_of_lt' hbound]
  have hqueued : receiver.statistics.framesQueued.toNat = (queuedFrames calls).length := by
    rw [h.queued, UInt64.toNat_ofNat_of_lt' (by omega)]
  have hoverruns : receiver.statistics.softwareQueueOverruns.toNat =
      (overrunFrames calls).length := by
    rw [h.overruns, UInt64.toNat_ofNat_of_lt' (by omega)]
  have hdequeued : receiver.statistics.framesDequeued.toNat = (handedOut calls).length := by
    rw [h.dequeued, UInt64.toNat_ofNat_of_lt' (by omega)]
  have hsize := AtomicQueue.toNat_size (by decide) receiver.queue
  have hprefix : handedOut calls <+: queuedFrames calls := ⟨_, h.order.symm⟩
  refine ⟨?_, hqueued, hoverruns, hdequeued, ?_, ?_, ?_, hprefix, ?_, ?_, h.highWatermark⟩
  · rw [hreceived, hoffers, hinputs]
  · omega
  · omega
  · rw [hsize]
    exact receiver.queue.length_contents_le
  · have hpairwise : (queuedFrames calls).Pairwise
        fun earlier later => earlier.sequence < later.sequence :=
      List.pairwise_map.2 ((h.pairwise_offers hbound).filter _)
    exact hpairwise.sublist hprefix.sublist
  · intro hempty sequence hfirst hlast
    have hnone : receiver.queue.contents = [] := by
      rw [← List.length_eq_zero_iff, ← hsize, hempty]
      rfl
    have hall : queuedFrames calls = handedOut calls := by
      rw [h.order, hnone, List.append_nil]
    constructor
    · intro hmissing
      obtain ⟨⟨frame, taken⟩, hmem, hsequence⟩ := h.exists_offer hbound hfirst hlast
      cases taken with
      | true =>
        have hqueued : frame ∈ queuedFrames calls :=
          List.mem_map.2 ⟨(frame, true), List.mem_filter.2 ⟨hmem, rfl⟩, rfl⟩
        exact absurd hsequence (hmissing frame (hall ▸ hqueued))
      | false =>
        exact ⟨frame, List.mem_map.2 ⟨(frame, false), List.mem_filter.2 ⟨hmem, rfl⟩, rfl⟩,
          hsequence⟩
    · rintro ⟨overrun, hoverrun, rfl⟩ frame hframe
      exact h.queued_ne_overrun hbound (hall ▸ hframe) hoverrun

def wornReceiver : RingReceiver where
  queue := ⟨fun _ => {}, 18446744073709551615, 18446744073709551500, by decide⟩

def dataMessage : TwaiMessage := ⟨0x23A, false, false, false, 1, Vector.replicate 8 7⟩

/-- One message more than the queue holds, and then one that it takes again. -/
def fullQueue : List Event :=
  List.replicate 129 (.received 10 dataMessage) ++ [.tryReceive, .received 20 dataMessage]

/-- A frame is lost, and accounted for. -/
theorem loss_accounting_fullQueue :
    let calls := machine.transcript wornReceiver.started fullQueue
    LossAccounting (machine.final wornReceiver.started fullQueue) calls ∧
      overrunFrames calls ≠ [] := by
  intro calls
  have hcount : fullQueue.countP Event.isReceived = 130 := by
    rw [fullQueue, List.countP_append, List.countP_replicate]
    rfl
  have hothers : (fullQueue.countP fun event => !event.isReceived) = 1 := by
    rw [fullQueue, List.countP_append, List.countP_replicate]
    rfl
  have haccounting := loss_accounting wornReceiver fullQueue (by rw [hcount]; decide)
  refine ⟨haccounting, fun hnone => ?_⟩
  have hreceived := haccounting.received
  rw [machine.map_input_transcript] at hreceived
  have htaken := length_handedOut_le wornReceiver.started fullQueue
  have hoverruns := haccounting.overruns
  rw [hnone] at hoverruns
  have hsplit := haccounting.split
  have hwaiting := haccounting.waiting
  have hdequeued := haccounting.dequeued
  have hroom := haccounting.room
  have hcapacity : EspIdfTwaiReceiver.frameQueueCapacity = 128 := rfl
  simp only [List.length_nil] at hoverruns
  omega

end RingReceiver

end BmwRemote.Infrastructure
