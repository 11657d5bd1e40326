import BmwRemote.Infrastructure.SettingsStreamFraming

/-! The receiver with its buffer as the array it is: where every byte is written,
and what stands in the array behind the bytes that count. -/
namespace BmwRemote.Infrastructure

open BmwRemote.Lib SettingsProtocolCodec

/-- The fields of `SettingsStreamReceiver`. -/
structure SettingsStreamMemory where
  config : SettingsStreamConfig := {}
  buffer : Vector UInt8 maximumFrameSize := Vector.replicate _ 0
  bufferedSize : Nat := 0
  expectedSize : Nat := 0
  lastByteTimeMs : UInt32 := 0

namespace SettingsStreamMemory

open SettingsStreamReceiver

def expired (memory : SettingsStreamMemory) (nowMs : UInt32) : Bool :=
  memory.bufferedSize != 0 &&
    decide (nowMs - memory.lastByteTimeMs > memory.config.interByteTimeoutMs)

def reset (memory : SettingsStreamMemory) : SettingsStreamMemory := { config := memory.config }

/-- `buffer_[index] = byte`, and nothing that has a meaning for an index behind the buffer. -/
def write (memory : SettingsStreamMemory) (index : Nat) (byte : UInt8) :
    Option SettingsStreamMemory :=
  if h : index < maximumFrameSize then
    some { memory with buffer := memory.buffer.set index byte h }
  else none

def complete (memory : SettingsStreamMemory) : SettingsStreamEvent × SettingsStreamMemory :=
  if memory.expectedSize = 0 ∨ memory.bufferedSize < memory.expectedSize then ({}, memory)
  else
    let decoded := decode (memory.buffer.toList.take memory.bufferedSize)
    if !decoded.valid then
      ({ type := .frameRejected, decodeStatus := decoded.status }, memory.reset)
    else ({ type := .frameReady, decodeStatus := .ok, frame := decoded.frame }, memory.reset)

def consumeSynchronized (memory : SettingsStreamMemory) (byte : UInt8) :
    Option (SettingsStreamEvent × SettingsStreamMemory) :=
  if memory.bufferedSize < magic.length then
    if byte = byteAt magic memory.bufferedSize then do
      let written ← memory.write memory.bufferedSize byte
      return ({}, { written with bufferedSize := memory.bufferedSize + 1 })
    else if byte = byteAt magic 0 then do
      let written ← memory.write 0 byte
      return ({}, { written with bufferedSize := 1 })
    else return ({}, { memory with bufferedSize := 0 })
  else if memory.bufferedSize ≥ maximumFrameSize then
    return ({ type := .frameRejected, decodeStatus := .tooLong }, memory.reset)
  else do
    let written ← memory.write memory.bufferedSize byte
    let received := { written with bufferedSize := memory.bufferedSize + 1 }
    if received.bufferedSize = headerSize then
      let payloadSize := readU16 received.buffer.toList payloadSizeOffset
      if payloadSize.toNat > userSettingsPayloadSize then
        return ({ type := .frameRejected, decodeStatus := .payloadTooLarge }, received.reset)
      else
        return complete
          { received with expectedSize := headerSize + payloadSize.toNat + checksumSize }
    else return complete received

def waken (memory : SettingsStreamMemory) (nowMs : UInt32) : SettingsStreamMemory :=
  let current := if memory.expired nowMs then memory.reset else memory
  { current with lastByteTimeMs := nowMs }

def consume (memory : SettingsStreamMemory) (byte : UInt8) (nowMs : UInt32) :
    Option (SettingsStreamEvent × SettingsStreamMemory) := do
  let timedOut := memory.expired nowMs
  let (event, after) ← (memory.waken nowMs).consumeSynchronized byte
  return (if event.type ≠ .none then event else if timedOut then { type := .timedOut } else event,
    after)

def poll (memory : SettingsStreamMemory) (nowMs : UInt32) :
    SettingsStreamEvent × SettingsStreamMemory :=
  if !memory.expired nowMs then ({}, memory)
  else ({ type := .timedOut }, memory.reset)

def call (memory : SettingsStreamMemory) :
    Input → Option (SettingsStreamEvent × SettingsStreamMemory)
  | .consume byte nowMs => memory.consume byte nowMs
  | .poll nowMs => some (memory.poll nowMs)
  | .reset => some ({}, memory.reset)

def run (memory : SettingsStreamMemory) :
    List Input → Option (List SettingsStreamEvent × SettingsStreamMemory)
  | [] => some ([], memory)
  | input :: rest => do
    let (event, after) ← memory.call input
    let (events, last) ← run after rest
    return (event :: events, last)

/-! The bytes that count are those of the receiver over a list. -/

def view (memory : SettingsStreamMemory) : SettingsStreamReceiver where
  config := memory.config
  buffered := memory.buffer.toList.take memory.bufferedSize
  expectedSize := memory.expectedSize
  lastByteTimeMs := memory.lastByteTimeMs

variable {memory : SettingsStreamMemory}

theorem bufferedSize_view (h : memory.bufferedSize ≤ maximumFrameSize) :
    memory.view.bufferedSize = memory.bufferedSize := by
  change (memory.buffer.toList.take memory.bufferedSize).length = _
  rw [List.length_take, Vector.length_toList, Nat.min_eq_left h]

theorem write_eq (index : Nat) (byte : UInt8) (h : index < maximumFrameSize) :
    memory.write index byte = some { memory with buffer := memory.buffer.set index byte h } :=
  dif_pos h

theorem take_set (buffer : Vector UInt8 maximumFrameSize) (index : Nat) (byte : UInt8)
    (h : index < maximumFrameSize) :
    (buffer.set index byte h).toList.take (index + 1) = buffer.toList.take index ++ [byte] := by
  have hsize : index < (buffer.toList.set index byte).length := by
    simpa using h
  have hlist : (buffer.set index byte h).toList = buffer.toList.set index byte := by
    simp [Vector.toList_set]
  rw [hlist, List.take_succ_eq_append_getElem hsize, List.take_set_of_le (Nat.le_refl _),
    List.getElem_set_self]

theorem view_written (memory : SettingsStreamMemory) (byte : UInt8)
    (h : memory.bufferedSize < maximumFrameSize) :
    view { memory with
      buffer := memory.buffer.set memory.bufferedSize byte h
      bufferedSize := memory.bufferedSize + 1 } =
      { memory.view with buffered := memory.view.buffered ++ [byte] } := by
  unfold view
  rw [take_set]

theorem expired_view (h : memory.bufferedSize ≤ maximumFrameSize) (nowMs : UInt32) :
    memory.view.expired nowMs = memory.expired nowMs := by
  unfold SettingsStreamReceiver.expired expired
  rw [bufferedSize_view h]
  rfl

theorem view_reset (memory : SettingsStreamMemory) : memory.reset.view = memory.view.reset := rfl

/-- A call ends with the event and the bytes of the receiver over a list. -/
def Answers (result : Option (SettingsStreamEvent × SettingsStreamMemory))
    (expected : SettingsStreamEvent × SettingsStreamReceiver) : Prop :=
  ∃ after, result = some (expected.1, after) ∧ after.bufferedSize ≤ maximumFrameSize ∧
    after.view = expected.2

theorem answers_reset (memory : SettingsStreamMemory) (event : SettingsStreamEvent) :
    Answers (some (event, memory.reset)) (event, memory.view.reset) :=
  ⟨memory.reset, rfl, Nat.zero_le _, view_reset memory⟩

theorem complete_view (memory : SettingsStreamMemory) (h : memory.bufferedSize ≤ maximumFrameSize) :
    Answers (some memory.complete) memory.view.complete := by
  have hsize := bufferedSize_view h
  have hexpected : memory.view.expectedSize = memory.expectedSize := rfl
  by_cases hwaiting : memory.expectedSize = 0 ∨ memory.bufferedSize < memory.expectedSize
  · unfold SettingsStreamReceiver.complete complete
    rw [hsize, hexpected, if_pos hwaiting, if_pos hwaiting]
    exact ⟨memory, rfl, h, rfl⟩
  · unfold SettingsStreamReceiver.complete complete
    rw [hsize, hexpected, if_neg hwaiting, if_neg hwaiting]
    change Answers (some (if !(decode memory.view.buffered).valid then _ else _)) _
    dsimp only
    split
    · exact answers_reset memory _
    · exact answers_reset memory _

theorem readU16_view (memory : SettingsStreamMemory) (hheader : headerSize ≤ memory.bufferedSize)
    (h : memory.bufferedSize ≤ maximumFrameSize) :
    readU16 memory.buffer.toList payloadSizeOffset =
      readU16 memory.view.buffered payloadSizeOffset := by
  have hsplit : memory.buffer.toList =
      memory.view.buffered ++ memory.buffer.toList.drop memory.bufferedSize :=
    (List.take_append_drop memory.bufferedSize memory.buffer.toList).symm
  have hlength : memory.view.buffered.length = memory.bufferedSize := bufferedSize_view h
  rw [hsplit]
  apply readU16_append
  rw [hlength]
  exact Nat.lt_of_lt_of_le (by decide) hheader

theorem waken_view (h : memory.bufferedSize ≤ maximumFrameSize) (nowMs : UInt32) :
    (memory.waken nowMs).bufferedSize ≤ maximumFrameSize ∧
      (memory.waken nowMs).view = memory.view.waken nowMs := by
  unfold SettingsStreamReceiver.waken waken
  rw [expired_view h]
  dsimp only
  split
  · exact ⟨Nat.zero_le _, rfl⟩
  · exact ⟨h, rfl⟩

theorem consumeSynchronized_view (h : memory.bufferedSize ≤ maximumFrameSize)
    (hframed : Framed memory.view) (byte : UInt8) :
    Answers (memory.consumeSynchronized byte) (memory.view.consumeSynchronized byte) := by
  have hsize := bufferedSize_view h
  have hroom : memory.bufferedSize < maximumFrameSize := hsize ▸ hframed.room
  have hwritten := view_written memory byte hroom
  unfold SettingsStreamReceiver.consumeSynchronized consumeSynchronized
  rw [hsize, write_eq _ byte hroom]
  split
  · split
    · exact ⟨_, rfl, hroom, hwritten⟩
    split
    · refine ⟨_, rfl, Nat.succ_pos _, ?_⟩
      have hfirst := take_set memory.buffer 0 byte (by decide)
      unfold view
      dsimp only
      rw [hfirst, List.take_zero, List.nil_append]
    · exact ⟨_, rfl, Nat.zero_le _, rfl⟩
  rw [if_neg (Nat.not_le.2 hroom), if_neg (Nat.not_le.2 hroom)]
  have hreceived : SettingsStreamReceiver.bufferedSize { memory.view with
      buffered := memory.view.buffered ++ [byte] } = memory.bufferedSize + 1 := by
    rw [← hsize]
    exact length_received memory.view byte
  dsimp only at hreceived hwritten ⊢
  rw [hreceived]
  change Answers (if memory.bufferedSize + 1 = headerSize then _ else _) _
  by_cases hheader : memory.bufferedSize + 1 = headerSize
  · have hread := readU16_view { memory with
      buffer := memory.buffer.set memory.bufferedSize byte hroom
      bufferedSize := memory.bufferedSize + 1 } (Nat.le_of_eq hheader.symm) hroom
    rw [hwritten] at hread
    dsimp only at hread
    rw [if_pos hheader, if_pos hheader, hread]
    split
    · exact answers_reset memory _
    · have hcomplete := complete_view { memory with
        buffer := memory.buffer.set memory.bufferedSize byte hroom
        bufferedSize := memory.bufferedSize + 1
        expectedSize := headerSize + (readU16 (memory.view.buffered ++ [byte])
          payloadSizeOffset).toNat + checksumSize } hroom
      unfold view at hcomplete ⊢
      dsimp only at hcomplete ⊢
      rw [take_set] at hcomplete
      exact hcomplete
  · rw [if_neg hheader, if_neg hheader, ← hwritten]
    exact complete_view _ hroom

theorem consume_view (h : memory.bufferedSize ≤ maximumFrameSize) (hframed : Framed memory.view)
    (byte : UInt8) (nowMs : UInt32) :
    Answers (memory.consume byte nowMs) (memory.view.consume byte nowMs) := by
  obtain ⟨hbound, hview⟩ := waken_view h nowMs
  have hwaken : Framed (memory.waken nowMs).view := hview ▸ hframed.waken nowMs
  obtain ⟨after, hafter, hsize, hlast⟩ := consumeSynchronized_view hbound hwaken byte
  rw [hview] at hafter hlast
  refine ⟨after, ?_, hsize, hlast⟩
  unfold consume SettingsStreamReceiver.consume
  rw [hafter, expired_view h]
  rfl

theorem call_view (h : memory.bufferedSize ≤ maximumFrameSize) (hframed : Framed memory.view)
    (input : Input) : Answers (memory.call input) (machine memory.view input) := by
  cases input with
  | consume byte nowMs => exact consume_view h hframed byte nowMs
  | poll nowMs =>
    change Answers (some (memory.poll nowMs)) (memory.view.poll nowMs)
    unfold poll SettingsStreamReceiver.poll
    rw [expired_view h]
    split
    · exact ⟨memory, rfl, h, rfl⟩
    · exact answers_reset memory _
  | reset => exact answers_reset memory _

/-- A run writes within the buffer, and ends as that of the receiver over a list. -/
theorem run_view (h : memory.bufferedSize ≤ maximumFrameSize) (hframed : Framed memory.view)
    (inputs : List Input) :
    ∃ last, memory.run inputs = some (outputs memory.view inputs, last) ∧
      last.bufferedSize ≤ maximumFrameSize ∧ last.view = machine.final memory.view inputs := by
  induction inputs generalizing memory with
  | nil => exact ⟨memory, rfl, h, rfl⟩
  | cons input rest ih =>
    obtain ⟨after, hcall, hsize, hview⟩ := call_view h hframed input
    obtain ⟨last, hrun, hlast, hfinal⟩ := ih hsize (hview ▸ (hframed.machine input).1)
    refine ⟨last, ?_, hlast, ?_⟩
    · rw [run, hcall]
      change (do
        let (events, last) ← after.run rest
        return ((machine memory.view input).1 :: events, last)) = _
      rw [hrun, hview]
      rfl
    · rw [hfinal, hview]
      rfl

structure Represented (memory : SettingsStreamMemory) : Prop where
  unannounced : memory.bufferedSize < headerSize → memory.expectedSize = 0
  announced : headerSize ≤ memory.bufferedSize →
    minimumFrameSize ≤ memory.expectedSize ∧ memory.expectedSize ≤ maximumFrameSize ∧
      memory.bufferedSize < memory.expectedSize ∧ memory.expectedSize =
        minimumFrameSize + (readU16 memory.buffer.toList payloadSizeOffset).toNat
  magic : memory.buffer.toList.take (min memory.bufferedSize magic.length) =
    magic.take (min memory.bufferedSize magic.length)

theorem represented (h : memory.bufferedSize ≤ maximumFrameSize) (hframed : Framed memory.view) :
    Represented memory := by
  have hsize := bufferedSize_view h
  constructor
  · intro hshort
    exact hframed.unannounced (hsize ▸ hshort)
  · intro hheader
    have hview : headerSize ≤ memory.view.bufferedSize := hsize.symm ▸ hheader
    have hannounced := hframed.announced hview
    have hincomplete := hframed.incomplete hview
    rw [hsize] at hincomplete
    rw [← readU16_view memory hheader h] at hannounced
    exact ⟨(Nat.le_add_right _ _).trans_eq hannounced.symm, hframed.maximum, hincomplete, hannounced⟩
  · have hmagic := hframed.magic
    rw [hsize] at hmagic
    change (memory.buffer.toList.take memory.bufferedSize).take _ = _ at hmagic
    rw [List.take_take, Nat.min_comm] at hmagic
    rw [hmagic]
    exact List.take_eq_take_iff.2 (by simp)

/-- In every reachable state the fields describe the start of one frame. No byte
is written behind the buffer, and no rejected frame is one that was cut wrongly. -/
theorem representation_invariant (config : SettingsStreamConfig) (inputs : List Input) :
    ∃ events memory, run { config } inputs = some (events, memory) ∧ Represented memory ∧
      ∀ event ∈ events, event.type = .frameRejected → ¬ event.decodeStatus.Misframed := by
  have hempty : Framed (view { config }) := framed_empty _ rfl rfl
  obtain ⟨hframed, hevents⟩ := hempty.run inputs
  obtain ⟨last, hrun, hsize, hview⟩ := run_view (Nat.zero_le _) hempty inputs
  refine ⟨_, last, hrun, represented hsize ?_, ?_⟩
  · rw [hview]
    exact hframed
  · intro event hevent _
    exact hevents event hevent

end SettingsStreamMemory

end BmwRemote.Infrastructure
