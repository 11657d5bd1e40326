import BmwRemote.Infrastructure.SettingsProtocol
import BmwRemote.Lib.Transcript
import Mathlib.Data.List.Chain

/-! The byte stream of the settings protocol: frames are found behind noise and
after broken frames, by their magic and by the time between their bytes. -/
namespace BmwRemote.Infrastructure

open BmwRemote.Lib SettingsProtocolCodec

structure SettingsStreamConfig where
  interByteTimeoutMs : UInt32 := 250
  deriving DecidableEq, Repr

inductive SettingsStreamEventType where
  | none
  | frameReady
  | frameRejected
  | timedOut
  deriving DecidableEq, Repr

structure SettingsStreamEvent where
  type : SettingsStreamEventType := .none
  decodeStatus : SettingsFrameDecodeStatus := .ok
  frame : SettingsProtocolFrame := {}
  deriving DecidableEq

/-- `buffered` holds the `bufferedSize_` bytes at the front of the buffer. -/
structure SettingsStreamReceiver where
  config : SettingsStreamConfig := {}
  buffered : List UInt8 := []
  expectedSize : Nat := 0
  lastByteTimeMs : UInt32 := 0
  deriving DecidableEq

namespace SettingsStreamReceiver

def bufferedSize (receiver : SettingsStreamReceiver) : Nat := receiver.buffered.length

def expired (receiver : SettingsStreamReceiver) (nowMs : UInt32) : Bool :=
  receiver.bufferedSize != 0 &&
    decide (nowMs - receiver.lastByteTimeMs > receiver.config.interByteTimeoutMs)

def reset (receiver : SettingsStreamReceiver) : SettingsStreamReceiver :=
  { config := receiver.config }

def complete (receiver : SettingsStreamReceiver) : SettingsStreamEvent × SettingsStreamReceiver :=
  if receiver.expectedSize = 0 ∨ receiver.bufferedSize < receiver.expectedSize then ({}, receiver)
  else
    let decoded := decode receiver.buffered
    if !decoded.valid then
      ({ type := .frameRejected, decodeStatus := decoded.status }, receiver.reset)
    else ({ type := .frameReady, decodeStatus := .ok, frame := decoded.frame }, receiver.reset)

def consumeSynchronized (receiver : SettingsStreamReceiver) (byte : UInt8) :
    SettingsStreamEvent × SettingsStreamReceiver :=
  if receiver.bufferedSize < magic.length then
    if byte = byteAt magic receiver.bufferedSize then
      ({}, { receiver with buffered := receiver.buffered ++ [byte] })
    else if byte = byteAt magic 0 then ({}, { receiver with buffered := [byte] })
    else ({}, { receiver with buffered := [] })
  else if receiver.bufferedSize ≥ maximumFrameSize then
    ({ type := .frameRejected, decodeStatus := .tooLong }, receiver.reset)
  else
    let received := { receiver with buffered := receiver.buffered ++ [byte] }
    if received.bufferedSize = headerSize then
      let payloadSize := readU16 received.buffered payloadSizeOffset
      if payloadSize.toNat > userSettingsPayloadSize then
        ({ type := .frameRejected, decodeStatus := .payloadTooLarge }, receiver.reset)
      else
        complete { received with expectedSize := headerSize + payloadSize.toNat + checksumSize }
    else complete received

/-- The receiver that takes a byte at `nowMs`: emptied when it had waited too long. -/
def waken (receiver : SettingsStreamReceiver) (nowMs : UInt32) : SettingsStreamReceiver :=
  let current := if receiver.expired nowMs then receiver.reset else receiver
  { current with lastByteTimeMs := nowMs }

def consume (receiver : SettingsStreamReceiver) (byte : UInt8) (nowMs : UInt32) :
    SettingsStreamEvent × SettingsStreamReceiver :=
  let timedOut := receiver.expired nowMs
  let (event, after) := (receiver.waken nowMs).consumeSynchronized byte
  (if event.type ≠ .none then event else if timedOut then { type := .timedOut } else event, after)

def poll (receiver : SettingsStreamReceiver) (nowMs : UInt32) :
    SettingsStreamEvent × SettingsStreamReceiver :=
  if !receiver.expired nowMs then ({}, receiver)
  else ({ type := .timedOut }, receiver.reset)

inductive Input where
  | consume (byte : UInt8) (nowMs : UInt32)
  | poll (nowMs : UInt32)
  | reset

def machine : Machine SettingsStreamReceiver Input SettingsStreamEvent
  | receiver, .consume byte nowMs => receiver.consume byte nowMs
  | receiver, .poll nowMs => receiver.poll nowMs
  | receiver, .reset => ({}, receiver.reset)

/-! Between frames. -/

/-- The expected size is that of the header in the buffer. -/
structure Reachable (config : SettingsStreamConfig) (receiver : SettingsStreamReceiver) : Prop where
  config : receiver.config = config
  expectedSize : receiver.bufferedSize < headerSize → receiver.expectedSize = 0

theorem Reachable.reset {config : SettingsStreamConfig} {receiver : SettingsStreamReceiver}
    (h : Reachable config receiver) : Reachable config receiver.reset :=
  ⟨h.config, fun _ => rfl⟩

theorem Reachable.complete {config : SettingsStreamConfig} {receiver : SettingsStreamReceiver}
    (h : Reachable config receiver) : Reachable config receiver.complete.2 := by
  unfold SettingsStreamReceiver.complete
  dsimp only
  split
  · exact h
  split
  · exact h.reset
  · exact h.reset

theorem Reachable.consumeSynchronized {config : SettingsStreamConfig}
    {receiver : SettingsStreamReceiver} (h : Reachable config receiver) (byte : UInt8) :
    Reachable config (receiver.consumeSynchronized byte).2 := by
  unfold SettingsStreamReceiver.consumeSynchronized
  dsimp only
  split
  · rename_i hshort
    have hzero : receiver.expectedSize = 0 :=
      h.expectedSize (Nat.lt_of_lt_of_le hshort (by decide))
    split
    · exact ⟨h.config, fun _ => hzero⟩
    split
    · exact ⟨h.config, fun _ => hzero⟩
    · exact ⟨h.config, fun _ => hzero⟩
  split
  · exact h.reset
  split
  · rename_i hheader
    split
    · exact h.reset
    · apply Reachable.complete
      exact ⟨h.config, fun hshort => absurd hheader (Nat.ne_of_lt hshort)⟩
  · apply Reachable.complete
    refine ⟨h.config, fun hshort => h.expectedSize (Nat.lt_of_le_of_lt ?_ hshort)⟩
    simp [bufferedSize]

theorem Reachable.waken {config : SettingsStreamConfig} {receiver : SettingsStreamReceiver}
    (h : Reachable config receiver) (nowMs : UInt32) : Reachable config (receiver.waken nowMs) := by
  unfold SettingsStreamReceiver.waken
  dsimp only
  split
  · exact ⟨h.config, fun _ => rfl⟩
  · exact ⟨h.config, h.expectedSize⟩

theorem Reachable.machine {config : SettingsStreamConfig} {receiver : SettingsStreamReceiver}
    (h : Reachable config receiver) (input : Input) :
    Reachable config (SettingsStreamReceiver.machine receiver input).2 := by
  cases input with
  | consume byte nowMs => exact (h.waken nowMs).consumeSynchronized byte
  | poll nowMs =>
    change Reachable config (receiver.poll nowMs).2
    unfold SettingsStreamReceiver.poll
    split
    · exact h
    · exact h.reset
  | reset => exact h.reset

theorem reachable (config : SettingsStreamConfig) (inputs : List Input) :
    Reachable config (machine.final { config } inputs) :=
  machine.invariant_induction (Reachable config) ⟨rfl, fun _ => rfl⟩ (fun _ h => h.machine) inputs

/-! Within a frame. -/

def receiving (config : SettingsStreamConfig) (bytes received : List UInt8) (lastMs : UInt32) :
    SettingsStreamReceiver where
  config := config
  buffered := received
  expectedSize := if received.length < headerSize then 0 else bytes.length
  lastByteTimeMs := lastMs

variable {config : SettingsStreamConfig} {frame : SettingsProtocolFrame}
  {bytes received left : List UInt8} {byte : UInt8}
  {receiver : SettingsStreamReceiver} {nowMs : UInt32}

theorem magic_byte (h : Encodes frame bytes) (hsplit : bytes = received ++ byte :: left)
    (hshort : received.length < magic.length) : byte = byteAt magic received.length := by
  have hmagic := h.magic
  rw [hsplit, List.take_append, List.take_of_length_le (Nat.le_of_lt hshort)] at hmagic
  cases hrest : magic.length - received.length with
  | zero => omega
  | succ count =>
    rw [hrest, List.take_succ_cons] at hmagic
    rw [← hmagic, byteAt_skip _ _ (Nat.le_refl _), Nat.sub_self]
    rfl

theorem complete_receiving (hshort : received.length < bytes.length)
    (lastMs : UInt32) :
    (receiving config bytes received lastMs).complete =
      ({}, receiving config bytes received lastMs) := by
  unfold complete
  rw [if_pos]
  by_cases hheader : received.length < headerSize
  · exact .inl (if_pos hheader)
  · right
    change received.length < if received.length < headerSize then 0 else bytes.length
    rwa [if_neg hheader]

theorem complete_whole (h : Encodes frame bytes) (lastMs : UInt32) :
    (receiving config bytes bytes lastMs).complete =
      ({ type := .frameReady, frame := frame.trimmed }, { config }) := by
  have hheader : ¬ bytes.length < headerSize := by
    rw [h.length]
    omega
  have hexpected : (receiving config bytes bytes lastMs).expectedSize = bytes.length :=
    if_neg hheader
  have hdecode : decode (receiving config bytes bytes lastMs).buffered = ⟨.ok, frame.trimmed⟩ :=
    h.decode
  unfold complete
  rw [hexpected, hdecode, if_neg]
  · rfl
  · have hlength := h.length
    unfold bufferedSize receiving headerSize at *
    dsimp only
    omega

theorem consumeSynchronized_long (h : Encodes frame bytes) (hsplit : bytes = received ++ byte :: left)
    (hlong : ¬ received.length < magic.length) (lastMs : UInt32) :
    (receiving config bytes received lastMs).consumeSynchronized byte =
      (receiving config bytes (received ++ [byte]) lastMs).complete := by
  have hlength := h.length
  have hsize := h.size
  have hcount : bytes.length = received.length + 1 + left.length := by
    rw [hsplit, List.length_append, List.length_cons]
    omega
  have hroom : ¬ received.length ≥ maximumFrameSize := by
    rw [maximumFrameSize]
    omega
  have hnext : (received ++ [byte]).length = received.length + 1 := by simp
  have hbuffered : (receiving config bytes received lastMs).bufferedSize = received.length := rfl
  have hreceived : bufferedSize { receiving config bytes received lastMs with
      buffered := (receiving config bytes received lastMs).buffered ++ [byte] } =
      received.length + 1 := hnext
  unfold consumeSynchronized
  dsimp only
  rw [hbuffered, hreceived, if_neg hlong, if_neg hroom]
  unfold receiving
  rw [hnext]
  by_cases hheader : received.length + 1 = headerSize
  · have hread : readU16 (received ++ [byte]) payloadSizeOffset = frame.payloadSize := by
      rw [← h.payloadSize, hsplit, List.append_cons received byte left]
      refine (readU16_append left ?_).symm
      rw [hnext, hheader]
      decide
    rw [if_pos hheader, hread, if_neg (Nat.not_lt.2 hsize), ← hlength,
      if_neg (Nat.not_lt.2 (Nat.le_of_eq hheader.symm))]
  · rw [if_neg hheader]
    by_cases hshort : received.length < headerSize
    · rw [if_pos hshort, if_pos (by omega)]
    · rw [if_neg hshort, if_neg (by omega)]

theorem consumeSynchronized_receiving (h : Encodes frame bytes)
    (hsplit : bytes = received ++ byte :: left) (hleft : left ≠ []) (lastMs : UInt32) :
    (receiving config bytes received lastMs).consumeSynchronized byte =
      ({}, receiving config bytes (received ++ [byte]) lastMs) := by
  have hcount : (received ++ [byte]).length < bytes.length := by
    have hpositive := List.length_pos_of_ne_nil hleft
    rw [hsplit, List.length_append, List.length_append, List.length_singleton, List.length_cons]
    omega
  by_cases hshort : received.length < magic.length
  · have hheader : received.length < headerSize := Nat.lt_of_lt_of_le hshort (by decide)
    have hnext : (received ++ [byte]).length < headerSize := by
      rw [List.length_append, List.length_singleton]
      exact Nat.lt_of_le_of_lt hshort (by decide)
    have hbuffered : (receiving config bytes received lastMs).bufferedSize = received.length := rfl
    unfold consumeSynchronized
    rw [hbuffered, if_pos hshort, if_pos (magic_byte h hsplit hshort)]
    unfold receiving
    rw [if_pos hheader, if_pos hnext]
  · rw [consumeSynchronized_long h hsplit hshort, complete_receiving hcount]

theorem consumeSynchronized_last (h : Encodes frame bytes) (hsplit : bytes = received ++ [byte])
    (lastMs : UInt32) :
    (receiving config bytes received lastMs).consumeSynchronized byte =
      ({ type := .frameReady, frame := frame.trimmed }, { config }) := by
  have hlong : ¬ received.length < magic.length := by
    have hlength := h.length
    rw [hsplit, List.length_append, List.length_singleton] at hlength
    have hmagic : magic.length = 4 := rfl
    unfold headerSize checksumSize at hlength
    omega
  rw [consumeSynchronized_long h hsplit hlong, ← hsplit, complete_whole h]

theorem not_expired_receiving (bytes received : List UInt8) {lastMs nowMs : UInt32}
    (h : nowMs - lastMs ≤ config.interByteTimeoutMs) :
    (receiving config bytes received lastMs).expired nowMs = false := by
  unfold expired receiving
  simp [UInt32.not_lt.2 h]

theorem not_expired_of_empty (h : receiver.buffered = []) (nowMs : UInt32) :
    receiver.expired nowMs = false := by
  unfold expired bufferedSize
  rw [h]
  rfl

theorem consume_receiving (h : Encodes frame bytes) (hsplit : bytes = received ++ byte :: left)
    (hleft : left ≠ []) {lastMs nowMs : UInt32}
    (hexpired : (receiving config bytes received lastMs).expired nowMs = false) :
    (receiving config bytes received lastMs).consume byte nowMs =
      ({}, receiving config bytes (received ++ [byte]) nowMs) := by
  have hwaken : (receiving config bytes received lastMs).waken nowMs =
      receiving config bytes received nowMs := by
    unfold waken
    rw [hexpired]
    rfl
  unfold consume
  rw [hwaken, hexpired, consumeSynchronized_receiving h hsplit hleft]
  rfl

theorem consume_last (h : Encodes frame bytes) (hsplit : bytes = received ++ [byte])
    {lastMs nowMs : UInt32}
    (hexpired : (receiving config bytes received lastMs).expired nowMs = false) :
    (receiving config bytes received lastMs).consume byte nowMs =
      ({ type := .frameReady, frame := frame.trimmed }, { config }) := by
  have hwaken : (receiving config bytes received lastMs).waken nowMs =
      receiving config bytes received nowMs := by
    unfold waken
    rw [hexpired]
    rfl
  unfold consume
  rw [hwaken, consumeSynchronized_last h hsplit]
  rfl

theorem consume_opening (h : Encodes frame bytes) (hsplit : bytes = byte :: left)
    (hleft : left ≠ []) (lastMs nowMs : UInt32) :
    ({ config, lastByteTimeMs := lastMs } : SettingsStreamReceiver).consume byte nowMs =
      ({}, receiving config bytes [byte] nowMs) := by
  have hempty : ({ config, lastByteTimeMs := lastMs } : SettingsStreamReceiver) =
      receiving config bytes [] lastMs := rfl
  rw [hempty, consume_receiving h hsplit hleft (not_expired_of_empty rfl nowMs)]
  rfl

theorem consume_expired (hexpired : receiver.expired nowMs = true) (byte : UInt8) :
    (receiver.consume byte nowMs).1 = { type := .timedOut } := by
  have hempty : (receiver.waken nowMs).bufferedSize = 0 := by
    unfold waken
    rw [hexpired]
    rfl
  have hsilent : ((receiver.waken nowMs).consumeSynchronized byte).1 = {} := by
    unfold consumeSynchronized
    rw [hempty, if_pos (by decide)]
    split
    · rfl
    · rfl
  unfold consume
  dsimp only
  rw [hsilent, hexpired]
  rfl

def feed (bytes : List UInt8) (times : List UInt32) : List Input :=
  List.zipWith Input.consume bytes times

def outputs (receiver : SettingsStreamReceiver) (inputs : List Input) : List SettingsStreamEvent :=
  (machine.transcript receiver inputs).map Step.output

def delivery (frame : SettingsProtocolFrame) (count : Nat) : List SettingsStreamEvent :=
  List.replicate count ({} : SettingsStreamEvent) ++ [{ type := .frameReady, frame := frame.trimmed }]

theorem feed_cons (byte : UInt8) (bytes : List UInt8) (nowMs : UInt32) (times : List UInt32) :
    feed (byte :: bytes) (nowMs :: times) = .consume byte nowMs :: feed bytes times := rfl

theorem outputs_cons (receiver : SettingsStreamReceiver) (input : Input) (inputs : List Input) :
    outputs receiver (input :: inputs) =
      (machine receiver input).1 :: outputs (machine receiver input).2 inputs := rfl

theorem outputs_append (receiver : SettingsStreamReceiver) (left right : List Input) :
    outputs receiver (left ++ right) =
      outputs receiver left ++ outputs (machine.final receiver left) right := by
  unfold outputs
  rw [Machine.transcript_append, List.map_append]

theorem delivery_succ (frame : SettingsProtocolFrame) (count : Nat) :
    delivery frame (count + 1) = {} :: delivery frame count := by
  rw [delivery, List.replicate_succ, List.cons_append, delivery]

/-- From some bytes of a frame to its end. -/
theorem feed_receiving (h : Encodes frame bytes) (hsplit : bytes = received ++ byte :: left)
    {lastMs nowMs : UInt32} {times : List UInt32} (hcount : times.length = left.length)
    (hgaps : (lastMs :: nowMs :: times).IsChain
      fun earlier later => later - earlier ≤ config.interByteTimeoutMs) :
    outputs (receiving config bytes received lastMs) (feed (byte :: left) (nowMs :: times)) =
        delivery frame left.length ∧
      machine.final (receiving config bytes received lastMs) (feed (byte :: left) (nowMs :: times)) =
        { config } := by
  induction left generalizing received byte lastMs nowMs times with
  | nil =>
    have htimes : times = [] := List.length_eq_zero_iff.1 hcount
    have hlast := consume_last h hsplit (not_expired_receiving bytes received hgaps.rel)
    rw [htimes]
    constructor
    · exact congrArg (fun answer => [Prod.fst answer]) hlast
    · exact congrArg Prod.snd hlast
  | cons next left ih =>
    cases times with
    | nil => simp at hcount
    | cons nextMs times =>
      have hconsume := consume_receiving h hsplit (by simp)
        (not_expired_receiving bytes received hgaps.rel)
      have hsplit' : bytes = (received ++ [byte]) ++ next :: left := by simp [hsplit]
      have hrest := ih hsplit' (by simpa using hcount) hgaps.tail
      have hstep : machine (receiving config bytes received lastMs) (.consume byte nowMs) =
          ({}, receiving config bytes (received ++ [byte]) nowMs) := hconsume
      rw [feed_cons, outputs_cons, Machine.final, hstep, List.length_cons, delivery_succ]
      exact ⟨congrArg _ hrest.1, hrest.2⟩

/-! The first byte of a frame. -/

theorem consumeSynchronized_first (hshort : receiver.bufferedSize < magic.length)
    (hbyte : byte = byteAt magic 0) :
    receiver.consumeSynchronized byte = ({}, { receiver with buffered := [byte] }) := by
  unfold consumeSynchronized
  rw [if_pos hshort]
  by_cases hnext : byte = byteAt magic receiver.bufferedSize
  · have hdistinct : ∀ index < magic.length, byteAt magic 0 = byteAt magic index → index = 0 := by
      decide
    have hempty : receiver.buffered = [] :=
      List.length_eq_zero_iff.1 (hdistinct _ hshort (hbyte.symm.trans hnext))
    rw [if_pos hnext, hempty, List.nil_append]
  · rw [if_neg hnext, if_pos hbyte]

theorem consume_first (hreachable : Reachable config receiver) (h : Encodes frame bytes)
    (hsplit : bytes = byte :: left)
    (hready : receiver.expired nowMs = true ∨ receiver.bufferedSize < magic.length) :
    receiver.consume byte nowMs =
      (if receiver.expired nowMs then { type := .timedOut } else {},
        receiving config bytes [byte] nowMs) := by
  have hshort : (receiver.waken nowMs).bufferedSize < magic.length := by
    unfold waken
    split
    · exact Nat.succ_pos 3
    · rename_i hexpired
      exact hready.resolve_left hexpired
  have hwaken := hreachable.waken nowMs
  have hzero := hwaken.expectedSize (Nat.lt_trans hshort (by decide))
  have hsplit' : bytes = [] ++ byte :: left := hsplit
  have hbyte : byte = byteAt magic 0 := magic_byte h hsplit' (by decide)
  have hafter : { receiver.waken nowMs with buffered := [byte] } =
      receiving config bytes [byte] nowMs := by
    dsimp only
    rw [hzero, hwaken.config]
    rfl
  unfold consume
  rw [consumeSynchronized_first hshort hbyte, hafter]
  rfl

/-! Noise before a frame. -/

/-- What is buffered of `seen` may be the start of a magic. -/
structure Seeking (receiver : SettingsStreamReceiver) (seen : List UInt8) : Prop where
  start : receiver.buffered <+: magic
  recent : receiver.buffered <:+ seen

theorem Seeking.short {seen : List UInt8} (h : Seeking receiver seen) (hclean : ¬ magic <:+: seen) :
    receiver.bufferedSize < magic.length := by
  apply Nat.lt_of_le_of_ne h.start.length_le
  intro hwhole
  apply hclean
  rw [← h.start.eq_of_length hwhole]
  exact h.recent.isInfix

theorem Seeking.waken {seen : List UInt8} (h : Seeking receiver seen) (nowMs : UInt32) :
    Seeking (receiver.waken nowMs) seen := by
  unfold SettingsStreamReceiver.waken
  dsimp only
  split
  · exact ⟨List.nil_prefix, List.nil_suffix⟩
  · exact ⟨h.start, h.recent⟩

theorem Seeking.consumeSynchronized {seen : List UInt8} (h : Seeking receiver seen)
    (hclean : ¬ magic <:+: seen) (byte : UInt8) :
    Seeking (receiver.consumeSynchronized byte).2 (seen ++ [byte]) := by
  have hshort := h.short hclean
  unfold SettingsStreamReceiver.consumeSynchronized
  rw [if_pos hshort]
  split
  · rename_i hbyte
    obtain ⟨rest, hrest⟩ := h.start
    obtain ⟨before, hbefore⟩ := h.recent
    cases rest with
    | nil =>
      rw [List.append_nil] at hrest
      rw [← hrest] at hshort
      exact absurd hshort (Nat.lt_irrefl _)
    | cons next rest =>
      have hnext : byte = next := by
        rw [hbyte, ← hrest, bufferedSize, byteAt_skip _ _ (Nat.le_refl _), Nat.sub_self]
        rfl
      refine ⟨⟨rest, ?_⟩, ⟨before, ?_⟩⟩
      · rw [← hrest, hnext, List.append_assoc, List.singleton_append]
      · rw [← hbefore, List.append_assoc]
  split
  · rename_i hbyte
    refine ⟨⟨magic.tail, ?_⟩, List.suffix_append seen [byte]⟩
    rw [hbyte]
    rfl
  · exact ⟨List.nil_prefix, List.nil_suffix⟩

theorem Seeking.feed {seen noise : List UInt8} {times : List UInt32} (h : Seeking receiver seen)
    (hclean : ¬ magic <:+: seen ++ noise) (hcount : times.length = noise.length) :
    Seeking (machine.final receiver (feed noise times)) (seen ++ noise) := by
  induction noise generalizing receiver seen times with
  | nil =>
    rw [List.append_nil]
    exact h
  | cons byte noise ih =>
    cases times with
    | nil => simp at hcount
    | cons nowMs times =>
      have hseen : ¬ magic <:+: seen :=
        fun hmagic => hclean (hmagic.trans (List.prefix_append seen _).isInfix)
      have hafter := (h.waken nowMs).consumeSynchronized hseen byte
      have hsplit : seen ++ byte :: noise = (seen ++ [byte]) ++ noise := by simp
      rw [hsplit] at hclean ⊢
      exact ih hafter hclean (by simpa using hcount)

/-! Silence before a frame. -/

def Input.IsByte : Input → Prop
  | .consume _ _ => True
  | .poll _ => False
  | .reset => False

def Waiting (lastMs : UInt32) (receiver : SettingsStreamReceiver) : Prop :=
  receiver.bufferedSize = 0 ∨ receiver.lastByteTimeMs = lastMs

theorem Waiting.complete {lastMs : UInt32} (h : Waiting lastMs receiver) :
    Waiting lastMs receiver.complete.2 := by
  unfold SettingsStreamReceiver.complete
  dsimp only
  split
  · exact h
  split
  · exact .inl rfl
  · exact .inl rfl

theorem waiting_consume (receiver : SettingsStreamReceiver) (byte : UInt8) (nowMs : UInt32) :
    Waiting nowMs (receiver.consume byte nowMs).2 := by
  have htime : (receiver.waken nowMs).lastByteTimeMs = nowMs := rfl
  unfold consume
  dsimp only
  generalize receiver.waken nowMs = current at htime
  unfold consumeSynchronized
  dsimp only
  split
  · split
    · exact .inr htime
    split
    · exact .inr htime
    · exact .inr htime
  split
  · exact .inl rfl
  split
  · split
    · exact .inl rfl
    · exact Waiting.complete (.inr htime)
  · exact Waiting.complete (.inr htime)

theorem Waiting.silence {lastMs : UInt32} {since : List Input} (h : Waiting lastMs receiver)
    (hsince : ∀ input ∈ since, ¬ input.IsByte) : Waiting lastMs (machine.final receiver since) := by
  induction since generalizing receiver with
  | nil => exact h
  | cons input since ih =>
    have hnext : Waiting lastMs (machine receiver input).2 := by
      cases input with
      | consume byte nowMs => exact absurd trivial (hsince _ List.mem_cons_self)
      | poll nowMs =>
        change Waiting lastMs (receiver.poll nowMs).2
        unfold SettingsStreamReceiver.poll
        split
        · exact h
        · exact .inl rfl
      | reset => exact .inl rfl
    exact ih hnext fun later hlater => hsince later (List.mem_cons_of_mem input hlater)

end SettingsStreamReceiver

/-- A frame that is sent byte by byte, and when its bytes arrive. -/
structure Transmission where
  frame : SettingsProtocolFrame
  times : List UInt32

namespace Transmission

open SettingsStreamReceiver

def bytes (transmission : Transmission) : List UInt8 := (encode transmission.frame).getD []

def inputs (transmission : Transmission) : List Input := feed transmission.bytes transmission.times

def events (transmission : Transmission) : List SettingsStreamEvent :=
  delivery transmission.frame (transmission.bytes.length - 1)

structure Paced (config : SettingsStreamConfig) (transmission : Transmission) : Prop where
  size : transmission.frame.payloadSize.toNat ≤ userSettingsPayloadSize
  count : transmission.times.length = transmission.bytes.length
  gaps : transmission.times.IsChain
    fun earlier later => later - earlier ≤ config.interByteTimeoutMs

def StartsLate (config : SettingsStreamConfig) (earlier : List Input)
    (transmission : Transmission) : Prop :=
  ∃ byte lastMs since startMs, Since Input.IsByte earlier (.consume byte lastMs) since ∧
    transmission.times.head? = some startMs ∧ startMs - lastMs > config.interByteTimeoutMs

/-- Only noise came since the receiver was empty, and the first magic is the frame's. -/
def StartsClean (config : SettingsStreamConfig) (earlier : List Input) : Prop :=
  ∃ before noise times, earlier = before ++ feed noise times ∧ times.length = noise.length ∧
    (machine.final { config } before).bufferedSize = 0 ∧
    ∀ left right, noise ++ magic = left ++ magic ++ right → right = []

variable {config : SettingsStreamConfig} {transmission : Transmission}

theorem Paced.encodes (h : Paced config transmission) :
    Encodes transmission.frame transmission.bytes := by
  apply encode_encodes
  unfold bytes encode
  rw [if_neg (Nat.not_lt.2 h.size)]
  rfl

theorem Paced.cons (h : Paced config transmission) :
    ∃ byte next left startMs nextMs times, transmission.bytes = byte :: next :: left ∧
      transmission.times = startMs :: nextMs :: times ∧ times.length = left.length := by
  have hcount := h.count
  have hlength := h.encodes.length
  unfold headerSize at hlength
  cases hbytes : transmission.bytes with
  | nil =>
    rw [hbytes, List.length_nil] at hlength
    omega
  | cons byte tail =>
    cases tail with
    | nil =>
      rw [hbytes, List.length_singleton] at hlength
      omega
    | cons next left =>
      rw [hbytes] at hcount
      cases htimes : transmission.times with
      | nil => simp [htimes] at hcount
      | cons startMs tail =>
        cases tail with
        | nil => simp [htimes] at hcount
        | cons nextMs times =>
          refine ⟨byte, next, left, startMs, nextMs, times, rfl, rfl, ?_⟩
          simpa [htimes] using hcount

def Ready (receiver : SettingsStreamReceiver) (transmission : Transmission) : Prop :=
  (∃ startMs, transmission.times.head? = some startMs ∧ receiver.expired startMs = true) ∨
    receiver.bufferedSize < magic.length

theorem ready_of_startsLate {earlier : List Input} (h : StartsLate config earlier transmission) :
    Ready (machine.final { config } earlier) transmission := by
  obtain ⟨byte, lastMs, since, startMs, ⟨⟨before, hearlier⟩, -, hsince⟩, hstart, hlate⟩ := h
  have hconfig := (reachable config earlier).config
  have hwaiting : Waiting lastMs (machine.final { config } earlier) := by
    rw [hearlier, Machine.final_append]
    exact (waiting_consume _ byte lastMs).silence hsince
  by_cases hempty : (machine.final { config } earlier).bufferedSize = 0
  · right
    rw [hempty]
    decide
  · left
    refine ⟨startMs, hstart, ?_⟩
    unfold expired
    rw [hwaiting.resolve_left hempty, hconfig]
    simp [hempty, hlate]

theorem ready_of_startsClean {earlier : List Input} (h : StartsClean config earlier) :
    Ready (machine.final { config } earlier) transmission := by
  obtain ⟨before, noise, times, hearlier, hcount, hempty, hclean⟩ := h
  have hnoise : ¬ magic <:+: noise := by
    rintro ⟨left, right, hmagic⟩
    have hright := hclean left (right ++ magic) (by rw [← hmagic]; simp)
    simp [magic] at hright
  have hbuffered : (machine.final { config } before).buffered = [] :=
    List.length_eq_zero_iff.1 hempty
  have hseeking : Seeking (machine.final { config } before) [] := by
    constructor
    · simp [hbuffered]
    · simp [hbuffered]
  right
  rw [hearlier, Machine.final_append]
  exact (hseeking.feed hnoise hcount).short hnoise

theorem deliver {receiver : SettingsStreamReceiver} (hreachable : Reachable config receiver)
    (h : Paced config transmission) (hready : Ready receiver transmission) :
    ∃ opening : SettingsStreamEvent, (opening = {} ∨ opening = { type := .timedOut }) ∧
      (receiver.bufferedSize = 0 → opening = {}) ∧
      outputs receiver transmission.inputs = transmission.events.set 0 opening ∧
      machine.final receiver transmission.inputs = { config } := by
  obtain ⟨byte, next, left, startMs, nextMs, times, hbytes, htimes, hcount⟩ := h.cons
  have hencodes := h.encodes
  have hgaps := h.gaps
  have hready' : receiver.expired startMs = true ∨ receiver.bufferedSize < magic.length := by
    unfold Ready at hready
    simpa [htimes] using hready
  have hfirst := consume_first hreachable hencodes hbytes hready'
  rw [htimes] at hgaps
  have hsplit : transmission.bytes = [byte] ++ next :: left := hbytes
  have hrest := feed_receiving hencodes hsplit hcount hgaps
  have hstep : machine receiver (.consume byte startMs) = _ := hfirst
  refine ⟨if receiver.expired startMs then { type := .timedOut } else {}, ?_, ?_, ?_, ?_⟩
  · split
    · exact .inr rfl
    · exact .inl rfl
  · intro hempty
    rw [expired, hempty]
    rfl
  · rw [inputs, events, hbytes, htimes, feed_cons, outputs_cons, hstep, hrest.1, List.length_cons,
      List.length_cons, Nat.add_sub_cancel, delivery_succ, List.set_cons_zero]
  · rw [inputs, hbytes, htimes, feed_cons, Machine.final, hstep, hrest.2]

theorem deliver_rest {transmissions : List Transmission}
    (h : ∀ transmission ∈ transmissions, Paced config transmission) :
    outputs { config } (transmissions.flatMap inputs) = transmissions.flatMap events ∧
      machine.final { config } (transmissions.flatMap inputs) = { config } := by
  induction transmissions with
  | nil => exact ⟨rfl, rfl⟩
  | cons transmission rest ih =>
    have hpaced := h transmission List.mem_cons_self
    have hempty : ({ config } : SettingsStreamReceiver).bufferedSize = 0 := rfl
    have hready : Ready { config } transmission := .inr (Nat.succ_pos 3)
    obtain ⟨opening, -, hopening, houtputs, hfinal⟩ :=
      deliver (reachable config []) hpaced hready
    obtain ⟨byte, next, left, -, -, -, hbytes, -, -⟩ := hpaced.cons
    have hevents : transmission.events.set 0 {} = transmission.events := by
      rw [events, hbytes, List.length_cons, List.length_cons, Nat.add_sub_cancel, delivery_succ,
        List.set_cons_zero]
    have hrest := ih fun later hlater => h later (List.mem_cons_of_mem transmission hlater)
    rw [Machine.final_nil, hopening hempty, hevents] at houtputs
    rw [Machine.final_nil] at hfinal
    rw [List.flatMap_cons, List.flatMap_cons, outputs_append, houtputs, Machine.final_append,
      hfinal, hrest.1, hrest.2]
    exact ⟨rfl, rfl⟩

/-- After silence, or after noise from an empty receiver, every frame of a row
is delivered with its last byte, and nothing else is reported but perhaps that
the bytes before it timed out. -/
theorem frames_delivered (config : SettingsStreamConfig) (earlier : List Input)
    (first : Transmission) (rest : List Transmission)
    (hpaced : ∀ transmission ∈ first :: rest, Paced config transmission)
    (hstart : StartsLate config earlier first ∨ StartsClean config earlier) :
    ∃ opening : SettingsStreamEvent, (opening = {} ∨ opening = { type := .timedOut }) ∧
      outputs (machine.final { config } earlier) ((first :: rest).flatMap inputs) =
        first.events.set 0 opening ++ rest.flatMap events ∧
      machine.final (machine.final { config } earlier) ((first :: rest).flatMap inputs) =
        { config } := by
  have hready : Ready (machine.final { config } earlier) first := by
    cases hstart with
    | inl hlate => exact ready_of_startsLate hlate
    | inr hclean => exact ready_of_startsClean hclean
  obtain ⟨opening, hevent, -, houtputs, hfinal⟩ :=
    deliver (reachable config earlier) (hpaced first List.mem_cons_self) hready
  have hrest := deliver_rest fun later hlater => hpaced later (List.mem_cons_of_mem first hlater)
  refine ⟨opening, hevent, ?_, ?_⟩
  · rw [List.flatMap_cons, outputs_append, houtputs, hfinal, hrest.1]
  · rw [List.flatMap_cons, Machine.final_append, hfinal, hrest.2]

/-- Two requests behind a byte that could start a magic. -/
theorem frames_delivered_behindNoise :
    let request : Transmission := ⟨{ type := .readRequest, requestId := 99 }, List.replicate 16 103⟩
    ∃ opening : SettingsStreamEvent, (opening = {} ∨ opening = { type := .timedOut }) ∧
      outputs (machine.final {} (feed [0x42] [100])) ([request, request].flatMap inputs) =
        request.events.set 0 opening ++ [request].flatMap events ∧
      machine.final (machine.final {} (feed [0x42] [100])) ([request, request].flatMap inputs) =
        {} := by
  intro request
  have hpaced : Paced {} request := by
    constructor
    · decide
    · decide
    · decide
  have hclean : StartsClean {} (feed [0x42] [100]) := by
    refine ⟨[], [0x42], [100], rfl, rfl, rfl, ?_⟩
    intro left right h
    cases left with
    | nil => simp [magic] at h
    | cons byte left =>
      have hlength := congrArg List.length h
      simp [magic] at hlength
      exact List.length_eq_zero_iff.1 (by omega)
  exact frames_delivered {} (feed [0x42] [100]) request [request] (by simp [hpaced]) (.inr hclean)

end Transmission

end BmwRemote.Infrastructure
