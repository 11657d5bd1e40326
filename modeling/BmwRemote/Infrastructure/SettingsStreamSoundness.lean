import BmwRemote.Infrastructure.SettingsStream

/-! What a frame that the receiver reports was made of: the last bytes that were
received, all of them, within the time between two bytes, and none of them part
of an earlier frame. -/
namespace BmwRemote.Infrastructure.SettingsStreamReceiver

open BmwRemote.Lib SettingsProtocolCodec

abbrev Call := Step SettingsStreamReceiver Input SettingsStreamEvent

def Input.byte? : Input → Option UInt8
  | .consume byte _ => some byte
  | .poll _ => none
  | .reset => none

def Input.time? : Input → Option UInt32
  | .consume _ nowMs => some nowMs
  | .poll _ => none
  | .reset => none

def receivedBytes (calls : List Call) : List UInt8 :=
  calls.filterMap fun call => call.input.byte?

def receivedTimes (calls : List Call) : List UInt32 :=
  calls.filterMap fun call => call.input.time?

@[simp] theorem receivedBytes_nil : receivedBytes [] = [] := rfl

@[simp] theorem receivedTimes_nil : receivedTimes [] = [] := rfl

@[simp] theorem receivedBytes_append (left right : List Call) :
    receivedBytes (left ++ right) = receivedBytes left ++ receivedBytes right :=
  List.filterMap_append

@[simp] theorem receivedTimes_append (left right : List Call) :
    receivedTimes (left ++ right) = receivedTimes left ++ receivedTimes right :=
  List.filterMap_append

theorem length_receivedTimes (calls : List Call) :
    (receivedTimes calls).length = (receivedBytes calls).length := by
  induction calls with
  | nil => rfl
  | cons call rest ih =>
    unfold receivedBytes receivedTimes at *
    rw [List.filterMap_cons, List.filterMap_cons]
    cases call.input with
    | consume byte nowMs => exact congrArg Nat.succ ih
    | poll nowMs => exact ih
    | reset => exact ih

/-- What a byte makes of the buffer, and when it completes a frame. -/
inductive Consumed (receiver : SettingsStreamReceiver) (byte : UInt8)
    (result : SettingsStreamEvent × SettingsStreamReceiver) : Prop where
  | appended (hevent : result.1.type ≠ .frameReady)
      (hbuffered : result.2.buffered = receiver.buffered ++ [byte])
      (htime : result.2.lastByteTimeMs = receiver.lastByteTimeMs)
  | restarted (hevent : result.1.type ≠ .frameReady) (hbuffered : result.2.buffered = [byte])
      (htime : result.2.lastByteTimeMs = receiver.lastByteTimeMs)
  | dropped (hevent : result.1.type ≠ .frameReady) (hbuffered : result.2.buffered = [])
  | completed (hevent : result.1.type = .frameReady)
      (hdecode : decode (receiver.buffered ++ [byte]) = ⟨.ok, result.1.frame⟩)
      (hbuffered : result.2.buffered = [])

theorem consumed_complete {receiver received : SettingsStreamReceiver} {byte : UInt8}
    (hbuffered : received.buffered = receiver.buffered ++ [byte])
    (htime : received.lastByteTimeMs = receiver.lastByteTimeMs) :
    Consumed receiver byte received.complete := by
  unfold complete
  dsimp only
  split
  · exact .appended nofun hbuffered htime
  split
  · exact .dropped nofun rfl
  · rename_i hvalid
    apply Consumed.completed rfl _ rfl
    rw [← hbuffered]
    have hok : (decode received.buffered).status = .ok := by
      simpa [SettingsFrameDecodeResult.valid] using hvalid
    rw [← hok]

theorem consumed_consumeSynchronized (receiver : SettingsStreamReceiver) (byte : UInt8) :
    Consumed receiver byte (receiver.consumeSynchronized byte) := by
  unfold consumeSynchronized
  dsimp only
  split
  · split
    · exact .appended nofun rfl rfl
    split
    · exact .restarted nofun rfl rfl
    · exact .dropped nofun rfl
  split
  · exact .dropped nofun rfl
  split
  · split
    · exact .dropped nofun rfl
    · exact consumed_complete rfl rfl
  · exact consumed_complete rfl rfl

theorem consumed_consume (receiver : SettingsStreamReceiver) (byte : UInt8) (nowMs : UInt32) :
    Consumed (receiver.waken nowMs) byte (receiver.consume byte nowMs) := by
  have hsynchronized := consumed_consumeSynchronized (receiver.waken nowMs) byte
  unfold consume
  dsimp only
  generalize (receiver.waken nowMs).consumeSynchronized byte = result at hsynchronized
  -- only an event of the byte itself is a frame
  have hevent : result.1.type ≠ .frameReady →
      (if result.1.type ≠ .none then result.1
        else if receiver.expired nowMs then { type := .timedOut } else result.1).type ≠
        .frameReady := by
    intro hother
    split
    · exact hother
    split
    · exact nofun
    · exact hother
  cases hsynchronized with
  | appended hother hbuffered htime => exact .appended (hevent hother) hbuffered htime
  | restarted hother hbuffered htime => exact .restarted (hevent hother) hbuffered htime
  | dropped hother hbuffered => exact .dropped (hevent hother) hbuffered
  | completed hready hdecode hbuffered =>
    rw [if_pos (by rw [hready]; nofun)]
    exact .completed hready hdecode hbuffered

structure Quiet (call : Call) : Prop where
  noFrame : call.output.type ≠ .frameReady
  noReset : call.input ≠ .reset
  noTimeout : ∀ nowMs, call.input = .poll nowMs → call.output.type ≠ .timedOut

def Close (config : SettingsStreamConfig) (earlier later : UInt32) : Prop :=
  later - earlier ≤ config.interByteTimeoutMs

/-- The calls of `window` received the buffered bytes, up to now. -/
structure Filled (receiver : SettingsStreamReceiver) (window : List Call) : Prop where
  bytes : receivedBytes window = receiver.buffered
  gaps : (receivedTimes window).IsChain (Close receiver.config)
  last : ∀ nowMs, (receivedTimes window).getLast? = some nowMs → nowMs = receiver.lastByteTimeMs
  quiet : ∀ call ∈ window, Quiet call

theorem filled_nil {receiver : SettingsStreamReceiver} (h : receiver.buffered = []) :
    Filled receiver [] :=
  ⟨h.symm, .nil, nofun, by simp⟩

theorem Filled.waken {receiver : SettingsStreamReceiver} {window : List Call}
    (h : Filled receiver window) (nowMs : UInt32) :
    ∃ kept, kept <:+ window ∧ receivedBytes kept = (receiver.waken nowMs).buffered ∧
      (receivedTimes kept ++ [nowMs]).IsChain (Close receiver.config) ∧
      ∀ call ∈ kept, Quiet call := by
  unfold SettingsStreamReceiver.waken
  by_cases hexpired : receiver.expired nowMs = true
  · exact ⟨[], List.nil_suffix, by simp [hexpired, reset], by simp, by simp⟩
  · refine ⟨window, List.suffix_refl window, by simp [hexpired, h.bytes], ?_, h.quiet⟩
    rw [List.isChain_append]
    refine ⟨h.gaps, List.isChain_singleton nowMs, ?_⟩
    intro earlier hearlier later hlater
    have hfilled : receiver.bufferedSize ≠ 0 := by
      unfold bufferedSize
      rw [← h.bytes, ← length_receivedTimes]
      intro hempty
      rw [List.length_eq_zero_iff.1 hempty] at hearlier
      simp at hearlier
    have hlast := h.last earlier (by simpa using hearlier)
    have hnow : nowMs = later := by simpa using hlater
    unfold expired at hexpired
    rw [Close, hlast, ← hnow]
    simpa [hfilled] using hexpired

def Windowed (receiver : SettingsStreamReceiver) (past : List Call) : Prop :=
  ∃ earlier window, past = earlier ++ window ∧ Filled receiver window

theorem windowed_of_empty {receiver : SettingsStreamReceiver} (past : List Call)
    (h : receiver.buffered = []) : Windowed receiver past :=
  ⟨past, [], (List.append_nil past).symm, filled_nil h⟩

theorem windowed_consume {config : SettingsStreamConfig} {receiver : SettingsStreamReceiver}
    {past : List Call} (hreachable : Reachable config receiver) (h : Windowed receiver past)
    (byte : UInt8) (nowMs : UInt32) :
    Windowed (receiver.consume byte nowMs).2
      (past ++ [machine.stepOf receiver (.consume byte nowMs)]) := by
  obtain ⟨earlier, window, hpast, hfilled⟩ := h
  obtain ⟨kept, ⟨front, hwindow⟩, hbytes, hgaps, hquiet⟩ := hfilled.waken nowMs
  have hconfig : (receiver.consume byte nowMs).2.config = receiver.config :=
    ((hreachable.waken nowMs).consumeSynchronized byte).config.trans hreachable.config.symm
  have hquietCall (hevent : (receiver.consume byte nowMs).1.type ≠ .frameReady) :
      Quiet (machine.stepOf receiver (.consume byte nowMs)) := ⟨hevent, nofun, nofun⟩
  cases consumed_consume receiver byte nowMs with
  | appended hevent hbuffered htime =>
    refine ⟨earlier ++ front, kept ++ [machine.stepOf receiver (.consume byte nowMs)], ?_, ?_⟩
    · simp [hpast, ← hwindow]
    constructor
    · rw [receivedBytes_append, hbytes, hbuffered]
      rfl
    · rw [receivedTimes_append, hconfig]
      exact hgaps
    · intro last hlast
      have hnow : last = nowMs := by simpa [receivedTimes, Input.time?] using hlast.symm
      rw [hnow, htime]
      rfl
    · intro call hmem
      rw [List.mem_append, List.mem_singleton] at hmem
      cases hmem with
      | inl hkept => exact hquiet call hkept
      | inr hlast => rw [hlast]; exact hquietCall hevent
  | restarted hevent hbuffered htime =>
    refine ⟨past, [machine.stepOf receiver (.consume byte nowMs)], rfl, ?_⟩
    constructor
    · rw [hbuffered]
      rfl
    · exact List.isChain_singleton nowMs
    · intro last hlast
      have hnow : last = nowMs := by simpa [receivedTimes, Input.time?] using hlast.symm
      rw [hnow, htime]
      rfl
    · intro call hmem
      rw [List.mem_singleton.1 hmem]
      exact hquietCall hevent
  | dropped _ hbuffered => exact windowed_of_empty _ hbuffered
  | completed _ _ hbuffered => exact windowed_of_empty _ hbuffered

theorem windowed_poll {receiver : SettingsStreamReceiver} {past : List Call}
    (h : Windowed receiver past) (nowMs : UInt32) :
    Windowed (receiver.poll nowMs).2 (past ++ [machine.stepOf receiver (.poll nowMs)]) := by
  by_cases hexpired : receiver.expired nowMs = true
  · apply windowed_of_empty
    simp [poll, hexpired, reset]
  · have hpoll : receiver.poll nowMs = ({}, receiver) := by simp [poll, hexpired]
    obtain ⟨earlier, window, hpast, hfilled⟩ := h
    rw [hpoll]
    refine ⟨earlier, window ++ [machine.stepOf receiver (.poll nowMs)], by simp [hpast], ?_⟩
    constructor
    · rw [receivedBytes_append, ← hfilled.bytes]
      exact List.append_nil _
    · rw [receivedTimes_append]
      exact (List.append_nil (receivedTimes window)).symm ▸ hfilled.gaps
    · rw [receivedTimes_append]
      exact (List.append_nil (receivedTimes window)).symm ▸ hfilled.last
    · intro call hmem
      rw [List.mem_append, List.mem_singleton] at hmem
      cases hmem with
      | inl hwindow => exact hfilled.quiet call hwindow
      | inr hlast =>
        have hevent : (machine.stepOf receiver (.poll nowMs)).output = {} :=
          congrArg Prod.fst hpoll
        rw [hlast]
        exact ⟨by rw [hevent]; nofun, nofun, fun _ _ => by rw [hevent]; nofun⟩

theorem windowed_step (config : SettingsStreamConfig) (receiver : SettingsStreamReceiver)
    (past : List Call) (h : Reachable config receiver ∧ Windowed receiver past) (input : Input) :
    Reachable config (machine receiver input).2 ∧
      Windowed (machine receiver input).2 (past ++ [machine.stepOf receiver input]) := by
  refine ⟨h.1.machine input, ?_⟩
  cases input with
  | consume byte nowMs => exact windowed_consume h.1 h.2 byte nowMs
  | poll nowMs => exact windowed_poll h.2 nowMs
  | reset => exact windowed_of_empty _ rfl

/-- The window of a frame: the calls that received its encoding, and no others
that received anything. -/
structure FrameWindow (config : SettingsStreamConfig) (past : List Call) (call : Call)
    (window : List Call) : Prop where
  encoded : encode call.output.frame = some (receivedBytes (window ++ [call]))
  gaps : (receivedTimes (window ++ [call])).IsChain (Close config)
  quiet : ∀ between ∈ window, Quiet between
  last : window <:+ past

theorem poll_not_frameReady (receiver : SettingsStreamReceiver) (nowMs : UInt32) :
    (receiver.poll nowMs).1.type ≠ .frameReady := by
  unfold poll
  split
  · exact nofun
  · exact nofun

theorem frameWindow_of_run {config : SettingsStreamConfig} {inputs : List Input}
    {past future : List Call} {call : Call}
    (hrun : machine.transcript { config } inputs = past ++ call :: future)
    (hready : call.output.type = .frameReady) :
    ∃ window, FrameWindow config past call window := by
  have hstate := machine.history_at
    (fun receiver past => Reachable config receiver ∧ Windowed receiver past)
    ⟨⟨rfl, fun _ => rfl⟩, windowed_of_empty [] rfl⟩ (windowed_step config) hrun
  obtain ⟨⟨hreachable, earlier, window, hpast, hfilled⟩, hcall⟩ := hstate
  cases hinput : call.input with
  | reset =>
    rw [hinput] at hcall
    rw [hcall] at hready
    cases hready
  | poll nowMs =>
    rw [hinput] at hcall
    rw [hcall] at hready
    exact absurd hready (poll_not_frameReady call.before nowMs)
  | consume byte nowMs =>
    rw [hinput] at hcall
    obtain ⟨kept, hkept, hbytes, hgaps, hquiet⟩ := hfilled.waken nowMs
    have hevent : (call.before.consume byte nowMs).1 = call.output :=
      (congrArg Step.output hcall).symm
    have hdecode : decode ((call.before.waken nowMs).buffered ++ [byte]) =
        ⟨.ok, call.output.frame⟩ := by
      cases consumed_consume call.before byte nowMs with
      | completed _ hdecode _ => rwa [hevent] at hdecode
      | appended hother | restarted hother | dropped hother =>
        rw [hevent] at hother
        exact absurd hready hother
    refine ⟨kept, ?_, ?_, hquiet, ?_⟩
    · rw [encode_of_decode hdecode, receivedBytes_append, hbytes]
      simp [receivedBytes, hinput, Input.byte?]
    · rw [← hreachable.config, receivedTimes_append]
      simpa [receivedTimes, hinput, Input.time?] using hgaps
    · rw [hpast]
      exact hkept.trans (List.suffix_append earlier window)

/-- Two frames share no byte: the window of the second lies behind the first. -/
theorem FrameWindow.after {config : SettingsStreamConfig} {past older between window : List Call}
    {first call : Call} (h : FrameWindow config past call window)
    (hpast : past = older ++ first :: between) (hfirst : first.output.type = .frameReady) :
    window <:+ between := by
  have hlast := h.last
  rw [hpast] at hlast
  rcases List.suffix_or_suffix_of_suffix hlast (List.suffix_append older (first :: between)) with
    hinside | hlonger
  · rcases List.suffix_cons_iff.1 hinside with hwhole | hbetween
    · exact absurd hfirst (h.quiet first (by rw [hwhole]; exact List.mem_cons_self)).noFrame
    · exact hbetween
  · exact absurd hfirst (h.quiet first (hlonger.subset List.mem_cons_self)).noFrame

/-- In every run: a reported frame is the decoding of the last bytes received,
which came close to each other with no timeout reported by a poll in between;
and the bytes of two reported frames never overlap. -/
theorem stream_soundness (config : SettingsStreamConfig) (inputs : List Input)
    {past future : List Call} {call : Call}
    (hrun : machine.transcript { config } inputs = past ++ call :: future)
    (hready : call.output.type = .frameReady) :
    (∃ earlier window encoded, past = earlier ++ window ∧
      encode call.output.frame = some encoded ∧
      encoded.length = 16 + call.output.frame.payloadSize.toNat ∧
      receivedBytes (window ++ [call]) = encoded ∧
      (receivedTimes (window ++ [call])).IsChain
        (fun sooner later => later - sooner ≤ config.interByteTimeoutMs) ∧
      ∀ between ∈ window, between.input ≠ .reset ∧
        ∀ nowMs, between.input = .poll nowMs → between.output.type ≠ .timedOut) ∧
    ∀ older first between, past = older ++ first :: between →
      first.output.type = .frameReady →
      16 + call.output.frame.payloadSize.toNat ≤ (receivedBytes (between ++ [call])).length := by
  obtain ⟨window, hwindow⟩ := frameWindow_of_run hrun hready
  have hlength : (receivedBytes (window ++ [call])).length =
      16 + call.output.frame.payloadSize.toNat := by
    rw [(encode_encodes hwindow.encoded).length]
    unfold headerSize checksumSize
    omega
  obtain ⟨earlier, hearlier⟩ := hwindow.last
  constructor
  · refine ⟨earlier, window, _, hearlier.symm, hwindow.encoded, hlength, rfl, hwindow.gaps, ?_⟩
    intro between hmem
    exact ⟨(hwindow.quiet between hmem).noReset, (hwindow.quiet between hmem).noTimeout⟩
  · intro older first between hpast hfirst
    obtain ⟨front, hfront⟩ := hwindow.after hpast hfirst
    rw [← hlength, ← hfront, List.append_assoc, receivedBytes_append front, List.length_append]
    exact Nat.le_add_left _ _

def requestBehindNoise : List Input :=
  feed (0x42 :: (Transmission.mk { type := .readRequest, requestId := 99 } []).bytes.take 15)
    (List.replicate 16 103)

theorem stream_soundness_behindNoise :
    let call := machine.stepOf (machine.final {} requestBehindNoise) (.consume 33 104)
    ∃ earlier window encoded, machine.transcript {} requestBehindNoise = earlier ++ window ∧
      encode call.output.frame = some encoded ∧ receivedBytes (window ++ [call]) = encoded := by
  intro call
  obtain ⟨earlier, window, encoded, hpast, hencode, -, hbytes, -⟩ :=
    (stream_soundness {} (requestBehindNoise ++ [.consume 33 104])
      (machine.transcript_concat {} requestBehindNoise (.consume 33 104))
      (by decide +kernel)).1
  exact ⟨earlier, window, encoded, hpast, hencode, hbytes⟩

end BmwRemote.Infrastructure.SettingsStreamReceiver
