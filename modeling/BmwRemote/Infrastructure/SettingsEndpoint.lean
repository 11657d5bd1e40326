import BmwRemote.Infrastructure.SettingsService
import BmwRemote.Infrastructure.SettingsStreamSoundness

/-! The endpoint of the settings protocol: bytes in, one response for each frame
they complete. Every call on the store and on the transport is recorded, so that
what a byte stream can make the device do is read off the record. -/
namespace BmwRemote.Infrastructure

open BmwRemote.Application BmwRemote.Lib SettingsProtocolCodec

variable {W : Type}

inductive SettingsEndpointStatus where
  | none
  | responseSent
  | frameRejected
  | frameTimedOut
  | transportFailure
  deriving DecidableEq, Repr

structure SettingsEndpointResult where
  status : SettingsEndpointStatus := .none
  decodeStatus : SettingsFrameDecodeStatus := .ok
  responseStatus : SettingsProtocolStatus := .ok
  deriving DecidableEq, Repr

/-- What an endpoint is built from. Its receiver, the only member that changes,
is kept beside the world. -/
structure SettingsProtocolEndpoint (W : Type) where
  service : SettingsProtocolService W
  transport : SettingsTransportPort W

namespace SettingsProtocolEndpoint

def handleStreamEvent (endpoint : SettingsProtocolEndpoint W) (event : SettingsStreamEvent)
    (access : SettingsProtocolAccess) (world : W) : SettingsEndpointResult × W :=
  match event.type with
  | .none => ({}, world)
  | .timedOut => ({ status := .frameTimedOut }, world)
  | .frameRejected => ({ status := .frameRejected, decodeStatus := event.decodeStatus }, world)
  | .frameReady =>
      let (response, world) := endpoint.service.handle event.frame access world
      match encode response with
      | Option.none => ({ status := .transportFailure, responseStatus := response.status }, world)
      | some encoded =>
          let (sent, world) := endpoint.transport.send encoded world
          ({ status := if sent then .responseSent else .transportFailure
             responseStatus := response.status }, world)

abbrev State (W : Type) := SettingsStreamReceiver × W

def consume (endpoint : SettingsProtocolEndpoint W) (byte : UInt8) (nowMs : UInt32)
    (access : SettingsProtocolAccess) (state : State W) : SettingsEndpointResult × State W :=
  let (event, receiver) := state.1.consume byte nowMs
  let (result, world) := endpoint.handleStreamEvent event access state.2
  (result, receiver, world)

theorem consume_eq (endpoint : SettingsProtocolEndpoint W) (byte : UInt8) (nowMs : UInt32)
    (access : SettingsProtocolAccess) (state : State W) :
    endpoint.consume byte nowMs access state =
      let answer := endpoint.handleStreamEvent (state.1.consume byte nowMs).1 access state.2
      (answer.1, (state.1.consume byte nowMs).2, answer.2) := by
  unfold consume
  dsimp only

def poll (nowMs : UInt32) (state : State W) : SettingsEndpointResult × State W :=
  let (event, receiver) := state.1.poll nowMs
  (if event.type = .timedOut then { status := .frameTimedOut } else {}, receiver, state.2)

inductive Input where
  | consume (byte : UInt8) (nowMs : UInt32) (access : SettingsProtocolAccess)
  | poll (nowMs : UInt32)

def machine (endpoint : SettingsProtocolEndpoint W) : Machine (State W) Input SettingsEndpointResult
  | state, .consume byte nowMs access => endpoint.consume byte nowMs access state
  | state, .poll nowMs => poll nowMs state

end SettingsProtocolEndpoint

/-! The record of the calls on the store and on the transport. -/

inductive SettingsCall where
  | load (loaded : Option UserSettings)
  | save (settings : UserSettings) (saved : Bool)
  | send (bytes : List UInt8) (sent : Bool)
  deriving DecidableEq

abbrev Recorded (W : Type) := W × List SettingsCall

def UserSettingsStore.traced (store : UserSettingsStore W) : UserSettingsStore (Recorded W) where
  load world :=
    let (loaded, after) := store.load world.1
    (loaded, after, world.2 ++ [.load loaded])
  save settings world :=
    let (saved, after) := store.save settings world.1
    (saved, after, world.2 ++ [.save settings saved])

theorem UserSettingsStore.traced_load {store : UserSettingsStore W} {world after : W}
    {loaded : Option UserSettings} (h : store.load world = (loaded, after))
    (calls : List SettingsCall) :
    store.traced.load (world, calls) = (loaded, after, calls ++ [.load loaded]) := by
  simp [UserSettingsStore.traced, h]

theorem UserSettingsStore.traced_save {store : UserSettingsStore W} {world after : W}
    {settings : UserSettings} {saved : Bool} (h : store.save settings world = (saved, after))
    (calls : List SettingsCall) :
    store.traced.save settings (world, calls) = (saved, after, calls ++ [.save settings saved]) := by
  simp [UserSettingsStore.traced, h]

def SettingsTransportPort.traced (transport : SettingsTransportPort W) :
    SettingsTransportPort (Recorded W) where
  send bytes world :=
    let (sent, after) := transport.send bytes world.1
    (sent, after, world.2 ++ [.send bytes sent])

def SettingsProtocolService.traced (service : SettingsProtocolService W) :
    SettingsProtocolService (Recorded W) where
  store := service.store.traced
  identity := service.identity

def SettingsProtocolEndpoint.traced (endpoint : SettingsProtocolEndpoint W) :
    SettingsProtocolEndpoint (Recorded W) where
  service := endpoint.service.traced
  transport := endpoint.transport.traced

namespace SettingsProtocolService

structure Authorises (request : SettingsProtocolFrame) (access : SettingsProtocolAccess)
    (settings : UserSettings) : Prop where
  type : request.type = .writeRequest
  status : request.status = .ok
  payloadSize : request.payloadSize.toNat = userSettingsPayloadSize
  payload : decodeUserSettingsPayload request.payload userSettingsPayloadSize = some settings
  authorized : access.authorized = true
  idle : access.controllerState = .idle

inductive Served (request : SettingsProtocolFrame) (access : SettingsProtocolAccess)
    (response : SettingsProtocolFrame) : List SettingsCall → Prop where
  | untouched (h : response.status = .ok → request.type = .identifyRequest) :
      Served request access response []
  | loaded (loaded : Option UserSettings) (htype : request.type = .readRequest)
      (h : response.status = .ok → ∃ settings, loaded = some settings ∧
        encodeUserSettingsPayload settings = some response.payload) :
      Served request access response [.load loaded]
  | saved (settings : UserSettings) (saved : Bool) (hrequest : Authorises request access settings)
      (h : response.status = .ok → saved = true) :
      Served request access response [.save settings saved]

def Answers (request : SettingsProtocolFrame) (access : SettingsProtocolAccess)
    (log : List SettingsCall) (result : SettingsProtocolFrame × Recorded W) : Prop :=
  result.1.requestId = request.requestId ∧
    result.1.payloadSize.toNat ≤ userSettingsPayloadSize ∧
    ∃ calls, result.2.2 = log ++ calls ∧ Served request access result.1 calls

theorem answers_refusal (request : SettingsProtocolFrame) (access : SettingsProtocolAccess)
    (world : Recorded W) (type : SettingsMessageType) {status : SettingsProtocolStatus}
    (h : status ≠ .ok) : Answers request access world.2 (responseFor request type status, world) :=
  ⟨rfl, Nat.zero_le _, [], (List.append_nil world.2).symm, .untouched fun hok => absurd hok h⟩

theorem handle_traced (service : SettingsProtocolService W) (request : SettingsProtocolFrame)
    (access : SettingsProtocolAccess) (world : Recorded W) :
    Answers request access world.2 (service.traced.handle request access world) := by
  unfold handle
  dsimp only
  split
  · exact answers_refusal request access world _ (by decide)
  rename_i responseType hsupported
  split
  · exact answers_refusal request access world _ (by decide)
  rename_i hform
  split
  · exact answers_refusal request access world _ (by decide)
  rename_i hauthorized
  split
  · rename_i hidentify
    exact ⟨rfl, Nat.le_of_ble_eq_true rfl, [], (List.append_nil world.2).symm,
      .untouched fun _ => hidentify⟩
  rename_i hnotIdentify
  split
  · rename_i hread
    split
    · exact ⟨rfl, Nat.zero_le _, [_], rfl,
        .loaded _ hread fun hok => by cases hok⟩
    · rename_i payload hpayload
      refine ⟨rfl, Nat.le_of_ble_eq_true rfl, [_], rfl, .loaded _ hread fun _ => ?_⟩
      rw [Option.bind_eq_some_iff] at hpayload
      exact hpayload
  rename_i hnotRead
  split
  · exact answers_refusal request access world _ (by decide)
  rename_i hidle
  split
  · exact answers_refusal request access world _ (by decide)
  rename_i settings hdecode
  have hwrite : request.type = .writeRequest := by
    unfold SettingsProtocolService.responseType at hsupported
    by_contra hother
    simp [hnotRead, hnotIdentify, hother] at hsupported
  have hsize : request.payloadSize.toNat = userSettingsPayloadSize := by
    simpa [payloadSizeValid, hwrite] using (not_or.1 hform).2
  have hstatus : request.status = .ok := Decidable.not_not.1 (not_or.1 hform).1
  have hrequest : Authorises request access settings :=
    ⟨hwrite, hstatus, hsize, hsize ▸ hdecode, by simpa using hauthorized,
      Decidable.not_not.1 hidle⟩
  split
  · rename_i hsaved
    exact ⟨rfl, Nat.zero_le _, [_], rfl, .saved settings _ hrequest fun _ => hsaved⟩
  · exact ⟨rfl, Nat.zero_le _, [_], rfl,
      .saved settings _ hrequest fun hok => by cases hok⟩

end SettingsProtocolService

namespace SettingsProtocolEndpoint

open SettingsProtocolService

abbrev Call (W : Type) := Step (State W) Input SettingsEndpointResult

/-- The calls that a frame leads to: those that serve it, and one response. -/
structure Responded (frame : SettingsProtocolFrame) (access : SettingsProtocolAccess)
    (response : SettingsProtocolFrame) (calls : List SettingsCall) : Prop where
  requestId : response.requestId = frame.requestId
  calls : ∃ serving encoded sent, calls = serving ++ [.send encoded sent] ∧
    encode response = some encoded ∧ Served frame access response serving

theorem handleStreamEvent_traced (endpoint : SettingsProtocolEndpoint W)
    (event : SettingsStreamEvent) (access : SettingsProtocolAccess) (world : Recorded W) :
    (event.type ≠ .frameReady ∧ (endpoint.traced.handleStreamEvent event access world).2 = world) ∨
    event.type = .frameReady ∧ ∃ calls,
      (endpoint.traced.handleStreamEvent event access world).2.2 = world.2 ++ calls ∧
      Responded event.frame access
        (endpoint.service.traced.handle event.frame access world).1 calls := by
  unfold handleStreamEvent
  split
  · rename_i htype
    exact .inl ⟨by rw [htype]; decide, rfl⟩
  · rename_i htype
    exact .inl ⟨by rw [htype]; decide, rfl⟩
  · rename_i htype
    exact .inl ⟨by rw [htype]; decide, rfl⟩
  · rename_i htype
    right
    have hanswers := endpoint.service.handle_traced event.frame access world
    have hservice : endpoint.traced.service.handle event.frame access world =
        endpoint.service.traced.handle event.frame access world := rfl
    rw [hservice]
    generalize endpoint.service.traced.handle event.frame access world = answer at hanswers ⊢
    obtain ⟨hrequestId, hsize, serving, hlog, hserved⟩ := hanswers
    obtain ⟨encoded, hencode⟩ : ∃ encoded, encode answer.1 = some encoded :=
      ⟨_, if_neg (Nat.not_lt.2 hsize)⟩
    refine ⟨htype, serving ++ [.send encoded (endpoint.transport.send encoded answer.2.1).1], ?_,
      hrequestId, serving, encoded, _, rfl, hencode, hserved⟩
    dsimp only
    rw [hencode, ← List.append_assoc, ← hlog]
    rfl

def Input.stream : Input → SettingsStreamReceiver.Input
  | .consume byte nowMs _ => .consume byte nowMs
  | .poll nowMs => .poll nowMs

def streamCall (call : Call W) : SettingsStreamReceiver.Call :=
  SettingsStreamReceiver.machine.stepOf call.before.1 call.input.stream

theorem receiver_machine (endpoint : SettingsProtocolEndpoint W) (state : State W) (input : Input) :
    (endpoint.machine state input).2.1 =
      (SettingsStreamReceiver.machine state.1 input.stream).2 := by
  cases input <;> rfl

theorem map_streamCall_transcript (endpoint : SettingsProtocolEndpoint W) (state : State W)
    (inputs : List Input) :
    (endpoint.machine.transcript state inputs).map streamCall =
      SettingsStreamReceiver.machine.transcript state.1 (inputs.map Input.stream) := by
  induction inputs generalizing state with
  | nil => rfl
  | cons input rest ih =>
    rw [List.map_cons, Machine.transcript, Machine.transcript, List.map_cons, ih,
      receiver_machine]
    rfl

def consumedBytes (calls : List (Call W)) : List UInt8 :=
  calls.filterMap fun call => call.input.stream.byte?

theorem receivedBytes_map_streamCall (calls : List (Call W)) :
    SettingsStreamReceiver.receivedBytes (calls.map streamCall) = consumedBytes calls := by
  unfold SettingsStreamReceiver.receivedBytes consumedBytes
  rw [List.filterMap_map]
  rfl

theorem encoded_of_run {endpoint : SettingsProtocolEndpoint W} {config : SettingsStreamConfig}
    {world : W} {inputs : List Input} {past future : List (Call W)} {call : Call W}
    (hrun : endpoint.machine.transcript ({ config }, world) inputs = past ++ call :: future)
    (hready : (streamCall call).output.type = .frameReady) :
    ∃ encoded, encode (streamCall call).output.frame = some encoded ∧
      encoded <:+ consumedBytes (past ++ [call]) := by
  have hstream := endpoint.map_streamCall_transcript ({ config }, world) inputs
  rw [hrun, List.map_append, List.map_cons] at hstream
  obtain ⟨window, hwindow⟩ := SettingsStreamReceiver.frameWindow_of_run hstream.symm hready
  refine ⟨_, hwindow.encoded, ?_⟩
  rw [← receivedBytes_map_streamCall, List.map_append]
  obtain ⟨front, hfront⟩ := hwindow.last
  rw [← hfront, List.append_assoc, SettingsStreamReceiver.receivedBytes_append front]
  exact List.suffix_append _ _

/-- In every run over every store and transport: a call that completes no frame
leaves both alone. One that completes a frame sends one response to it, after at
most one call on the store, and saves only what a write request, authorised in
`Idle` with its last byte, asks for. -/
theorem write_authorisation (endpoint : SettingsProtocolEndpoint W) (config : SettingsStreamConfig)
    (world : W) (inputs : List Input) {past future : List (Call (Recorded W))}
    {call : Call (Recorded W)}
    (hrun : endpoint.traced.machine.transcript ({ config }, world, []) inputs =
      past ++ call :: future) :
    ∃ calls, call.after.2.2 = call.before.2.2 ++ calls ∧
      ((streamCall call).output.type ≠ .frameReady → calls = []) ∧
      ((streamCall call).output.type = .frameReady →
        ∃ byte nowMs access frame encoded response serving answer sent,
          call.input = .consume byte nowMs access ∧
          encode frame = some encoded ∧ encoded <:+ consumedBytes (past ++ [call]) ∧
          calls = serving ++ [.send answer sent] ∧ encode response = some answer ∧
          response.requestId = frame.requestId ∧
          (serving = [] ∨ (∃ loaded, serving = [.load loaded]) ∨
            ∃ settings saved, serving = [.save settings saved]) ∧
          (∀ settings saved, .save settings saved ∈ serving →
            frame.type = .writeRequest ∧ frame.status = .ok ∧ frame.payloadSize = 40 ∧
            decodeUserSettingsPayload frame.payload 40 = some settings ∧
            access.authorized = true ∧ access.controllerState = .idle) ∧
          (frame.type = .writeRequest → response.status = .ok →
            ∃ settings, decodeUserSettingsPayload frame.payload 40 = some settings ∧
              .save settings true ∈ serving)) := by
  obtain ⟨earlier, input, later, -, -, hcall⟩ := endpoint.traced.machine.transcript_split hrun
  have hencoded := encoded_of_run hrun
  generalize endpoint.traced.machine.final ({ config }, world, []) earlier = state at hcall
  cases input with
  | poll nowMs =>
    have hsilent : (streamCall call).output.type ≠ .frameReady := by
      rw [hcall]
      exact SettingsStreamReceiver.poll_not_frameReady state.1 nowMs
    refine ⟨[], ?_, fun _ => rfl, fun hready => absurd hready hsilent⟩
    rw [hcall]
    exact (List.append_nil _).symm
  | consume byte nowMs access =>
    have hevent : (streamCall call).output = (state.1.consume byte nowMs).1 := by
      rw [hcall]
      rfl
    have hafter : call.after.2 =
        (endpoint.traced.handleStreamEvent (streamCall call).output access state.2).2 := by
      rw [hevent, hcall, Machine.stepOf_after]
      change (endpoint.traced.consume byte nowMs access state).2.2 = _
      rw [consume_eq]
    have hbefore : call.before = state := by rw [hcall]; rfl
    rcases endpoint.handleStreamEvent_traced (streamCall call).output access state.2 with
      ⟨hother, hsame⟩ | ⟨hready, calls, hlog, hresponded⟩
    · refine ⟨[], ?_, fun _ => rfl, fun hready => absurd hready hother⟩
      rw [hafter, hsame, hbefore, List.append_nil]
    · refine ⟨calls, ?_, fun hother => absurd hready hother, fun _ => ?_⟩
      · rw [hafter, hlog, hbefore]
      obtain ⟨encoded, hencode, hlast⟩ := hencoded hready
      obtain ⟨hrequestId, serving, answer, sent, hcalls, hanswer, hserved⟩ := hresponded
      refine ⟨byte, nowMs, access, (streamCall call).output.frame, encoded, _, serving, answer, sent,
        congrArg Step.input hcall, hencode, hlast, hcalls, hanswer, hrequestId, ?_⟩
      cases hserved with
      | untouched hok =>
        refine ⟨.inl rfl, by simp, fun hwrite hstatus => ?_⟩
        rw [hok hstatus] at hwrite
        cases hwrite
      | loaded loaded hread hok =>
        refine ⟨.inr (.inl ⟨loaded, rfl⟩), by simp, fun hwrite _ => ?_⟩
        rw [hread] at hwrite
        cases hwrite
      | saved settings saved hrequest hok =>
        refine ⟨.inr (.inr ⟨settings, saved, rfl⟩), ?_, fun _ hstatus => ?_⟩
        · intro written result hmem
          cases List.mem_singleton.1 hmem
          exact ⟨hrequest.type, hrequest.status, UInt16.toNat_inj.1 hrequest.payloadSize,
            hrequest.payload, hrequest.authorized, hrequest.idle⟩
        · rw [hok hstatus]
          exact ⟨settings, hrequest.payload, List.mem_singleton_self _⟩

def memoryEndpoint : SettingsProtocolEndpoint UserSettings where
  service :=
    { store := { load := fun settings => (some settings, settings)
                 save := fun settings _ => (true, settings) } }
  transport := ⟨fun _ settings => (true, settings)⟩

def writeDefaults : List UInt8 :=
  (encode { type := .writeRequest, requestId := 7, payloadSize := 40
            payload := (encodeUserSettingsPayload {}).getD (Vector.replicate _ 0) }).getD []

def authorizedByte (byte : UInt8) : Input := .consume byte 100 { authorized := true }

theorem write_authorisation_defaults :
    let past := memoryEndpoint.traced.machine.transcript ({}, { remoteStartEnabled := false }, [])
      ((writeDefaults.take 55).map authorizedByte)
    let call := memoryEndpoint.traced.machine.stepOf
      (memoryEndpoint.traced.machine.final ({}, { remoteStartEnabled := false }, [])
        ((writeDefaults.take 55).map authorizedByte)) (authorizedByte (byteAt writeDefaults 55))
    ∃ frame encoded, encode frame = some encoded ∧ encoded <:+ consumedBytes (past ++ [call]) := by
  intro past call
  obtain ⟨_, -, -, hanswered⟩ := write_authorisation memoryEndpoint {} { remoteStartEnabled := false }
    ((writeDefaults.take 55).map authorizedByte ++ [authorizedByte (byteAt writeDefaults 55)])
    (memoryEndpoint.traced.machine.transcript_concat ({}, { remoteStartEnabled := false }, [])
      ((writeDefaults.take 55).map authorizedByte) (authorizedByte (byteAt writeDefaults 55)))
  obtain ⟨byte, nowMs, access, frame, encoded, response, serving, answer, sent, -, hencode, hlast,
    -⟩ := hanswered (by decide +kernel)
  exact ⟨frame, encoded, hencode, hlast⟩

end SettingsProtocolEndpoint

end BmwRemote.Infrastructure
