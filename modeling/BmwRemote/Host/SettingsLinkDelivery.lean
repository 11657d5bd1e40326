import BmwRemote.Host.SettingsLink
import BmwRemote.Infrastructure.SettingsJournal

/-! On a link in time, over a reliable channel, the device takes every request
whole and its response reaches the client. -/
namespace BmwRemote.Host

open BmwRemote.Application BmwRemote.Infrastructure BmwRemote.Lib
open SettingsProtocolCodec SettingsStreamReceiver SettingsProtocolService SettingsDeviceClient

variable {S V : Type} {endpoint : SettingsProtocolEndpoint S} {config : SettingsStreamConfig}
  {request response : SettingsProtocolFrame} {bytes left : List UInt8} {world : S} {link : Link S}

def responding (endpoint : SettingsProtocolEndpoint S) (request : SettingsProtocolFrame)
    (world : S) : Recorded S :=
  (endpoint.traced.handleStreamEvent { type := .frameReady, frame := request.trimmed }
    { authorized := true } (world, [])).2

def replyBytes (endpoint : SettingsProtocolEndpoint S) (request : SettingsProtocolFrame)
    (world : S) : List UInt8 :=
  (responding endpoint request world).2.flatMap sentBytes

structure Taking (config : SettingsStreamConfig) (bytes : List UInt8) (world : S)
    (link : Link S) : Prop where
  receiver : ∃ received lastMs, bytes = received ++ link.toDevice ∧
    link.receiver = receiving config bytes received lastMs
  toDevice : link.toDevice ≠ []
  toHost : link.toHost = []
  world : link.world = world

structure Answered (config : SettingsStreamConfig) (world : S) (left : List UInt8)
    (link : Link S) : Prop where
  idle : Idle config link
  toHost : link.toHost = left
  world : link.world = world

/-- What the host will read, wherever the device is with the request. -/
def Coming (endpoint : SettingsProtocolEndpoint S) (config : SettingsStreamConfig)
    (request : SettingsProtocolFrame) (bytes : List UInt8) (world : S) (left : List UInt8)
    (link : Link S) : Prop :=
  Taking config bytes world link ∧ left = replyBytes endpoint request world ∨
    Answered config (responding endpoint request world).1 left link

theorem Taking.consume (h : Taking config bytes world link) (hencodes : Encodes request bytes)
    {nowMs : UInt32} (hexpired : link.receiver.expired nowMs = false) :
    Coming endpoint config request bytes world (replyBytes endpoint request world)
      (link.consume endpoint nowMs { authorized := true }) := by
  obtain ⟨received, lastMs, hsplit, hreceiver⟩ := h.receiver
  rw [hreceiver] at hexpired
  cases hnext : link.toDevice with
  | nil => exact absurd hnext h.toDevice
  | cons byte rest =>
  rw [hnext] at hsplit
  rw [Link.consume_eq hnext, hreceiver, h.toHost, h.world]
  by_cases hlast : rest = []
  · rw [hlast] at hsplit
    rw [consume_last hencodes hsplit hexpired, hlast]
    exact .inr ⟨⟨⟨0, rfl⟩, rfl⟩, rfl, rfl⟩
  · rw [consume_receiving hencodes hsplit hlast hexpired]
    refine .inl ⟨⟨⟨received ++ [byte], nowMs, ?_, rfl⟩, hlast, rfl, rfl⟩, rfl⟩
    simpa using hsplit

theorem Coming.move (h : Coming endpoint config request bytes world left link)
    (hencodes : Encodes request bytes) {move : DeviceMove} (hmove : promptMove link move) :
    Coming endpoint config request bytes world left (link.move endpoint move) := by
  cases h with
  | inr hanswered =>
    rw [hanswered.idle.move endpoint move]
    exact .inr hanswered
  | inl htaking =>
    obtain ⟨htaking, hleft⟩ := htaking
    cases move with
    | poll nowMs =>
      have hsame : link.poll nowMs = link := poll_of_waiting hmove
      change Coming endpoint config request bytes world left (link.poll nowMs)
      rw [hsame]
      exact .inl ⟨htaking, hleft⟩
    | consume nowMs access =>
      obtain ⟨haccess, hexpired⟩ := hmove
      rw [hleft, haccess]
      exact htaking.consume hencodes hexpired

theorem Coming.reaches {after : Link S} (hencodes : Encodes request bytes)
    (hreaches : Reaches endpoint promptMove link after)
    (h : Coming endpoint config request bytes world left link) :
    Coming endpoint config request bytes world left after :=
  hreaches.invariant _ (fun _ _ hmove hlink => hlink.move hencodes hmove) h

def Link.takeAll (endpoint : SettingsProtocolEndpoint S) : List UInt8 → Link S → Link S
  | [], link => link
  | _ :: rest, link =>
      takeAll endpoint rest
        (link.consume endpoint link.receiver.lastByteTimeMs { authorized := true })

theorem reaches_takeAll (endpoint : SettingsProtocolEndpoint S) (hbytes : link.toDevice = bytes) :
    Reaches endpoint promptMove link (link.takeAll endpoint bytes) ∧
      (link.takeAll endpoint bytes).toDevice = [] := by
  induction bytes generalizing link with
  | nil => exact ⟨.refl, hbytes⟩
  | cons byte rest ih =>
    have hprompt :
        promptMove link (.consume link.receiver.lastByteTimeMs { authorized := true }) := by
      refine ⟨rfl, ?_⟩
      simp [SettingsStreamReceiver.expired]
    have hrest : (link.consume endpoint link.receiver.lastByteTimeMs
        { authorized := true }).toDevice = rest := by
      rw [Link.consume_eq hbytes]
    exact ⟨.head ⟨_, hprompt, rfl⟩ (ih hrest).1, (ih hrest).2⟩

theorem Coming.read {byte : UInt8} {rest : List UInt8}
    (h : Coming endpoint config request bytes world left link)
    (hbyte : link.toHost = byte :: rest) :
    left = byte :: rest ∧
      Coming endpoint config request bytes world rest { link with toHost := rest } := by
  cases h with
  | inl htaking =>
    rw [htaking.1.toHost] at hbyte
    cases hbyte
  | inr hanswered =>
    rw [hanswered.toHost] at hbyte
    exact ⟨hbyte, .inr ⟨⟨hanswered.idle.receiver, hanswered.idle.toDevice⟩, rfl, hanswered.world⟩⟩

section Exchange

variable {channel : SettingsDeviceChannel V} {view : V → Link S}

theorem Coming.readByte (hchannel : Reliable endpoint promptMove channel view)
    (hencodes : Encodes request bytes) {byte : UInt8} {timeoutMs : UInt32} {error : String}
    {before : V} (htimeoutMs : timeoutMs ≠ 0)
    (h : Coming endpoint config request bytes world (byte :: left) (view before)) :
    ∃ text after, channel.readByte timeoutMs error before = ((.data, byte, text), after) ∧
      Coming endpoint config request bytes world left (view after) := by
  obtain ⟨hdrains, hempty⟩ := reaches_takeAll endpoint (Eq.refl (view before).toDevice)
  have hfilled : ((view before).takeAll endpoint (view before).toDevice).toHost ≠ [] := by
    cases h.reaches hencodes hdrains with
    | inl htaking => exact absurd hempty htaking.1.toDevice
    | inr hanswered =>
      rw [hanswered.toHost]
      exact List.cons_ne_nil byte left
  obtain ⟨read, text, after, hread⟩ := hchannel.reads htimeoutMs error hdrains hfilled
  obtain ⟨link, rest, hbefore, hbyte, hafter⟩ := hchannel.readByte hread
  obtain ⟨hsame, hrest⟩ := (h.reaches hencodes hbefore).read hbyte
  cases hsame
  exact ⟨text, after, hread, hrest.reaches hencodes hafter⟩

/-- An exchange with a device that answers as it is expected to. -/
theorem exchange_served {type : SettingsMessageType} {clock : ClockReadings} {fuel : Nat}
    {client : SettingsDeviceClient} {before : V}
    (hchannel : Reliable endpoint promptMove channel view)
    (hconfig : validateClientConfig client.config = true) (htimely : Timely client.config clock)
    (hfuel : maximumFrameSize ≤ fuel) (hidle : Idle config (view before))
    (hsilent : (view before).toHost = [])
    (hrequest : request.payloadSize.toNat ≤ userSettingsPayloadSize)
    (hreply : encode response =
      some (replyBytes endpoint (client.numbered request) (view before).world))
    (hexpected : Expected client.nextRequestId type response) :
    ∃ after, exchange channel clock fuel request type client before =
        some (.ok response.trimmed, client.advanced, after) ∧
      Answered config (responding endpoint (client.numbered request) (view before).world).1 []
        (view after) := by
  obtain ⟨encoded, hencode⟩ : ∃ encoded, encode (client.numbered request) = some encoded :=
    ⟨_, if_neg (Nat.not_lt.2 hrequest)⟩
  have htimeoutMs : client.config.responseTimeoutMs ≠ 0 := by
    intro hzero
    simp [validateClientConfig, hzero] at hconfig
  obtain ⟨text, cleared, hclear⟩ := hchannel.clears "" before
  obtain ⟨other, sent, hwrite⟩ := hchannel.writes htimeoutMs encoded text cleared
  obtain ⟨lastMs, hreceiver⟩ := hidle.receiver
  have hencodes := encode_encodes hencode
  have hstart : Coming endpoint config (client.numbered request) encoded (view before).world
      (replyBytes endpoint (client.numbered request) (view before).world)
      { view before with toDevice := encoded } := by
    exact .inl ⟨⟨⟨[], lastMs, rfl, hreceiver⟩, hencodes.ne_nil, hsilent, rfl⟩, rfl⟩
  have hcoming := hstart.reaches hencodes (hidle.asked hchannel.toCarries hsilent hclear hwrite)
  have hanswer := encode_encodes hreply
  obtain ⟨after, hreceive, hended⟩ := receive_whole hconfig htimely hanswer
    (expected_trimmed_iff.2 hexpected)
    (fun left world => Coming endpoint config (client.numbered request) encoded
      (view before).world left (view world))
    (fun htimeoutMs hworld => hworld.readByte hchannel hencodes htimeoutMs)
    (List.nil_append _).symm hanswer.ne_nil (fun _ hpass => absurd hpass (by simp))
    (Nat.le_trans hanswer.le_maximumFrameSize hfuel) other hcoming
  refine ⟨after, ?_, ?_⟩
  · rw [exchange_ok_iff]
    exact ⟨hconfig, rfl, encoded, text, cleared, other, sent, hencode, hclear, hwrite, hreceive⟩
  · cases hended with
    | inl htaking => exact absurd htaking.2.symm hanswer.ne_nil
    | inr hanswered => exact hanswered

theorem exchange_handled {type : SettingsMessageType} {clock : ClockReadings} {fuel : Nat}
    {client : SettingsDeviceClient} {before : V} {served : S} {serving : List SettingsCall}
    (hchannel : Reliable endpoint promptMove channel view)
    (hconfig : validateClientConfig client.config = true) (htimely : Timely client.config clock)
    (hfuel : maximumFrameSize ≤ fuel) (hidle : Idle config (view before))
    (hsilent : (view before).toHost = [])
    (hrequest : request.payloadSize.toNat ≤ userSettingsPayloadSize)
    (hhandle : endpoint.service.traced.handle (client.numbered request).trimmed
      { authorized := true } ((view before).world, []) = (response, served, serving))
    (hserving : serving.flatMap sentBytes = [])
    (hresponse : response.payloadSize.toNat ≤ userSettingsPayloadSize)
    (hsends : ∀ bytes state, (endpoint.transport.send bytes state).1 = true)
    (hexpected : Expected client.nextRequestId type response) :
    ∃ encoded after, exchange channel clock fuel request type client before =
        some (.ok response.trimmed, client.advanced, after) ∧
      Answered config (endpoint.transport.send encoded served).2 [] (view after) := by
  obtain ⟨encoded, hencode⟩ : ∃ encoded, encode response = some encoded :=
    ⟨_, if_neg (Nat.not_lt.2 hresponse)⟩
  have hresponding : responding endpoint (client.numbered request) (view before).world =
      ((endpoint.transport.send encoded served).2,
        serving ++ [.send encoded (endpoint.transport.send encoded served).1]) := by
    unfold responding SettingsProtocolEndpoint.handleStreamEvent
    dsimp only
    have hservice : endpoint.traced.service = endpoint.service.traced := rfl
    rw [hservice, hhandle]
    dsimp only
    rw [hencode]
    rfl
  have hreply : encode response =
      some (replyBytes endpoint (client.numbered request) (view before).world) := by
    rw [hencode, replyBytes, hresponding, List.flatMap_append, hserving, hsends]
    simp [sentBytes]
  obtain ⟨after, hexchange, hanswered⟩ := exchange_served hchannel hconfig htimely hfuel hidle
    hsilent hrequest hreply hexpected
  rw [hresponding] at hanswered
  exact ⟨encoded, after, hexchange, hanswered⟩

end Exchange

end BmwRemote.Host
