import BmwRemote.Host.SettingsLink

/-! What a response that a client accepts says about the device, whatever times,
access values and failures it has met: it answers the client's own request. -/
namespace BmwRemote.Host

open BmwRemote.Application BmwRemote.Infrastructure BmwRemote.Lib
open SettingsProtocolCodec SettingsStreamReceiver SettingsProtocolService SettingsDeviceClient
open SettingsProtocolEndpoint (Responded)

variable {S V : Type} {endpoint : SettingsProtocolEndpoint S} {config : SettingsStreamConfig}
  {request response : SettingsProtocolFrame} {type : SettingsMessageType}
  {bytes left : List UInt8} {calls : List SettingsCall} {link : Link S}

structure Request (request : SettingsProtocolFrame) (type : SettingsMessageType) : Prop where
  type : responseType request.type = some type
  size : payloadSizeValid request = true

/-- Nothing was sent to the host, and the receiver's bytes are bytes of the
request; until some of these have been taken out of it, no call was made. -/
structure Pending (config : SettingsStreamConfig) (bytes : List UInt8) (calls : List SettingsCall)
    (link : Link S) : Prop where
  reachable : Reachable config link.receiver
  toHost : link.toHost = []
  seen : ∃ seen, link.receiver.buffered <:+ seen ∧ seen ++ link.toDevice <:+ bytes ∧
    (seen ++ link.toDevice = bytes → link.calls = calls)

/-- `left` is what the host has not read of the bytes of `response`. One that it
waits for is the answer to the request, and nothing comes behind it. -/
inductive Replied (config : SettingsStreamConfig) (request : SettingsProtocolFrame)
    (type : SettingsMessageType) (calls : List SettingsCall) (response : SettingsProtocolFrame)
    (left : List UInt8) (link : Link S) : Prop where
  | served (hexpected : Expected request.requestId type response) (hidle : Idle config link)
      (htoHost : link.toHost = left)
      (hcalls : ∃ access responding, Responded request.trimmed access response responding ∧
        link.calls = calls ++ responding)
  | refused (hrefused : ¬ Expected request.requestId type response) (hleft : left <+: link.toHost)

def Awaiting (config : SettingsStreamConfig) (request : SettingsProtocolFrame)
    (type : SettingsMessageType) (bytes : List UInt8) (calls : List SettingsCall) (link : Link S) :
    Prop :=
  Pending config bytes calls link ∨ ∃ response encoded, encode response = some encoded ∧
    Replied config request type calls response encoded link

theorem buffered_waken {receiver : SettingsStreamReceiver} {seen : List UInt8}
    (h : receiver.buffered <:+ seen) (nowMs : UInt32) :
    (receiver.waken nowMs).buffered <:+ seen := by
  unfold SettingsStreamReceiver.waken
  dsimp only
  split
  · exact List.nil_suffix
  · exact h

theorem suffix_concat {part whole : List UInt8} (h : part <:+ whole) (byte : UInt8) :
    part ++ [byte] <:+ whole ++ [byte] := by
  obtain ⟨front, hfront⟩ := h
  exact ⟨front, by rw [← hfront, List.append_assoc]⟩

theorem buffered_consume {receiver : SettingsStreamReceiver} {seen : List UInt8}
    (h : receiver.buffered <:+ seen) (byte : UInt8) (nowMs : UInt32) :
    (receiver.consume byte nowMs).2.buffered <:+ seen ++ [byte] := by
  cases consumed_consume receiver byte nowMs with
  | appended _ hbuffered _ =>
    rw [hbuffered]
    exact suffix_concat (buffered_waken h nowMs) byte
  | restarted _ hbuffered _ =>
    rw [hbuffered]
    exact List.suffix_append seen [byte]
  | dropped _ hbuffered =>
    rw [hbuffered]
    exact List.nil_suffix
  | completed _ _ hbuffered =>
    rw [hbuffered]
    exact List.nil_suffix

theorem decode_of_ready {receiver : SettingsStreamReceiver} {byte : UInt8} {nowMs : UInt32}
    (h : (receiver.consume byte nowMs).1.type = .frameReady) :
    decode ((receiver.waken nowMs).buffered ++ [byte]) =
        ⟨.ok, (receiver.consume byte nowMs).1.frame⟩ ∧
      (receiver.consume byte nowMs).2.buffered = [] := by
  cases consumed_consume receiver byte nowMs with
  | appended hother _ _ => exact absurd h hother
  | restarted hother _ _ => exact absurd h hother
  | dropped hother _ => exact absurd h hother
  | completed _ hdecode hbuffered => exact ⟨hdecode, hbuffered⟩

theorem idle_receiver {receiver : SettingsStreamReceiver} (h : Reachable config receiver)
    (hbuffered : receiver.buffered = []) :
    receiver = { config, lastByteTimeMs := receiver.lastByteTimeMs } := by
  have hsize : receiver.expectedSize = 0 := by
    apply h.expectedSize
    rw [bufferedSize, hbuffered]
    decide
  have hconfig := h.config
  cases receiver
  simp_all

theorem whole_of_expected (hrequest : Request request type) (hencode : encode request = some bytes)
    {frame : SettingsProtocolFrame} {window seen rest : List UInt8} {byte : UInt8}
    (hframe : decode window = ⟨.ok, frame⟩) (htype : responseType frame.type = some type)
    (hsize : payloadSizeValid frame = true) (hwindow : window <:+ seen ++ [byte])
    (hseen : seen ++ byte :: rest <:+ bytes) :
    frame = request.trimmed ∧ rest = [] ∧ seen ++ byte :: rest = bytes := by
  have hsame := payloadSize_unique htype hrequest.type hsize hrequest.size
  have hlength := (encode_encodes (encode_of_decode hframe)).length
  rw [hsame, ← (encode_encodes hencode).length] at hlength
  have hinside := hwindow.length_le
  have houtside := hseen.length_le
  rw [List.length_append, List.length_singleton] at hinside
  rw [List.length_append, List.length_cons] at houtside
  have hrest : rest = [] := List.length_eq_zero_iff.1 (by omega)
  have hall : seen ++ byte :: rest = bytes := by
    apply hseen.eq_of_length
    rw [List.length_append, List.length_cons]
    omega
  have hwhole : window = bytes := by
    rw [hrest] at hall
    rw [hall] at hwindow
    exact hwindow.eq_of_length hlength
  rw [hwhole, (encode_encodes hencode).decode] at hframe
  injection hframe with _ hframe
  exact ⟨hframe.symm, hrest, hall⟩

theorem Pending.consume (h : Pending config bytes calls link) (hrequest : Request request type)
    (hencode : encode request = some bytes) {byte : UInt8} {rest : List UInt8}
    (hnext : link.toDevice = byte :: rest) (nowMs : UInt32) (access : SettingsProtocolAccess) :
    Awaiting config request type bytes calls (link.consume endpoint nowMs access) := by
  obtain ⟨seen, hbuffered, hseen, hcalls⟩ := h.seen
  rw [hnext] at hseen hcalls
  have hreachable : Reachable config (link.receiver.consume byte nowMs).2 :=
    h.reachable.machine (.consume byte nowMs)
  rcases Link.consume_cases endpoint hnext nowMs access with
    ⟨-, hafter⟩ | ⟨hready, response, world, responding, hresponded, hok, hafter⟩
  · rw [hafter]
    left
    refine ⟨hreachable, h.toHost, seen ++ [byte], buffered_consume hbuffered byte nowMs, ?_, ?_⟩
    · simpa using hseen
    · intro hwhole
      exact hcalls (by simpa using hwhole)
  · obtain ⟨hdecode, hempty⟩ := decode_of_ready hready
    obtain ⟨encoded, hresponse, hsent⟩ := sent_of_responded hresponded
    rw [hafter, h.toHost, List.nil_append]
    cases hsent with
    | inr hnothing =>
      left
      refine ⟨hreachable, hnothing, [], ?_, ?_, ?_⟩
      · simp [hempty]
      · exact (List.suffix_append (seen ++ [byte]) rest).trans (by simpa using hseen)
      · intro hwhole
        have hlonger := hseen.length_le
        rw [← hwhole] at hlonger
        simp at hlonger
        omega
    | inl hencoded =>
      right
      refine ⟨response, encoded, hresponse, ?_⟩
      by_cases hexpected : Expected request.requestId type response
      · obtain ⟨htype, hsize⟩ := hok hexpected.status
        rw [hexpected.type] at htype
        obtain ⟨hframe, hrest, hwhole⟩ := whole_of_expected hrequest hencode hdecode htype hsize
          (suffix_concat (buffered_waken hbuffered nowMs) byte) hseen
        apply Replied.served hexpected ⟨⟨_, idle_receiver hreachable hempty⟩, hrest⟩ hencoded
        refine ⟨access, responding, hframe ▸ hresponded, ?_⟩
        rw [← hcalls hwhole]
      · exact .refused hexpected (hencoded ▸ List.prefix_refl _)

theorem Pending.poll (h : Pending config bytes calls link) (nowMs : UInt32) :
    Pending config bytes calls (link.poll nowMs) := by
  obtain ⟨seen, hbuffered, hseen, hcalls⟩ := h.seen
  have hreachable : Reachable config (link.receiver.poll nowMs).2 :=
    h.reachable.machine (.poll nowMs)
  refine ⟨hreachable, h.toHost, seen, ?_, hseen, hcalls⟩
  change (link.receiver.poll nowMs).2.buffered <:+ seen
  unfold SettingsStreamReceiver.poll
  split
  · exact hbuffered
  · exact List.nil_suffix

theorem toHost_consume (nowMs : UInt32) (access : SettingsProtocolAccess) :
    link.toHost <+: (link.consume endpoint nowMs access).toHost := by
  cases hnext : link.toDevice with
  | nil =>
    simp [Link.consume, hnext]
  | cons byte rest =>
    rw [Link.consume_eq hnext]
    exact List.prefix_append _ _

theorem Replied.move (h : Replied config request type calls response left link)
    (move : DeviceMove) :
    Replied config request type calls response left (link.move endpoint move) := by
  cases h with
  | served hexpected hidle htoHost hcalls =>
    rw [hidle.move endpoint move]
    exact .served hexpected hidle htoHost hcalls
  | refused hrefused hleft =>
    apply Replied.refused hrefused
    cases move with
    | consume nowMs access =>
      rw [Link.move_consume]
      exact hleft.trans (toHost_consume nowMs access)
    | poll nowMs => exact hleft

theorem Awaiting.move (h : Awaiting config request type bytes calls link)
    (hrequest : Request request type) (hencode : encode request = some bytes) (move : DeviceMove) :
    Awaiting config request type bytes calls (link.move endpoint move) := by
  cases h with
  | inl hpending =>
    cases move with
    | poll nowMs => exact .inl (hpending.poll nowMs)
    | consume nowMs access =>
      rw [Link.move_consume]
      cases hnext : link.toDevice with
      | cons byte rest => exact hpending.consume hrequest hencode hnext nowMs access
      | nil =>
        have hsame : link.consume endpoint nowMs access = link := by
          unfold Link.consume
          rw [hnext]
        rw [hsame]
        exact .inl hpending
  | inr hreplied =>
    obtain ⟨response, encoded, hresponse, hreplied⟩ := hreplied
    exact .inr ⟨response, encoded, hresponse, hreplied.move move⟩

/-! The host reads. -/

theorem Replied.read {byte next : UInt8} {rest : List UInt8}
    (h : Replied config request type calls response (next :: left) link)
    (hbyte : link.toHost = byte :: rest) :
    byte = next ∧ Replied config request type calls response left { link with toHost := rest } := by
  cases h with
  | served hexpected hidle htoHost hcalls =>
    rw [htoHost] at hbyte
    cases hbyte
    exact ⟨rfl, .served hexpected ⟨hidle.receiver, hidle.toDevice⟩ rfl hcalls⟩
  | refused hrefused hleft =>
    rw [hbyte, List.cons_prefix_cons] at hleft
    exact ⟨hleft.1.symm, .refused hrefused hleft.2⟩

theorem Awaiting.read {byte : UInt8} {rest : List UInt8}
    (h : Awaiting config request type bytes calls link) (hbyte : link.toHost = byte :: rest) :
    ∃ response encoded left, encode response = some encoded ∧ encoded = byte :: left ∧
      Replied config request type calls response left { link with toHost := rest } := by
  cases h with
  | inl hpending =>
    rw [hpending.toHost] at hbyte
    cases hbyte
  | inr hreplied =>
    obtain ⟨response, encoded, hresponse, hreplied⟩ := hreplied
    cases encoded with
    | nil => exact absurd rfl (encode_encodes hresponse).ne_nil
    | cons next left =>
      obtain ⟨hsame, hrest⟩ := hreplied.read hbyte
      exact ⟨response, next :: left, left, hresponse, by rw [hsame], hrest⟩

section Exchange

variable {channel : SettingsDeviceChannel V} {view : V → Link S}

theorem Awaiting.reaches {after : Link S} (hrequest : Request request type)
    (hencode : encode request = some bytes) (hreaches : Reaches endpoint anyMove link after)
    (h : Awaiting config request type bytes calls link) :
    Awaiting config request type bytes calls after :=
  hreaches.invariant _ (fun _ move _ hlink => hlink.move hrequest hencode move) h

theorem Replied.reaches {after : Link S} (hreaches : Reaches endpoint anyMove link after)
    (h : Replied config request type calls response left link) :
    Replied config request type calls response left after :=
  hreaches.invariant _ (fun _ move _ hlink => hlink.move move) h

theorem Replied.readByte (hchannel : Carries endpoint anyMove channel view) {byte next : UInt8}
    {timeoutMs : UInt32} {error text : String} {world after : V}
    (h : Replied config request type calls response (next :: left) (view world))
    (hread : channel.readByte timeoutMs error world = ((.data, byte, text), after)) :
    byte = next ∧ Replied config request type calls response left (view after) := by
  obtain ⟨link, rest, hbefore, hbyte, hafter⟩ := hchannel.readByte hread
  obtain ⟨hsame, hrest⟩ := (h.reaches hbefore).read hbyte
  exact ⟨hsame, hrest.reaches hafter⟩

theorem Awaiting.readByte (hchannel : Carries endpoint anyMove channel view)
    (hrequest : Request request type) (hencode : encode request = some bytes) {byte : UInt8}
    {timeoutMs : UInt32} {error text : String} {world after : V}
    (h : Awaiting config request type bytes calls (view world))
    (hread : channel.readByte timeoutMs error world = ((.data, byte, text), after)) :
    ∃ response encoded left, encode response = some encoded ∧ encoded = byte :: left ∧
      left ≠ [] ∧ Replied config request type calls response left (view after) := by
  obtain ⟨link, rest, hbefore, hbyte, hafter⟩ := hchannel.readByte hread
  obtain ⟨response, encoded, left, hresponse, hsplit, hreplied⟩ :=
    (h.reaches hrequest hencode hbefore).read hbyte
  refine ⟨response, encoded, left, hresponse, hsplit, ?_, hreplied.reaches hafter⟩
  intro hnone
  have hlength := (encode_encodes hresponse).minimumFrameSize_le
  rw [hsplit, hnone] at hlength
  simp [minimumFrameSize, headerSize, checksumSize] at hlength

/-- What an exchange that succeeds has made the device do: it is idle again, and
the calls that it has made answer the request. -/
theorem exchange_sound {clock : ClockReadings} {fuel : Nat}
    {client client' : SettingsDeviceClient} {world after : V}
    (hchannel : Carries endpoint anyMove channel view) (hidle : Idle config (view world))
    (hsilent : (view world).toHost = []) (hrequest : Request request type)
    (h : exchange channel clock fuel request type client world =
      some (.ok response, client', after)) :
    Idle config (view after) ∧ (view after).toHost = [] ∧
      ∃ access answer responding, response = answer.trimmed ∧ answer.status = .ok ∧
        Responded (client.numbered request).trimmed access answer responding ∧
        (view after).calls = (view world).calls ++ responding := by
  obtain ⟨-, -, encoded, cleared, between, written, sent, hencode, hclear, hwrite, hreceive⟩ :=
    exchange_ok_iff.1 h
  have hnumbered : Request (client.numbered request) type := ⟨hrequest.type, hrequest.size⟩
  have hstart : Pending config encoded (view world).calls
      { view world with toDevice := encoded } := by
    obtain ⟨lastMs, hreceiver⟩ := hidle.receiver
    refine ⟨?_, hsilent, [], ?_, List.suffix_refl encoded, fun _ => rfl⟩
    · rw [hreceiver]
      exact ⟨rfl, fun _ => rfl⟩
    · simp [hreceiver]
  have hawaiting : Awaiting config (client.numbered request) type encoded (view world).calls
      (view sent) :=
    Awaiting.reaches hnumbered hencode (hidle.asked hchannel hsilent hclear hwrite) (.inl hstart)
  cases fuel with
  | zero => cases hreceive
  | succ fuel =>
  obtain ⟨byte, text, afterByte, hread, hstep⟩ := receive_ok_step hreceive
  obtain ⟨answer, encodedAnswer, left, hanswer, hsplit, hleft, hreplied⟩ :=
    hawaiting.readByte hchannel hnumbered hencode hread
  rw [consume_opening (encode_encodes hanswer) hsplit hleft, settle_none] at hstep
  obtain ⟨-, hrest⟩ := hstep.resolve_right (by simp)
  obtain ⟨hresponse, hexpected, hended⟩ := receive_ok (encode_encodes hanswer)
    (fun left world' => Replied config (client.numbered request) type (view world).calls answer
      left (view world'))
    (fun hworld hread => hworld.readByte hchannel hread) hsplit hleft _ hreplied hrest
  cases hended with
  | served hexpected hidle htoHost hcalls =>
    obtain ⟨access, responding, hresponded, hcalls⟩ := hcalls
    exact ⟨hidle, htoHost, access, answer, responding, hresponse, hexpected.status, hresponded,
      hcalls⟩
  | refused hrefused _ =>
    exact absurd (expected_trimmed_iff.1 hexpected) hrefused

theorem loaded_of_responded {access : SettingsProtocolAccess} {settings : UserSettings}
    (htype : request.type = .readRequest) (h : Responded request access response calls)
    (hstatus : response.status = .ok)
    (hsize : response.payloadSize.toNat = userSettingsPayloadSize)
    (hdecode : decodeUserSettingsPayload response.trimmed.payload userSettingsPayloadSize =
      some settings) : .load (some settings) ∈ calls := by
  obtain ⟨serving, encoded, sent, hcalls, -, hserved⟩ := h.calls
  rw [hcalls]
  apply List.mem_append_left
  cases hserved with
  | untouched hok =>
    have hidentify := hok hstatus
    rw [htype] at hidentify
    cases hidentify
  | saved _ _ hrequest _ =>
    have hwrite := hrequest.type
    rw [htype] at hwrite
    cases hwrite
  | loaded loaded _ hok =>
    obtain ⟨stored, hloaded, hencode⟩ := hok hstatus
    rw [response.trimmed_payload_whole hsize, decode_encodeUserSettingsPayload hencode] at hdecode
    rw [hloaded, hdecode]
    exact List.mem_singleton_self _

theorem verified_was_loaded {clocks : Nat → ClockReadings} {fuel : Nat} {settings : UserSettings}
    {client client' : SettingsDeviceClient} {world after : V}
    (hchannel : Carries endpoint anyMove channel view) (hidle : Idle config (view world))
    (hsilent : (view world).toHost = [])
    (h : writeAndVerify channel clocks fuel settings client world = some (.ok (), client', after)) :
    ∃ calls, (view after).calls = (view world).calls ++ calls ∧ .load (some settings) ∈ calls := by
  obtain ⟨payload, identified, first, firstWorld, written, second, secondWorld, reread, -,
    hconfirmed, hidentify, hwrite, hread⟩ := writeAndVerify_ok_iff.1 h
  obtain ⟨hidle, hsilent, -, -, identifying, -, -, -, hidentifying⟩ :=
    exchange_sound hchannel hidle hsilent ⟨rfl, rfl⟩ hidentify
  obtain ⟨hidle, hsilent, -, -, writing, -, -, -, hwriting⟩ :=
    exchange_sound hchannel hidle hsilent ⟨rfl, rfl⟩ hwrite
  obtain ⟨-, -, access, answer, reading, hanswer, hstatus, hresponded, hreading⟩ :=
    exchange_sound hchannel hidle hsilent ⟨rfl, rfl⟩ hread
  have hsize := hconfirmed.rereadSize
  have hdecode := hconfirmed.reread
  rw [hanswer] at hsize hdecode
  rw [SettingsProtocolFrame.trimmed_payloadSize] at hsize
  refine ⟨identifying ++ (writing ++ reading), ?_, ?_⟩
  · rw [hreading, hwriting, hidentifying, List.append_assoc, List.append_assoc]
  · apply List.mem_append_right
    apply List.mem_append_right
    exact loaded_of_responded (by simp [numbered, readRequest]) hresponded hstatus hsize hdecode

end Exchange

end BmwRemote.Host
