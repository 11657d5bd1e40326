import BmwRemote.Host.ReplacedResponse
import BmwRemote.Host.SettingsLinkDelivery
import BmwRemote.Host.SettingsLinkSoundness

/-! Writing settings from end to end: from the client over the link and the
endpoint into the journal, and back. -/
namespace BmwRemote.Host

open BmwRemote.Application BmwRemote.Infrastructure BmwRemote.Lib
open SettingsProtocolCodec SettingsProtocolService SettingsDeviceClient
open JournaledUserSettingsStore (loaded journalOf requiredCapacity)

variable {S V : Type}

/-- A device that keeps its settings in a journal over a storage that works, and
whose transport sends everything. -/
structure WorkingDevice {size : Nat} (storage : SettingsByteStorage S)
    (area : S → Vector UInt8 size) (endpoint : SettingsProtocolEndpoint S) : Prop where
  capacity : requiredCapacity ≤ size
  works : WorkingStorage size storage area
  store : endpoint.service.store = JournaledUserSettingsStore.store storage
  sends : ∀ bytes state, (endpoint.transport.send bytes state).1 = true
  keeps : ∀ bytes state, area (endpoint.transport.send bytes state).2 = area state

section Delivery

variable {size : Nat} {storage : SettingsByteStorage S} {area : S → Vector UInt8 size}
  {endpoint : SettingsProtocolEndpoint S} {channel : SettingsDeviceChannel V} {view : V → Link S}
  {config : SettingsStreamConfig} {clock : ClockReadings} {fuel : Nat}
  {client : SettingsDeviceClient} {before : V} {settings : UserSettings}

theorem identify_delivered (hdevice : WorkingDevice storage area endpoint)
    (hchannel : Reliable endpoint promptMove channel view)
    (hconfig : validateClientConfig client.config = true) (htimely : Timely client.config clock)
    (hfuel : maximumFrameSize ≤ fuel) (hidle : Idle config (view before))
    (hsilent : (view before).toHost = []) :
    ∃ response after,
      exchange channel clock fuel identifyRequest .identifyResponse client before =
        some (.ok response, client.advanced, after) ∧
      decodeSettingsDeviceIdentity response.payload response.payloadSize.toNat =
        some endpoint.service.identity ∧
      Idle config (view after) ∧ (view after).toHost = [] := by
  have hpayload : encodeSettingsDeviceIdentity endpoint.service.traced.identity = some
      ⟨(identityBytes endpoint.service.identity).toArray, length_identityBytes _⟩ := rfl
  generalize (⟨(identityBytes endpoint.service.identity).toArray, length_identityBytes _⟩ :
    UserSettingsPayload) = payload at hpayload
  have hhandle := @handle_identify _ endpoint.service.traced (client.numbered identifyRequest).trimmed
    { authorized := true } payload ((view before).world, []) (by simp [numbered, identifyRequest])
    (by simp [numbered, identifyRequest]) (by simp [numbered, identifyRequest]) rfl hpayload
  obtain ⟨encoded, after, hexchange, hanswered⟩ := exchange_handled hchannel hconfig htimely hfuel
    hidle hsilent (Nat.zero_le _) hhandle rfl (Nat.le_of_ble_eq_true rfl) hdevice.sends
    ⟨by simp [responseFor, numbered], rfl, rfl⟩
  refine ⟨_, after, hexchange, ?_, hanswered.idle, hanswered.toHost⟩
  rw [SettingsProtocolFrame.trimmed_payload, SettingsProtocolFrame.trimmed_payloadSize]
  · exact decode_encodeSettingsDeviceIdentity hpayload
  · exact fun index hindex houtside => encodeSettingsDeviceIdentity_zeros hpayload hindex houtside

theorem write_delivered (hdevice : WorkingDevice storage area endpoint)
    (hchannel : Reliable endpoint promptMove channel view)
    (hconfig : validateClientConfig client.config = true) (htimely : Timely client.config clock)
    (hfuel : maximumFrameSize ≤ fuel) (hidle : Idle config (view before))
    (hsilent : (view before).toHost = [])
    {payload : UserSettingsPayload} (hpayload : encodeUserSettingsPayload settings = some payload) :
    ∃ response after,
      exchange channel clock fuel (writeRequest payload) .writeResponse client before =
        some (.ok response, client.advanced, after) ∧
      response.payloadSize = 0 ∧ Idle config (view after) ∧ (view after).toHost = [] ∧
      loaded (journalOf (area (view after).world)) = some settings := by
  have hdecode := decode_encodeUserSettingsPayload hpayload
  have hvalid := valid_of_decodeUserSettingsPayload hdecode
  obtain ⟨saved, hsave, hloaded⟩ :=
    hdevice.works.loaded_save hdevice.capacity hvalid (view before).world
  have hstore : endpoint.service.store.save settings (view before).world = (true, saved) := by
    rw [hdevice.store]
    exact hsave
  have hwhole : (client.numbered (writeRequest payload)).payloadSize.toNat =
    userSettingsPayloadSize := rfl
  have hhandle := @handle_write _ endpoint.service.traced
    (client.numbered (writeRequest payload)).trimmed { authorized := true } settings
    ((view before).world, []) (saved, [.save settings true]) (by simp [numbered, writeRequest])
    (by simp [numbered, writeRequest])
    (by rw [SettingsProtocolFrame.trimmed_payloadSize]; exact hwhole) rfl rfl
    (by rw [SettingsProtocolFrame.trimmed_payload_whole _ hwhole]; exact hdecode)
    (UserSettingsStore.traced_save hstore [])
  obtain ⟨encoded, after, hexchange, hanswered⟩ := exchange_handled hchannel hconfig htimely hfuel
    hidle hsilent (Nat.le_of_eq hwhole) hhandle rfl (Nat.zero_le _) hdevice.sends
    ⟨by simp [responseFor, numbered], rfl, rfl⟩
  refine ⟨_, after, hexchange, ?_, hanswered.idle, hanswered.toHost, ?_⟩
  · rw [SettingsProtocolFrame.trimmed_payloadSize]
    rfl
  · rw [hanswered.world, hdevice.keeps, hloaded]

theorem read_delivered (hdevice : WorkingDevice storage area endpoint)
    (hchannel : Reliable endpoint promptMove channel view)
    (hconfig : validateClientConfig client.config = true) (htimely : Timely client.config clock)
    (hfuel : maximumFrameSize ≤ fuel) (hidle : Idle config (view before))
    (hsilent : (view before).toHost = []) (hvalid : (validateUserSettings settings).valid = true)
    (hloaded : loaded (journalOf (area (view before).world)) = some settings) :
    ∃ response after, exchange channel clock fuel readRequest .readResponse client before =
        some (.ok response, client.advanced, after) ∧
      response.payloadSize.toNat = userSettingsPayloadSize ∧
      decodeUserSettingsPayload response.payload userSettingsPayloadSize = some settings ∧
      Idle config (view after) ∧
      loaded (journalOf (area (view after).world)) = some settings := by
  obtain ⟨payload, hpayload⟩ := exists_payload_of_valid hvalid
  obtain ⟨read, hload, hread⟩ := hdevice.works.load_eq hdevice.capacity (view before).world
  have hstore : endpoint.service.store.load (view before).world = (some settings, read) := by
    rw [hdevice.store, ← hloaded]
    exact hload
  have hhandle := @handle_read _ endpoint.service.traced (client.numbered readRequest).trimmed
    { authorized := true } payload settings ((view before).world, []) (read, [.load (some settings)])
    (by simp [numbered, readRequest]) (by simp [numbered, readRequest])
    (by simp [numbered, readRequest]) rfl (UserSettingsStore.traced_load hstore []) hpayload
  obtain ⟨encoded, after, hexchange, hanswered⟩ := exchange_handled hchannel hconfig htimely hfuel
    hidle hsilent (Nat.zero_le _) hhandle rfl (Nat.le_of_ble_eq_true rfl) hdevice.sends
    ⟨by simp [responseFor, numbered], rfl, rfl⟩
  refine ⟨_, after, hexchange, ?_, ?_, hanswered.idle, ?_⟩
  · rw [SettingsProtocolFrame.trimmed_payloadSize]
    rfl
  · rw [SettingsProtocolFrame.trimmed_payload_whole _ rfl]
    exact decode_encodeUserSettingsPayload hpayload
  · rw [hanswered.world, hdevice.keeps, hread, hloaded]

theorem write_then_load {clocks : Nat → ClockReadings}
    (hdevice : WorkingDevice storage area endpoint)
    (hchannel : Reliable endpoint promptMove channel view)
    (hwrites : hasCapability endpoint.service.identity .settingsWrite = true)
    (hpersists : hasCapability endpoint.service.identity .persistentSettings = true)
    (hconfig : validateClientConfig client.config = true)
    (htimely : ∀ index < 3, Timely client.config (clocks index))
    (hfuel : maximumFrameSize ≤ fuel) (hidle : Idle config (view before))
    (hsilent : (view before).toHost = []) (hvalid : (validateUserSettings settings).valid = true) :
    ∃ client' after,
      writeAndVerify channel clocks fuel settings client before = some (.ok (), client', after) ∧
      ∀ later, Reaches endpoint promptMove (view after) later →
        (JournaledUserSettingsStore.load storage later.world).1 = some settings := by
  obtain ⟨payload, hpayload⟩ := exists_payload_of_valid hvalid
  have hconfig₁ : validateClientConfig client.advanced.config = true := hconfig
  have hconfig₂ : validateClientConfig client.advanced.advanced.config = true := hconfig
  obtain ⟨identified, first, hidentify, hidentity, hidle, hsilent⟩ :=
    identify_delivered hdevice hchannel hconfig (htimely 0 (by decide)) hfuel hidle hsilent
  obtain ⟨written, second, hwrite, hwritten, hidle, hsilent, hloaded⟩ :=
    write_delivered hdevice hchannel hconfig₁ (htimely 1 (by decide)) hfuel hidle hsilent hpayload
  obtain ⟨reread, after, hread, hsize, hdecode, hidle, hloaded⟩ :=
    read_delivered hdevice hchannel hconfig₂ (htimely 2 (by decide)) hfuel hidle hsilent hvalid
      hloaded
  refine ⟨client.advanced.advanced.advanced, after, ?_, ?_⟩
  · rw [writeAndVerify_ok_iff]
    exact ⟨payload, identified, _, first, written, _, second, reread, hpayload,
      ⟨⟨_, hidentity, hwrites, hpersists⟩, hwritten, hsize, hdecode⟩, hidentify, hwrite, hread⟩
  · intro later hlater
    obtain ⟨_, hload, -⟩ := hdevice.works.load_eq hdevice.capacity later.world
    rw [hload, hidle.reaches hlater, hloaded]

end Delivery

/-- Over a reliable channel valid settings are written and verified, whatever the
storage holds and whatever number the client is at. Over any channel that keeps
the bytes in their order, and whatever the device meets, verified settings are
what its store has loaded. And no reply but the one that is waited for, in any
of the exchanges, makes a call succeed. -/
theorem settings_write_endToEnd :
    (∀ {S V : Type} {size : Nat} {storage : SettingsByteStorage S} {area : S → Vector UInt8 size}
      {endpoint : SettingsProtocolEndpoint S} {channel : SettingsDeviceChannel V}
      {view : V → Link S}, WorkingDevice storage area endpoint →
      Reliable endpoint promptMove channel view →
      hasCapability endpoint.service.identity .settingsWrite = true →
      hasCapability endpoint.service.identity .persistentSettings = true →
      ∀ {config : SettingsStreamConfig} {clocks : Nat → ClockReadings} {fuel : Nat}
        {client : SettingsDeviceClient} {before : V} {settings : UserSettings},
      validateClientConfig client.config = true →
      (∀ index < 3, Timely client.config (clocks index)) → maximumFrameSize ≤ fuel →
      Idle config (view before) → (view before).toHost = [] →
      (validateUserSettings settings).valid = true →
      ∃ client' after,
        writeAndVerify channel clocks fuel settings client before = some (.ok (), client', after) ∧
        ∀ later, Reaches endpoint promptMove (view after) later →
          (JournaledUserSettingsStore.load storage later.world).1 = some settings) ∧
    (∀ {S V : Type} {endpoint : SettingsProtocolEndpoint S} {channel : SettingsDeviceChannel V}
      {view : V → Link S}, Carries endpoint anyMove channel view →
      ∀ {config : SettingsStreamConfig} {clocks : Nat → ClockReadings} {fuel : Nat}
        {client client' : SettingsDeviceClient} {before after : V} {settings : UserSettings},
      Idle config (view before) → (view before).toHost = [] →
      writeAndVerify channel clocks fuel settings client before = some (.ok (), client', after) →
      ∃ calls, (view after).calls = (view before).calls ++ calls ∧
        .load (some settings) ∈ calls) ∧
    (∀ {V : Type} (channel : SettingsDeviceChannel V) {index : Nat} {reply : Reply}
      {clocks : Nat → ClockReadings} {fuel : Nat} {client : SettingsDeviceClient} (world : V)
      (settings : UserSettings), index < 3 →
      Unacceptable (requestIdOf client index) (responseTypeOf index) reply →
      (∀ index < 3, ∃ pass < fuel,
        client.config.responseTimeoutMs ≤ waitedMs (clocks index) pass) →
      ∃ error client' after, writeAndVerify (replaced channel index reply) clocks fuel settings
        client { world } = some (.error error, client', after)) := by
  refine ⟨?_, ?_, ?_⟩
  · intro S V size storage area endpoint channel view hdevice hchannel hwrites hpersists config
      clocks fuel client before settings hconfig htimely hfuel hidle hsilent hvalid
    exact write_then_load hdevice hchannel hwrites hpersists hconfig htimely hfuel hidle hsilent
      hvalid
  · intro S V endpoint channel view hchannel config clocks fuel client client' before after
      settings hidle hsilent h
    exact verified_was_loaded hchannel hidle hsilent h
  · intro V channel index reply clocks fuel client world settings hindex hreply hdeadline
    exact replaced_refused world hindex hreply hdeadline

/-! A device that takes every request at once. -/

abbrev Loopback (S : Type) := { link : Link S // link.toDevice = [] }

def deliver (endpoint : SettingsProtocolEndpoint S) (bytes : List UInt8) (link : Loopback S) :
    Loopback S :=
  ⟨Link.takeAll endpoint bytes { link.1 with toDevice := bytes },
    (@reaches_takeAll S bytes { link.1 with toDevice := bytes } endpoint rfl).2⟩

def hear (link : Loopback S) : (SettingsChannelReadStatus × UInt8 × String) × Loopback S :=
  match link.1.toHost with
  | [] => ((.timeout, 0, ""), link)
  | byte :: left => ((.data, byte, ""), ⟨{ link.1 with toHost := left }, link.2⟩)

def loopback (endpoint : SettingsProtocolEndpoint S) : SettingsDeviceChannel (Loopback S) where
  clearInput _ link := ((true, ""), ⟨{ link.1 with toHost := [] }, link.2⟩)
  writeAll bytes _ _ link := ((true, ""), deliver endpoint bytes link)
  readByte _ _ link := hear link

theorem loopback_reliable (endpoint : SettingsProtocolEndpoint S) :
    Reliable endpoint promptMove (loopback endpoint) Subtype.val where
  clearInput := by
    intro error text world after h
    have hafter : ⟨{ world.1 with toHost := [] }, world.2⟩ = after := congrArg Prod.snd h
    rw [← hafter]
    exact ⟨world.1, [], .refl, List.nil_suffix, .refl⟩
  writeAll := by
    intro bytes timeoutMs error text world after h
    have hafter : deliver endpoint bytes world = after := congrArg Prod.snd h
    refine ⟨world.1, .refl, ?_⟩
    rw [world.2, List.nil_append, ← hafter]
    exact (reaches_takeAll endpoint rfl).1
  readByte := by
    intro timeoutMs error byte text world after h
    have h : hear world = ((.data, byte, text), after) := h
    unfold hear at h
    split at h
    · cases h
    · rename_i first left htoHost
      cases h
      exact ⟨world.1, left, .refl, htoHost, .refl⟩
  clears := fun _ world => ⟨"", ⟨{ world.1 with toHost := [] }, world.2⟩, rfl⟩
  writes := fun _ bytes _ world => ⟨"", deliver endpoint bytes world, rfl⟩
  reads := by
    intro timeoutMs _ error world link hreaches hfilled
    have hsame : link = world.1 := by
      apply hreaches.invariant (· = world.1) _ rfl
      intro other move hmove hother
      rw [hother] at hmove ⊢
      cases move with
      | consume nowMs access =>
        change world.1.consume endpoint nowMs access = world.1
        unfold Link.consume
        rw [world.2]
      | poll nowMs => exact poll_of_waiting hmove
    rw [hsame] at hfilled
    cases htoHost : world.1.toHost with
    | nil => exact absurd htoHost hfilled
    | cons byte left =>
      refine ⟨byte, "", ⟨{ world.1 with toHost := left }, world.2⟩, ?_⟩
      change hear world = _
      unfold hear
      rw [htoHost]

def journalEndpoint : SettingsProtocolEndpoint (Vector UInt8 128) where
  service := { store := JournaledUserSettingsStore.store (MemorySettingsStorage.storage 128) }
  transport := ⟨fun _ area => (true, area)⟩

theorem journalEndpoint_works :
    WorkingDevice (MemorySettingsStorage.storage 128) id journalEndpoint where
  capacity := by decide
  works := MemorySettingsStorage.works 128
  store := rfl
  sends := fun _ _ => rfl
  keeps := fun _ _ => rfl

/-- The clock stands still for as long as a frame can take, and is then beyond
every delay. -/
def halting : Nat → ClockReadings := fun _ reading =>
  if reading ≤ 2 * maximumFrameSize then 0 else 2000000000

theorem halting_timely (index : Nat) : Timely {} (halting index) where
  waited := by
    intro pass hpass
    have hstart : halting index 0 = 0 := rfl
    have hreading : halting index (2 * pass + 1) = 0 := if_pos (by omega)
    rw [waitedMs, hstart, hreading]
    decide
  received := by
    intro pass hpass
    have hstart : halting index 0 = 0 := rfl
    have hreading : halting index (2 * pass + 2) = 0 := if_pos (by omega)
    have hnext : halting index (2 * (pass + 1) + 2) = 0 := if_pos (by omega)
    rw [receivedMs, receivedMs, hstart, hreading, hnext]
    decide

/-- The default settings, written to an erased device; and the same call with the
response to the write replaced by a refusal. -/
theorem settings_write_endToEnd_erased :
    let before : Loopback (Vector UInt8 128) :=
      ⟨{ receiver := {}, world := Vector.replicate 128 0xFF }, rfl⟩
    let refusal : Reply :=
      ⟨(encode { type := .writeResponse, status := .busy, requestId := 2 }).getD [], .timeout, ""⟩
    (∃ client' after,
      writeAndVerify (loopback journalEndpoint) halting 57 {} {} before =
        some (.ok (), client', after) ∧
      (JournaledUserSettingsStore.load (MemorySettingsStorage.storage 128) after.1.world).1 =
        some {} ∧
      .load (some {}) ∈ after.1.calls) ∧
    ∃ error client' after, writeAndVerify (replaced (loopback journalEndpoint) 1 refusal) halting 57
      {} {} { world := before } = some (.error error, client', after) := by
  intro before refusal
  have hidle : Idle {} before.1 := ⟨⟨0, rfl⟩, rfl⟩
  have hreliable := loopback_reliable journalEndpoint
  have hwritten : ∃ client' after,
      writeAndVerify (loopback journalEndpoint) halting 57 {} {} before =
        some (.ok (), client', after) ∧
      ∀ later, Reaches journalEndpoint promptMove after.1 later →
        (JournaledUserSettingsStore.load (MemorySettingsStorage.storage 128) later.world).1 =
          some {} :=
    settings_write_endToEnd.1 journalEndpoint_works hreliable (by decide) (by decide) (by decide)
      (fun index _ => halting_timely index) (by decide) hidle rfl (by decide)
  obtain ⟨client', after, hwrite, hlater⟩ := hwritten
  refine ⟨⟨client', after, hwrite, hlater after.1 .refl, ?_⟩, ?_⟩
  · obtain ⟨calls, hcalls, hloaded⟩ := settings_write_endToEnd.2.1
      (hreliable.toCarries.mono fun _ _ _ => trivial) hidle rfl hwrite
    rw [hcalls]
    exact List.mem_append_right _ hloaded
  · apply settings_write_endToEnd.2.2 (loopback journalEndpoint) before {} (by decide)
    · refine ⟨by decide, { type := .writeResponse, status := .busy, requestId := 2 }, [], ?_,
        .inr (.inr (.inr (by decide)))⟩
      rw [List.append_nil]
      rfl
    · intro index _
      refine ⟨56, by decide, ?_⟩
      have hstart : halting index 0 = 0 := rfl
      have hreading : halting index (2 * 56 + 1) = 2000000000 := rfl
      rw [waitedMs, hstart, hreading]
      decide

end BmwRemote.Host
