import BmwRemote.Host.SettingsDeviceClient

/-! A channel that gives other bytes in the place of one response: a frame that
the client does not wait for, or only the start of a frame. -/
namespace BmwRemote.Host

open BmwRemote.Application BmwRemote.Infrastructure BmwRemote.Lib
open SettingsProtocolCodec SettingsStreamReceiver SettingsDeviceClient

variable {V : Type}

/-- The world of the channel, how many exchanges it has begun, and what is left
of the bytes in the place of the response. -/
structure Replaced (V : Type) where
  world : V
  exchanges : Nat := 0
  left : List UInt8 := []

/-- The bytes that replace a response, and how the channel ends behind them. -/
structure Reply where
  bytes : List UInt8
  ending : SettingsChannelReadStatus
  error : String

/-- The channel, but in its exchange `index` the host reads `reply`. -/
def replaced (channel : SettingsDeviceChannel V) (index : Nat) (reply : Reply) :
    SettingsDeviceChannel (Replaced V) where
  clearInput error state :=
    let (answer, world) := channel.clearInput error state.world
    (answer, { world, exchanges := state.exchanges + 1, left := reply.bytes })
  writeAll bytes timeoutMs error state :=
    let (answer, world) := channel.writeAll bytes timeoutMs error state.world
    (answer, { state with world })
  readByte timeoutMs error state :=
    if state.exchanges = index + 1 then
      match state.left with
      | [] => ((reply.ending, 0, reply.error), state)
      | byte :: left => ((.data, byte, error), { state with left })
    else
      let (answer, world) := channel.readByte timeoutMs error state.world
      (answer, { state with world })

def requestIdOf (client : SettingsDeviceClient) (index : Nat) : UInt16 :=
  following^[index] client.nextRequestId

def responseTypeOf : Nat → SettingsMessageType
  | 0 => .identifyResponse
  | 1 => .writeResponse
  | _ => .readResponse

/-- Bytes that no exchange takes for its response: they are not all of a frame
before the channel ends, or the frame has another number, another type or a
status that is not `Ok`. -/
def Unacceptable (requestId : UInt16) (type : SettingsMessageType) (reply : Reply) : Prop :=
  reply.ending ≠ .data ∧ ∃ frame missing, encode frame = some (reply.bytes ++ missing) ∧
    (missing ≠ [] ∨ frame.requestId ≠ requestId ∨ frame.type ≠ type ∨ frame.status ≠ .ok)

variable {channel : SettingsDeviceChannel V} {index : Nat} {reply : Reply}
  {clock : ClockReadings} {fuel pass : Nat} {request response : SettingsProtocolFrame}
  {type : SettingsMessageType} {client client' : SettingsDeviceClient}
  {state after : Replaced V}

theorem readByte_exchanges (timeoutMs : UInt32) (error : String) :
    ((replaced channel index reply).readByte timeoutMs error state).2.exchanges =
      state.exchanges := by
  unfold replaced
  dsimp only
  split
  · split
    · rfl
    · rfl
  · rfl

theorem receive_preserves (holds : V → Prop) {config : SettingsDeviceClientConfig}
    {requestId : UInt16} {receiver : SettingsStreamReceiver} {error : String} {world after : V}
    {result : Except String SettingsProtocolFrame}
    (preserved : ∀ timeoutMs error world, holds world →
      holds (channel.readByte timeoutMs error world).2)
    (hworld : holds world)
    (h : receive config channel clock requestId type fuel pass receiver error world =
      some (result, after)) : holds after := by
  induction fuel generalizing pass receiver error world with
  | zero => cases h
  | succ fuel ih =>
    have hread := preserved (readTimeout config (waitedMs clock pass) receiver) error world hworld
    unfold receive at h
    dsimp only at h
    split at h
    · cases h
      exact hworld
    generalize channel.readByte (readTimeout config (waitedMs clock pass) receiver) error world =
      answer at hread h
    split at h
    · cases h
      exact hread
    · split at h
      · cases h
        exact hread
      · cases h
        exact hread
    · split at h
      · exact ih hread h
      · cases h
        exact hread

theorem readByte_reply {missing left : List UInt8} {byte read : UInt8} {timeoutMs : UInt32}
    {error text : String} (hending : reply.ending ≠ .data) (hexchanges : state.exchanges = index + 1)
    (hleft : byte :: left = state.left ++ missing)
    (h : (replaced channel index reply).readByte timeoutMs error state =
      ((.data, read, text), after)) :
    read = byte ∧ after.exchanges = index + 1 ∧ left = after.left ++ missing := by
  unfold replaced at h
  dsimp only at h
  rw [if_pos hexchanges] at h
  split at h
  · simp only [Prod.mk.injEq] at h
    exact absurd h.1.1 hending
  · rename_i first rest hstate
    cases h
    rw [hstate, List.cons_append, List.cons.injEq] at hleft
    exact ⟨hleft.1.symm, hexchanges, hleft.2⟩

theorem exchange_replaced
    (h : exchange (replaced channel index reply) clock fuel request type client state =
      some (.ok response, client', after)) :
    after.exchanges = state.exchanges + 1 ∧ client' = client.advanced ∧
      (state.exchanges = index → ¬ Unacceptable client.nextRequestId type reply) := by
  obtain ⟨-, hclient, encoded, cleared, between, written, sent, -, hclear, hwrite, hreceive⟩ :=
    exchange_ok_iff.1 h
  have hbetween : between.exchanges = state.exchanges + 1 ∧ between.left = reply.bytes := by
    have hcleared : ((replaced channel index reply).clearInput "" state).2 = between := by
      rw [hclear]
    rw [← hcleared]
    exact ⟨rfl, rfl⟩
  have hsent : sent.exchanges = state.exchanges + 1 ∧ sent.left = reply.bytes := by
    have hwritten : ((replaced channel index reply).writeAll encoded
        client.config.responseTimeoutMs cleared between).2 = sent := by rw [hwrite]
    rw [← hwritten]
    exact hbetween
  refine ⟨?_, hclient, ?_⟩
  · apply receive_preserves (fun world => world.exchanges = state.exchanges + 1) _ hsent.1 hreceive
    intro timeoutMs error world hworld
    rw [readByte_exchanges, hworld]
  · rintro hindex ⟨hending, frame, missing, hencode, hdifferent⟩
    have hencodes := encode_encodes hencode
    obtain ⟨-, hexpected, -, hended⟩ := receive_ok hencodes
      (fun left world => world.exchanges = index + 1 ∧ left = world.left ++ missing)
      (fun hworld hread => readByte_reply hending hworld.1 hworld.2 hread)
      (List.nil_append _).symm hencodes.ne_nil 0
      ⟨by rw [hsent.1, hindex], by rw [hsent.2]⟩ hreceive
    rw [expected_trimmed_iff] at hexpected
    rcases hdifferent with hmissing | hrequestId | htype | hstatus
    · exact hmissing (List.append_eq_nil_iff.1 hended.symm).2
    · exact hrequestId hexpected.requestId
    · exact htype hexpected.type
    · exact hstatus hexpected.status

/-- With an unacceptable reply in any of its exchanges a call never succeeds, and
it returns when the clock is beyond the delay of each response. -/
theorem replaced_refused {clocks : Nat → ClockReadings} {settings : UserSettings} (world : V)
    (hindex : index < 3)
    (hreply : Unacceptable (requestIdOf client index) (responseTypeOf index) reply)
    (hdeadline : ∀ index < 3, ∃ pass < fuel,
      client.config.responseTimeoutMs ≤ waitedMs (clocks index) pass) :
    ∃ error client' after, writeAndVerify (replaced channel index reply) clocks fuel settings client
      { world } = some (.error error, client', after) := by
  have hreturns : writeAndVerify (replaced channel index reply) clocks fuel settings client
      { world } ≠ none := writeAndVerify_returns hdeadline
  have hfails : ∀ client' after, writeAndVerify (replaced channel index reply) clocks fuel settings
      client { world } ≠ some (.ok (), client', after) := by
    intro client' after h
    obtain ⟨payload, identified, first, firstState, written, second, secondState, reread, -, -,
      hidentify, hwrite, hread⟩ := writeAndVerify_ok_iff.1 h
    obtain ⟨hfirst, hfirstClient, hidentify⟩ := exchange_replaced hidentify
    obtain ⟨hsecond, hsecondClient, hwrite⟩ := exchange_replaced hwrite
    obtain ⟨-, -, hread⟩ := exchange_replaced hread
    have hcases : index = 0 ∨ index = 1 ∨ index = 2 := by omega
    rcases hcases with hzero | hone | htwo
    · rw [hzero] at hreply
      exact hidentify hzero.symm hreply
    · rw [hone] at hreply
      refine hwrite (by rw [hfirst, hone]) ?_
      rw [hfirstClient]
      exact hreply
    · rw [htwo] at hreply
      refine hread ?_ ?_
      · rw [hsecond, hfirst, htwo]
      · rw [hsecondClient, hfirstClient]
        exact hreply
  cases hresult : writeAndVerify (replaced channel index reply) clocks fuel settings client
      { world } with
  | none => exact absurd hresult hreturns
  | some result =>
    obtain ⟨answer, client', after⟩ := result
    cases answer with
    | ok _ => exact absurd hresult (hfails client' after)
    | error error => exact ⟨error, client', after, rfl⟩

end BmwRemote.Host
