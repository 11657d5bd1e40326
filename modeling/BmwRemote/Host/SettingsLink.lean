import BmwRemote.Host.SettingsDeviceClient
import BmwRemote.Infrastructure.SettingsEndpoint
import Mathlib.Logic.Relation

/-! A client and a device on one link: the device takes the bytes of the link in
their order, at times of its own, and what it sends is read by the client. -/
namespace BmwRemote.Host

open BmwRemote.Application BmwRemote.Infrastructure BmwRemote.Lib
open SettingsProtocolCodec SettingsStreamReceiver SettingsProtocolService
open SettingsProtocolEndpoint (Responded)

variable {S V : Type}

/-- The device with the bytes that are on their way to it and from it, and the
calls it has made. -/
structure Link (S : Type) where
  receiver : SettingsStreamReceiver
  world : S
  toDevice : List UInt8 := []
  toHost : List UInt8 := []
  calls : List SettingsCall := []

def sentBytes : SettingsCall → List UInt8
  | .send bytes true => bytes
  | .send _ false => []
  | .load _ => []
  | .save _ _ => []

inductive DeviceMove where
  | consume (nowMs : UInt32) (access : SettingsProtocolAccess)
  | poll (nowMs : UInt32)

namespace Link

def consume (endpoint : SettingsProtocolEndpoint S) (nowMs : UInt32)
    (access : SettingsProtocolAccess) (link : Link S) : Link S :=
  match link.toDevice with
  | [] => link
  | byte :: rest =>
      let (_, receiver, world, calls) :=
        endpoint.traced.consume byte nowMs access (link.receiver, link.world, [])
      { receiver, world, toDevice := rest, toHost := link.toHost ++ calls.flatMap sentBytes,
        calls := link.calls ++ calls }

def poll (nowMs : UInt32) (link : Link S) : Link S :=
  let (_, receiver, world) := SettingsProtocolEndpoint.poll nowMs (link.receiver, link.world)
  { link with receiver, world }

def move (endpoint : SettingsProtocolEndpoint S) (link : Link S) : DeviceMove → Link S
  | .consume nowMs access => link.consume endpoint nowMs access
  | .poll nowMs => link.poll nowMs

theorem move_consume (endpoint : SettingsProtocolEndpoint S) (link : Link S) (nowMs : UInt32)
    (access : SettingsProtocolAccess) :
    link.move endpoint (.consume nowMs access) = link.consume endpoint nowMs access := by
  rw [move]

end Link

abbrev Schedule (S : Type) := Link S → DeviceMove → Prop

def anyMove : Schedule S := fun _ _ => True

/-- No byte comes too late for the device, and every request is authorised in `Idle`. -/
def promptMove : Schedule S
  | link, .consume nowMs access =>
      access = { authorized := true } ∧ link.receiver.expired nowMs = false
  | link, .poll nowMs => link.receiver.expired nowMs = false

def Moves (endpoint : SettingsProtocolEndpoint S) (schedule : Schedule S) (link after : Link S) :
    Prop :=
  ∃ move, schedule link move ∧ after = link.move endpoint move

def Reaches (endpoint : SettingsProtocolEndpoint S) (schedule : Schedule S) :
    Link S → Link S → Prop :=
  Relation.ReflTransGen (Moves endpoint schedule)

theorem Reaches.invariant {endpoint : SettingsProtocolEndpoint S} {schedule : Schedule S}
    {link after : Link S} (h : Reaches endpoint schedule link after) (holds : Link S → Prop)
    (preserved : ∀ link move, schedule link move → holds link → holds (link.move endpoint move))
    (hlink : holds link) : holds after := by
  induction h with
  | refl => exact hlink
  | tail _ hstep ih =>
    obtain ⟨move, hmove, hafter⟩ := hstep
    rw [hafter]
    exact preserved _ move hmove ih

/-- A channel that carries the bytes in their order and loses none, between two
of its operations and within one of them the device moves. A successful
`clearInput` drops bytes that had come before. -/
structure Carries (endpoint : SettingsProtocolEndpoint S) (schedule : Schedule S)
    (channel : SettingsDeviceChannel V) (view : V → Link S) : Prop where
  clearInput : ∀ {error text world after}, channel.clearInput error world = ((true, text), after) →
    ∃ link kept, Reaches endpoint schedule (view world) link ∧ kept <:+ link.toHost ∧
      Reaches endpoint schedule { link with toHost := kept } (view after)
  writeAll : ∀ {bytes timeoutMs error text world after},
    channel.writeAll bytes timeoutMs error world = ((true, text), after) →
    ∃ link, Reaches endpoint schedule (view world) link ∧
      Reaches endpoint schedule { link with toDevice := link.toDevice ++ bytes } (view after)
  readByte : ∀ {timeoutMs error byte text world after},
    channel.readByte timeoutMs error world = ((.data, byte, text), after) →
    ∃ link left, Reaches endpoint schedule (view world) link ∧ link.toHost = byte :: left ∧
      Reaches endpoint schedule { link with toHost := left } (view after)

/-- No operation fails, and no read gives up while a byte can still come. -/
structure Reliable (endpoint : SettingsProtocolEndpoint S) (schedule : Schedule S)
    (channel : SettingsDeviceChannel V) (view : V → Link S) : Prop
    extends Carries endpoint schedule channel view where
  clears : ∀ error world, ∃ text after, channel.clearInput error world = ((true, text), after)
  writes : ∀ {timeoutMs}, timeoutMs ≠ 0 → ∀ bytes error world, ∃ text after,
    channel.writeAll bytes timeoutMs error world = ((true, text), after)
  reads : ∀ {timeoutMs}, timeoutMs ≠ 0 → ∀ error {world link},
    Reaches endpoint schedule (view world) link → link.toHost ≠ [] →
      ∃ byte text after, channel.readByte timeoutMs error world = ((.data, byte, text), after)

theorem Carries.mono {endpoint : SettingsProtocolEndpoint S} {schedule wider : Schedule S}
    {channel : SettingsDeviceChannel V} {view : V → Link S}
    (h : Carries endpoint schedule channel view)
    (hwider : ∀ link move, schedule link move → wider link move) :
    Carries endpoint wider channel view := by
  have hreaches {link after : Link S} (hlink : Reaches endpoint schedule link after) :
      Reaches endpoint wider link after := by
    apply Relation.ReflTransGen.mono _ link after hlink
    rintro before next ⟨move, hmove, hnext⟩
    exact ⟨move, hwider _ _ hmove, hnext⟩
  constructor
  · intro _ _ _ _ hclear
    obtain ⟨link, kept, hbefore, hkept, hafter⟩ := h.clearInput hclear
    exact ⟨link, kept, hreaches hbefore, hkept, hreaches hafter⟩
  · intro _ _ _ _ _ _ hwrite
    obtain ⟨link, hbefore, hafter⟩ := h.writeAll hwrite
    exact ⟨link, hreaches hbefore, hreaches hafter⟩
  · intro _ _ _ _ _ _ hread
    obtain ⟨link, left, hbefore, hbyte, hafter⟩ := h.readByte hread
    exact ⟨link, left, hreaches hbefore, hbyte, hreaches hafter⟩

/-! A device that waits for a request. -/

structure Idle (config : SettingsStreamConfig) (link : Link S) : Prop where
  receiver : ∃ lastMs, link.receiver = { config, lastByteTimeMs := lastMs }
  toDevice : link.toDevice = []

theorem poll_of_waiting {link : Link S} {nowMs : UInt32}
    (h : link.receiver.expired nowMs = false) : link.poll nowMs = link := by
  unfold Link.poll SettingsProtocolEndpoint.poll SettingsStreamReceiver.poll
  rw [h]
  rfl

theorem Idle.move {config : SettingsStreamConfig} {link : Link S} (h : Idle config link)
    (endpoint : SettingsProtocolEndpoint S) (move : DeviceMove) :
    link.move endpoint move = link := by
  cases move with
  | consume nowMs access =>
    change link.consume endpoint nowMs access = link
    unfold Link.consume
    rw [h.toDevice]
  | poll nowMs =>
    obtain ⟨lastMs, hreceiver⟩ := h.receiver
    exact poll_of_waiting (not_expired_of_empty (by rw [hreceiver]) nowMs)

theorem Idle.reaches {config : SettingsStreamConfig} {endpoint : SettingsProtocolEndpoint S}
    {schedule : Schedule S} {link after : Link S} (h : Idle config link)
    (hreaches : Reaches endpoint schedule link after) : after = link := by
  apply hreaches.invariant (· = link)
  · intro other move _ hsame
    rw [hsame, h.move endpoint move]
  · rfl

theorem Idle.asked {config : SettingsStreamConfig} {endpoint : SettingsProtocolEndpoint S}
    {schedule : Schedule S} {channel : SettingsDeviceChannel V} {view : V → Link S}
    (hchannel : Carries endpoint schedule channel view) {world cleared sent : V}
    (h : Idle config (view world)) (hsilent : (view world).toHost = [])
    {error text other bytes timeoutMs}
    (hclear : channel.clearInput error world = ((true, text), cleared))
    (hwrite : channel.writeAll bytes timeoutMs text cleared = ((true, other), sent)) :
    Reaches endpoint schedule { view world with toDevice := bytes } (view sent) := by
  have hcleared : view cleared = view world := by
    obtain ⟨link, kept, hbefore, hkept, hafter⟩ := hchannel.clearInput hclear
    have hlink := h.reaches hbefore
    rw [hlink, hsilent, List.suffix_nil] at hkept
    rw [hlink, hkept, ← hsilent] at hafter
    exact h.reaches hafter
  obtain ⟨link, hbefore, hafter⟩ := hchannel.writeAll hwrite
  have hlink : link = view world := h.reaches (hcleared ▸ hbefore)
  rw [hlink, h.toDevice, List.nil_append] at hafter
  exact hafter

/-! What the device does with a byte. -/

theorem sent_of_responded {frame response : SettingsProtocolFrame} {access : SettingsProtocolAccess}
    {calls : List SettingsCall} (h : Responded frame access response calls) :
    ∃ encoded, encode response = some encoded ∧
      (calls.flatMap sentBytes = encoded ∨ calls.flatMap sentBytes = []) := by
  obtain ⟨serving, encoded, sent, hcalls, hencode, hserved⟩ := h.calls
  have hsilent : serving.flatMap sentBytes = [] := by
    cases hserved with
    | untouched _ => rfl
    | loaded _ _ _ => rfl
    | saved _ _ _ _ => rfl
  refine ⟨encoded, hencode, ?_⟩
  rw [hcalls, List.flatMap_append, hsilent]
  cases sent with
  | true => exact .inl (by simp [sentBytes])
  | false => exact .inr (by simp [sentBytes])

theorem Link.consume_eq {endpoint : SettingsProtocolEndpoint S} {link : Link S} {byte : UInt8}
    {rest : List UInt8} (h : link.toDevice = byte :: rest) (nowMs : UInt32)
    (access : SettingsProtocolAccess) :
    link.consume endpoint nowMs access =
      let (event, receiver) := link.receiver.consume byte nowMs
      let (_, world, calls) := endpoint.traced.handleStreamEvent event access (link.world, [])
      { receiver, world, toDevice := rest, toHost := link.toHost ++ calls.flatMap sentBytes,
        calls := link.calls ++ calls } := by
  unfold Link.consume
  rw [h]
  dsimp only
  rw [SettingsProtocolEndpoint.consume_eq]

/-- The device is silent, or it responds to a frame that its receiver reports. -/
theorem Link.consume_cases (endpoint : SettingsProtocolEndpoint S) {link : Link S} {byte : UInt8}
    {rest : List UInt8} (h : link.toDevice = byte :: rest) (nowMs : UInt32)
    (access : SettingsProtocolAccess) :
    ((link.receiver.consume byte nowMs).1.type ≠ .frameReady ∧
      link.consume endpoint nowMs access =
        { link with receiver := (link.receiver.consume byte nowMs).2, toDevice := rest }) ∨
    ((link.receiver.consume byte nowMs).1.type = .frameReady ∧ ∃ response world calls,
      Responded (link.receiver.consume byte nowMs).1.frame access response calls ∧
      (response.status = .ok →
        responseType (link.receiver.consume byte nowMs).1.frame.type = some response.type ∧
          payloadSizeValid (link.receiver.consume byte nowMs).1.frame = true) ∧
      link.consume endpoint nowMs access =
        { receiver := (link.receiver.consume byte nowMs).2, world, toDevice := rest
          toHost := link.toHost ++ calls.flatMap sentBytes, calls := link.calls ++ calls }) := by
  have htraced := endpoint.handleStreamEvent_traced (link.receiver.consume byte nowMs).1 access
    (link.world, [])
  rw [Link.consume_eq h]
  dsimp only
  generalize endpoint.traced.handleStreamEvent (link.receiver.consume byte nowMs).1 access
    (link.world, []) = answer at htraced ⊢
  obtain ⟨result, world, calls⟩ := answer
  rcases htraced with ⟨hother, hsame⟩ | ⟨hready, responding, hcalls, hresponded⟩
  · left
    cases hsame
    simp [hother]
  · right
    have hcalls : calls = responding := hcalls
    rw [hcalls]
    exact ⟨hready, _, world, responding, hresponded, handle_ok, rfl⟩

end BmwRemote.Host
