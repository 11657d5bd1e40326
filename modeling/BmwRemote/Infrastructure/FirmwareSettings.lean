import BmwRemote.Infrastructure.SettingsRegister

/-! The firmware's settings over its whole life: the USB port, the stream receiver,
the service and the journal in flash, through failed commits, refused sends and
restarts at any byte. A power cut in a commit is a commit that fails, whose
answer is not sent, and a restart. -/
namespace BmwRemote.Infrastructure

open BmwRemote.Application BmwRemote.Lib SettingsProtocolCodec

structure UsbSerialJtag where
  ready : Bool := false
  written : Int := 0
  wire : List UInt8 := []

namespace UsbSerialJtag

def send (bytes : List UInt8) (usb : UsbSerialJtag) : Bool × UsbSerialJtag :=
  if !usb.ready then (false, usb)
  else
    (decide (0 ≤ usb.written) && usb.written.toNat == bytes.length,
      { usb with wire := usb.wire ++ bytes.take usb.written.toNat })

end UsbSerialJtag

/-- A store that lives in flash: what the flash will answer next, and a new session. -/
structure SettingsFlash (V : Type) where
  store : UserSettingsStore V
  expect : NvsOutcome → V → V
  restart : Bool → Bool → V → V

def NvsWorld.flash : SettingsFlash NvsWorld where
  store := JournaledUserSettingsStore.store NvsWorld.byteStorage
  expect outcome world := { world with outcome }
  restart := NvsWorld.restart

def SettingsRegister.flash : SettingsFlash SettingsRegister where
  store := SettingsRegister.store
  expect outcome register := { register with outcome }
  restart := SettingsRegister.restart

structure SettingsFlash.Simulates {V W : Type} (related : V → W → Prop) (left : SettingsFlash V)
    (right : SettingsFlash W) : Prop where
  store : left.store.Simulates related right.store
  expect : ∀ outcome state other, related state other →
    related (left.expect outcome state) (right.expect outcome other)
  restart : ∀ opened readable state other, related state other →
    related (left.restart opened readable state) (right.restart opened readable other)

theorem NvsWorld.flash_simulates :
    SettingsFlash.Simulates NvsWorld.Refines NvsWorld.flash SettingsRegister.flash where
  store := NvsWorld.store_simulates
  expect := by
    rintro outcome state - ⟨hsettled, rfl⟩
    exact ⟨hsettled, rfl⟩
  restart opened readable _ _ h := NvsWorld.restart_refines h opened readable

structure Firmware (V : Type) where
  flash : V
  usb : UsbSerialJtag := {}
  receiver : SettingsStreamReceiver := {}

/-- A byte of a cycle, its time, and what flash and driver answer while it is handled. -/
structure ReceivedByte where
  byte : UInt8
  nowMs : UInt32
  outcome : NvsOutcome
  written : Int

inductive FirmwareInput where
  | byte (received : ReceivedByte)
  | poll (nowMs : UInt32)
  | restart (opened readable installed : Bool)

namespace Firmware

variable {V W : Type}

def localUsbAccess : SettingsProtocolAccess where
  authorized := true
  controllerState := .idle

def settingsEndpoint (flash : SettingsFlash V) : SettingsProtocolEndpoint (V × UsbSerialJtag) where
  service :=
    { store :=
        { load := fun world =>
            let (loaded, after) := flash.store.load world.1
            (loaded, after, world.2)
          save := fun settings world =>
            let (saved, after) := flash.store.save settings world.1
            (saved, after, world.2) }
      identity := settingsPrototypeIdentity .esp32S3DevKitC1 }
  transport :=
    ⟨fun bytes world =>
      let (sent, usb) := world.2.send bytes
      (sent, world.1, usb)⟩

def consume (flash : SettingsFlash V) (received : ReceivedByte) (state : Firmware V) :
    SettingsEndpointResult × Firmware V :=
  let (result, receiver, after) := (settingsEndpoint flash).consume received.byte received.nowMs
    localUsbAccess (state.receiver, flash.expect received.outcome state.flash,
      { state.usb with written := received.written })
  (result, { flash := after.1, usb := after.2, receiver })

def poll (nowMs : UInt32) (state : Firmware V) : SettingsEndpointResult × Firmware V :=
  let (result, receiver, after) :=
    SettingsProtocolEndpoint.poll nowMs (state.receiver, state.flash, state.usb)
  (result, { flash := after.1, usb := after.2, receiver })

def maximumBytesPerCycle : Nat := 64

/-- One cycle: what the port has received is consumed, then the receiver is polled. -/
def serviceUsbSettings (flash : SettingsFlash V) (received : List ReceivedByte) (nowMs : UInt32)
    (state : Firmware V) : Firmware V :=
  let consumed := (received.take maximumBytesPerCycle).foldl
    (fun state received => (consume flash received state).2) state
  (poll nowMs consumed).2

/-- The start of `app_main`. Only the flash and what has left the port outlive it. -/
def start (flash : SettingsFlash V) (opened readable installed : Bool) (state : Firmware V) :
    Firmware V where
  flash := flash.restart opened readable state.flash
  usb := { ready := installed, wire := state.usb.wire }

/-- The device byte by byte, so that a restart can come between any two of them. A
port that was not installed is not served. -/
def machine (flash : SettingsFlash V) : Machine (Firmware V) FirmwareInput SettingsEndpointResult
  | state, .byte received => if state.usb.ready then consume flash received state else ({}, state)
  | state, .poll nowMs => if state.usb.ready then poll nowMs state else ({}, state)
  | state, .restart opened readable installed =>
      ({}, start flash opened readable installed state)

abbrev Call (V : Type) := Step (Firmware V) FirmwareInput SettingsEndpointResult

def poweredOff (flash : V) : Firmware V where
  flash := flash

def appMain (flash : SettingsFlash V) (turns : List (List ReceivedByte × UInt32))
    (state : Firmware V) : Firmware V :=
  turns.foldl (fun state turn =>
    if state.usb.ready then serviceUsbSettings flash turn.1 turn.2 state else state) state

def cycleInputs (turn : List ReceivedByte × UInt32) : List FirmwareInput :=
  (turn.1.take maximumBytesPerCycle).map .byte ++ [.poll turn.2]

section Effects

variable (flash : SettingsFlash V)

theorem ready_send (bytes : List UInt8) (usb : UsbSerialJtag) :
    (usb.send bytes).2.ready = usb.ready := by
  unfold UsbSerialJtag.send
  split
  · rfl
  · rfl

theorem handleStreamEvent_ready {event : SettingsStreamEvent} (h : event.type = .frameReady)
    (world : V × UsbSerialJtag) :
    let handled := (settingsEndpoint flash).service.handle event.frame localUsbAccess world
    let answered := (settingsEndpoint flash).handleStreamEvent event localUsbAccess world
    answered.1.responseStatus = handled.1.status ∧ answered.2.1 = handled.2.1 ∧
      answered.2.2 = match encode handled.1 with
        | none => handled.2.2
        | some encoded => (handled.2.2.send encoded).2 := by
  intro handled answered
  have hanswered : answered = (settingsEndpoint flash).handleStreamEvent event localUsbAccess
    world := rfl
  unfold SettingsProtocolEndpoint.handleStreamEvent at hanswered
  rw [h] at hanswered
  change answered = match encode handled.1 with
    | none => ({ status := .transportFailure, responseStatus := handled.1.status }, handled.2)
    | some encoded =>
        ({ status := if (handled.2.2.send encoded).1 then .responseSent else .transportFailure
           responseStatus := handled.1.status }, handled.2.1, (handled.2.2.send encoded).2)
    at hanswered
  rw [hanswered]
  cases encode handled.1 with
  | none => exact ⟨rfl, rfl, rfl⟩
  | some encoded => exact ⟨rfl, rfl, rfl⟩

theorem handleStreamEvent_silent {event : SettingsStreamEvent} (h : event.type ≠ .frameReady)
    (world : V × UsbSerialJtag) :
    ((settingsEndpoint flash).handleStreamEvent event localUsbAccess world).2 = world := by
  unfold SettingsProtocolEndpoint.handleStreamEvent
  cases htype : event.type with
  | frameReady => exact absurd htype h
  | _ => rfl

def streamEvent (call : Call V) : SettingsStreamEvent :=
  match call.input with
  | .byte received =>
      if call.before.usb.ready then (call.before.receiver.consume received.byte received.nowMs).1
      else {}
  | _ => {}

def Writes (settings : UserSettings) (call : Call V) : Prop :=
  (streamEvent call).type = .frameReady ∧
    SettingsProtocolService.Authorises (streamEvent call).frame localUsbAccess settings

structure Reads (requestId : UInt16) (call : Call V) : Prop where
  ready : (streamEvent call).type = .frameReady
  type : (streamEvent call).frame.type = .readRequest
  status : (streamEvent call).frame.status = .ok
  payloadSize : (streamEvent call).frame.payloadSize = 0
  requestId : (streamEvent call).frame.requestId = requestId

/-- The write was answered with success, whether or not the answer could be sent. -/
def Acknowledged (call : Call V) : Prop :=
  (∃ settings, Writes settings call) ∧ call.output.responseStatus = .ok

def Restarts (call : Call V) : Prop :=
  ∃ opened readable installed, call.input = .restart opened readable installed

inductive Effect (call : Call V) : Prop
  | silent (hwrites : ∀ settings, ¬ Writes settings call) (hrestarts : ¬ Restarts call)
      (h : call.after.flash = call.before.flash)
  | untouched (hwrites : ∀ settings, ¬ Writes settings call) (hrestarts : ¬ Restarts call)
      (outcome : NvsOutcome) (h : call.after.flash = flash.expect outcome call.before.flash)
  | loaded (hwrites : ∀ settings, ¬ Writes settings call) (hrestarts : ¬ Restarts call)
      (outcome : NvsOutcome)
      (h : call.after.flash = (flash.store.load (flash.expect outcome call.before.flash)).2)
  | saved (settings : UserSettings) (hwrites : Writes settings call) (hrestarts : ¬ Restarts call)
      (outcome : NvsOutcome)
      (h : call.after.flash =
        (flash.store.save settings (flash.expect outcome call.before.flash)).2)
      (hanswer : call.output.responseStatus = .ok ↔
        (flash.store.save settings (flash.expect outcome call.before.flash)).1 = true)
  | restarted (hwrites : ∀ settings, ¬ Writes settings call) (opened readable installed : Bool)
      (hinput : call.input = .restart opened readable installed)
      (h : call.after.flash = flash.restart opened readable call.before.flash)

def world (received : ReceivedByte) (state : Firmware V) : V × UsbSerialJtag :=
  (flash.expect received.outcome state.flash, { state.usb with written := received.written })

theorem consume_eq (received : ReceivedByte) (state : Firmware V) :
    consume flash received state =
      let event := state.receiver.consume received.byte received.nowMs
      let answered := (settingsEndpoint flash).handleStreamEvent event.1 localUsbAccess
        (world flash received state)
      (answered.1, { flash := answered.2.1, usb := answered.2.2, receiver := event.2 }) := by
  unfold consume
  rw [SettingsProtocolEndpoint.consume_eq]
  rfl

theorem machine_byte {received : ReceivedByte} {state : Firmware V}
    (hready : state.usb.ready = true) :
    machine flash state (.byte received) = consume flash received state := if_pos hready

theorem streamEvent_byte (received : ReceivedByte) {state : Firmware V}
    (hready : state.usb.ready = true) :
    streamEvent ((machine flash).stepOf state (.byte received)) =
      (state.receiver.consume received.byte received.nowMs).1 := if_pos hready

theorem not_writes {call : Call V} (h : (streamEvent call).type ≠ .frameReady)
    (settings : UserSettings) : ¬ Writes settings call := fun hwrites => h hwrites.1

theorem effect_byte (state : Firmware V) (received : ReceivedByte)
    (hready : state.usb.ready = true) :
    Effect flash ((machine flash).stepOf state (.byte received)) := by
  have hevent := streamEvent_byte flash received hready
  have hrestarts : ¬ Restarts ((machine flash).stepOf state (.byte received)) := by
    rintro ⟨_, _, _, h⟩
    cases h
  have hafter : ((machine flash).stepOf state (.byte received)).after.flash =
      ((settingsEndpoint flash).handleStreamEvent
        (state.receiver.consume received.byte received.nowMs).1 localUsbAccess
        (world flash received state)).2.1 := by
    rw [Machine.stepOf_after, machine_byte flash hready, consume_eq]
  have houtput : ((machine flash).stepOf state (.byte received)).output =
      ((settingsEndpoint flash).handleStreamEvent
        (state.receiver.consume received.byte received.nowMs).1 localUsbAccess
        (world flash received state)).1 := by
    rw [Machine.stepOf_output, machine_byte flash hready, consume_eq]
  by_cases hframe : (state.receiver.consume received.byte received.nowMs).1.type = .frameReady
  · obtain ⟨hstatus, hflash, -⟩ := handleStreamEvent_ready flash hframe (world flash received state)
    have hhandled := (settingsEndpoint flash).service.handled
      (state.receiver.consume received.byte received.nowMs).1.frame localUsbAccess
      (world flash received state)
    rw [← houtput] at hstatus
    rw [← hafter] at hflash
    generalize (settingsEndpoint flash).service.handle _ _ _ = answer at hhandled hstatus hflash
    have hnot : (∀ settings, ¬ SettingsProtocolService.Authorises
        (state.receiver.consume received.byte received.nowMs).1.frame localUsbAccess settings) →
        ∀ settings, ¬ Writes settings ((machine flash).stepOf state (.byte received)) := by
      intro hunauthorised settings hwrites
      exact hunauthorised settings (hevent ▸ hwrites.2)
    cases hhandled with
    | untouched response hunauthorised =>
      exact .untouched (hnot hunauthorised) hrestarts received.outcome hflash
    | loaded response htype =>
      refine .loaded (hnot fun settings hrequest => ?_) hrestarts received.outcome hflash
      rw [hrequest.type] at htype
      cases htype
    | saved settings hrequest response hok =>
      have hwrites : Writes settings ((machine flash).stepOf state (.byte received)) :=
        ⟨by rw [hevent]; exact hframe, by rw [hevent]; exact hrequest⟩
      refine .saved settings hwrites hrestarts received.outcome hflash ?_
      rw [hstatus]
      exact hok
  · refine .untouched (not_writes (by rw [hevent]; exact hframe)) hrestarts received.outcome ?_
    rw [hafter, handleStreamEvent_silent flash hframe]
    rfl

theorem effect (state : Firmware V) (input : FirmwareInput) :
    Effect flash ((machine flash).stepOf state input) := by
  cases input with
  | restart opened readable installed =>
    exact .restarted (not_writes nofun) opened readable installed rfl rfl
  | poll nowMs =>
    refine .silent (not_writes nofun) (by rintro ⟨_, _, _, h⟩; cases h) ?_
    change (if state.usb.ready then poll nowMs state else ({}, state)).2.flash = state.flash
    split
    · rfl
    · rfl
  | byte received =>
    cases hready : state.usb.ready with
    | true => exact effect_byte flash state received hready
    | false =>
      have hstep : machine flash state (.byte received) = ({}, state) := by simp [machine, hready]
      refine .silent (not_writes ?_) (by rintro ⟨_, _, _, h⟩; cases h) ?_
      · simp [streamEvent, hready]
      · rw [Machine.stepOf_after, Machine.stepOf_before, hstep]

theorem port_handle (request : SettingsProtocolFrame) (world : V × UsbSerialJtag) :
    ((settingsEndpoint flash).service.handle request localUsbAccess world).2.2 = world.2 := by
  have hhandled := (settingsEndpoint flash).service.handled request localUsbAccess world
  generalize (settingsEndpoint flash).service.handle request localUsbAccess world = answer
    at hhandled
  cases hhandled with
  | untouched response h => rfl
  | loaded response htype => rfl
  | saved settings hrequest response h => rfl

theorem ready_consume (received : ReceivedByte) (state : Firmware V) :
    (consume flash received state).2.usb.ready = state.usb.ready := by
  rw [consume_eq]
  dsimp only
  by_cases hframe : (state.receiver.consume received.byte received.nowMs).1.type = .frameReady
  · obtain ⟨-, -, hport⟩ := handleStreamEvent_ready flash hframe (world flash received state)
    rw [hport, port_handle]
    split
    · rfl
    · exact ready_send _ _
  · rw [handleStreamEvent_silent flash hframe]
    rfl

theorem final_bytes (received : List ReceivedByte) (state : Firmware V)
    (hready : state.usb.ready = true) :
    (machine flash).final state (received.map .byte) =
        received.foldl (fun state received => (consume flash received state).2) state ∧
      ((machine flash).final state (received.map .byte)).usb.ready = true := by
  induction received generalizing state with
  | nil => exact ⟨rfl, hready⟩
  | cons received rest ih =>
    rw [List.map_cons, Machine.final, machine_byte flash hready, List.foldl_cons]
    exact ih _ ((ready_consume flash received state).trans hready)

theorem final_bytes_unserved (received : List ReceivedByte) (state : Firmware V)
    (hready : state.usb.ready = false) :
    (machine flash).final state (received.map .byte) = state := by
  induction received with
  | nil => rfl
  | cons received rest ih =>
    have hstep : machine flash state (.byte received) = ({}, state) := by simp [machine, hready]
    rw [List.map_cons, Machine.final, hstep]
    exact ih

theorem final_cycleInputs (turn : List ReceivedByte × UInt32) (state : Firmware V) :
    (machine flash).final state (cycleInputs turn) =
      if state.usb.ready then serviceUsbSettings flash turn.1 turn.2 state else state := by
  unfold cycleInputs serviceUsbSettings
  rw [Machine.final_concat]
  cases hready : state.usb.ready with
  | false =>
    rw [final_bytes_unserved flash _ _ hready]
    change (if state.usb.ready then poll turn.2 state else ({}, state)).2 = _
    rw [hready]
    rfl
  | true =>
    obtain ⟨hbytes, hready⟩ := final_bytes flash (turn.1.take maximumBytesPerCycle) state hready
    rw [hbytes] at hready ⊢
    exact congrArg Prod.snd (if_pos hready)

/-- The loop of `app_main` is a run of the device. -/
theorem appMain_eq_final (turns : List (List ReceivedByte × UInt32)) (state : Firmware V) :
    appMain flash turns state = (machine flash).final state (turns.flatMap cycleInputs) := by
  induction turns generalizing state with
  | nil => rfl
  | cons turn rest ih =>
    rw [List.flatMap_cons, Machine.final_append, final_cycleInputs]
    exact ih _

end Effects

/-! Two flashes that answer alike. -/

section Refinement

variable {related : V → W → Prop} {left : SettingsFlash V} {right : SettingsFlash W}

structure SameDevice (related : V → W → Prop) (state : Firmware V) (other : Firmware W) : Prop where
  flash : related state.flash other.flash
  usb : state.usb = other.usb
  receiver : state.receiver = other.receiver

def BesidePort (related : V → W → Prop) (state : V × UsbSerialJtag) (other : W × UsbSerialJtag) :
    Prop := related state.1 other.1 ∧ state.2 = other.2

theorem settingsEndpoint_simulates (h : left.Simulates related right) :
    (settingsEndpoint left).Simulates (BesidePort related) (settingsEndpoint right) where
  identity := rfl
  transport := by
    rintro bytes ⟨state, usb⟩ ⟨other, -⟩ ⟨hrelated, rfl⟩
    exact ⟨rfl, hrelated, rfl⟩
  store :=
    { load := by
        rintro ⟨state, usb⟩ ⟨other, -⟩ ⟨hrelated, rfl⟩
        obtain ⟨hanswer, hafter⟩ := h.store.load state other hrelated
        exact ⟨hanswer, hafter, rfl⟩
      save := by
        rintro settings ⟨state, usb⟩ ⟨other, -⟩ ⟨hrelated, rfl⟩
        obtain ⟨hanswer, hafter⟩ := h.store.save settings state other hrelated
        exact ⟨hanswer, hafter, rfl⟩ }

theorem machine_simulates (h : left.Simulates related right) :
    (machine left).Simulates (SameDevice related) (machine right) := by
  rintro ⟨flash, usb, receiver⟩ ⟨other, -, -⟩ ⟨hrelated, rfl, rfl⟩ input
  cases input with
  | restart opened readable installed =>
    exact ⟨rfl, h.restart opened readable flash other hrelated, rfl, rfl⟩
  | poll nowMs =>
    cases hready : usb.ready with
    | false => simpa [machine, hready, Alike] using ⟨hrelated, rfl, rfl⟩
    | true =>
      simp only [machine, hready, if_pos]
      exact ⟨rfl, hrelated, rfl, rfl⟩
  | byte received =>
    cases hready : usb.ready with
    | false => simpa [machine, hready, Alike] using ⟨hrelated, rfl, rfl⟩
    | true =>
      have halike := SettingsProtocolEndpoint.handleStreamEvent_alike
        (settingsEndpoint_simulates h)
        (world left received ⟨flash, usb, receiver⟩) (world right received ⟨other, usb, receiver⟩)
        ⟨h.expect received.outcome flash other hrelated, rfl⟩
        (receiver.consume received.byte received.nowMs).1 localUsbAccess
      rw [machine_byte left hready, machine_byte right hready, consume_eq, consume_eq]
      exact ⟨halike.1, halike.2.1, halike.2.2, rfl⟩

end Refinement

/-! The register's device. -/

section Register

variable {candidate : UserSettings → Prop} {call : Call SettingsRegister}

/-- Whatever the register holds or loads is one of the candidates. -/
structure Carries (candidate : UserSettings → Prop) (register : SettingsRegister) : Prop where
  durable : ∃ settings, candidate settings ∧ register.durable = some settings
  session : ∀ loaded, register.session = some loaded →
    ∃ settings, candidate settings ∧ loaded = some settings

theorem Carries.save {register : SettingsRegister} (h : Carries candidate register)
    {settings : UserSettings} (hcandidate : candidate settings) :
    Carries candidate (register.save settings).2 := by
  unfold SettingsRegister.save
  split
  · exact h
  split
  · refine ⟨⟨settings, hcandidate, rfl⟩, ?_⟩
    rintro _ ⟨⟩
    exact ⟨settings, hcandidate, rfl⟩
  · refine ⟨?_, h.session⟩
    dsimp only
    split
    · exact ⟨settings, hcandidate, rfl⟩
    · exact h.durable

theorem Carries.restart {register : SettingsRegister} (h : Carries candidate register)
    (opened readable : Bool) : Carries candidate (register.restart opened readable) := by
  unfold SettingsRegister.restart
  refine ⟨h.durable, ?_⟩
  dsimp only
  split
  · rintro _ ⟨⟩
    exact h.durable
  · exact nofun

theorem carries_saved {register : SettingsRegister} {settings : UserSettings}
    (h : (register.save settings).1 = true) :
    (register.save settings).2.durable = some settings ∧
      (register.save settings).2.session = some (some settings) := by
  unfold SettingsRegister.save at h ⊢
  split
  · rw [if_pos ‹_›] at h
    cases h
  · rw [if_neg ‹_›] at h
    split
    · exact ⟨rfl, rfl⟩
    · rw [if_neg ‹_›] at h
      cases h

theorem session_failed {register : SettingsRegister} {settings : UserSettings}
    (h : (register.save settings).1 ≠ true) :
    (register.save settings).2.session = register.session := by
  unfold SettingsRegister.save at h ⊢
  split
  · rfl
  · rw [if_neg ‹_›] at h
    split
    · rw [if_pos ‹_›] at h
      exact absurd rfl h
    · rfl

theorem Carries.step (heffect : Effect SettingsRegister.flash call)
    (h : Carries candidate call.before.flash)
    (hwrites : ∀ settings, Writes settings call → candidate settings) :
    Carries candidate call.after.flash := by
  cases heffect with
  | silent _ _ hafter => rwa [hafter]
  | untouched _ _ outcome hafter => rw [hafter]; exact ⟨h.durable, h.session⟩
  | loaded _ _ outcome hafter => rw [hafter]; exact ⟨h.durable, h.session⟩
  | saved settings hwrite _ outcome hafter =>
    rw [hafter]
    have hexpected : Carries candidate (SettingsRegister.flash.expect outcome call.before.flash) :=
      ⟨h.durable, h.session⟩
    exact hexpected.save (hwrites settings hwrite)
  | restarted _ opened readable installed _ hafter =>
    rw [hafter]
    exact h.restart opened readable

theorem session_step (heffect : Effect SettingsRegister.flash call) (hrestarts : ¬ Restarts call)
    (hunacknowledged : ¬ Acknowledged call) :
    call.after.flash.session = call.before.flash.session := by
  cases heffect with
  | silent _ _ hafter => rw [hafter]
  | untouched _ _ outcome hafter => rw [hafter]; rfl
  | loaded _ _ outcome hafter => rw [hafter]; rfl
  | saved settings hwrite _ outcome hafter hanswer =>
    rw [hafter]
    exact session_failed fun hsaved => hunacknowledged ⟨⟨settings, hwrite⟩, hanswer.2 hsaved⟩
  | restarted _ opened readable installed hinput =>
    exact absurd ⟨opened, readable, installed, hinput⟩ hrestarts

theorem carries_final {state : Firmware SettingsRegister} {inputs : List FirmwareInput}
    (h : Carries candidate state.flash)
    (hwrites : ∀ call ∈ (machine SettingsRegister.flash).transcript state inputs,
      ∀ settings, Writes settings call → candidate settings) :
    Carries candidate ((machine SettingsRegister.flash).final state inputs).flash := by
  induction inputs generalizing state with
  | nil => exact h
  | cons input rest ih =>
    rw [Machine.transcript, List.forall_mem_cons] at hwrites
    refine ih ?_ hwrites.2
    exact Carries.step (effect SettingsRegister.flash state input) h hwrites.1

theorem session_final {state : Firmware SettingsRegister} {inputs : List FirmwareInput}
    (h : ∀ call ∈ (machine SettingsRegister.flash).transcript state inputs,
      ¬ Restarts call ∧ ¬ Acknowledged call) :
    ((machine SettingsRegister.flash).final state inputs).flash.session = state.flash.session := by
  induction inputs generalizing state with
  | nil => rfl
  | cons input rest ih =>
    rw [Machine.transcript, List.forall_mem_cons] at h
    rw [Machine.final, ih h.2]
    exact session_step (effect SettingsRegister.flash state input) h.1.1 h.1.2

theorem acknowledged_step {settings : UserSettings}
    (heffect : Effect SettingsRegister.flash call) (hwrites : Writes settings call)
    (hok : call.output.responseStatus = .ok) :
    call.after.flash.durable = some settings ∧ call.after.flash.session = some (some settings) := by
  cases heffect with
  | silent hnone => exact absurd hwrites (hnone settings)
  | untouched hnone => exact absurd hwrites (hnone settings)
  | loaded hnone => exact absurd hwrites (hnone settings)
  | restarted hnone => exact absurd hwrites (hnone settings)
  | saved written hwritten _ outcome hafter hanswer =>
    have hsame : written = settings := by
      have hpayload := hwritten.2.payload
      rw [hwrites.2.payload, Option.some.injEq] at hpayload
      exact hpayload.symm
    rw [hafter, hsame]
    rw [hsame] at hanswer
    exact carries_saved (hanswer.1 hok)

theorem recent_loaded {state : Firmware SettingsRegister} {settings : UserSettings}
    (hdurable : state.flash.durable = some settings)
    (hsession : state.flash.session = some (some settings)) (inputs : List FirmwareInput)
    {loaded : Option UserSettings}
    (hloaded : ((machine SettingsRegister.flash).final state inputs).flash.session = some loaded) :
    ∃ recent, loaded = some recent ∧
      (recent = settings ∨
        ∃ call ∈ (machine SettingsRegister.flash).transcript state inputs, Writes recent call) ∧
      ((∀ call ∈ (machine SettingsRegister.flash).transcript state inputs,
        ¬ Restarts call ∧ ¬ Acknowledged call) → recent = settings) := by
  have hcarries : Carries (fun recent => recent = settings ∨
      ∃ call ∈ (machine SettingsRegister.flash).transcript state inputs, Writes recent call)
      state.flash := by
    refine ⟨⟨settings, .inl rfl, hdurable⟩, fun loaded hloaded => ?_⟩
    rw [hsession, Option.some.injEq] at hloaded
    exact ⟨settings, .inl rfl, hloaded.symm⟩
  have hfinal := carries_final hcarries fun call hcall settings hwrites =>
    .inr ⟨call, hcall, hwrites⟩
  obtain ⟨recent, hrecent, rfl⟩ := hfinal.session loaded hloaded
  refine ⟨recent, rfl, hrecent, fun hquiet => ?_⟩
  rw [session_final hquiet, hsession, Option.some.injEq, Option.some.injEq] at hloaded
  exact hloaded.symm

end Register

/-! The journal in flash. -/

section Flash

theorem streamEvent_same {related : V → W → Prop} {call : Call V} {other : Call W}
    (h : Machine.SameCall (SameDevice related) call other) : streamEvent call = streamEvent other := by
  unfold streamEvent
  rw [h.input, h.before.usb, h.before.receiver]

theorem writes_same {related : V → W → Prop} {call : Call V} {other : Call W}
    (h : Machine.SameCall (SameDevice related) call other) (settings : UserSettings) :
    Writes settings call ↔ Writes settings other := by
  unfold Writes
  rw [streamEvent_same h]

theorem quiet_same {related : V → W → Prop} {call : Call V} {other : Call W}
    (h : Machine.SameCall (SameDevice related) call other)
    (hquiet : ¬ Restarts call ∧ ¬ Acknowledged call) : ¬ Restarts other ∧ ¬ Acknowledged other := by
  constructor
  · rintro ⟨opened, readable, installed, hinput⟩
    exact hquiet.1 ⟨opened, readable, installed, h.input.trans hinput⟩
  · rintro ⟨⟨settings, hwrites⟩, hok⟩
    exact hquiet.2 ⟨⟨settings, (writes_same h settings).2 hwrites⟩, h.output ▸ hok⟩

theorem Writes.encodes {call : Call V} {settings : UserSettings} (h : Writes settings call) :
    ∃ payload, encodeUserSettingsPayload settings = some payload :=
  ⟨_, encode_decodeUserSettingsPayload h.2.payload⟩

theorem poweredOff_same (blob : StorageImage) :
    SameDevice NvsWorld.Refines (poweredOff { durable := blob, storage := {} })
      (poweredOff (NvsWorld.register { durable := blob, storage := {} })) where
  flash := ⟨nofun, rfl⟩
  usb := rfl
  receiver := rfl

/-- The device over its journal in flash is the device over one register: for every
content of the flash and every run, with every failure, refusal and restart, the same
results, and the same bytes on the wire. The loop of `app_main` is such a run. -/
theorem flash_refines_register (blob : StorageImage) (inputs : List FirmwareInput) :
    let flash := poweredOff ({ durable := blob, storage := {} } : NvsWorld)
    let register := poweredOff (NvsWorld.register { durable := blob, storage := {} })
    ((machine NvsWorld.flash).transcript flash inputs).map (fun call => call.output) =
        ((machine SettingsRegister.flash).transcript register inputs).map (fun call => call.output) ∧
      ((machine NvsWorld.flash).final flash inputs).usb =
        ((machine SettingsRegister.flash).final register inputs).usb ∧
      ((machine NvsWorld.flash).final flash inputs).flash.register =
        ((machine SettingsRegister.flash).final register inputs).flash ∧
      ∀ turns, appMain NvsWorld.flash turns ((machine NvsWorld.flash).final flash inputs) =
        (machine NvsWorld.flash).final flash (inputs ++ turns.flatMap cycleInputs) := by
  intro flash register
  have hsimulates := machine_simulates NvsWorld.flash_simulates
  have hfinal := hsimulates.final (poweredOff_same blob) inputs
  refine ⟨hsimulates.outputs (poweredOff_same blob) inputs, hfinal.usb, hfinal.flash.2, ?_⟩
  intro turns
  rw [appMain_eq_final, ← Machine.final_append]

def readResponse (requestId : UInt16) (payload : UserSettingsPayload) : SettingsProtocolFrame where
  type := .readResponse
  status := .ok
  requestId := requestId
  payloadSize := UInt16.ofNat userSettingsPayloadSize
  payload := payload

theorem reads_answer (flash : SettingsFlash V) {state : Firmware V} {input : FirmwareInput}
    {requestId : UInt16} {settings : UserSettings} {payload : UserSettingsPayload}
    (hreads : Reads requestId ((machine flash).stepOf state input))
    (hload : ∀ outcome, (flash.store.load (flash.expect outcome state.flash)).1 = some settings)
    (hpayload : encodeUserSettingsPayload settings = some payload) :
    (machine flash state input).1.responseStatus = .ok ∧ ∃ received encoded,
      input = .byte received ∧ encode (readResponse requestId payload) = some encoded ∧
      (machine flash state input).2.usb.wire =
        state.usb.wire ++ encoded.take received.written.toNat := by
  have hframe := hreads.ready
  cases input with
  | restart opened readable installed => cases hframe
  | poll nowMs => cases hframe
  | byte received =>
  cases hready : state.usb.ready with
  | false => simp [streamEvent, hready] at hframe
  | true =>
    have hevent := streamEvent_byte flash received hready
    obtain ⟨hready', htype, hstatus, hsize, hrequestId⟩ := hreads
    rw [hevent] at hready' htype hstatus hsize hrequestId
    obtain ⟨hresponse, -, hport⟩ :=
      handleStreamEvent_ready flash hready' (world flash received state)
    obtain ⟨after, hloaded⟩ : ∃ after, (settingsEndpoint flash).service.store.load
        (world flash received state) = (some settings, after) := by
      refine ⟨((flash.store.load (world flash received state).1).2,
        (world flash received state).2), ?_⟩
      rw [← hload received.outcome]
      rfl
    have hsmall : ¬ (UInt16.ofNat userSettingsPayloadSize).toNat > userSettingsPayloadSize := by
      decide
    have hencode : encode (readResponse requestId payload) =
        some (body (readResponse requestId payload) ++
          writeU32 (crc32 (body (readResponse requestId payload)))) := if_neg hsmall
    have hanswer : ((settingsEndpoint flash).service.handle
        (state.receiver.consume received.byte received.nowMs).1.frame localUsbAccess
        (world flash received state)).1 = readResponse requestId payload := by
      rw [SettingsProtocolService.handle_read htype hstatus hsize rfl hloaded hpayload,
        ← hrequestId]
      rfl
    rw [machine_byte flash hready, consume_eq]
    dsimp only
    rw [hresponse, hport, hanswer, hencode, port_handle]
    refine ⟨rfl, received, _, rfl, rfl, ?_⟩
    have hsend : UsbSerialJtag.send (body (readResponse requestId payload) ++
        writeU32 (crc32 (body (readResponse requestId payload))))
        (world flash received state).2 = _ := if_neg (by simp [world, hready])
    dsimp only
    rw [hsend]
    rfl

theorem recent_kept {state : Firmware NvsWorld} {other : Firmware SettingsRegister}
    (hsame : SameDevice NvsWorld.Refines state other) {settings : UserSettings}
    (hdurable : other.flash.durable = some settings)
    (hsession : other.flash.session = some (some settings)) (inputs : List FirmwareInput)
    (hready : ((machine NvsWorld.flash).final state inputs).flash.storage.ready = true) :
    ∃ recent, JournaledUserSettingsStore.loaded (JournaledUserSettingsStore.journalOf
        ((machine NvsWorld.flash).final state inputs).flash.storage.committed) = some recent ∧
      (recent = settings ∨
        ∃ call ∈ (machine NvsWorld.flash).transcript state inputs, Writes recent call) ∧
      ((∀ call ∈ (machine NvsWorld.flash).transcript state inputs,
        ¬ Restarts call ∧ ¬ Acknowledged call) → recent = settings) := by
  have hsimulates := machine_simulates NvsWorld.flash_simulates
  have hloads : ((machine SettingsRegister.flash).final other inputs).flash.session =
      some (JournaledUserSettingsStore.loaded (JournaledUserSettingsStore.journalOf
        ((machine NvsWorld.flash).final state inputs).flash.storage.committed)) := by
    rw [← (hsimulates.final hsame inputs).flash.2]
    exact if_pos hready
  obtain ⟨recent, hrecent, hwritten, hquiet⟩ := recent_loaded hdurable hsession inputs hloads
  refine ⟨recent, hrecent, ?_, fun hcalm => ?_⟩
  · rcases hwritten with rfl | ⟨call, hcall, hwrites⟩
    · exact .inl rfl
    · obtain ⟨same, hmem, hlike⟩ := hsimulates.exists_sameCall hsame hcall
      exact .inr ⟨same, hmem, (writes_same hlike recent).2 hwrites⟩
  · apply hquiet
    intro call hcall
    obtain ⟨same, hmem, hlike⟩ := hsimulates.exists_sameCall hsame hcall
    exact quiet_same hlike (hcalm same hmem)

/-- An acknowledged write is durable. After any further bytes, failed commits, refused
sends, power cuts and restarts, a read over a storage that began again is answered with
the written settings or with those of a later write request, and with nothing but the
written ones until the next restart or acknowledged write. -/
theorem written_settings_are_read_back (blob : StorageImage) (earlier later : List FirmwareInput)
    (write read : FirmwareInput) (settings : UserSettings) (requestId : UInt16) :
    let device := machine NvsWorld.flash
    let writing := device.stepOf
      (device.final (poweredOff { durable := blob, storage := {} }) earlier) write
    let since := device.transcript writing.after later
    let reading := device.stepOf (device.final writing.after later) read
    Writes settings writing → writing.output.responseStatus = .ok →
    Reads requestId reading → reading.before.flash.storage.ready = true →
    reading.output.responseStatus = .ok ∧ ∃ recent payload received encoded,
      (recent = settings ∨ ∃ call ∈ since, Writes recent call) ∧
      ((∀ call ∈ since, ¬ Restarts call ∧ ¬ Acknowledged call) → recent = settings) ∧
      encodeUserSettingsPayload recent = some payload ∧ read = .byte received ∧
      encode (readResponse requestId payload) = some encoded ∧
      reading.after.usb.wire = reading.before.usb.wire ++ encoded.take received.written.toNat := by
  intro device writing since reading hwrites hok hreads hstorage
  have hsimulates := machine_simulates NvsWorld.flash_simulates
  have hwriting := hsimulates.sameCall (hsimulates.final (poweredOff_same blob) earlier) write
  obtain ⟨hdurable, hsession⟩ := acknowledged_step (effect SettingsRegister.flash _ write)
    ((writes_same hwriting settings).1 hwrites) (hwriting.output ▸ hok)
  obtain ⟨recent, hrecent, hcandidate, hquiet⟩ :=
    recent_kept hwriting.after hdurable hsession later hstorage
  have hload : ∀ outcome, (NvsWorld.flash.store.load
      (NvsWorld.flash.expect outcome reading.before.flash)).1 = some recent := by
    intro outcome
    rw [← hrecent]
    exact congrArg Prod.fst (NvsWorld.load_eq { reading.before.flash with outcome } hstorage)
  obtain ⟨payload, hpayload⟩ : ∃ payload, encodeUserSettingsPayload recent = some payload := by
    rcases hcandidate with rfl | ⟨call, -, hcall⟩
    · exact hwrites.encodes
    · exact hcall.encodes
  obtain ⟨hanswer, received, encoded, hbyte, hencode, hwire⟩ :=
    reads_answer NvsWorld.flash hreads hload hpayload
  exact ⟨hanswer, recent, payload, received, encoded, hcandidate, hquiet, hpayload, hbyte, hencode,
    hwire⟩

def workingByte (byte : UInt8) : FirmwareInput :=
  .byte { byte, nowMs := 100, outcome := ⟨true, true, true⟩, written := 56 }

def readRequest : List UInt8 :=
  (encode { type := .readRequest, requestId := 9 }).getD []

def firstSession : List FirmwareInput :=
  .restart true true true :: (SettingsProtocolEndpoint.writeDefaults.take 55).map workingByte

def writtenDefaults : Call NvsWorld :=
  (machine NvsWorld.flash).stepOf ((machine NvsWorld.flash).final
    (poweredOff { durable := EspIdfNvsSettingsStorage.erased, storage := {} }) firstSession)
    (workingByte (byteAt SettingsProtocolEndpoint.writeDefaults 55))

def secondSession : List FirmwareInput :=
  .restart true true true :: (readRequest.take 15).map workingByte

def readAgain : Call NvsWorld :=
  (machine NvsWorld.flash).stepOf ((machine NvsWorld.flash).final writtenDefaults.after secondSession)
    (workingByte (byteAt readRequest 15))

theorem written_settings_are_read_back_defaults : readAgain.output.responseStatus = .ok := by
  have hsize : (streamEvent writtenDefaults).frame.payloadSize = 40 := by decide +kernel
  have hwrites : Writes {} writtenDefaults :=
    ⟨by decide +kernel, by decide +kernel, by decide +kernel, congrArg UInt16.toNat hsize,
      by decide +kernel, by decide +kernel, by decide +kernel⟩
  have hok : writtenDefaults.output.responseStatus = .ok := by decide +kernel
  have hreads : Reads 9 readAgain :=
    ⟨by decide +kernel, by decide +kernel, by decide +kernel, by decide +kernel, by decide +kernel⟩
  have hstorage : readAgain.before.flash.storage.ready = true := by decide +kernel
  have hanswer : ∀ writing reading : Call NvsWorld, writing = writtenDefaults →
      reading = readAgain → Writes {} writing → writing.output.responseStatus = .ok →
      Reads 9 reading → reading.before.flash.storage.ready = true →
      reading.output.responseStatus = .ok := by
    rintro _ _ rfl rfl hwrites hok hreads hstorage
    unfold readAgain at hreads hstorage ⊢
    unfold writtenDefaults at hwrites hok hreads hstorage ⊢
    exact (written_settings_are_read_back EspIdfNvsSettingsStorage.erased firstSession secondSession
      _ _ {} 9 hwrites hok hreads hstorage).1
  exact hanswer _ _ rfl rfl hwrites hok hreads hstorage

end Flash

end Firmware

end BmwRemote.Infrastructure
