import BmwRemote.Host.SettingsConfigurator
import BmwRemote.Host.SettingsWrite

/-! The commands that carry a settings file to a device and that print what a device has.
What is printed is a settings file again. -/
namespace BmwRemote.Host.SettingsConfigurator

open BmwRemote.Application BmwRemote.Infrastructure BmwRemote.Lib BmwRemote.Host.UserSettingsFile
open SettingsDeviceClient SettingsProtocolService
open JournaledUserSettingsStore (loaded journalOf)
open SettingsProtocolCodec (maximumFrameSize)
open BmwRemote.Lib.Text (ascii)

/-- How a command ends, with its error or with the settings that it has printed. -/
inductive CommandEnd where
  | failed (error : Text)
  | passed (printed : Text)
  deriving DecidableEq

def CommandEnd.exitCode : CommandEnd → Nat
  | .failed _ => 2
  | .passed _ => 0

def printSettings (settings : UserSettings) : CommandEnd :=
  let outcome := writeUserSettings {} settings
  if outcome.success then .passed outcome.output.written else .failed outcome.error

def runShow (path : Text) (answer : ReadAnswer) (files : Files) : CommandEnd :=
  let loaded := loadUserSettingsFile path answer files {}
  if !loaded.success then .failed loaded.error else printSettings loaded.settings

variable {V : Type}

def readDevice (channel : SettingsDeviceChannel V) (clocks : Nat → ClockReadings) (fuel : Nat) :
    Operation V UserSettings :=
  andThen (probe channel (clocks 0) fuel) id fun identity =>
    if !hasCapability identity .settingsRead then
      conclude (.error "le boitier n'annonce pas la lecture des reglages")
    else read channel (clocks 1) fuel

/-- A session with a device, over a port that opens or fails with a message. -/
def session {A : Type} (opened : Option Text) (operation : Operation V A)
    (finish : A → CommandEnd) (world : V) : Option (CommandEnd × V) :=
  match opened with
  | some error => some (.failed error, world)
  | none =>
    (operation {} world).map fun (result, _, world) =>
      match result with
      | .error error => (.failed (ascii error), world)
      | .ok result => (finish result, world)

def runReadDevice (opened : Option Text) (channel : SettingsDeviceChannel V)
    (clocks : Nat → ClockReadings) (fuel : Nat) (world : V) : Option (CommandEnd × V) :=
  session opened (readDevice channel clocks fuel) printSettings world

def runWriteDevice (path : Text) (answer : ReadAnswer) (files : Files) (opened : Option Text)
    (channel : SettingsDeviceChannel V) (clocks : Nat → ClockReadings) (fuel : Nat) (world : V) :
    Option (CommandEnd × V) :=
  let loaded := loadUserSettingsFile path answer files {}
  if !loaded.success then some (.failed loaded.error, world)
  else
    session opened (writeAndVerify channel clocks fuel loaded.settings) (fun _ => .passed []) world

/-! Printing. -/

variable {path printed : Text} {answer : ReadAnswer} {files : Files} {settings : UserSettings}

theorem reads_written (h : Representable settings) :
    Reads (Text.unlines (settingsLines settings)) settings := by
  unfold Reads InputStream.ofText
  exact parseInput_written h

theorem printSettings_passed_iff :
    printSettings settings = .passed printed ↔
      Representable settings ∧ printed = Text.unlines (settingsLines settings) := by
  unfold printSettings
  dsimp only
  constructor
  · intro h
    split at h
    · rename_i hsuccess
      have hrepresentable := representable_of_write hsuccess
      rw [writeUserSettings_representable hrepresentable] at h
      cases h
      exact ⟨hrepresentable, rfl⟩
    · cases h
  · rintro ⟨hrepresentable, rfl⟩
    rw [writeUserSettings_representable hrepresentable]
    rfl

theorem reads_of_printed (h : printSettings settings = .passed printed) :
    Reads printed settings := by
  obtain ⟨hrepresentable, rfl⟩ := printSettings_passed_iff.mp h
  exact reads_written hrepresentable

theorem runShow_passed_iff :
    runShow path answer files = .passed printed ↔
      ∃ settings, loadUserSettingsFile path answer files {} = ⟨true, settings, []⟩ ∧
        printed = Text.unlines (settingsLines settings) := by
  unfold runShow
  dsimp only
  cases hsuccess : (loadUserSettingsFile path answer files {}).success with
  | false =>
    constructor
    · nofun
    · rintro ⟨settings, hload, -⟩
      rw [hload] at hsuccess
      cases hsuccess
  | true =>
    obtain ⟨-, -, text, settings, -, hreads, hload⟩ := load_success_iff.mp hsuccess
    rw [hload]
    change printSettings settings = _ ↔ _
    rw [printSettings_passed_iff]
    constructor
    · rintro ⟨-, hprinted⟩
      exact ⟨settings, rfl, hprinted⟩
    · rintro ⟨other, hother, hprinted⟩
      cases hother
      exact ⟨representable_of_parse hreads, hprinted⟩

/-! A device that works, over a link in time. -/

section Delivery

variable {S : Type} {size : Nat} {storage : SettingsByteStorage S} {area : S → Vector UInt8 size}
  {endpoint : SettingsProtocolEndpoint S} {channel : SettingsDeviceChannel V} {view : V → Link S}
  {config : SettingsStreamConfig} {clock : ClockReadings} {clocks : Nat → ClockReadings}
  {fuel : Nat} {client : SettingsDeviceClient} {before : V}

theorem probe_delivered (hdevice : WorkingDevice storage area endpoint)
    (hchannel : Reliable endpoint promptMove channel view)
    (hconfig : validateClientConfig client.config = true) (htimely : Timely client.config clock)
    (hfuel : maximumFrameSize ≤ fuel) (hidle : Idle config (view before))
    (hsilent : (view before).toHost = []) :
    ∃ after, probe channel clock fuel client before =
        some (.ok endpoint.service.identity, client.advanced, after) ∧
      Idle config (view after) ∧ (view after).toHost = [] ∧
      area (view after).world = area (view before).world := by
  have hpayload : encodeSettingsDeviceIdentity endpoint.service.traced.identity =
      some ⟨(identityBytes endpoint.service.identity).toArray, length_identityBytes _⟩ := rfl
  generalize (⟨(identityBytes endpoint.service.identity).toArray, length_identityBytes _⟩ :
    UserSettingsPayload) = payload at hpayload
  have hhandle := @handle_identify _ endpoint.service.traced (client.numbered identifyRequest).trimmed
    { authorized := true } payload ((view before).world, []) (by simp [numbered, identifyRequest])
    (by simp [numbered, identifyRequest]) (by simp [numbered, identifyRequest]) rfl hpayload
  obtain ⟨encoded, after, hexchange, hanswered⟩ := exchange_handled hchannel hconfig htimely hfuel
    hidle hsilent (Nat.zero_le _) hhandle rfl (Nat.le_of_ble_eq_true rfl) hdevice.sends
    ⟨by simp [responseFor, numbered], rfl, rfl⟩
  have hidentity := decode_encodeSettingsDeviceIdentity hpayload
  refine ⟨after, probe_ok_iff.mpr ⟨_, hexchange, ?_⟩, hanswered.idle, hanswered.toHost, ?_⟩
  · rw [SettingsProtocolFrame.trimmed_payload, SettingsProtocolFrame.trimmed_payloadSize]
    · exact hidentity
    · exact fun index hindex houtside => encodeSettingsDeviceIdentity_zeros hpayload hindex houtside
  · rw [hanswered.world, hdevice.keeps]

theorem readDevice_delivered (client : SettingsDeviceClient)
    (hdevice : WorkingDevice storage area endpoint) (hchannel : Reliable endpoint promptMove channel view)
    (hreads : hasCapability endpoint.service.identity .settingsRead = true)
    (hconfig : validateClientConfig client.config = true)
    (htimely : ∀ index < 2, Timely client.config (clocks index))
    (hfuel : maximumFrameSize ≤ fuel) (hidle : Idle config (view before))
    (hsilent : (view before).toHost = []) (hvalid : (validateUserSettings settings).valid = true)
    (hloaded : loaded (journalOf (area (view before).world)) = some settings) :
    ∃ client' after,
      readDevice channel clocks fuel client before = some (.ok settings, client', after) := by
  have hconfig₁ : validateClientConfig client.advanced.config = true := hconfig
  obtain ⟨probed, hprobe, hidle, hsilent, harea⟩ :=
    probe_delivered hdevice hchannel hconfig (htimely 0 (by decide)) hfuel hidle hsilent
  rw [← harea] at hloaded
  obtain ⟨response, after, hread, hsize, hdecode, -, -⟩ :=
    read_delivered hdevice hchannel hconfig₁ (htimely 1 (by decide)) hfuel hidle hsilent hvalid
      hloaded
  refine ⟨client.advanced.advanced, after, ?_⟩
  unfold readDevice
  rw [andThen_ok_iff]
  refine ⟨_, client.advanced, probed, hprobe, ?_⟩
  rw [hreads, if_neg (by decide)]
  exact read_ok_iff.mpr ⟨response, hread, hsize, hdecode⟩

theorem runReadDevice_delivered (hdevice : WorkingDevice storage area endpoint)
    (hchannel : Reliable endpoint promptMove channel view)
    (hreads : hasCapability endpoint.service.identity .settingsRead = true)
    (htimely : ∀ index < 2, Timely {} (clocks index))
    (hfuel : maximumFrameSize ≤ fuel) (hidle : Idle config (view before))
    (hsilent : (view before).toHost = []) (hvalid : (validateUserSettings settings).valid = true)
    (hloaded : loaded (journalOf (area (view before).world)) = some settings) :
    ∃ after, runReadDevice none channel clocks fuel before =
      some (printSettings settings, after) := by
  obtain ⟨client', after, hread⟩ := readDevice_delivered {} hdevice hchannel hreads (by decide)
    htimely hfuel hidle hsilent hvalid hloaded
  refine ⟨after, ?_⟩
  unfold runReadDevice session
  rw [hread]
  rfl

theorem runWriteDevice_delivered (hdevice : WorkingDevice storage area endpoint)
    (hchannel : Reliable endpoint promptMove channel view)
    (hwrites : hasCapability endpoint.service.identity .settingsWrite = true)
    (hpersists : hasCapability endpoint.service.identity .persistentSettings = true)
    (htimely : ∀ index < 3, Timely {} (clocks index))
    (hfuel : maximumFrameSize ≤ fuel) (hidle : Idle config (view before))
    (hsilent : (view before).toHost = []) {text : Text} (hpath : path ≠ [])
    (htext : files path = some text) (hreads : Reads text settings) :
    ∃ after, runWriteDevice path .whole files none channel clocks fuel before =
        some (.passed [], after) ∧
      loaded (journalOf (area (view after).world)) = some settings := by
  obtain ⟨client', after, hwrite, hlater⟩ := write_then_load hdevice hchannel hwrites hpersists
    (show validateClientConfig ({} : SettingsDeviceClient).config = true by decide) htimely hfuel
    hidle hsilent (representable_of_parse hreads).valid
  obtain ⟨_, hjournal, -⟩ := hdevice.works.load_eq hdevice.capacity (view after).world
  refine ⟨after, ?_, ?_⟩
  · unfold runWriteDevice session
    rw [load_whole hpath htext hreads {}]
    dsimp only
    rw [hwrite]
    rfl
  · rw [← hlater (view after) .refl, hjournal]

end Delivery

/-! Any device, over any link that keeps the order of the bytes. -/

section Soundness

variable {S : Type} {endpoint : SettingsProtocolEndpoint S} {channel : SettingsDeviceChannel V}
  {view : V → Link S} {config : SettingsStreamConfig} {clocks : Nat → ClockReadings} {fuel : Nat}
  {client client' : SettingsDeviceClient} {before after : V} {opened : Option Text}

theorem read_was_loaded (hchannel : Carries endpoint anyMove channel view)
    (hidle : Idle config (view before)) (hsilent : (view before).toHost = [])
    (h : readDevice channel clocks fuel client before = some (.ok settings, client', after)) :
    ∃ calls, (view after).calls = (view before).calls ++ calls ∧
      .load (some settings) ∈ calls := by
  unfold readDevice at h
  obtain ⟨identity, probed, between, hprobe, h⟩ := andThen_ok_iff.mp h
  obtain ⟨identified, hidentify, -⟩ := probe_ok_iff.mp hprobe
  split at h
  · cases h
  obtain ⟨response, hread, hsize, hdecode⟩ := read_ok_iff.mp h
  obtain ⟨hidle, hsilent, -, -, identifying, -, -, -, hidentifying⟩ :=
    exchange_sound hchannel hidle hsilent ⟨rfl, rfl⟩ hidentify
  obtain ⟨-, -, access, answer, reading, hanswer, hstatus, hresponded, hreading⟩ :=
    exchange_sound hchannel hidle hsilent ⟨rfl, rfl⟩ hread
  rw [hanswer] at hsize hdecode
  rw [SettingsProtocolFrame.trimmed_payloadSize] at hsize
  refine ⟨identifying ++ reading, ?_, ?_⟩
  · rw [hreading, hidentifying, List.append_assoc]
  · apply List.mem_append_right
    exact loaded_of_responded (by simp [numbered, readRequest]) hresponded hstatus hsize hdecode

theorem session_passed_iff {A : Type} {operation : Operation V A} {finish : A → CommandEnd} :
    session opened operation finish before = some (.passed printed, after) ↔
      opened = none ∧ ∃ result client', operation {} before = some (.ok result, client', after) ∧
        finish result = .passed printed := by
  unfold session
  cases opened with
  | some error => simp
  | none =>
  constructor
  · intro h
    obtain ⟨⟨result, client', world⟩, hresult, h⟩ := Option.map_eq_some_iff.mp h
    cases result with
    | error error => cases h
    | ok result =>
      obtain ⟨hfinish, rfl⟩ := Prod.mk.inj h
      exact ⟨rfl, result, client', hresult, hfinish⟩
  · rintro ⟨-, result, client', hresult, hfinish⟩
    rw [hresult, Option.map_some]
    exact congrArg (fun ending => some (ending, after)) hfinish

end Soundness

end BmwRemote.Host.SettingsConfigurator
