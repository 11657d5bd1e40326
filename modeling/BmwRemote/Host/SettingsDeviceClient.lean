import BmwRemote.Infrastructure.SettingsService
import BmwRemote.Infrastructure.SettingsStream

/-! The host's side of the settings protocol: a request is sent over a channel,
its response is read byte by byte within two delays, and settings that were
written are read back and compared. -/
namespace BmwRemote.Host

open BmwRemote.Application BmwRemote.Infrastructure BmwRemote.Lib

inductive SettingsChannelReadStatus where
  | data
  | timeout
  | failure
  deriving DecidableEq, Repr

/-- A channel on a world `V`. Every operation takes the error text as it stands
and leaves one behind. -/
structure SettingsDeviceChannel (V : Type) where
  clearInput : String → V → (Bool × String) × V
  writeAll : List UInt8 → UInt32 → String → V → (Bool × String) × V
  readByte : UInt32 → String → V → (SettingsChannelReadStatus × UInt8 × String) × V

structure SettingsDeviceClientConfig where
  responseTimeoutMs : UInt32 := 2000
  interByteTimeoutMs : UInt32 := 250
  deriving DecidableEq, Repr

def validateClientConfig (config : SettingsDeviceClientConfig) : Bool :=
  !(config.interByteTimeoutMs == 0 || decide (config.responseTimeoutMs < config.interByteTimeoutMs))

structure SettingsDeviceClient where
  config : SettingsDeviceClientConfig := {}
  nextRequestId : UInt16 := 1
  deriving DecidableEq, Repr

def elapsedMilliseconds (startedAt now : Int) : UInt32 :=
  let elapsed := (now - startedAt).tdiv 1000000
  if elapsed ≤ 0 then 0
  else if elapsed > 0xFFFFFFFF then 0xFFFFFFFF
  else UInt32.ofNat elapsed.toNat

/-- The readings of the clock in one exchange: the first when the request was
sent, then two for each byte. -/
abbrev ClockReadings := Nat → Int

def waitedMs (clock : ClockReadings) (pass : Nat) : UInt32 :=
  elapsedMilliseconds (clock 0) (clock (2 * pass + 1))

def receivedMs (clock : ClockReadings) (pass : Nat) : UInt32 :=
  elapsedMilliseconds (clock 0) (clock (2 * pass + 2))

def errorOr (error fallback : String) : String :=
  if error = "" then fallback else error

namespace SettingsDeviceClient

variable {V A B : Type}

/-- The following request number: zero is skipped. -/
def following (requestId : UInt16) : UInt16 :=
  if requestId + 1 = 0 then 1 else requestId + 1

def allocateRequestId (client : SettingsDeviceClient) : UInt16 × SettingsDeviceClient :=
  (client.nextRequestId, { client with nextRequestId := following client.nextRequestId })

def streamConfig (config : SettingsDeviceClientConfig) : SettingsStreamConfig where
  interByteTimeoutMs := config.interByteTimeoutMs

def settle (requestId : UInt16) (expectedResponseType : SettingsMessageType)
    (event : SettingsStreamEvent) : Option (Except String SettingsProtocolFrame) :=
  if event.type = .none then none
  else if event.type ≠ .frameReady then
    some (.error ("trame de reponse rejetee : " ++ event.decodeStatus.toString))
  else if event.frame.requestId ≠ requestId then some (.error "identifiant de reponse inattendu")
  else if event.frame.type ≠ expectedResponseType then some (.error "type de reponse inattendu")
  else if event.frame.status ≠ .ok then
    some (.error ("requete refusee par le boitier : " ++ event.frame.status.toString))
  else some (.ok event.frame)

def readTimeout (config : SettingsDeviceClientConfig) (elapsed : UInt32)
    (receiver : SettingsStreamReceiver) : UInt32 :=
  let remaining := config.responseTimeoutMs - elapsed
  if receiver.bufferedSize = 0 then remaining
  else if config.interByteTimeoutMs < remaining then config.interByteTimeoutMs
  else remaining

/-- The loop of `exchange`. It has no bound of its own: `none` says that `fuel`
passes were not enough. -/
def receive (config : SettingsDeviceClientConfig) (channel : SettingsDeviceChannel V)
    (clock : ClockReadings) (requestId : UInt16) (expectedResponseType : SettingsMessageType) :
    (fuel pass : Nat) → SettingsStreamReceiver → String → V →
      Option (Except String SettingsProtocolFrame × V)
  | 0, _, _, _, _ => none
  | fuel + 1, pass, receiver, error, world =>
      let elapsed := waitedMs clock pass
      if elapsed ≥ config.responseTimeoutMs then
        some (.error "delai de reponse du boitier depasse", world)
      else
        match channel.readByte (readTimeout config elapsed receiver) error world with
        | ((.failure, _, error), world) =>
            some (.error (errorOr error "echec de lecture de la reponse"), world)
        | ((.timeout, _, _), world) =>
            if receiver.bufferedSize ≠ 0 then
              some (.error "reponse partielle : delai inter-octets depasse", world)
            else some (.error "delai de reponse du boitier depasse", world)
        | ((.data, byte, error), world) =>
            let (event, receiver) := receiver.consume byte (receivedMs clock pass)
            match settle requestId expectedResponseType event with
            | none => receive config channel clock requestId expectedResponseType fuel (pass + 1)
                receiver error world
            | some result => some (result, world)

abbrev Operation (V A : Type) :=
  SettingsDeviceClient → V → Option (Except String A × SettingsDeviceClient × V)

def exchange (channel : SettingsDeviceChannel V) (clock : ClockReadings) (fuel : Nat)
    (request : SettingsProtocolFrame) (expectedResponseType : SettingsMessageType) :
    Operation V SettingsProtocolFrame := fun client world =>
  if !validateClientConfig client.config then
    some (.error "temporisations de liaison invalides", client, world)
  else
    let (requestId, client) := client.allocateRequestId
    match SettingsProtocolCodec.encode { request with requestId } with
    | none => some (.error "impossible d'encoder la requete", client, world)
    | some encoded =>
        match channel.clearInput "" world with
        | ((false, error), world) =>
            some (.error (errorOr error "echec d'envoi de la requete"), client, world)
        | ((true, error), world) =>
            match channel.writeAll encoded client.config.responseTimeoutMs error world with
            | ((false, error), world) =>
                some (.error (errorOr error "echec d'envoi de la requete"), client, world)
            | ((true, error), world) =>
                (receive client.config channel clock requestId expectedResponseType fuel 0
                  { config := streamConfig client.config }
                  error world).map fun (result, world) => (result, client, world)

def andThen (operation : Operation V A) (wrap : String → String) (next : A → Operation V B) :
    Operation V B := fun client world =>
  match operation client world with
  | none => none
  | some (.error error, client, world) => some (.error (wrap error), client, world)
  | some (.ok result, client, world) => next result client world

def conclude (result : Except String A) : Operation V A := fun client world =>
  some (result, client, world)

def identifyRequest : SettingsProtocolFrame where
  type := .identifyRequest

def readRequest : SettingsProtocolFrame where
  type := .readRequest

def writeRequest (payload : UserSettingsPayload) : SettingsProtocolFrame where
  type := .writeRequest
  payloadSize := UInt16.ofNat userSettingsPayloadSize
  payload := payload

def probe (channel : SettingsDeviceChannel V) (clock : ClockReadings) (fuel : Nat) :
    Operation V SettingsDeviceIdentity :=
  andThen (exchange channel clock fuel identifyRequest .identifyResponse) id
    fun response =>
      match decodeSettingsDeviceIdentity response.payload response.payloadSize.toNat with
      | none => conclude (.error "identite du boitier invalide")
      | some received => conclude (.ok received)

def read (channel : SettingsDeviceChannel V) (clock : ClockReadings) (fuel : Nat) :
    Operation V UserSettings :=
  andThen (exchange channel clock fuel readRequest .readResponse) id fun response =>
    if response.payloadSize.toNat ≠ userSettingsPayloadSize then
      conclude (.error "taille de configuration inattendue dans la reponse")
    else
      match decodeUserSettingsPayload response.payload userSettingsPayloadSize with
      | none => conclude (.error "configuration recue invalide")
      | some received => conclude (.ok received)

/-- `clocks` gives the readings of each of the three exchanges. -/
def writeAndVerify (channel : SettingsDeviceChannel V) (clocks : Nat → ClockReadings) (fuel : Nat)
    (settings : UserSettings) : Operation V Unit :=
  if !(validateUserSettings settings).valid then
    conclude (.error "configuration refusee par les limites de securite")
  else
    andThen (probe channel (clocks 0) fuel) ("identification du boitier impossible : " ++ ·)
      fun identity =>
        if !hasCapability identity .settingsWrite || !hasCapability identity .persistentSettings then
          conclude (.error "le boitier n'annonce pas l'ecriture persistante des reglages")
        else
          match encodeUserSettingsPayload settings with
          | none => conclude (.error "impossible d'encoder la configuration")
          | some payload =>
              andThen (exchange channel (clocks 1) fuel (writeRequest payload) .writeResponse) id
                fun response =>
                if response.payloadSize ≠ 0 then
                  conclude (.error "payload inattendu dans la reponse d'ecriture")
                else
                  andThen (read channel (clocks 2) fuel)
                    ("ecriture acceptee mais relecture impossible : " ++ ·) fun verified =>
                      if !userSettingsEqual settings verified then
                        conclude
                          (.error "la relecture du boitier differe de la configuration envoyee")
                      else conclude (.ok ())

/-! The loop, over a channel that gives the bytes of one response. -/

open SettingsProtocolCodec SettingsStreamReceiver

/-- The response that an exchange waits for. -/
structure Expected (requestId : UInt16) (expectedResponseType : SettingsMessageType)
    (response : SettingsProtocolFrame) : Prop where
  requestId : response.requestId = requestId
  type : response.type = expectedResponseType
  status : response.status = .ok

theorem expected_trimmed_iff {requestId : UInt16} {type : SettingsMessageType}
    {response : SettingsProtocolFrame} :
    Expected requestId type response.trimmed ↔ Expected requestId type response := by
  constructor
  · intro h
    exact ⟨by simpa using h.requestId, by simpa using h.type, by simpa using h.status⟩
  · intro h
    exact ⟨by simpa using h.requestId, by simpa using h.type, by simpa using h.status⟩

theorem settle_none {requestId : UInt16} {type : SettingsMessageType} :
    settle requestId type {} = none := rfl

theorem settle_timedOut {requestId : UInt16} {type : SettingsMessageType} :
    settle requestId type { type := .timedOut } = some (.error "trame de reponse rejetee : ok") := rfl

theorem settle_ready (requestId : UInt16) (type : SettingsMessageType)
    (response : SettingsProtocolFrame) :
    (Expected requestId type response ∧
      settle requestId type { type := .frameReady, frame := response } = some (.ok response)) ∨
    (¬ Expected requestId type response ∧
      ∃ error, settle requestId type { type := .frameReady, frame := response } =
        some (.error error)) := by
  unfold settle
  rw [if_neg nofun, if_neg (not_not_intro rfl)]
  split
  · rename_i hrequestId
    exact .inr ⟨fun h => hrequestId h.requestId, _, rfl⟩
  rename_i hrequestId
  split
  · rename_i htype
    exact .inr ⟨fun h => htype h.type, _, rfl⟩
  rename_i htype
  split
  · rename_i hstatus
    exact .inr ⟨fun h => hstatus h.status, _, rfl⟩
  · rename_i hstatus
    exact .inl ⟨⟨Decidable.not_not.1 hrequestId, Decidable.not_not.1 htype,
      Decidable.not_not.1 hstatus⟩, rfl⟩

variable {channel : SettingsDeviceChannel V} {config : SettingsDeviceClientConfig}
  {clock : ClockReadings} {requestId : UInt16} {type : SettingsMessageType}
  {fuel pass : Nat} {receiver : SettingsStreamReceiver} {error : String} {world after : V}
  {frame response : SettingsProtocolFrame} {bytes received left : List UInt8}

theorem receive_ok_step
    (h : receive config channel clock requestId type (fuel + 1) pass receiver error world =
      some (.ok response, after)) :
    ∃ byte text between,
      channel.readByte (readTimeout config (waitedMs clock pass) receiver) error world =
        ((.data, byte, text), between) ∧
      ((settle requestId type (receiver.consume byte (receivedMs clock pass)).1 = none ∧
          receive config channel clock requestId type fuel (pass + 1)
            (receiver.consume byte (receivedMs clock pass)).2 text between =
              some (.ok response, after)) ∨
        (settle requestId type (receiver.consume byte (receivedMs clock pass)).1 =
          some (.ok response) ∧ between = after)) := by
  unfold receive at h
  dsimp only at h
  split at h
  · cases h
  split at h
  · cases h
  · split at h
    · cases h
    · cases h
  · rename_i byte text between hread
    refine ⟨byte, text, between, hread, ?_⟩
    split at h
    · rename_i hsettle
      exact .inl ⟨hsettle, h⟩
    · rename_i result hsettle
      cases h
      exact .inr ⟨hsettle, rfl⟩

/-- A response that the loop returns is the frame whose bytes the channel gave,
and it is the one that was waited for. -/
theorem receive_ok (h : Encodes frame bytes) (gives : List UInt8 → V → Prop)
    (hgives : ∀ {byte read left timeoutMs error text world after}, gives (byte :: left) world →
      channel.readByte timeoutMs error world = ((.data, read, text), after) →
        read = byte ∧ gives left after)
    (hsplit : bytes = received ++ left) (hleft : left ≠ []) (lastMs : UInt32)
    (hworld : gives left world)
    (hok : receive config channel clock requestId type fuel pass
      (receiving (streamConfig config) bytes received lastMs) error world =
        some (.ok response, after)) :
    response = frame.trimmed ∧ Expected requestId type frame.trimmed ∧ gives [] after := by
  induction left generalizing received fuel pass lastMs error world with
  | nil => exact absurd rfl hleft
  | cons byte left ih =>
    cases fuel with
    | zero => cases hok
    | succ fuel =>
      obtain ⟨read, text, between, hread, hstep⟩ := receive_ok_step hok
      obtain ⟨hbyte, hbetween⟩ := hgives hworld hread
      rw [hbyte] at hstep
      cases hexpired : (receiving (streamConfig config) bytes received lastMs).expired
          (receivedMs clock pass) with
      | true =>
        rw [consume_expired hexpired, settle_timedOut] at hstep
        simp at hstep
      | false =>
        by_cases hlast : left = []
        · rw [hlast] at hsplit hbetween
          rw [consume_last h hsplit hexpired] at hstep
          cases settle_ready requestId type frame.trimmed with
          | inl hready =>
            rw [hready.2] at hstep
            simp at hstep
            rw [← hstep.1, ← hstep.2]
            exact ⟨rfl, hready.1, hbetween⟩
          | inr hrefused =>
            obtain ⟨-, error, hrefused⟩ := hrefused
            rw [hrefused] at hstep
            simp at hstep
        · rw [consume_receiving h hsplit hlast hexpired, settle_none] at hstep
          have hrest := hstep.resolve_right (by simp)
          exact ih (by simp [hsplit]) hlast _ hbetween hrest.2

structure Timely (config : SettingsDeviceClientConfig) (clock : ClockReadings) : Prop where
  waited : ∀ pass < maximumFrameSize, waitedMs clock pass < config.responseTimeoutMs
  received : ∀ pass, pass + 1 < maximumFrameSize →
    receivedMs clock (pass + 1) - receivedMs clock pass ≤ config.interByteTimeoutMs

theorem readTimeout_ne_zero (hconfig : validateClientConfig config = true) {elapsed : UInt32}
    (helapsed : elapsed < config.responseTimeoutMs) (receiver : SettingsStreamReceiver) :
    readTimeout config elapsed receiver ≠ 0 := by
  have hremaining : config.responseTimeoutMs - elapsed ≠ 0 := by
    intro hzero
    have hcount := UInt32.toNat_sub_of_le _ _ (UInt32.le_of_lt helapsed)
    rw [hzero, UInt32.toNat_zero] at hcount
    rw [UInt32.lt_iff_toNat_lt] at helapsed
    omega
  have hinterByte : config.interByteTimeoutMs ≠ 0 := by
    simp [validateClientConfig] at hconfig
    exact hconfig.1
  unfold readTimeout
  dsimp only
  split
  · exact hremaining
  split
  · exact hinterByte
  · exact hremaining

theorem receive_whole (hconfig : validateClientConfig config = true) (htimely : Timely config clock)
    (h : Encodes frame bytes) (hexpected : Expected requestId type frame.trimmed)
    (gives : List UInt8 → V → Prop)
    (hgives : ∀ {byte left timeoutMs error world}, timeoutMs ≠ 0 → gives (byte :: left) world →
      ∃ text after, channel.readByte timeoutMs error world = ((.data, byte, text), after) ∧
        gives left after)
    (hsplit : bytes = received ++ left) (hleft : left ≠ []) {lastMs : UInt32}
    (hlast : ∀ pass, received.length = pass + 1 → lastMs = receivedMs clock pass)
    (hfuel : left.length ≤ fuel) (error : String) (hworld : gives left world) :
    ∃ after, receive config channel clock requestId type fuel received.length
      (receiving (streamConfig config) bytes received lastMs) error world =
        some (.ok frame.trimmed, after) ∧ gives [] after := by
  induction left generalizing received fuel lastMs error world with
  | nil => exact absurd rfl hleft
  | cons byte left ih =>
    cases fuel with
    | zero => simp at hfuel
    | succ fuel =>
      have hroom : received.length < maximumFrameSize := by
        have hlength := h.le_maximumFrameSize
        rw [hsplit, List.length_append, List.length_cons] at hlength
        omega
      have hwaited := htimely.waited received.length hroom
      have hexpired : (receiving (streamConfig config) bytes received lastMs).expired
          (receivedMs clock received.length) = false := by
        cases hreceived : received.length with
        | zero => exact not_expired_of_empty (List.length_eq_zero_iff.1 hreceived) _
        | succ pass =>
          rw [hlast pass hreceived]
          exact not_expired_receiving bytes received (htimely.received pass (hreceived ▸ hroom))
      obtain ⟨text, between, hread, hbetween⟩ := @hgives _ _ _ error _
        (readTimeout_ne_zero hconfig hwaited (receiving (streamConfig config) bytes received lastMs))
        hworld
      unfold receive
      dsimp only
      rw [if_neg (UInt32.not_le.2 hwaited), hread]
      dsimp only
      by_cases hend : left = []
      · rw [hend] at hsplit hbetween
        rw [consume_last h hsplit hexpired]
        cases settle_ready requestId type frame.trimmed with
        | inl hready =>
          dsimp only
          rw [hready.2]
          exact ⟨between, rfl, hbetween⟩
        | inr hrefused => exact absurd hexpected hrefused.1
      · rw [consume_receiving h hsplit hend hexpired]
        dsimp only
        rw [settle_none]
        dsimp only
        have hnext : (received ++ [byte]).length = received.length + 1 := by simp
        rw [← hnext]
        apply ih (by simp [hsplit]) hend _ (by simpa using hfuel) text hbetween
        intro pass hpass
        rw [hnext] at hpass
        rw [Nat.succ.inj hpass]

theorem receive_returns {deadline : Nat} (hdeadline : config.responseTimeoutMs ≤ waitedMs clock deadline)
    (hpass : pass ≤ deadline) (hfuel : deadline < pass + fuel) :
    receive config channel clock requestId type fuel pass receiver error world ≠ none := by
  induction fuel generalizing pass receiver error world with
  | zero => omega
  | succ fuel ih =>
    unfold receive
    dsimp only
    split
    · exact nofun
    rename_i hwaited
    have hbefore : pass ≠ deadline := fun hsame => hwaited (hsame ▸ hdeadline)
    split
    · exact nofun
    · split
      · exact nofun
      · exact nofun
    · split
      · exact ih (by omega) (by omega)
      · exact nofun

/-! The calls around the loop. -/

variable {client client' : SettingsDeviceClient} {request : SettingsProtocolFrame}
  {settings : UserSettings} {clocks : Nat → ClockReadings}

def advanced (client : SettingsDeviceClient) : SettingsDeviceClient :=
  { client with nextRequestId := following client.nextRequestId }

def numbered (client : SettingsDeviceClient) (request : SettingsProtocolFrame) :
    SettingsProtocolFrame :=
  { request with requestId := client.nextRequestId }

theorem exchange_ok_iff :
    exchange channel clock fuel request type client world = some (.ok response, client', after) ↔
      validateClientConfig client.config = true ∧ client' = client.advanced ∧
      ∃ encoded cleared between written sent, encode (client.numbered request) = some encoded ∧
        channel.clearInput "" world = ((true, cleared), between) ∧
        channel.writeAll encoded client.config.responseTimeoutMs cleared between =
          ((true, written), sent) ∧
        receive client.config channel clock client.nextRequestId type fuel 0
          { config := streamConfig client.config } written sent = some (.ok response, after) := by
  unfold exchange allocateRequestId
  dsimp only
  constructor
  · intro h
    split at h
    · cases h
    rename_i hconfig
    split at h
    · cases h
    rename_i encoded hencode
    split at h
    · cases h
    rename_i cleared between hclear
    split at h
    · cases h
    rename_i written sent hwrite
    rw [Option.map_eq_some_iff] at h
    obtain ⟨⟨answer, final⟩, hreceive, hresult⟩ := h
    cases hresult
    exact ⟨by simpa using hconfig, rfl, encoded, cleared, between, written, sent, hencode, hclear,
      hwrite, hreceive⟩
  · rintro ⟨hconfig, hclient, encoded, cleared, between, written, sent, hencode, hclear, hwrite,
      hreceive⟩
    unfold numbered at hencode
    simp [hconfig, hclient, hencode, hclear, hwrite, hreceive, advanced]

theorem andThen_ok_iff {operation : Operation V A} {wrap : String → String}
    {next : A → Operation V B} {result : B} :
    andThen operation wrap next client world = some (.ok result, client', after) ↔
      ∃ first middle between, operation client world = some (.ok first, middle, between) ∧
        next first middle between = some (.ok result, client', after) := by
  unfold andThen
  constructor
  · intro h
    split at h
    · cases h
    · cases h
    · rename_i first middle between hfirst
      exact ⟨first, middle, between, hfirst, h⟩
  · rintro ⟨first, middle, between, hfirst, hnext⟩
    rw [hfirst]
    exact hnext

theorem probe_ok_iff {identity : SettingsDeviceIdentity} :
    probe channel clock fuel client world = some (.ok identity, client', after) ↔
      ∃ response, exchange channel clock fuel identifyRequest .identifyResponse client world =
          some (.ok response, client', after) ∧
        decodeSettingsDeviceIdentity response.payload response.payloadSize.toNat =
          some identity := by
  unfold probe
  rw [andThen_ok_iff]
  constructor
  · rintro ⟨response, middle, between, hexchange, hnext⟩
    cases hdecode : decodeSettingsDeviceIdentity response.payload response.payloadSize.toNat with
    | none =>
      rw [hdecode] at hnext
      cases hnext
    | some received =>
      rw [hdecode] at hnext
      cases hnext
      exact ⟨response, hexchange, hdecode⟩
  · rintro ⟨response, hexchange, hdecode⟩
    refine ⟨response, client', after, hexchange, ?_⟩
    rw [hdecode]
    rfl

theorem read_ok_iff :
    read channel clock fuel client world = some (.ok settings, client', after) ↔
      ∃ response, exchange channel clock fuel readRequest .readResponse client world =
          some (.ok response, client', after) ∧
        response.payloadSize.toNat = userSettingsPayloadSize ∧
        decodeUserSettingsPayload response.payload userSettingsPayloadSize = some settings := by
  unfold read
  rw [andThen_ok_iff]
  constructor
  · rintro ⟨response, middle, between, hexchange, hnext⟩
    split at hnext
    · cases hnext
    rename_i hsize
    cases hdecode : decodeUserSettingsPayload response.payload userSettingsPayloadSize with
    | none =>
      rw [hdecode] at hnext
      cases hnext
    | some received =>
      rw [hdecode] at hnext
      cases hnext
      exact ⟨response, hexchange, Decidable.not_not.1 hsize, hdecode⟩
  · rintro ⟨response, hexchange, hsize, hdecode⟩
    refine ⟨response, client', after, hexchange, ?_⟩
    rw [if_neg (not_not_intro hsize), hdecode]
    rfl

structure Confirmed (settings : UserSettings) (identified written reread : SettingsProtocolFrame) :
    Prop where
  identity : ∃ identity,
    decodeSettingsDeviceIdentity identified.payload identified.payloadSize.toNat = some identity ∧
      hasCapability identity .settingsWrite = true ∧
      hasCapability identity .persistentSettings = true
  written : written.payloadSize = 0
  rereadSize : reread.payloadSize.toNat = userSettingsPayloadSize
  reread : decodeUserSettingsPayload reread.payload userSettingsPayloadSize = some settings

theorem writeAndVerify_ok_iff :
    writeAndVerify channel clocks fuel settings client world = some (.ok (), client', after) ↔
      ∃ payload identified first firstWorld written second secondWorld reread,
        encodeUserSettingsPayload settings = some payload ∧
        Confirmed settings identified written reread ∧
        exchange channel (clocks 0) fuel identifyRequest .identifyResponse client world =
          some (.ok identified, first, firstWorld) ∧
        exchange channel (clocks 1) fuel (writeRequest payload) .writeResponse first firstWorld =
          some (.ok written, second, secondWorld) ∧
        exchange channel (clocks 2) fuel readRequest .readResponse second secondWorld =
          some (.ok reread, client', after) := by
  unfold writeAndVerify
  constructor
  · intro h
    split at h
    · cases h
    obtain ⟨identity, first, firstWorld, hprobe, h⟩ := andThen_ok_iff.1 h
    obtain ⟨identified, hidentify, hidentity⟩ := probe_ok_iff.1 hprobe
    split at h
    · cases h
    rename_i hcapable
    cases hpayload : encodeUserSettingsPayload settings with
    | none =>
      rw [hpayload] at h
      cases h
    | some payload =>
    rw [hpayload] at h
    obtain ⟨written, second, secondWorld, hwrite, h⟩ := andThen_ok_iff.1 h
    split at h
    · cases h
    rename_i hwritten
    obtain ⟨verified, third, thirdWorld, hread, h⟩ := andThen_ok_iff.1 h
    obtain ⟨reread, hreread, hsize, hdecode⟩ := read_ok_iff.1 hread
    split at h
    · cases h
    rename_i hequal
    cases h
    have hsame : settings = verified := userSettingsEqual_iff.1 (by simpa using hequal)
    refine ⟨payload, identified, first, firstWorld, written, second, secondWorld, reread, rfl,
      ⟨⟨identity, hidentity, ?_⟩, Decidable.not_not.1 hwritten, hsize, hsame ▸ hdecode⟩,
      hidentify, hwrite, hreread⟩
    simpa using hcapable
  · rintro ⟨payload, identified, first, firstWorld, written, second, secondWorld, reread, hpayload,
      ⟨⟨identity, hidentity, hwrites, hpersists⟩, hwritten, hsize, hdecode⟩, hidentify, hwrite,
      hreread⟩
    have hvalid : (validateUserSettings settings).valid = true := valid_of_decodeUserSettingsPayload hdecode
    rw [hvalid, if_neg (by decide), andThen_ok_iff]
    refine ⟨identity, first, firstWorld, probe_ok_iff.2 ⟨identified, hidentify, hidentity⟩, ?_⟩
    rw [hwrites, hpersists, if_neg (by decide), hpayload]
    dsimp only
    rw [andThen_ok_iff]
    refine ⟨written, second, secondWorld, hwrite, ?_⟩
    rw [if_neg (not_not_intro hwritten), andThen_ok_iff]
    refine ⟨settings, client', after, read_ok_iff.2 ⟨reread, hreread, hsize, hdecode⟩, ?_⟩
    rw [userSettingsEqual_iff.2 rfl, if_neg (by decide)]
    rfl

/-! Every call returns once the clock is beyond the delay of each response. -/

theorem exchange_returns {deadline : Nat}
    (hdeadline : client.config.responseTimeoutMs ≤ waitedMs clock deadline)
    (hfuel : deadline < fuel) :
    exchange channel clock fuel request type client world ≠ none := by
  unfold exchange allocateRequestId
  dsimp only
  split
  · exact nofun
  split
  · exact nofun
  split
  · exact nofun
  split
  · exact nofun
  · rw [ne_eq, Option.map_eq_none_iff]
    exact receive_returns hdeadline (Nat.zero_le _) (by omega)

theorem andThen_returns {operation : Operation V A} {wrap : String → String}
    {next : A → Operation V B} (hfirst : operation client world ≠ none)
    (hnext : ∀ first middle between, operation client world = some (.ok first, middle, between) →
      next first middle between ≠ none) : andThen operation wrap next client world ≠ none := by
  unfold andThen
  split
  · rename_i hnone
    exact absurd hnone hfirst
  · exact nofun
  · rename_i first middle between hok
    exact hnext first middle between hok

theorem probe_returns {deadline : Nat}
    (hdeadline : client.config.responseTimeoutMs ≤ waitedMs clock deadline)
    (hfuel : deadline < fuel) : probe channel clock fuel client world ≠ none := by
  apply andThen_returns (exchange_returns hdeadline hfuel)
  intro response middle between _
  cases decodeSettingsDeviceIdentity response.payload response.payloadSize.toNat <;> exact nofun

theorem read_returns {deadline : Nat}
    (hdeadline : client.config.responseTimeoutMs ≤ waitedMs clock deadline)
    (hfuel : deadline < fuel) : read channel clock fuel client world ≠ none := by
  apply andThen_returns (exchange_returns hdeadline hfuel)
  intro response middle between _
  split
  · exact nofun
  cases decodeUserSettingsPayload response.payload userSettingsPayloadSize <;> exact nofun

theorem writeAndVerify_returns
    (hdeadline : ∀ index < 3, ∃ deadline < fuel,
      client.config.responseTimeoutMs ≤ waitedMs (clocks index) deadline) :
    writeAndVerify channel clocks fuel settings client world ≠ none := by
  obtain ⟨first, hfirst, hidentify⟩ := hdeadline 0 (by decide)
  obtain ⟨second, hsecond, hwrite⟩ := hdeadline 1 (by decide)
  obtain ⟨third, hthird, hread⟩ := hdeadline 2 (by decide)
  unfold writeAndVerify
  split
  · exact nofun
  apply andThen_returns (probe_returns hidentify hfirst)
  intro identity afterProbe probed hprobe
  obtain ⟨_, hidentified, -⟩ := probe_ok_iff.1 hprobe
  obtain ⟨-, hafterProbe, -⟩ := exchange_ok_iff.1 hidentified
  split
  · exact nofun
  cases encodeUserSettingsPayload settings with
  | none => exact nofun
  | some payload =>
  dsimp only
  apply andThen_returns (exchange_returns (hafterProbe ▸ hwrite) hsecond)
  intro response afterWrite written hexchange
  obtain ⟨-, hafterWrite, -⟩ := exchange_ok_iff.1 hexchange
  split
  · exact nofun
  apply andThen_returns
  · rw [hafterWrite, hafterProbe]
    exact read_returns hread hthird
  · intro verified middle between _
    split <;> exact nofun

end SettingsDeviceClient

end BmwRemote.Host
