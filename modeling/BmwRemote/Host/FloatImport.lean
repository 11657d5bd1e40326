import BmwRemote.Host.ImportRoundTrip
import BmwRemote.Lib.Binary64Rounding

/-! The import with the arithmetic of the tool: the time of a message is a number of 64 bits,
and so are its difference to the first one and the milliseconds that are rounded. -/
namespace BmwRemote.Host.FloatImport

open BmwRemote.Lib CanonicalTrace
open ImportCanTrace (CanMessage bytes RoundTrips roundTrips)

inductive ImportError where
  | valueError (message : String)
  | overflowError (message : String)
  deriving DecidableEq

def relativeMs (firstTimestamp timestamp : ℚ) : Except ImportError ℤ :=
  match ((FloatValue.finite timestamp).minus (.finite firstTimestamp)).scale 1000 with
  | .finite value => .ok (roundHalfEven value)
  | .infinite _ => .error (.overflowError "cannot convert float infinity to integer")
  | .nan => .error (.valueError "cannot convert float NaN to integer")

def canonicalizeMessage (firstTimestamp previousTimestamp : Option ℚ) (message : CanMessage) :
    Except ImportError (ℚ × CanonicalFrame) :=
  match message.timestamp with
  | none => .error (.valueError "message timestamp is missing or invalid")
  | some timestamp =>
    if previousTimestamp.any fun previous => decide (timestamp < previous) then
      .error (.valueError "message timestamps are not monotonic")
    else if message.isErrorFrame || message.isRemoteFrame || message.isFd then
      .error (.valueError "only classic CAN data frames are supported")
    else if message.arbitrationId < 0 ∨ message.arbitrationId > message.maximumIdentifier then
      .error (.valueError "CAN identifier is outside its declared range")
    else do
      let data ← (bytes message.data).mapError .valueError
      if message.dlc ≠ data.length ∨ data.length > 8 then
        .error (.valueError "CAN data length is inconsistent")
      else do
        let relative ← relativeMs (firstTimestamp.getD timestamp) timestamp
        if relative < 0 ∨ relative > uint32Maximum then
          .error (.valueError "relative timestamp is outside uint32 range")
        else
          return (timestamp,
            { timestampMs := relative.toNat
              identifier := message.arbitrationId.toNat
              extended := message.isExtendedId
              data })

def canonicalizeFrom (maximumFrames : Int) (frames : List CanonicalFrame)
    (firstTimestamp previousTimestamp : Option ℚ) :
    List CanMessage → Except ImportError (List CanonicalFrame)
  | [] => .ok frames
  | message :: rest =>
    if maximumFrames ≤ frames.length then .error (.valueError "maximum frame count exceeded")
    else do
      let (timestamp, frame) ← canonicalizeMessage firstTimestamp previousTimestamp message
      canonicalizeFrom maximumFrames (frames ++ [frame])
        (some (firstTimestamp.getD timestamp)) (some timestamp) rest

def canonicalizeMessages (messages : List CanMessage) (maximumFrames : Int) :
    Except ImportError (List CanonicalFrame) :=
  if maximumFrames ≤ 0 then
    .error (.valueError "maximum frame count must be greater than zero")
  else
    match canonicalizeFrom maximumFrames [] none none messages with
    | .error error => .error error
    | .ok [] => .error (.valueError "trace contains no CAN frames")
    | .ok frames => .ok frames

/-! What a message is made into. -/

/-- A message that an importer can make a frame of, but for its time. -/
structure Classic (message : CanMessage) : Prop where
  kind : (message.isErrorFrame || message.isRemoteFrame || message.isFd) = false
  identifier : 0 ≤ message.arbitrationId ∧ message.arbitrationId ≤ message.maximumIdentifier
  data : ∀ value ∈ message.data, 0 ≤ value ∧ value < 256
  dlc : message.dlc = message.data.length
  length : message.data.length ≤ 8

/-- The frame holds what the message does. -/
structure Carries (message : CanMessage) (frame : CanonicalFrame) : Prop where
  identifier : (frame.identifier : Int) = message.arbitrationId
  extended : frame.extended = message.isExtendedId
  data : (frame.data.map fun byte => (byte.toNat : Int)) = message.data

structure Recorded (firstTimestamp timestamp : ℚ) (message : CanMessage) (frame : CanonicalFrame) :
    Prop where
  recorded : message.timestamp = some timestamp
  classic : Classic message
  carries : Carries message frame
  time : relativeMs firstTimestamp timestamp = .ok frame.timestampMs
  bounded : frame.timestampMs ≤ uint32Maximum

section Messages

variable {firstTimestamp previousTimestamp : Option ℚ} {first timestamp : ℚ} {message : CanMessage}
  {frame : CanonicalFrame}

theorem bytes_eq_ok_iff {values : List Int} {data : List UInt8} :
    bytes values = .ok data ↔ (data.map fun byte => (byte.toNat : Int)) = values := by
  unfold bytes
  split
  · rename_i hrange
    rw [Except.ok.injEq]
    constructor
    · rintro rfl
      rw [List.map_map]
      refine (List.map_congr_left fun value hmem => ?_).trans (List.map_id values)
      obtain ⟨hlow, hhigh⟩ := hrange value hmem
      rw [Function.comp_apply, UInt8.toNat_ofNat_of_lt' (show value.toNat < 256 by omega), id_eq]
      exact Int.toNat_of_nonneg hlow
    · rintro rfl
      rw [List.map_map]
      refine (List.map_congr_left fun byte _ => ?_).trans (List.map_id data)
      rw [Function.comp_apply, Int.toNat_natCast, UInt8.ofNat_toNat, id_eq]
  · rename_i hrange
    refine ⟨nofun, ?_⟩
    rintro rfl
    refine absurd ?_ hrange
    rw [List.forall_mem_map]
    intro byte _
    have hlt := byte.toNat_lt
    omega

theorem Recorded.valid (h : Recorded first timestamp message frame) : frame.Valid := by
  obtain ⟨-, hclassic, hcarries, -, hbounded⟩ := h
  refine ⟨hbounded, ?_, ?_⟩
  · have hidentifier := hclassic.identifier.2
    rw [← hcarries.identifier] at hidentifier
    unfold CanonicalFrame.maximumIdentifier
    rw [hcarries.extended]
    exact_mod_cast hidentifier
  · have hlength := hclassic.length
    rwa [← hcarries.data, List.length_map] at hlength

theorem monotonic_iff :
    (previousTimestamp.any fun previous => decide (timestamp < previous)) = false ↔
      ∀ previous ∈ previousTimestamp, previous ≤ timestamp := by
  cases previousTimestamp <;> simp

theorem recorded_of_canonicalizeMessage
    (h : canonicalizeMessage firstTimestamp previousTimestamp message = .ok (timestamp, frame)) :
    (∀ previous ∈ previousTimestamp, previous ≤ timestamp) ∧
      Recorded (firstTimestamp.getD timestamp) timestamp message frame := by
  unfold canonicalizeMessage at h
  split at h
  · cases h
  rename_i hrecorded
  split_ifs at h with hprevious hkind hidentifier
  obtain ⟨data, hdata, h⟩ := bind_eq_ok_iff.mp h
  rw [mapError_eq_ok_iff, bytes_eq_ok_iff] at hdata
  split_ifs at h with hlength
  obtain ⟨relative, hrelative, h⟩ := bind_eq_ok_iff.mp h
  split_ifs at h with hbounds
  cases h
  rw [not_or, not_lt, not_lt] at hidentifier hbounds
  rw [not_or, not_not, not_lt] at hlength
  have hsize : message.data.length = data.length := by rw [← hdata, List.length_map]
  have hnonneg : ((relative.toNat : Nat) : Int) = relative := Int.toNat_of_nonneg hbounds.1
  refine ⟨monotonic_iff.mp (Bool.eq_false_of_not_eq_true hprevious), hrecorded,
    ⟨Bool.eq_false_of_not_eq_true hkind, hidentifier, ?_, ?_, ?_⟩,
    ⟨Int.toNat_of_nonneg hidentifier.1, rfl, hdata⟩, ?_, Int.toNat_le.mpr hbounds.2⟩
  · rw [← hdata, List.forall_mem_map]
    intro byte _
    have hlt := byte.toNat_lt
    omega
  · rw [hlength.1, hsize]
  · rw [hsize]
    exact hlength.2
  · rw [hnonneg]
    exact hrelative

theorem canonicalizeMessage_of_recorded
    (hprevious : ∀ previous ∈ previousTimestamp, previous ≤ timestamp)
    (h : Recorded (firstTimestamp.getD timestamp) timestamp message frame) :
    canonicalizeMessage firstTimestamp previousTimestamp message = .ok (timestamp, frame) := by
  obtain ⟨hrecorded, hclassic, hcarries, htime, hbounded⟩ := h
  unfold canonicalizeMessage
  rw [hrecorded]
  dsimp only
  have hsize : message.data.length = frame.data.length := by
    rw [← hcarries.data, List.length_map]
  rw [monotonic_iff.mpr hprevious, if_neg Bool.false_ne_true, hclassic.kind,
    if_neg Bool.false_ne_true, if_neg (by have := hclassic.identifier; omega),
    mapError_eq_ok_iff.mpr (bytes_eq_ok_iff.mpr hcarries.data)]
  change (if message.dlc ≠ frame.data.length ∨ frame.data.length > 8 then _ else _) = _
  rw [if_neg (by have := hclassic.dlc; have := hclassic.length; omega), htime]
  change (if (frame.timestampMs : Int) < 0 ∨ (frame.timestampMs : Int) > uint32Maximum
    then _ else _) = _
  rw [if_neg (by omega)]
  have hidentifier : message.arbitrationId.toNat = frame.identifier := by
    rw [← hcarries.identifier, Int.toNat_natCast]
  rw [hidentifier, ← hcarries.extended]
  rfl

theorem exists_recorded (hrecorded : message.timestamp = some timestamp)
    (hclassic : Classic message) {milliseconds : ℤ}
    (htime : relativeMs first timestamp = .ok milliseconds)
    (hbounds : 0 ≤ milliseconds ∧ milliseconds ≤ uint32Maximum) :
    ∃ frame, Recorded first timestamp message frame := by
  have hdata := hclassic.data
  cases hbytes : bytes message.data with
  | error error =>
    rw [bytes, if_pos hdata] at hbytes
    cases hbytes
  | ok data =>
    refine ⟨⟨milliseconds.toNat, message.arbitrationId.toNat, message.isExtendedId, data⟩,
      hrecorded, hclassic, ⟨Int.toNat_of_nonneg hclassic.identifier.1, rfl,
        bytes_eq_ok_iff.mp hbytes⟩, ?_, Int.toNat_le.mpr hbounds.2⟩
    rw [htime, Int.toNat_of_nonneg hbounds.1]

end Messages

/-! The time of a frame. -/

section Times

variable {first earlier later : ℚ}

def seconds (first timestamp : ℚ) : FloatValue :=
  (FloatValue.finite timestamp).minus (.finite first)

theorem relativeMs_eq_ok_iff {milliseconds : ℤ} :
    relativeMs first later = .ok milliseconds ↔ ∃ value,
      (seconds first later).scale 1000 = .finite value ∧ milliseconds = roundHalfEven value := by
  unfold relativeMs seconds
  split
  all_goals rename_i hvalue
  all_goals simp [hvalue, eq_comm]

theorem milliseconds_mono (hle : earlier ≤ later) :
    ((seconds first earlier).scale 1000).atMost ((seconds first later).scale 1000) = true :=
  FloatValue.scale_mono (FloatValue.ofRat_mono (sub_le_sub_right hle first))

theorem milliseconds_self (first : ℚ) : (seconds first first).scale 1000 = .finite 0 := by
  change (FloatValue.ofRat (first - first)).scale 1000 = .finite 0
  rw [sub_self, FloatValue.ofRat_zero, FloatValue.scale_zero]

theorem relativeMs_self (first : ℚ) : relativeMs first first = .ok 0 :=
  relativeMs_eq_ok_iff.mpr ⟨0, milliseconds_self first, roundHalfEven_zero.symm⟩

theorem relativeMs_mono (hle : earlier ≤ later) {before after : ℤ}
    (hbefore : relativeMs first earlier = .ok before)
    (hafter : relativeMs first later = .ok after) : before ≤ after := by
  obtain ⟨low, hlow, rfl⟩ := relativeMs_eq_ok_iff.mp hbefore
  obtain ⟨high, hhigh, rfl⟩ := relativeMs_eq_ok_iff.mp hafter
  have hmono := @milliseconds_mono first _ _ hle
  rw [hlow, hhigh, FloatValue.finite_atMost_iff] at hmono
  exact roundHalfEven_mono hmono

/-- Between the first message and one whose time can be told, times can be told. -/
theorem relativeMs_between (hfirst : first ≤ earlier) (hle : earlier ≤ later) {span : ℤ}
    (hspan : relativeMs first later = .ok span) :
    ∃ milliseconds, relativeMs first earlier = .ok milliseconds ∧ 0 ≤ milliseconds ∧
      milliseconds ≤ span := by
  obtain ⟨high, hhigh, -⟩ := relativeMs_eq_ok_iff.mp hspan
  have hlow := @milliseconds_mono first _ _ hfirst
  have hmono := @milliseconds_mono first _ _ hle
  rw [milliseconds_self] at hlow
  rw [hhigh] at hmono
  obtain ⟨value, hvalue, -, -⟩ := FloatValue.finite_of_atMost hlow hmono
  have hearlier := relativeMs_eq_ok_iff.mpr ⟨value, hvalue, rfl⟩
  exact ⟨_, hearlier, relativeMs_mono hfirst (relativeMs_self first) hearlier,
    relativeMs_mono hle hearlier hspan⟩

/-- Two roundings to 53 bits come before the one to a whole number. -/
theorem relativeMs_near (hfirst : first ≤ later) {milliseconds : ℤ}
    (htime : relativeMs first later = .ok milliseconds) (hbound : milliseconds ≤ uint32Maximum) :
    |(milliseconds : ℚ) - (later - first) * 1000| ≤ 1 / 2 + 1 / 100000 := by
  obtain ⟨value, hvalue, rfl⟩ := relativeMs_eq_ok_iff.mp htime
  have hround := abs_le.mp (abs_roundHalfEven_sub value)
  have hlargest : (roundHalfEven value : ℚ) ≤ 0xFFFFFFFF := by exact_mod_cast hbound
  have hdifference : 0 ≤ later - first := sub_nonneg.mpr hfirst
  change (FloatValue.ofRat (later - first)).scale 1000 = .finite value at hvalue
  cases hseconds : FloatValue.ofRat (later - first) with
  | nan | infinite negative =>
    rw [hseconds] at hvalue
    cases hvalue
  | finite seconds =>
    rw [hseconds] at hvalue
    have hnonneg : 0 ≤ seconds := by
      have hmono := FloatValue.ofRat_mono hdifference
      rw [FloatValue.ofRat_zero, hseconds] at hmono
      exact FloatValue.finite_atMost_iff.mp hmono
    have hsubtract := FloatValue.abs_sub_of_ofRat hseconds
    have hmultiply := FloatValue.abs_sub_of_ofRat hvalue
    rw [abs_of_nonneg hdifference, abs_le] at hsubtract
    rw [abs_of_nonneg (mul_nonneg hnonneg (Nat.cast_nonneg _)), abs_le] at hmultiply
    push_cast at hmultiply
    rw [abs_le]
    constructor <;> linarith

/-- Half a millisecond is a little more as a number of 64 bits, and still rounded down. -/
example : relativeMs 0 (4611686018427388 / 2 ^ 63) = .ok 0 ∧
    roundHalfEven (4611686018427388 / 2 ^ 63 * 1000) = 1 := by
  decide +kernel

/-- The frame is the message, at its time behind the first one. -/
def Keeps (first : ℚ) (message : CanMessage) (frame : CanonicalFrame) : Prop :=
  Carries message frame ∧ ∃ timestamp ∈ message.timestamp,
    |(frame.timestampMs : ℚ) - (timestamp - first) * 1000| ≤ 1 / 2 + 1 / 100000

theorem Recorded.keeps {message : CanMessage} {frame : CanonicalFrame}
    (h : Recorded first later message frame) (hfirst : first ≤ later) :
    Keeps first message frame := by
  have hbounded : (frame.timestampMs : ℤ) ≤ uint32Maximum := by
    exact_mod_cast h.bounded
  refine ⟨h.carries, later, h.recorded, ?_⟩
  exact_mod_cast relativeMs_near hfirst h.time hbounded

end Times

/-! The messages one after the other. -/

inductive Imported : Option ℚ → Option ℚ → List CanMessage → List CanonicalFrame → Prop
  | nil {firstTimestamp previousTimestamp : Option ℚ} :
      Imported firstTimestamp previousTimestamp [] []
  | cons {firstTimestamp previousTimestamp : Option ℚ} {timestamp : ℚ} {message : CanMessage}
      {frame : CanonicalFrame} {messages : List CanMessage} {frames : List CanonicalFrame} :
      (∀ previous ∈ previousTimestamp, previous ≤ timestamp) →
      Recorded (firstTimestamp.getD timestamp) timestamp message frame →
      Imported (some (firstTimestamp.getD timestamp)) (some timestamp) messages frames →
      Imported firstTimestamp previousTimestamp (message :: messages) (frame :: frames)

section Runs

variable {firstTimestamp previousTimestamp : Option ℚ} {first previous : ℚ}
  {messages : List CanMessage} {frames result : List CanonicalFrame} {maximumFrames : Int}

theorem canonicalizeFrom_eq_ok_iff :
    canonicalizeFrom maximumFrames frames firstTimestamp previousTimestamp messages = .ok result ↔
      (messages ≠ [] → (frames.length + messages.length : Int) ≤ maximumFrames) ∧
        ∃ imported, result = frames ++ imported ∧
          Imported firstTimestamp previousTimestamp messages imported := by
  induction messages generalizing frames firstTimestamp previousTimestamp with
  | nil =>
    constructor
    · intro h
      cases h
      exact ⟨nofun, [], (List.append_nil _).symm, .nil⟩
    · rintro ⟨-, _, rfl, ⟨⟩⟩
      rw [List.append_nil]
      rfl
  | cons message messages ih =>
    rw [canonicalizeFrom, List.length_cons]
    by_cases hfull : maximumFrames ≤ frames.length
    · rw [if_pos hfull]
      refine ⟨nofun, ?_⟩
      rintro ⟨hfits, -⟩
      have hfits := hfits (List.cons_ne_nil _ _)
      omega
    · rw [if_neg hfull, bind_eq_ok_iff]
      constructor
      · rintro ⟨⟨timestamp, frame⟩, hmessage, hrest⟩
        obtain ⟨hprevious, hrecorded⟩ := recorded_of_canonicalizeMessage hmessage
        obtain ⟨hfits, imported, rfl, himported⟩ := ih.mp hrest
        refine ⟨fun _ => ?_, frame :: imported, List.append_assoc .., .cons hprevious hrecorded
          himported⟩
        by_cases hlast : messages = []
        · subst hlast
          rw [List.length_nil]
          omega
        · have hfits := hfits hlast
          rw [List.length_append, List.length_singleton] at hfits
          omega
      · rintro ⟨hfits, _, rfl, himported⟩
        have hfits := hfits (List.cons_ne_nil _ _)
        cases himported with
        | @cons _ _ timestamp _ frame _ imported hprevious hrecorded himported =>
          refine ⟨(timestamp, frame), canonicalizeMessage_of_recorded hprevious hrecorded,
            ih.mpr ⟨fun _ => ?_, imported, by simp, himported⟩⟩
          rw [List.length_append, List.length_singleton]
          omega

theorem Imported.length (h : Imported firstTimestamp previousTimestamp messages frames) :
    frames.length = messages.length := by
  induction h with
  | nil => rfl
  | cons _ _ _ ih => rw [List.length_cons, List.length_cons, ih]

theorem canonicalizeMessages_eq_ok_iff :
    canonicalizeMessages messages maximumFrames = .ok result ↔
      messages ≠ [] ∧ (messages.length : Int) ≤ maximumFrames ∧
        Imported none none messages result := by
  unfold canonicalizeMessages
  constructor
  · intro h
    split at h
    · cases h
    cases hloop : canonicalizeFrom maximumFrames [] none none messages with
    | error error =>
      rw [hloop] at h
      cases h
    | ok frames =>
      obtain ⟨hfits, imported, rfl, himported⟩ := canonicalizeFrom_eq_ok_iff.mp hloop
      rw [hloop] at h
      cases himported with
      | nil => cases h
      | cons hprevious hrecorded himported =>
        cases h
        refine ⟨List.cons_ne_nil _ _, ?_, .cons hprevious hrecorded himported⟩
        simpa using hfits (List.cons_ne_nil _ _)
  · rintro ⟨hsome, hfits, himported⟩
    have hlength := List.length_pos_of_ne_nil hsome
    have hloop : canonicalizeFrom maximumFrames [] none none messages = .ok result :=
      canonicalizeFrom_eq_ok_iff.mpr ⟨fun _ => by simpa using hfits, result, rfl, himported⟩
    rw [if_neg (by omega), hloop]
    cases himported with
    | nil => exact absurd rfl hsome
    | cons => rfl

/-- The frames that are still to come are no earlier, and in order. -/
theorem Imported.frames_ordered (h : Imported (some first) (some previous) messages frames)
    {milliseconds : ℤ} (hprevious : relativeMs first previous = .ok milliseconds) :
    (∀ frame ∈ frames, milliseconds ≤ frame.timestampMs) ∧
      frames.Pairwise fun earlier later => earlier.timestampMs ≤ later.timestampMs := by
  induction messages generalizing previous frames milliseconds with
  | nil =>
    cases h
    exact ⟨nofun, .nil⟩
  | cons message messages ih =>
    cases h with
    | @cons _ _ timestamp _ frame _ frames hle hrecorded himported =>
      obtain ⟨hlater, hordered⟩ := ih himported hrecorded.time
      have hnext : milliseconds ≤ frame.timestampMs :=
        relativeMs_mono (hle previous rfl) hprevious hrecorded.time
      refine ⟨List.forall_mem_cons.mpr ⟨hnext, fun later hmem => ?_⟩, .cons ?_ hordered⟩
      · exact hnext.trans (hlater later hmem)
      · intro later hmem
        exact_mod_cast hlater later hmem

theorem Imported.valid (h : Imported firstTimestamp previousTimestamp messages frames) :
    ∀ frame ∈ frames, frame.Valid := by
  induction h with
  | nil => nofun
  | cons _ hrecorded _ ih => exact List.forall_mem_cons.mpr ⟨hrecorded.valid, ih⟩

theorem Imported.keeps (h : Imported (some first) (some previous) messages frames)
    (hfirst : first ≤ previous) : List.Forall₂ (Keeps first) messages frames := by
  induction messages generalizing previous frames with
  | nil =>
    cases h
    exact .nil
  | cons message messages ih =>
    cases h with
    | @cons _ _ timestamp _ frame _ frames hle hrecorded himported =>
      have hafter : first ≤ timestamp := hfirst.trans (hle previous rfl)
      exact .cons (hrecorded.keeps hafter) (ih himported hafter)

def Ordered (messages : List CanMessage) : Prop :=
  messages.Pairwise fun earlier later => ∀ before ∈ earlier.timestamp, ∀ after ∈ later.timestamp,
    before ≤ after

theorem exists_imported (hclassic : ∀ message ∈ messages, Classic message)
    (htimes : ∀ message ∈ messages, ∃ timestamp ∈ message.timestamp, previous ≤ timestamp ∧
      ∃ milliseconds, relativeMs first timestamp = .ok milliseconds ∧ 0 ≤ milliseconds ∧
        milliseconds ≤ uint32Maximum)
    (hordered : Ordered messages) :
    ∃ frames, Imported (some first) (some previous) messages frames := by
  induction messages generalizing previous with
  | nil => exact ⟨[], .nil⟩
  | cons message messages ih =>
    rw [List.forall_mem_cons] at hclassic htimes
    have hordered := List.pairwise_cons.mp hordered
    obtain ⟨timestamp, htimestamp, hle, milliseconds, htime, hbounds⟩ := htimes.1
    obtain ⟨frame, hrecorded⟩ := exists_recorded htimestamp hclassic.1 htime hbounds
    have hrest : ∀ later ∈ messages, ∃ after ∈ later.timestamp, timestamp ≤ after ∧
        ∃ milliseconds, relativeMs first after = .ok milliseconds ∧ 0 ≤ milliseconds ∧
          milliseconds ≤ uint32Maximum := by
      intro later hmem
      obtain ⟨after, hafter, -, hmilliseconds⟩ := htimes.2 later hmem
      exact ⟨after, hafter, hordered.1 later hmem timestamp htimestamp after hafter, hmilliseconds⟩
    obtain ⟨frames, himported⟩ := ih hclassic.2 hrest hordered.2
    refine ⟨frame :: frames, .cons ?_ hrecorded himported⟩
    rintro _ ⟨⟩
    exact hle

/-- Only the last message decides whether the times fit. -/
structure Importable (messages : List CanMessage) : Prop where
  some : messages ≠ []
  classic : ∀ message ∈ messages, Classic message
  recorded : ∀ message ∈ messages, message.timestamp ≠ none
  ordered : Ordered messages
  span : ∀ first ∈ messages.head?, ∀ start ∈ first.timestamp, ∀ last ∈ messages.getLast?,
    ∀ finish ∈ last.timestamp, ∃ milliseconds, relativeMs start finish = .ok milliseconds ∧
      milliseconds ≤ uint32Maximum

theorem Imported.of_mem (h : Imported firstTimestamp previousTimestamp messages frames) :
    ∀ message ∈ messages, Classic message ∧ ∃ timestamp ∈ message.timestamp,
      (∀ previous ∈ previousTimestamp, previous ≤ timestamp) ∧
      ∀ first ∈ firstTimestamp, ∃ milliseconds, relativeMs first timestamp = .ok milliseconds ∧
        milliseconds ≤ uint32Maximum := by
  induction h with
  | nil => nofun
  | @cons firstTimestamp _ timestamp message frame _ _ hprevious hrecorded _ ih =>
    rw [List.forall_mem_cons]
    have hbounded : (frame.timestampMs : ℤ) ≤ uint32Maximum := by
      exact_mod_cast hrecorded.bounded
    constructor
    · refine ⟨hrecorded.classic, timestamp, hrecorded.recorded, hprevious, ?_⟩
      rintro first ⟨⟩
      exact ⟨_, hrecorded.time, hbounded⟩
    · intro later hmem
      obtain ⟨hclassic, after, hafter, hle, htime⟩ := ih later hmem
      refine ⟨hclassic, after, hafter, fun previous hbefore => ?_, ?_⟩
      · exact (hprevious previous hbefore).trans (hle timestamp rfl)
      · rintro first ⟨⟩
        exact htime first rfl

theorem Imported.messages_ordered (h : Imported firstTimestamp previousTimestamp messages frames) :
    Ordered messages := by
  induction h with
  | nil => exact .nil
  | @cons _ _ timestamp message _ _ _ _ hrecorded himported ih =>
    refine .cons ?_ ih
    intro later hmem before hbefore after hafter
    obtain ⟨-, other, hother, hle, -⟩ := himported.of_mem later hmem
    rw [Option.mem_unique hafter hother,
      Option.mem_unique hbefore (Option.mem_def.mpr hrecorded.recorded)]
    exact hle timestamp rfl

/-- No message is later than the last one. -/
theorem le_last (hordered : Ordered messages) {last : CanMessage}
    (hlast : last ∈ messages.getLast?) {message : CanMessage} (hmem : message ∈ messages)
    {timestamp finish : ℚ} (htimestamp : timestamp ∈ message.timestamp)
    (hfinish : finish ∈ last.timestamp) : timestamp ≤ finish := by
  obtain ⟨earlier, rfl⟩ := List.getLast?_eq_some_iff.mp hlast
  rcases List.mem_append.mp hmem with hearlier | hsame
  · exact (List.pairwise_append.mp hordered).2.2 message hearlier last
      (List.mem_singleton_self last) timestamp htimestamp finish hfinish
  · rw [List.mem_singleton] at hsame
    subst hsame
    exact (Option.mem_unique htimestamp hfinish).le

theorem importable_of_imported (hsome : messages ≠ []) (h : Imported none none messages frames) :
    Importable messages := by
  refine ⟨hsome, fun message hmem => (h.of_mem message hmem).1, fun message hmem hnone => ?_,
    h.messages_ordered, ?_⟩
  · obtain ⟨-, timestamp, htimestamp, -⟩ := h.of_mem message hmem
    rw [hnone] at htimestamp
    cases htimestamp
  · cases h with
    | nil => exact absurd rfl hsome
    | @cons _ _ timestamp message frame messages frames hprevious hrecorded himported =>
      rintro _ ⟨⟩ start hstart last hlast finish hfinish
      rw [Option.mem_unique hstart (Option.mem_def.mpr hrecorded.recorded)]
      rcases List.mem_cons.mp (List.mem_of_getLast? hlast) with rfl | hmem
      · rw [Option.mem_unique hfinish (Option.mem_def.mpr hrecorded.recorded)]
        exact ⟨0, relativeMs_self timestamp, by decide⟩
      · obtain ⟨-, other, hother, -, htime⟩ := himported.of_mem last hmem
        rw [Option.mem_unique hfinish hother]
        exact htime timestamp rfl

theorem exists_of_importable (h : Importable messages) :
    ∃ frames, Imported none none messages frames := by
  cases messages with
  | nil => exact absurd rfl h.some
  | cons message messages =>
    have hclassic := List.forall_mem_cons.mp h.classic
    have hordered := List.pairwise_cons.mp h.ordered
    obtain ⟨start, hstart⟩ := Option.ne_none_iff_exists'.mp (h.recorded message List.mem_cons_self)
    obtain ⟨frame, hrecorded⟩ := exists_recorded hstart hclassic.1 (relativeMs_self start)
      ⟨le_rfl, by decide⟩
    have hlater : ∀ later ∈ messages, ∃ timestamp ∈ later.timestamp, start ≤ timestamp ∧
        ∃ milliseconds, relativeMs start timestamp = .ok milliseconds ∧ 0 ≤ milliseconds ∧
          milliseconds ≤ uint32Maximum := by
      intro later hmem
      obtain ⟨timestamp, htimestamp⟩ := Option.ne_none_iff_exists'.mp
        (h.recorded later (List.mem_cons_of_mem message hmem))
      have hle := hordered.1 later hmem start hstart timestamp htimestamp
      have hlast := List.getLast?_eq_some_getLast h.some
      obtain ⟨finish, hfinish⟩ := Option.ne_none_iff_exists'.mp
        (h.recorded _ (List.getLast_mem h.some))
      obtain ⟨span, hspan, hbounded⟩ := h.span message rfl start hstart _ hlast finish hfinish
      obtain ⟨milliseconds, htime, hnonneg, hbelow⟩ := relativeMs_between hle
        (le_last h.ordered hlast (List.mem_cons_of_mem message hmem) htimestamp hfinish) hspan
      exact ⟨timestamp, htimestamp, hle, milliseconds, htime, hnonneg, hbelow.trans hbounded⟩
    obtain ⟨frames, himported⟩ := exists_imported hclassic.2 hlater hordered.2
    exact ⟨frame :: frames, .cons nofun hrecorded himported⟩

theorem Imported.inOrder (h : Imported none none messages frames) : InOrder frames := by
  cases h with
  | nil => exact sequence_nil
  | @cons _ _ timestamp _ frame _ frames hprevious hrecorded himported =>
    have hzero : .ok (frame.timestampMs : ℤ) = (.ok 0 : Except ImportError ℤ) :=
      hrecorded.time.symm.trans (relativeMs_self timestamp)
    rw [Except.ok.injEq, Int.natCast_eq_zero] at hzero
    obtain ⟨hlater, hordered⟩ := himported.frames_ordered hrecorded.time
    constructor
    · rintro _ ⟨⟩
      exact hzero
    · refine .cons (fun later hmem => ?_) hordered
      exact_mod_cast hlater later hmem

theorem Imported.keeps_all (hsome : messages ≠ []) (h : Imported none none messages frames) :
    ∃ first ∈ messages.head?, ∃ start ∈ first.timestamp,
      List.Forall₂ (Keeps start) messages frames := by
  cases h with
  | nil => exact absurd rfl hsome
  | @cons _ _ timestamp message frame _ frames hprevious hrecorded himported =>
    exact ⟨message, rfl, timestamp, hrecorded.recorded,
      .cons (hrecorded.keeps le_rfl) (himported.keeps le_rfl)⟩

theorem canonicalizeMessages_spec (h : canonicalizeMessages messages maximumFrames = .ok frames) :
    frames ≠ [] ∧ (frames.length : Int) ≤ maximumFrames ∧ (∀ frame ∈ frames, frame.Valid) ∧
      InOrder frames := by
  obtain ⟨hsome, hfits, himported⟩ := canonicalizeMessages_eq_ok_iff.mp h
  refine ⟨?_, by rwa [himported.length], himported.valid, himported.inOrder⟩
  rw [← List.length_pos_iff, himported.length]
  exact List.length_pos_of_ne_nil hsome

end Runs

/-! The import with exact times. -/

/-- The frame is the message, at the rounded time behind the first one. -/
def Exact (first : ℚ) (message : CanMessage) (frame : CanonicalFrame) : Prop :=
  Carries message frame ∧ ∃ timestamp ∈ message.timestamp,
    (frame.timestampMs : ℤ) = roundHalfEven ((timestamp - first) * 1000)

/-- One frame, but for a millisecond. -/
structure Close (frame other : CanonicalFrame) : Prop where
  identifier : frame.identifier = other.identifier
  extended : frame.extended = other.extended
  data : frame.data = other.data
  time : |(frame.timestampMs : ℤ) - other.timestampMs| ≤ 1

section ExactTimes

variable {firstTimestamp previousTimestamp : Option ℚ} {first timestamp : ℚ} {message : CanMessage}
  {frame : CanonicalFrame} {messages : List CanMessage} {frames result : List CanonicalFrame}
  {maximumFrames : Int}

theorem exact_step
    (h : ImportCanTrace.canonicalizeMessage firstTimestamp previousTimestamp message =
      .ok (timestamp, frame)) :
    message.timestamp = some timestamp ∧ Exact (firstTimestamp.getD timestamp) message frame := by
  have htime := (ImportCanTrace.canonicalizeMessage_spec h).2.2
  unfold ImportCanTrace.canonicalizeMessage at h
  split at h
  · cases h
  rename_i hrecorded
  split_ifs at h with hprevious hkind hidentifier
  obtain ⟨data, hdata, h⟩ := bind_eq_ok_iff.mp h
  dsimp only at h
  split_ifs at h with hlength hrelative
  cases h
  rw [not_or, not_lt] at hidentifier
  exact ⟨hrecorded, ⟨Int.toNat_of_nonneg hidentifier.1, rfl, bytes_eq_ok_iff.mp hdata⟩, _,
    hrecorded, htime⟩

theorem exact_run (h : ImportCanTrace.canonicalizeFrom maximumFrames frames (some first)
    previousTimestamp messages = .ok result) :
    ∃ imported, result = frames ++ imported ∧ List.Forall₂ (Exact first) messages imported := by
  induction messages generalizing frames previousTimestamp with
  | nil =>
    cases h
    exact ⟨[], (List.append_nil _).symm, .nil⟩
  | cons message messages ih =>
    rw [ImportCanTrace.canonicalizeFrom] at h
    split at h
    · cases h
    obtain ⟨⟨timestamp, frame⟩, hmessage, hrest⟩ := bind_eq_ok_iff.mp h
    obtain ⟨imported, rfl, himported⟩ := ih hrest
    exact ⟨frame :: imported, List.append_assoc .., .cons (exact_step hmessage).2 himported⟩

theorem exact_import (h : ImportCanTrace.canonicalizeMessages messages maximumFrames = .ok frames) :
    ∃ head ∈ messages.head?, ∃ start ∈ head.timestamp,
      List.Forall₂ (Exact start) messages frames := by
  unfold ImportCanTrace.canonicalizeMessages at h
  split at h
  · cases h
  cases hloop : ImportCanTrace.canonicalizeFrom maximumFrames [] none none messages with
  | error error =>
    rw [hloop] at h
    cases h
  | ok result =>
    rw [hloop] at h
    cases messages with
    | nil =>
      cases hloop
      cases h
    | cons message messages =>
      rw [ImportCanTrace.canonicalizeFrom] at hloop
      split at hloop
      · cases hloop
      obtain ⟨⟨timestamp, frame⟩, hmessage, hrest⟩ := bind_eq_ok_iff.mp hloop
      obtain ⟨hrecorded, hexact⟩ := exact_step hmessage
      obtain ⟨imported, rfl, himported⟩ := exact_run hrest
      cases h
      exact ⟨message, rfl, timestamp, hrecorded, .cons hexact himported⟩

theorem close_of_exact {exact : CanonicalFrame} (h : Keeps first message frame)
    (hexact : Exact first message exact) : Close frame exact := by
  obtain ⟨hcarries, timestamp, htimestamp, hnear⟩ := h
  obtain ⟨hsame, other, hother, htime⟩ := hexact
  rw [Option.mem_unique hother htimestamp] at htime
  refine ⟨?_, hcarries.extended.trans hsame.extended.symm, ?_, ?_⟩
  · exact_mod_cast hcarries.identifier.trans hsame.identifier.symm
  · have hinjective : Function.Injective fun byte : UInt8 => (byte.toNat : Int) :=
      fun left right h => UInt8.toNat_inj.mp (Int.ofNat_inj.mp h)
    exact List.map_injective_iff.mpr hinjective (hcarries.data.trans hsame.data.symm)
  · have hround := abs_le.mp (abs_roundHalfEven_sub ((timestamp - first) * 1000))
    have hnear := abs_le.mp hnear
    rw [← htime, Int.cast_natCast] at hround
    have hless : |(frame.timestampMs : ℚ) - exact.timestampMs| < 2 := by
      rw [abs_lt]
      constructor <;> linarith
    have hless : |(frame.timestampMs : ℤ) - exact.timestampMs| < 2 := by exact_mod_cast hless
    omega

theorem close_all {exact : List CanonicalFrame} (h : List.Forall₂ (Keeps first) messages frames)
    (hexact : List.Forall₂ (Exact first) messages exact) : List.Forall₂ Close frames exact := by
  induction h generalizing exact with
  | nil =>
    cases hexact
    exact .nil
  | cons hkeeps _ ih =>
    cases hexact with
    | cons hfirst hrest => exact .cons (close_of_exact hkeeps hfirst) (ih hrest)

end ExactTimes

/-- An imported log is the recorded log, whatever was recorded, and it is the one of exact times
but for a millisecond. -/
theorem import_exact (messages : List CanMessage) (maximumFrames : Int) :
    ((∃ frames, canonicalizeMessages messages maximumFrames = .ok frames) ↔
      (messages.length : Int) ≤ maximumFrames ∧ Importable messages) ∧
    ∀ frames, canonicalizeMessages messages maximumFrames = .ok frames →
      (∃ first ∈ messages.head?, ∃ start ∈ first.timestamp,
        List.Forall₂ (Keeps start) messages frames) ∧
      (∀ limit, frames.length ≤ limit → RoundTrips frames limit) ∧
      ∀ exact, ImportCanTrace.canonicalizeMessages messages maximumFrames = .ok exact →
        List.Forall₂ Close frames exact := by
  constructor
  · constructor
    · rintro ⟨frames, himport⟩
      obtain ⟨hsome, hfits, himported⟩ := canonicalizeMessages_eq_ok_iff.mp himport
      exact ⟨hfits, importable_of_imported hsome himported⟩
    · rintro ⟨hfits, himportable⟩
      obtain ⟨frames, himported⟩ := exists_of_importable himportable
      exact ⟨frames, canonicalizeMessages_eq_ok_iff.mpr ⟨himportable.some, hfits, himported⟩⟩
  · intro frames himport
    obtain ⟨hrecorded, -, himported⟩ := canonicalizeMessages_eq_ok_iff.mp himport
    obtain ⟨hsome, -, hvalid, hordered⟩ := canonicalizeMessages_spec himport
    obtain ⟨first, hfirst, start, hstart, hkeeps⟩ := himported.keeps_all hrecorded
    refine ⟨⟨first, hfirst, start, hstart, hkeeps⟩, fun limit => roundTrips hsome hvalid hordered,
      fun exact hexact => ?_⟩
    obtain ⟨head, hhead, begin, hbegin, hall⟩ := exact_import hexact
    rw [Option.mem_unique hhead hfirst] at hbegin
    rw [Option.mem_unique hbegin hstart] at hall
    exact close_all hkeeps hall

end BmwRemote.Host.FloatImport
