import BmwRemote.Host.TraceFormat
import BmwRemote.Lib.Rounding

/-! The import of a recorded log. The times of its messages are exact fractions of seconds
here; those of the frames are whole milliseconds since the first message. -/
namespace BmwRemote.Host.ImportCanTrace

open BmwRemote.Infrastructure BmwRemote.Lib CanonicalTrace

structure CanMessage where
  /-- None where the time is missing or not finite. -/
  timestamp : Option ℚ
  arbitrationId : Int
  isExtendedId : Bool := false
  isErrorFrame : Bool := false
  isRemoteFrame : Bool := false
  isFd : Bool := false
  dlc : Int
  data : List Int

def CanMessage.maximumIdentifier (message : CanMessage) : Nat :=
  if message.isExtendedId then 0x1FFFFFFF else 0x7FF

def bytes (values : List Int) : Except String (List UInt8) :=
  if ∀ value ∈ values, 0 ≤ value ∧ value < 256 then
    .ok (values.map fun value => UInt8.ofNat value.toNat)
  else .error "bytes must be in range(0, 256)"

/-- The frame of one message, and its time, behind those of the first message and of the one
before. Times are exact fractions here; `FloatImport` has the floats that the source computes
with. -/
def canonicalizeMessage (firstTimestamp previousTimestamp : Option ℚ) (message : CanMessage) :
    Except String (ℚ × CanonicalFrame) :=
  match message.timestamp with
  | none => .error "message timestamp is missing or invalid"
  | some timestamp =>
    if previousTimestamp.any fun previous => decide (timestamp < previous) then
      .error "message timestamps are not monotonic"
    else if message.isErrorFrame || message.isRemoteFrame || message.isFd then
      .error "only classic CAN data frames are supported"
    else if message.arbitrationId < 0 ∨ message.arbitrationId > message.maximumIdentifier then
      .error "CAN identifier is outside its declared range"
    else do
      let data ← bytes message.data
      if message.dlc ≠ data.length ∨ data.length > 8 then
        .error "CAN data length is inconsistent"
      else
        let relativeMs := roundHalfEven ((timestamp - firstTimestamp.getD timestamp) * 1000)
        if relativeMs < 0 ∨ relativeMs > uint32Maximum then
          .error "relative timestamp is outside uint32 range"
        else
          return (timestamp,
            { timestampMs := relativeMs.toNat
              identifier := message.arbitrationId.toNat
              extended := message.isExtendedId
              data })

def canonicalizeFrom (maximumFrames : Int) (frames : List CanonicalFrame)
    (firstTimestamp previousTimestamp : Option ℚ) :
    List CanMessage → Except String (List CanonicalFrame)
  | [] => .ok frames
  | message :: rest =>
    if maximumFrames ≤ frames.length then .error "maximum frame count exceeded"
    else do
      let (timestamp, frame) ← canonicalizeMessage firstTimestamp previousTimestamp message
      canonicalizeFrom maximumFrames (frames ++ [frame])
        (some (firstTimestamp.getD timestamp)) (some timestamp) rest

def canonicalizeMessages (messages : List CanMessage) (maximumFrames : Int) :
    Except String (List CanonicalFrame) :=
  if maximumFrames ≤ 0 then .error "maximum frame count must be greater than zero"
  else
    match canonicalizeFrom maximumFrames [] none none messages with
    | .error message => .error message
    | .ok [] => .error "trace contains no CAN frames"
    | .ok frames => .ok frames

section Frames

variable {firstTimestamp previousTimestamp : Option ℚ} {message : CanMessage} {timestamp : ℚ}
  {frame : CanonicalFrame}

theorem canonicalizeMessage_spec
    (h : canonicalizeMessage firstTimestamp previousTimestamp message = .ok (timestamp, frame)) :
    frame.Valid ∧ (∀ previous ∈ previousTimestamp, previous ≤ timestamp) ∧
      (frame.timestampMs : Int) =
        roundHalfEven ((timestamp - firstTimestamp.getD timestamp) * 1000) := by
  unfold canonicalizeMessage at h
  split at h
  · cases h
  split_ifs at h with hprevious hkind hidentifier
  obtain ⟨data, -, h⟩ := bind_eq_ok_iff.mp h
  dsimp only at h
  split_ifs at h with hlength hrelative
  cases h
  rw [not_or, not_lt, not_lt] at hidentifier hrelative
  rw [not_or, not_lt] at hlength
  refine ⟨⟨?_, ?_, hlength.2⟩, ?_, Int.toNat_of_nonneg hrelative.1⟩
  · exact Int.toNat_le.mpr hrelative.2
  · exact Int.toNat_le.mpr hidentifier.2
  · intro previous hmem
    rw [Option.mem_def] at hmem
    subst hmem
    simpa using hprevious

/-- The frames of the messages so far, and the times of the first and the last of these. -/
structure Progress (frames : List CanonicalFrame) (firstTimestamp previousTimestamp : Option ℚ) :
    Prop where
  valid : ∀ frame ∈ frames, frame.Valid
  ordered : InOrder frames
  fresh : frames = [] → firstTimestamp = none
  times : ∀ last ∈ frames.getLast?, ∃ first previous, firstTimestamp = some first ∧
    previousTimestamp = some previous ∧
    (last.timestampMs : Int) = roundHalfEven ((previous - first) * 1000)

theorem Progress.next {frames : List CanonicalFrame}
    (hprogress : Progress frames firstTimestamp previousTimestamp)
    (h : canonicalizeMessage firstTimestamp previousTimestamp message = .ok (timestamp, frame)) :
    Progress (frames ++ [frame]) (some (firstTimestamp.getD timestamp)) (some timestamp) := by
  obtain ⟨hvalid, hprevious, htime⟩ := canonicalizeMessage_spec h
  refine ⟨?_, hprogress.ordered.concat ?_ ?_, by simp, ?_⟩
  · rw [List.forall_mem_append]
    exact ⟨hprogress.valid, by simpa using hvalid⟩
  · intro hnil
    rw [hprogress.fresh hnil, Option.getD_none, sub_self, zero_mul, roundHalfEven_zero] at htime
    exact_mod_cast htime
  · intro last hlast
    obtain ⟨first, previous, rfl, rfl, hlastTime⟩ := hprogress.times last hlast
    have hle : previous ≤ timestamp := hprevious previous rfl
    rw [Option.getD_some] at htime
    have hround : roundHalfEven ((previous - first) * 1000) ≤
        roundHalfEven ((timestamp - first) * 1000) := roundHalfEven_mono (by linarith)
    omega
  · intro last hlast
    rw [List.getLast?_concat, Option.mem_some_iff] at hlast
    subst hlast
    exact ⟨_, _, rfl, rfl, htime⟩

theorem progress_of_canonicalizeFrom {maximumFrames : Int} {frames result : List CanonicalFrame}
    {messages : List CanMessage} (hprogress : Progress frames firstTimestamp previousTimestamp)
    (h : canonicalizeFrom maximumFrames frames firstTimestamp previousTimestamp messages =
      .ok result) :
    ∃ first previous, Progress result first previous := by
  induction messages generalizing frames firstTimestamp previousTimestamp with
  | nil =>
    cases h
    exact ⟨_, _, hprogress⟩
  | cons message messages ih =>
    rw [canonicalizeFrom] at h
    split at h
    · cases h
    · obtain ⟨⟨timestamp, frame⟩, hmessage, hrest⟩ := bind_eq_ok_iff.mp h
      exact ih (hprogress.next hmessage) hrest

theorem canonicalizeMessages_spec {messages : List CanMessage} {maximumFrames : Int}
    {frames : List CanonicalFrame} (h : canonicalizeMessages messages maximumFrames = .ok frames) :
    frames ≠ [] ∧ (∀ frame ∈ frames, frame.Valid) ∧ InOrder frames := by
  unfold canonicalizeMessages at h
  split at h
  · cases h
  cases hloop : canonicalizeFrom maximumFrames [] none none messages with
  | error message =>
    rw [hloop] at h
    cases h
  | ok result =>
    obtain ⟨_, _, hprogress⟩ := progress_of_canonicalizeFrom
      ⟨by simp, sequence_nil, fun _ => rfl, by simp⟩ hloop
    rw [hloop] at h
    cases result with
    | nil => cases h
    | cons frame others =>
      cases h
      exact ⟨by simp, hprogress.valid, hprogress.ordered⟩

end Frames

end BmwRemote.Host.ImportCanTrace
