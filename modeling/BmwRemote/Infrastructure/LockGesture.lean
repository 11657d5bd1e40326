import BmwRemote.Application.LockCommandStep
import BmwRemote.Infrastructure.CanLockCommandAdapter
import BmwRemote.Lib.Transcript
import Mathlib.Data.List.Chain

/-! A remote start request stands for a gesture on the bus: enough presses, each
seen on a trusted frame, at the right pace, and nothing that cleared them. -/
namespace BmwRemote.Infrastructure

open BmwRemote.Application BmwRemote.Lib

namespace CanLockCommandAdapter

structure Continues (adapter : CanLockCommandAdapter) (frame : CanFrame) : Prop where
  initialized : adapter.initialized = true
  identifier : frame.identifier = adapter.config.identifier
  extended : frame.extended = adapter.config.extended
  dataLength : frame.dataLength = adapter.config.dataLength
  time : frame.timestampMilliseconds = adapter.lastTimestampMs ∨
    strictlyNewer frame.timestampMilliseconds adapter.lastTimestampMs = true
  counter : adapter.config.rollingCounter.distance
    (adapter.config.rollingCounter.extract frame) adapter.lastRawCounter ≠ 0
  counterOrder : adapter.config.rollingCounter.distance
    (adapter.config.rollingCounter.extract frame) adapter.lastRawCounter <
      adapter.config.rollingCounter.modulus / 2

inductive Decoded (adapter : CanLockCommandAdapter) (frame : CanFrame) :
    CanLockDecodeResult → CanLockCommandAdapter → Prop
  | disabled (henabled : adapter.config.enabled = false) :
      Decoded adapter frame ⟨.disabled, {}⟩ adapter
  | ignored : Decoded adapter frame ⟨.ignored, {}⟩ adapter
  | rejected (status : CanLockDecodeStatus) (hstatus : status.requiresGestureReset = true) :
      Decoded adapter frame ⟨status, {}⟩ adapter.reset
  | primed (henabled : adapter.config.enabled = true) (hfirst : adapter.initialized = false) :
      Decoded adapter frame ⟨.primed, {}⟩ (adapter.tracked frame 0)
  | noCommand (distance : UInt16) (henabled : adapter.config.enabled = true)
      (hcontinues : adapter.Continues frame) :
      Decoded adapter frame ⟨.noCommand, {}⟩ (adapter.tracked frame distance)
  | evidence (distance : UInt16) (evidence : LockCommandEvidence)
      (henabled : adapter.config.enabled = true) (hcontinues : adapter.Continues frame)
      (hcommand : adapter.config.lockCommand.matchesFrame frame = true)
      (hedge : adapter.lastCommandActive = false) (htrust : evidence.trust = adapter.config.trust)
      (htime : evidence.observedAtMs = frame.timestampMilliseconds)
      (hsecured : evidence.vehicleSecured = adapter.config.vehicleSecured.matchesFrame frame) :
      Decoded adapter frame ⟨.evidenceProduced, evidence⟩ (adapter.tracked frame distance)

theorem process_decoded (adapter : CanLockCommandAdapter) (frame : CanFrame) :
    Decoded adapter frame (adapter.process frame).1 (adapter.process frame).2 := by
  unfold process
  dsimp only
  split
  · rename_i henabled
    exact .disabled (by simpa using henabled)
  rename_i henabled
  rw [Bool.not_eq_true, Bool.not_eq_false'] at henabled
  split
  · exact .rejected .rejectedInvalidConfiguration rfl
  split
  · exact .rejected .rejectedInvalidFrame rfl
  split
  · exact .ignored
  rename_i hidentity
  rw [not_or, not_not, not_not] at hidentity
  split
  · exact .rejected .rejectedInvalidFrame rfl
  rename_i hlength
  rw [not_not] at hlength
  split
  · exact .rejected .rejectedTimestampRegression rfl
  rename_i htime
  unfold decode
  dsimp only
  split
  · rename_i hfirst
    exact .primed henabled (by simpa using hfirst)
  rename_i hinitialized
  rw [Bool.not_eq_true, Bool.not_eq_false'] at hinitialized
  split
  · exact .rejected .rejectedDuplicateCounter rfl
  rename_i hcounter
  split
  · exact .rejected .rejectedOutOfOrderCounter rfl
  rename_i horder
  have hnewer : frame.timestampMilliseconds = adapter.lastTimestampMs ∨
      strictlyNewer frame.timestampMilliseconds adapter.lastTimestampMs = true := by
    simpa [hinitialized, or_iff_not_imp_left] using htime
  have hcontinues : adapter.Continues frame :=
    ⟨hinitialized, hidentity.1, hidentity.2, hlength, hnewer, hcounter, UInt16.not_le.1 horder⟩
  split
  · exact .noCommand _ henabled hcontinues
  · rename_i hedge
    rw [Bool.not_eq_true, Bool.not_eq_false', Bool.and_eq_true] at hedge
    exact .evidence _ _ henabled hcontinues hedge.1 (by simpa using hedge.2) rfl rfl rfl

theorem Decoded.config {adapter after : CanLockCommandAdapter} {frame : CanFrame}
    {result : CanLockDecodeResult} (h : Decoded adapter frame result after) :
    after.config = adapter.config := by
  cases h <;> rfl

end CanLockCommandAdapter

namespace CanLockCommandPipeline

structure Input where
  frame : CanFrame
  nowMs : UInt32

def machine : Machine CanLockCommandPipeline Input CanLockPipelineResult :=
  fun pipeline input => pipeline.process input.frame input.nowMs

abbrev Call := Step CanLockCommandPipeline Input CanLockPipelineResult

def frameOf (call : Call) : CanFrame := call.input.frame

def timeOf (call : Call) : UInt32 := (frameOf call).timestampMilliseconds

def Ignored (call : Call) : Prop := call.output.decodeStatus = .ignored

def Recognised (call : Call) : Prop :=
  call.output.decodeStatus = .primed ∨ call.output.decodeStatus = .noCommand ∨
    call.output.decodeStatus = .evidenceProduced

/-- The call forgot every press that was counted before it. -/
def Clears (call : Call) : Prop :=
  call.output.decodeStatus.requiresGestureReset = true ∨
    call.output.commandEvaluated = true ∧ (call.output.command.status.clearsDetector = true ∨
      call.output.command.status = .remoteStartRequested)

/-- `previous` is the last recognised frame, and nothing but ignored frames came since. -/
def Preceded (past : List Call) (previous : Call) : Prop :=
  Recognised previous ∧ ∃ since, Since (fun call => ¬ Ignored call) past previous since

variable (config : CanLockCommandAdapterConfig) (gateConfig : LockCommandGateConfig)

/-- A press of the gesture, after the calls `past`. -/
structure IsPress (past : List Call) (press : Call) : Prop where
  identifier : (frameOf press).identifier = config.identifier
  extended : (frameOf press).extended = config.extended
  dataLength : (frameOf press).dataLength = config.dataLength
  command : config.lockCommand.matchesFrame (frameOf press) = true
  edge : ∃ previous, Preceded past previous ∧
    config.lockCommand.matchesFrame (frameOf previous) = false
  secured : config.vehicleSecured.matchesFrame (frameOf press) = true
  trust : config.trust = .verified
  age : press.input.nowMs - timeOf press ≤ gateConfig.maximumEvidenceAgeMs

def Follows (past : List Call) (call : Call) : Prop :=
  ∃ previous, Preceded past previous ∧
    (timeOf call = timeOf previous ∨ strictlyNewer (timeOf call) (timeOf previous) = true) ∧
    config.rollingCounter.distance (config.rollingCounter.extract (frameOf call))
      (config.rollingCounter.extract (frameOf previous)) ≠ 0 ∧
    config.rollingCounter.distance (config.rollingCounter.extract (frameOf call))
      (config.rollingCounter.extract (frameOf previous)) < config.rollingCounter.modulus / 2

def Paced (sequence : LockSequenceConfig) (earlier later : Nat × Call) : Prop :=
  earlier.1 < later.1 ∧ sequence.minimumGapMs ≤ timeOf later.2 - timeOf earlier.2 ∧
    timeOf later.2 - timeOf earlier.2 ≤ sequence.maximumGapMs

/-- Presses of a run with their positions: each at the right pace after the one
before, and every frame since the first was foreign or continued the last one. -/
structure Gathered (calls : List Call) (presses : List (Nat × Call)) : Prop where
  press : ∀ press ∈ presses, calls[press.1]? = some press.2 ∧
    IsPress config gateConfig (calls.take press.1) press.2
  paced : presses.IsChain (Paced gateConfig.sequence)
  followed : ∀ first ∈ presses.head?, ∀ position call, first.1 < position →
    calls[position]? = some call → Ignored call ∨ Follows config (calls.take position) call

def Uncleared (calls : List Call) (presses : List (Nat × Call)) : Prop :=
  ∀ first ∈ presses.head?, ∀ position call, first.1 ≤ position →
    calls[position]? = some call → ¬ Clears call

/-- The detector counts these presses. -/
structure Counted (detector : LockSequenceDetector) (presses : List (Nat × Call)) : Prop where
  count : presses.length = detector.pressCount.toNat
  first : ∀ first ∈ presses.head?, timeOf first.2 = detector.firstPressTimestampMs
  last : ∀ last ∈ presses.getLast?, timeOf last.2 = detector.lastPressTimestampMs

structure Tracks (adapter : CanLockCommandAdapter) (calls : List Call) : Prop where
  enabled : adapter.config.enabled = true
  last : ∃ previous, Preceded calls previous ∧ timeOf previous = adapter.lastTimestampMs ∧
    adapter.config.rollingCounter.extract (frameOf previous) = adapter.lastRawCounter ∧
    adapter.config.lockCommand.matchesFrame (frameOf previous) = adapter.lastCommandActive

/-- What every state of a run of the pipeline keeps. -/
structure Watched (pipeline : CanLockCommandPipeline) (calls : List Call) : Prop where
  adapterConfig : pipeline.adapter.config = config
  gateConfig_eq : pipeline.gate.config = gateConfig
  detectorConfig : pipeline.gate.detector.config = gateConfig.sequence
  tracks : pipeline.adapter.initialized = true → Tracks pipeline.adapter calls
  gathered : pipeline.gate.detector.pressCount ≠ 0 →
    pipeline.adapter.initialized = true ∧
      pipeline.gate.detector.pressCount < gateConfig.sequence.requiredPresses ∧
      ∃ presses, Gathered config gateConfig calls presses ∧ Uncleared calls presses ∧
        Counted pipeline.gate.detector presses

variable {config gateConfig} {calls : List Call} {call : Call} {presses : List (Nat × Call)}

theorem Preceded.here (h : Recognised call) : Preceded (calls ++ [call]) call := by
  refine ⟨h, [], Since.here ?_⟩
  rintro hignored
  unfold Recognised at h
  rw [show call.output.decodeStatus = .ignored from hignored] at h
  simp at h

theorem Preceded.concat {previous : Call} (h : Preceded calls previous) (hcall : Ignored call) :
    Preceded (calls ++ [call]) previous := by
  rcases h with ⟨hrecognised, since, hsince⟩
  exact ⟨hrecognised, since ++ [call], hsince.concat (not_not_intro hcall)⟩

theorem Gathered.lt_length (h : Gathered config gateConfig calls presses) {press : Nat × Call}
    (hmem : press ∈ presses) : press.1 < calls.length :=
  (List.getElem?_eq_some_iff.1 (h.press press hmem).1).1

theorem Gathered.nil : Gathered config gateConfig calls [] := ⟨by simp, .nil, by simp⟩

theorem Gathered.concat (h : Gathered config gateConfig calls presses)
    (hcall : Ignored call ∨ Follows config calls call) :
    Gathered config gateConfig (calls ++ [call]) presses := by
  refine ⟨fun press hmem => ?_, h.paced, fun first hfirst position next hlt hnext => ?_⟩
  · rw [List.take_append_of_le_length (Nat.le_of_lt (h.lt_length hmem))]
    exact ⟨getElem?_concat_eq_some.2 (.inl (h.press press hmem).1), (h.press press hmem).2⟩
  · rcases getElem?_concat_eq_some.1 hnext with hold | ⟨hlast, hcallNext⟩
    · have hposition := (List.getElem?_eq_some_iff.1 hold).1
      rw [List.take_append_of_le_length (Nat.le_of_lt hposition)]
      exact h.followed first hfirst position next hlt hold
    · rw [hlast, List.take_left, ← hcallNext]
      exact hcall

theorem Gathered.extend (h : Gathered config gateConfig calls presses)
    (hpress : IsPress config gateConfig calls call) (hfollows : Follows config calls call)
    (hpaced : ∀ last ∈ presses.getLast?, Paced gateConfig.sequence last (calls.length, call)) :
    Gathered config gateConfig (calls ++ [call]) (presses ++ [(calls.length, call)]) := by
  have hconcat := h.concat (.inr hfollows)
  refine ⟨fun press hmem => ?_, ?_, fun first hfirst position next hlt hnext => ?_⟩
  · rcases List.mem_append.1 hmem with hmem | hmem
    · exact hconcat.press press hmem
    · rw [List.mem_singleton] at hmem
      subst hmem
      rw [List.take_left]
      exact ⟨getElem?_concat_eq_some.2 (.inr ⟨rfl, rfl⟩), hpress⟩
  · rw [List.isChain_append]
    refine ⟨h.paced, .singleton _, fun last hlast new hnew => ?_⟩
    cases hnew
    exact hpaced last hlast
  · cases presses with
    | nil =>
      cases hfirst
      have hposition := (List.getElem?_eq_some_iff.1 hnext).1
      rw [List.length_append] at hposition
      simp at hposition hlt
      omega
    | cons head rest => exact hconcat.followed first hfirst position next hlt hnext

theorem Uncleared.concat (h : Uncleared calls presses) (hcall : ¬ Clears call) :
    Uncleared (calls ++ [call]) presses := by
  intro first hfirst position next hle hnext
  rcases getElem?_concat_eq_some.1 hnext with hold | ⟨-, hnext⟩
  · exact h first hfirst position next hle hold
  · rw [← hnext]
    exact hcall

theorem Uncleared.extend (h : Uncleared calls presses) :
    Uncleared calls (presses ++ [(calls.length, call)]) := by
  intro first hfirst position next hle hnext
  cases presses with
  | nil =>
    cases hfirst
    have hposition := (List.getElem?_eq_some_iff.1 hnext).1
    exact absurd hle (Nat.not_le.2 hposition)
  | cons head rest => exact h first hfirst position next hle hnext

theorem Tracks.follows {adapter : CanLockCommandAdapter} (h : Tracks adapter calls)
    (hconfig : adapter.config = config) (hcontinues : adapter.Continues (frameOf call)) :
    Follows config calls call := by
  rcases h.last with ⟨previous, hpreceded, htime, hcounter, -⟩
  subst hconfig
  refine ⟨previous, hpreceded, ?_, ?_, ?_⟩
  · rw [htime]
    exact hcontinues.time
  · rw [hcounter]
    exact hcontinues.counter
  · rw [hcounter]
    exact hcontinues.counterOrder

theorem Tracks.here {adapter : CanLockCommandAdapter} (henabled : adapter.config.enabled = true)
    (hcall : Recognised call) (distance : UInt16) :
    Tracks (adapter.tracked (frameOf call) distance) (calls ++ [call]) :=
  ⟨henabled, call, Preceded.here hcall, rfl, rfl, rfl⟩

theorem Tracks.concat {adapter : CanLockCommandAdapter} (h : Tracks adapter calls)
    (hcall : Ignored call) : Tracks adapter (calls ++ [call]) := by
  rcases h.last with ⟨previous, hpreceded, hlast⟩
  exact ⟨h.enabled, previous, hpreceded.concat hcall, hlast⟩

theorem Gathered.pressed (h : Gathered config gateConfig calls presses)
    {detector : LockSequenceDetector} (hcounted : Counted detector presses)
    (hconfig : detector.config = gateConfig.sequence)
    (hpress : IsPress config gateConfig calls call) (hfollows : Follows config calls call)
    (hminimum : detector.config.minimumGapMs ≤ timeOf call - detector.lastPressTimestampMs)
    (hmaximum : timeOf call - detector.lastPressTimestampMs ≤ detector.config.maximumGapMs) :
    Gathered config gateConfig (calls ++ [call]) (presses ++ [(calls.length, call)]) := by
  apply h.extend hpress hfollows
  intro last hlast
  rw [hconfig, ← hcounted.last last hlast] at hminimum hmaximum
  exact ⟨h.lt_length (List.mem_of_getLast? hlast), hminimum, hmaximum⟩

theorem Counted.ne_nil {detector : LockSequenceDetector} (h : Counted detector presses)
    (hcount : detector.pressCount ≠ 0) : presses ≠ [] := by
  intro hnil
  have hzero := h.count
  rw [hnil, List.length_nil] at hzero
  exact hcount (UInt8.toNat_inj.1 hzero.symm)

/-- What a run keeps of its gesture, when the detector counted one more press. -/
theorem Counted.pressed {detector : LockSequenceDetector} (h : Counted detector presses)
    (hcount : detector.pressCount ≠ 0)
    (hbound : detector.pressCount < detector.config.requiredPresses) :
    Counted (detector.pressed (timeOf call)) (presses ++ [(calls.length, call)]) := by
  refine ⟨?_, fun first hfirst => ?_, fun last hlast => ?_⟩
  · rw [List.length_append, h.count]
    exact (toNat_add_one_of_lt hbound).symm
  · cases presses with
    | nil => exact absurd rfl (h.ne_nil hcount)
    | cons head rest => exact h.first first hfirst
  · rw [List.getLast?_concat] at hlast
    cases hlast
    rfl

theorem Counted.started (detector : LockSequenceDetector) :
    Counted (detector.started (timeOf call)) [(calls.length, call)] := by
  refine ⟨rfl, fun first hfirst => ?_, fun last hlast => ?_⟩
  · cases hfirst
    rfl
  · cases hlast
    rfl

inductive Processed (pipeline : CanLockCommandPipeline) (input : Input) :
    CanLockPipelineResult → CanLockCommandPipeline → Prop
  | decoded (result : CanLockDecodeResult) (adapter : CanLockCommandAdapter)
      (hdecoded : pipeline.adapter.Decoded input.frame result adapter)
      (hevidence : result.status ≠ .evidenceProduced)
      (hreset : result.status.requiresGestureReset = false) :
      Processed pipeline input { decodeStatus := result.status } ⟨adapter, pipeline.gate⟩
  | rejected (status : CanLockDecodeStatus) (adapter : CanLockCommandAdapter)
      (hconfig : adapter.config = pipeline.adapter.config)
      (hstatus : status.requiresGestureReset = true) (hadapter : adapter.initialized = false) :
      Processed pipeline input { decodeStatus := status } ⟨adapter, pipeline.gate.reset⟩
  | judged (evidence : LockCommandEvidence) (adapter : CanLockCommandAdapter)
      (command : LockCommandDecision) (gate : LockCommandGate)
      (hdecoded : pipeline.adapter.Decoded input.frame ⟨.evidenceProduced, evidence⟩ adapter)
      (hjudged : pipeline.gate.Judged evidence input.nowMs command.status gate) :
      Processed pipeline input ⟨.evidenceProduced, command, true⟩ ⟨adapter, gate⟩

theorem machine_processed (pipeline : CanLockCommandPipeline) (input : Input) :
    Processed pipeline input (machine pipeline input).1 (machine pipeline input).2 := by
  have hdecoded := pipeline.adapter.process_decoded input.frame
  unfold machine process
  dsimp only
  generalize pipeline.adapter.process input.frame = decoded at hdecoded ⊢
  rcases decoded with ⟨⟨status, evidence⟩, adapter⟩
  cases hdecoded with
  | disabled henabled => exact .decoded ⟨.disabled, {}⟩ _ (.disabled henabled) (by decide) rfl
  | ignored => exact .decoded ⟨.ignored, {}⟩ _ .ignored (by decide) rfl
  | rejected _ hstatus =>
    have hnone : (⟨status, {}⟩ : CanLockDecodeResult).hasEvidence = false := by
      cases status <;> first | rfl | cases hstatus
    simp only [hstatus, hnone, ↓reduceIte, Bool.not_false]
    exact .rejected status _ rfl hstatus rfl
  | primed henabled hfirst =>
    exact .decoded ⟨.primed, {}⟩ _ (.primed henabled hfirst) (by decide) rfl
  | noCommand distance henabled hcontinues =>
    exact .decoded ⟨.noCommand, {}⟩ _ (.noCommand distance henabled hcontinues) (by decide) rfl
  | evidence distance evidence henabled hcontinues hcommand hedge htrust htime hsecured =>
    exact .judged evidence _ _ _
      (.evidence distance evidence henabled hcontinues hcommand hedge htrust htime hsecured)
      (pipeline.gate.process_judged evidence input.nowMs)

variable {pipeline after : CanLockCommandPipeline}

theorem Watched.isPress (h : Watched config gateConfig pipeline calls)
    {evidence : LockCommandEvidence} {adapter : CanLockCommandAdapter}
    (hdecoded : pipeline.adapter.Decoded (frameOf call) ⟨.evidenceProduced, evidence⟩ adapter)
    (htrust : evidence.trust = .verified) (hsecured : evidence.vehicleSecured = true)
    (hage : call.input.nowMs - evidence.observedAtMs ≤ pipeline.gate.config.maximumEvidenceAgeMs) :
    IsPress config gateConfig calls call ∧ Follows config calls call ∧
      evidence.observedAtMs = timeOf call := by
  have hconfig := h.adapterConfig
  cases hdecoded with
  | rejected _ hstatus => cases hstatus
  | evidence _ _ _ hcontinues hcommand hedge htrusted htime hmatches =>
    have htracks := h.tracks hcontinues.initialized
    refine ⟨?_, htracks.follows hconfig hcontinues, htime⟩
    rcases htracks.last with ⟨previous, hpreceded, -, -, hactive⟩
    subst hconfig
    refine ⟨hcontinues.identifier, hcontinues.extended, hcontinues.dataLength, hcommand,
      ⟨previous, hpreceded, hactive.trans hedge⟩, ?_, ?_, ?_⟩
    · rw [← hmatches, hsecured]
    · rw [← htrusted, htrust]
    · rw [h.gateConfig_eq, htime] at hage
      exact hage

theorem not_clears_of_decoded {status : CanLockDecodeStatus}
    (houtput : call.output = { decodeStatus := status })
    (hreset : status.requiresGestureReset = false) : ¬ Clears call := by
  simp [Clears, houtput, hreset]

theorem not_clears_of_observed {result : LockPressResult} {command : LockCommandDecision}
    (houtput : call.output = ⟨.evidenceProduced, command, true⟩)
    (hstatus : LockCommandGate.statusOf result = command.status)
    (hcompleted : result ≠ .sequenceCompleted) (hresult : result ≠ .invalidConfiguration) :
    ¬ Clears call := by
  unfold Clears
  rw [houtput, ← hstatus]
  cases result with
  | sequenceCompleted => exact absurd rfl hcompleted
  | invalidConfiguration => exact absurd rfl hresult
  | _ =>
    rintro (hreset | ⟨-, hclears | hrequested⟩)
    · cases hreset
    · cases hclears
    · cases hrequested

theorem Watched.keeps (h : Watched config gateConfig pipeline calls)
    (hcount : pipeline.gate.detector.pressCount ≠ 0) (hclear : ¬ Clears call)
    (hfollows : Ignored call ∨ Follows config calls call) :
    pipeline.gate.detector.pressCount < gateConfig.sequence.requiredPresses ∧
      ∃ presses, Gathered config gateConfig (calls ++ [call]) presses ∧
        Uncleared (calls ++ [call]) presses ∧ Counted pipeline.gate.detector presses := by
  rcases h.gathered hcount with ⟨-, hbound, presses, hgathered, huncleared, hcounted⟩
  exact ⟨hbound, presses, hgathered.concat hfollows, huncleared.concat hclear, hcounted⟩

theorem Watched.observed (h : Watched config gateConfig pipeline calls)
    {detector : LockSequenceDetector} {result : LockPressResult}
    (hobserved : pipeline.gate.detector.Observed (timeOf call) result detector)
    (hresult : result ≠ .sequenceCompleted → ¬ Clears call)
    (hpress : IsPress config gateConfig calls call) (hfollows : Follows config calls call)
    (hcount : detector.pressCount ≠ 0) :
    detector.pressCount < gateConfig.sequence.requiredPresses ∧
      ∃ presses, Gathered config gateConfig (calls ++ [call]) presses ∧
        Uncleared (calls ++ [call]) presses ∧ Counted detector presses := by
  cases hobserved with
  | invalid => exact absurd rfl hcount
  | completedAtOnce => exact absurd rfl hcount
  | completed => exact absurd rfl hcount
  | debounced => exact h.keeps hcount (hresult (by decide)) (.inr hfollows)
  | started _ hcompleted hmore =>
    rw [h.detectorConfig] at hmore
    refine ⟨hmore, [(calls.length, call)], ?_, ?_, Counted.started _⟩
    · exact Gathered.nil.extend hpress hfollows (by simp)
    · have hnone : Uncleared calls [] := by
        intro first hfirst
        cases hfirst
      exact hnone.extend.concat (hresult hcompleted)
  | pressed hbefore hminimum hmaximum hmore =>
    rcases h.gathered hbefore with ⟨-, hbound, presses, hgathered, huncleared, hcounted⟩
    rw [h.detectorConfig] at hmore
    refine ⟨hmore, presses ++ [(calls.length, call)], ?_, ?_, ?_⟩
    · exact hgathered.pressed hcounted h.detectorConfig hpress hfollows hminimum hmaximum
    · exact huncleared.extend.concat (hresult (by decide))
    · exact hcounted.pressed hbefore (h.detectorConfig ▸ hbound)

theorem Watched.step (h : Watched config gateConfig pipeline calls)
    {result : CanLockPipelineResult} (houtput : call.output = result)
    (hprocessed : Processed pipeline call.input result after) :
    Watched config gateConfig after (calls ++ [call]) := by
  cases hprocessed with
  | decoded result adapter hdecoded hevidence hreset =>
    have hclear : ¬ Clears call := not_clears_of_decoded houtput hreset
    have hstatus : call.output.decodeStatus = result.status := congrArg (·.decodeStatus) houtput
    cases hdecoded with
    | rejected _ hrejects => exact absurd (hreset.symm.trans hrejects) (by decide)
    | evidence => exact absurd rfl hevidence
    | disabled henabled =>
      have hoff : pipeline.adapter.initialized ≠ true := by
        intro hinitialized
        rw [(h.tracks hinitialized).enabled] at henabled
        cases henabled
      refine ⟨h.adapterConfig, h.gateConfig_eq, h.detectorConfig, fun hon => absurd hon hoff, ?_⟩
      intro hcount
      exact absurd (h.gathered hcount).1 hoff
    | ignored =>
      refine ⟨h.adapterConfig, h.gateConfig_eq, h.detectorConfig, ?_, fun hcount => ?_⟩
      · exact fun hinitialized => (h.tracks hinitialized).concat hstatus
      · exact ⟨(h.gathered hcount).1, h.keeps hcount hclear (.inl hstatus)⟩
    | primed henabled hfirst =>
      refine ⟨h.adapterConfig, h.gateConfig_eq, h.detectorConfig, ?_, fun hcount => ?_⟩
      · exact fun _ => Tracks.here henabled (.inl hstatus) 0
      · have hinitialized := (h.gathered hcount).1
        rw [hfirst] at hinitialized
        cases hinitialized
    | noCommand distance henabled hcontinues =>
      have hfollows := (h.tracks hcontinues.initialized).follows h.adapterConfig hcontinues
      refine ⟨h.adapterConfig, h.gateConfig_eq, h.detectorConfig, ?_, fun hcount => ⟨rfl, ?_⟩⟩
      · exact fun _ => Tracks.here henabled (.inr (.inl hstatus)) distance
      · exact h.keeps hcount hclear (.inr hfollows)
  | rejected status adapter hconfig hstatus hadapter =>
    refine ⟨hconfig.trans h.adapterConfig, h.gateConfig_eq, h.detectorConfig, ?_, ?_⟩
    · intro hinitialized
      rw [hadapter] at hinitialized
      cases hinitialized
    · intro hcount
      exact absurd rfl hcount
  | judged evidence adapter command gate hdecoded hjudged =>
    have hstatus : call.output.decodeStatus = .evidenceProduced :=
      congrArg (·.decodeStatus) houtput
    have htracks : Tracks adapter (calls ++ [call]) := by
      cases hdecoded with
      | rejected _ hrejects => cases hrejects
      | evidence distance _ henabled => exact Tracks.here henabled (.inr (.inr hstatus)) distance
    have hinitialized : adapter.initialized = true := by
      cases hdecoded with
      | rejected _ hrejects => cases hrejects
      | evidence => rfl
    have hgate := hjudged.config
    refine ⟨hdecoded.config.trans h.adapterConfig, hgate.1.trans h.gateConfig_eq,
      hgate.2.trans h.detectorConfig, fun _ => htracks, fun hcount => ⟨hinitialized, ?_⟩⟩
    generalize hcommand : command.status = judgement at hjudged
    cases hjudged with
    | rejected _ _ _ _ _ hzero => exact absurd hzero hcount
    | observed result _ htrust hsecured hage _ hobserved hresult =>
      rcases h.isPress hdecoded htrust hsecured hage with ⟨hpress, hfollows, htime⟩
      rw [htime] at hobserved
      apply h.observed hobserved _ hpress hfollows hcount
      intro hcompleted
      exact not_clears_of_observed houtput hcommand.symm hcompleted hresult

theorem watched_new (config : CanLockCommandAdapterConfig) (gateConfig : LockCommandGateConfig) :
    Watched config gateConfig (new config gateConfig) [] :=
  ⟨rfl, rfl, rfl, nofun, fun hcount => absurd rfl hcount⟩

theorem watched_step (config : CanLockCommandAdapterConfig) (gateConfig : LockCommandGateConfig)
    (pipeline : CanLockCommandPipeline) (calls : List Call)
    (h : Watched config gateConfig pipeline calls) (input : Input) :
    Watched config gateConfig (machine pipeline input).2
      (calls ++ [machine.stepOf pipeline input]) :=
  h.step rfl (machine_processed pipeline input)

theorem Watched.completed (h : Watched config gateConfig pipeline calls)
    {detector : LockSequenceDetector}
    (hobserved : pipeline.gate.detector.Observed (timeOf call) .sequenceCompleted detector)
    (hpress : IsPress config gateConfig calls call) (hfollows : Follows config calls call) :
    ∃ presses, presses.length = gateConfig.sequence.requiredPresses.toNat ∧
      presses.getLast? = some (calls.length, call) ∧
      Gathered config gateConfig (calls ++ [call]) presses ∧ Uncleared calls presses ∧
      ∀ first ∈ presses.head?,
        timeOf call - timeOf first.2 ≤ gateConfig.sequence.maximumSequenceMs := by
  cases hobserved with
  | started _ hcompleted => exact absurd rfl hcompleted
  | completedAtOnce hone =>
    rw [h.detectorConfig] at hone
    refine ⟨[(calls.length, call)], ?_, rfl, ?_, ?_, fun first hfirst => ?_⟩
    · rw [hone]
      rfl
    · exact Gathered.nil.extend hpress hfollows (by simp)
    · have hnone : Uncleared calls [] := by
        intro first hfirst
        cases hfirst
      exact hnone.extend
    · cases hfirst
      rw [UInt32.sub_self]
      exact UInt32.zero_le
  | completed hcount hminimum hmaximum htotal hdone =>
    rcases h.gathered hcount with ⟨-, hbound, presses, hgathered, huncleared, hcounted⟩
    have hconfig := h.detectorConfig
    refine ⟨presses ++ [(calls.length, call)], ?_, List.getLast?_concat,
      hgathered.pressed hcounted hconfig hpress hfollows hminimum hmaximum, huncleared.extend,
      fun first hfirst => ?_⟩
    · rw [List.length_append, hcounted.count, List.length_singleton, ← hconfig]
      rw [hconfig] at hdone
      have hnext := toNat_add_one_of_lt hbound
      rw [UInt8.le_iff_toNat_le, hnext] at hdone
      rw [UInt8.lt_iff_toNat_lt] at hbound
      rw [hconfig]
      omega
    · cases presses with
      | nil => exact absurd rfl (hcounted.ne_nil hcount)
      | cons head rest =>
        rw [hconfig, ← hcounted.first first hfirst] at htotal
        exact htotal

/-- Whenever the gate asks for a remote start, the calls so far end in a gesture:
the required presses, the last of them in this call, none cleared since the first,
all at the right pace and within the time of one sequence. -/
theorem remote_start_gesture (config : CanLockCommandAdapterConfig)
    (gateConfig : LockCommandGateConfig) (inputs : List Input) {past future : List Call}
    {call : Call}
    (hrun : machine.transcript (new config gateConfig) inputs = past ++ call :: future)
    (hrequested : call.output.command.status = .remoteStartRequested) :
    ∃ presses, presses.length = gateConfig.sequence.requiredPresses.toNat ∧
      presses.getLast? = some (past.length, call) ∧
      Gathered config gateConfig (past ++ [call]) presses ∧ Uncleared past presses ∧
      ∀ first ∈ presses.head?,
        timeOf call - timeOf first.2 ≤ gateConfig.sequence.maximumSequenceMs := by
  rcases machine.history_at (Watched config gateConfig) (watched_new config gateConfig)
    (watched_step config gateConfig) hrun with ⟨hwatched, hcall⟩
  have hprocessed := machine_processed call.before call.input
  have houtput : call.output = (machine call.before call.input).1 := congrArg (·.output) hcall
  rw [houtput] at hrequested
  generalize (machine call.before call.input).1 = result at hprocessed hrequested
  generalize (machine call.before call.input).2 = after at hprocessed
  cases hprocessed with
  | decoded => cases hrequested
  | rejected => cases hrequested
  | judged evidence adapter command gate hdecoded hjudged =>
    rw [show command.status = .remoteStartRequested from hrequested] at hjudged
    generalize hstatus : LockCommandStatus.remoteStartRequested = status at hjudged
    cases hjudged with
    | rejected _ _ hclears =>
      subst hstatus
      cases hclears
    | observed result _ htrust hsecured hage _ hobserved =>
      have hresult : result = .sequenceCompleted := by
        cases result with
        | sequenceCompleted => rfl
        | _ => cases hstatus
      rcases hwatched.isPress hdecoded htrust hsecured hage with ⟨hpress, hfollows, htime⟩
      rw [htime, hresult] at hobserved
      exact hwatched.completed hobserved hpress hfollows

def lockAdapterConfig : CanLockCommandAdapterConfig where
  enabled := true
  trust := .verified
  identifier := 0x100
  dataLength := 3
  lockCommand := ⟨0, 1, 1⟩
  vehicleSecured := ⟨1, 1, 1⟩
  rollingCounter := ⟨2, 0x0F⟩

def lockInput (timeMs : Nat) (command counter : UInt8) : Input where
  frame := { timestampUs := UInt64.ofNat (1000 * timeMs), identifier := 0x100, dataLength := 3,
             data := #v[command, 1, counter, 0, 0, 0, 0, 0] }
  nowMs := UInt32.ofNat timeMs

def twoPresses : List Input :=
  [lockInput 0 0 0, lockInput 100 1 1, lockInput 200 0 2, lockInput 300 1 3, lockInput 400 0 4]

theorem remote_start_gesture_thirdPress :
    ∃ presses : List (Nat × Call), presses.length = 3 ∧
      presses.getLast? = some (5, machine.stepOf
        (machine.final (new lockAdapterConfig) twoPresses) (lockInput 500 1 5)) := by
  rcases remote_start_gesture lockAdapterConfig {} (twoPresses ++ [lockInput 500 1 5])
    (machine.transcript_concat (new lockAdapterConfig) twoPresses (lockInput 500 1 5))
    (by decide) with ⟨presses, hlength, hlast, -⟩
  exact ⟨presses, hlength, hlast⟩

end CanLockCommandPipeline

end BmwRemote.Infrastructure
