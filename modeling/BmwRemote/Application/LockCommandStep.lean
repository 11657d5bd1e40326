import BmwRemote.Application.LockCommandGate

/-! Everything one press can do to the detector and one evidence to the gate. -/
namespace BmwRemote.Application

open BmwRemote.Lib

/-- The statuses of `LockCommandGate::reject`. A debounced press is refused too,
but the detector keeps its count. -/
def LockCommandStatus.clearsDetector : LockCommandStatus → Bool
  | .pressAccepted | .sequenceRestarted | .remoteStartRequested | .rejectedTiming => false
  | _ => true

theorem LockCommandDecision.accepted_or_debounced_iff (decision : LockCommandDecision) :
    decision.accepted = true ∨ decision.status = .rejectedTiming ↔
      decision.status.clearsDetector = false := by
  rcases decision with ⟨status⟩
  cases status <;> simp [accepted, LockCommandStatus.clearsDetector]

theorem toNat_add_one_of_lt {count bound : UInt8} (h : count < bound) :
    (count + 1).toNat = count.toNat + 1 := by
  rw [UInt8.lt_iff_toNat_lt] at h
  have hbound := bound.toNat_lt
  rw [UInt8.toNat_add]
  apply Nat.mod_eq_of_lt
  change count.toNat + 1 < 2 ^ 8
  omega

namespace LockSequenceDetector

/-- Everything one press can do to the detector. -/
inductive Observed (detector : LockSequenceDetector) (timestampMs : UInt32) :
    LockPressResult → LockSequenceDetector → Prop
  | invalid : Observed detector timestampMs .invalidConfiguration detector.reset
  | debounced : Observed detector timestampMs .ignoredDebounce detector
  | started (result : LockPressResult) (hresult : result ≠ .sequenceCompleted)
      (hmore : 1 < detector.config.requiredPresses) :
      Observed detector timestampMs result (detector.started timestampMs)
  | completedAtOnce (hone : detector.config.requiredPresses = 1) :
      Observed detector timestampMs .sequenceCompleted (detector.started timestampMs).reset
  | pressed (hcount : detector.pressCount ≠ 0)
      (hminimum : detector.config.minimumGapMs ≤ timestampMs - detector.lastPressTimestampMs)
      (hmaximum : timestampMs - detector.lastPressTimestampMs ≤ detector.config.maximumGapMs)
      (hmore : detector.pressCount + 1 < detector.config.requiredPresses) :
      Observed detector timestampMs .accepted (detector.pressed timestampMs)
  | completed (hcount : detector.pressCount ≠ 0)
      (hminimum : detector.config.minimumGapMs ≤ timestampMs - detector.lastPressTimestampMs)
      (hmaximum : timestampMs - detector.lastPressTimestampMs ≤ detector.config.maximumGapMs)
      (htotal : timestampMs - detector.firstPressTimestampMs ≤ detector.config.maximumSequenceMs)
      (hdone : detector.config.requiredPresses ≤ detector.pressCount + 1) :
      Observed detector timestampMs .sequenceCompleted (detector.pressed timestampMs).reset

theorem started_observed (detector : LockSequenceDetector) (timestampMs : UInt32)
    (hvalid : detector.config.isValid = true) (result : LockPressResult)
    (hresult : result ≠ .sequenceCompleted) :
    Observed detector timestampMs ((detector.started timestampMs).concluded result).1
      ((detector.started timestampMs).concluded result).2 := by
  unfold concluded
  split
  · rename_i hmore
    exact .started result hresult hmore
  · rename_i hdone
    have hmore : ¬ 1 < detector.config.requiredPresses := hdone
    apply Observed.completedAtOnce
    have hpositive : detector.config.requiredPresses ≠ 0 := by
      simp only [LockSequenceConfig.isValid, Bool.and_eq_true, bne_iff_ne] at hvalid
      exact hvalid.1.1.1
    rw [UInt8.lt_iff_toNat_lt] at hmore
    rw [ne_eq, ← UInt8.toNat_inj] at hpositive
    rw [← UInt8.toNat_inj]
    simp at hmore hpositive ⊢
    omega

theorem observe_observed (detector : LockSequenceDetector) (timestampMs : UInt32) :
    Observed detector timestampMs (detector.observe timestampMs).1
      (detector.observe timestampMs).2 := by
  unfold observe
  dsimp only
  split
  · exact .invalid
  rename_i hvalid
  rw [Bool.not_eq_true, Bool.not_eq_false'] at hvalid
  split
  · exact started_observed detector timestampMs hvalid .accepted (by decide)
  rename_i hcount
  split
  · exact .debounced
  rename_i hminimum
  split
  · exact started_observed detector timestampMs hvalid .sequenceRestarted (by decide)
  rename_i hpace
  rw [not_or] at hpace
  unfold concluded
  split
  · rename_i hmore
    exact .pressed hcount (UInt32.not_lt.1 hminimum) (UInt32.not_lt.1 hpace.1) hmore
  · rename_i hmore
    exact .completed hcount (UInt32.not_lt.1 hminimum) (UInt32.not_lt.1 hpace.1)
      (UInt32.not_lt.1 hpace.2) (UInt8.not_lt.1 hmore)

theorem concluded_ne_invalid (detector : LockSequenceDetector) {result : LockPressResult}
    (hresult : result ≠ .invalidConfiguration) :
    (detector.concluded result).1 ≠ .invalidConfiguration := by
  unfold concluded
  split
  · exact hresult
  · exact nofun

theorem observe_ne_invalid (detector : LockSequenceDetector) (timestampMs : UInt32)
    (hvalid : detector.config.isValid = true) :
    (detector.observe timestampMs).1 ≠ .invalidConfiguration := by
  unfold observe
  dsimp only
  rw [hvalid]
  split
  · contradiction
  split
  · exact concluded_ne_invalid _ (by decide)
  split
  · exact nofun
  split
  · exact concluded_ne_invalid _ (by decide)
  · exact concluded_ne_invalid _ (by decide)

theorem Observed.config {detector after : LockSequenceDetector} {timestampMs : UInt32}
    {result : LockPressResult} (h : Observed detector timestampMs result after) :
    after.config = detector.config := by
  cases h <;> rfl

end LockSequenceDetector

namespace LockCommandGate

inductive Judged (gate : LockCommandGate) (evidence : LockCommandEvidence) (nowMs : UInt32) :
    LockCommandStatus → LockCommandGate → Prop
  | rejected (status : LockCommandStatus) (after : LockCommandGate)
      (hstatus : status.clearsDetector = true) (hconfig : after.config = gate.config)
      (hdetector : after.detector.config = gate.detector.config)
      (hcount : after.detector.pressCount = 0) : Judged gate evidence nowMs status after
  | observed (result : LockPressResult) (after : LockCommandGate)
      (htrust : evidence.trust = .verified) (hsecured : evidence.vehicleSecured = true)
      (hage : nowMs - evidence.observedAtMs ≤ gate.config.maximumEvidenceAgeMs)
      (hconfig : after.config = gate.config)
      (hobserved : gate.detector.Observed evidence.observedAtMs result after.detector)
      (hresult : result ≠ .invalidConfiguration) :
      Judged gate evidence nowMs (statusOf result) after

theorem judged_reject {gate : LockCommandGate} (rejecting : LockCommandGate)
    (evidence : LockCommandEvidence) (nowMs : UInt32) (status : LockCommandStatus)
    (hstatus : status.clearsDetector = true) (hconfig : rejecting.config = gate.config)
    (hdetector : rejecting.detector.config = gate.detector.config) :
    Judged gate evidence nowMs (rejecting.reject status).1.status (rejecting.reject status).2 :=
  .rejected status _ hstatus hconfig hdetector rfl

theorem orderFault_clears {gate : LockCommandGate} {evidence : LockCommandEvidence}
    {status : LockCommandStatus} (h : gate.orderFault evidence = some status) :
    status.clearsDetector = true := by
  unfold orderFault at h
  split at h
  · split at h
    · cases h
      rfl
    split at h
    · cases h
      rfl
    split at h
    · cases h
      rfl
    · cases h
  · cases h

def clocked (gate : LockCommandGate) (nowMs : UInt32) : LockCommandGate :=
  { gate with lastNowMs := nowMs, clockInitialized := true }

/-- The three ways out of `process`: a refusal before the clock is taken over, a refusal
after it, and the detector. -/
theorem process_cases (gate : LockCommandGate) (evidence : LockCommandEvidence)
    (nowMs : UInt32) :
    (∃ status, status.clearsDetector = true ∧
      gate.process evidence nowMs = gate.reject status) ∨
    (∃ status, status.clearsDetector = true ∧
      gate.process evidence nowMs = (gate.clocked nowMs).reject status) ∨
    (gate.process evidence nowMs = (gate.clocked nowMs).observe evidence ∧
      gate.config.isValid = true ∧ evidence.trust = .verified ∧
      evidence.vehicleSecured = true ∧
      nowMs - evidence.observedAtMs ≤ gate.config.maximumEvidenceAgeMs ∧
      gate.orderFault evidence = none) := by
  unfold process
  split
  · exact .inl ⟨_, rfl, rfl⟩
  rename_i hvalid
  split
  · exact .inl ⟨_, rfl, rfl⟩
  dsimp only
  split
  · exact .inr (.inl ⟨_, rfl, rfl⟩)
  rename_i htrust
  split
  · exact .inr (.inl ⟨_, rfl, rfl⟩)
  split
  · exact .inr (.inl ⟨_, rfl, rfl⟩)
  rename_i hsecured
  split
  · exact .inr (.inl ⟨_, rfl, rfl⟩)
  split
  · exact .inr (.inl ⟨_, rfl, rfl⟩)
  rename_i hage
  split
  · rename_i status hstatus
    have hstatus : gate.orderFault evidence = some status := hstatus
    exact .inr (.inl ⟨status, orderFault_clears hstatus, rfl⟩)
  · rename_i horder
    rw [not_or, not_not] at htrust
    rw [Bool.not_eq_true, Bool.not_eq_false'] at hvalid hsecured
    exact .inr (.inr ⟨rfl, hvalid, htrust.1, hsecured, UInt32.not_lt.1 hage, horder⟩)

theorem process_judged (gate : LockCommandGate) (evidence : LockCommandEvidence)
    (nowMs : UInt32) :
    Judged gate evidence nowMs (gate.process evidence nowMs).1.status
      (gate.process evidence nowMs).2 := by
  rcases gate.process_cases evidence nowMs with
    ⟨status, hclears, h⟩ | ⟨status, hclears, h⟩ | ⟨h, -, htrust, hsecured, hage, -⟩
  · rw [h]
    exact judged_reject gate evidence nowMs status hclears rfl rfl
  · rw [h]
    exact judged_reject (gate.clocked nowMs) evidence nowMs status hclears rfl rfl
  · rw [h]
    have hobserved := gate.detector.observe_observed evidence.observedAtMs
    unfold observe
    dsimp only
    split
    · exact .rejected _ _ rfl rfl hobserved.config rfl
    · rename_i hresult
      exact .observed _ _ htrust hsecured hage rfl hobserved hresult

theorem observe_of_valid (gate : LockCommandGate) (evidence : LockCommandEvidence)
    (hvalid : gate.detector.config.isValid = true) :
    gate.observe evidence =
      (⟨statusOf (gate.detector.observe evidence.observedAtMs).1⟩,
        { gate with
          detector := (gate.detector.observe evidence.observedAtMs).2
          lastSourceSequence := evidence.sourceSequence
          lastEvidenceTimestampMs := evidence.observedAtMs
          evidenceInitialized := true }) := by
  have hresult := gate.detector.observe_ne_invalid evidence.observedAtMs hvalid
  unfold observe
  dsimp only
  rw [if_neg hresult]

theorem statusOf_clears {result : LockPressResult} (h : result ≠ .invalidConfiguration) :
    (statusOf result).clearsDetector = false := by
  cases result with
  | invalidConfiguration => contradiction
  | _ => rfl

theorem process_atOnce (gate : LockCommandGate) (evidence : LockCommandEvidence)
    (hconfig : gate.config.isValid = true) (htrust : evidence.trust = .verified)
    (hsource : evidence.source = .vehicleAdapter) :
    gate.process evidence evidence.observedAtMs =
      if gate.clockInitialized && (evidence.observedAtMs != gate.lastNowMs &&
          !strictlyNewer evidence.observedAtMs gate.lastNowMs) then
        gate.reject .rejectedClockRegression
      else
        let gate := gate.clocked evidence.observedAtMs
        if !evidence.vehicleSecured then gate.reject .rejectedVehicleNotSecured
        else
          match gate.orderFault evidence with
          | some status => gate.reject status
          | none => gate.observe evidence := by
  have hfuture : isFuture evidence.observedAtMs evidence.observedAtMs = false := by
    simp [isFuture]
  have hage : ¬ evidence.observedAtMs - evidence.observedAtMs >
      gate.config.maximumEvidenceAgeMs := by
    rw [UInt32.sub_self]
    exact UInt32.not_lt_zero
  unfold process
  simp only [hconfig, htrust, hsource, hfuture, hage, Bool.not_true, Bool.and_assoc, ne_eq,
    not_true_eq_false, reduceCtorEq, false_and, or_self, Bool.false_eq_true, ↓reduceIte]
  rfl

theorem orderFault_eq_none_iff (gate : LockCommandGate) (evidence : LockCommandEvidence) :
    gate.orderFault evidence = none ↔ (gate.evidenceInitialized = true →
      strictlyNewer evidence.sourceSequence gate.lastSourceSequence = true ∧
        strictlyNewer evidence.observedAtMs gate.lastEvidenceTimestampMs = true) := by
  have hself : ∀ word, strictlyNewer word word = false := by simp [strictlyNewer]
  unfold orderFault
  by_cases hinitialized : gate.evidenceInitialized = true
  · rw [if_pos hinitialized]
    by_cases hsequence : evidence.sourceSequence = gate.lastSourceSequence
    · simp [hsequence, hself, hinitialized]
    rw [if_neg hsequence]
    by_cases horder : strictlyNewer evidence.sourceSequence gate.lastSourceSequence = true
    · by_cases htime : evidence.observedAtMs = gate.lastEvidenceTimestampMs
      · simp [horder, htime, hself, hinitialized]
      · simp [horder, htime, hinitialized]
    · simp [horder, hinitialized]
  · simp [hinitialized]

def clockRegressed (gate : LockCommandGate) (nowMs : UInt32) : Bool :=
  gate.clockInitialized && (nowMs != gate.lastNowMs && !strictlyNewer nowMs gate.lastNowMs)

inductive Ruled (gate : LockCommandGate) (evidence : LockCommandEvidence) :
    LockCommandStatus → LockCommandGate → Prop
  | regressed (hclock : gate.clockRegressed evidence.observedAtMs = true) :
      Ruled gate evidence .rejectedClockRegression { gate with detector := gate.detector.reset }
  | refused (status : LockCommandStatus) (hclock : gate.clockRegressed evidence.observedAtMs = false)
      (hclears : status.clearsDetector = true) (hstatus : status ≠ .rejectedClockRegression)
      (hreason : evidence.vehicleSecured = true → gate.orderFault evidence ≠ none) :
      Ruled gate evidence status
        { gate.clocked evidence.observedAtMs with detector := gate.detector.reset }
  | heard (status : LockCommandStatus) (detector : LockSequenceDetector)
      (hclock : gate.clockRegressed evidence.observedAtMs = false)
      (hclears : status.clearsDetector = false) (horder : gate.orderFault evidence = none)
      (hdetector : detector.config = gate.detector.config) :
      Ruled gate evidence status
        { gate.clocked evidence.observedAtMs with
          detector := detector
          lastSourceSequence := evidence.sourceSequence
          lastEvidenceTimestampMs := evidence.observedAtMs
          evidenceInitialized := true }

theorem orderFault_ne_regressed {gate : LockCommandGate} {evidence : LockCommandEvidence}
    {status : LockCommandStatus} (h : gate.orderFault evidence = some status) :
    status ≠ .rejectedClockRegression := by
  unfold orderFault at h
  rintro rfl
  split at h
  · split at h
    · cases h
    split at h
    · cases h
    split at h
    · cases h
    · cases h
  · cases h

theorem process_ruled (gate : LockCommandGate) (evidence : LockCommandEvidence)
    (hconfig : gate.config.isValid = true) (hdetector : gate.detector.config = gate.config.sequence)
    (htrust : evidence.trust = .verified) (hsource : evidence.source = .vehicleAdapter) :
    Ruled gate evidence (gate.process evidence evidence.observedAtMs).1.status
      (gate.process evidence evidence.observedAtMs).2 := by
  rw [process_atOnce gate evidence hconfig htrust hsource]
  split
  · rename_i hclock
    exact .regressed hclock
  rename_i hclock
  have hclock : gate.clockRegressed evidence.observedAtMs = false := Bool.not_eq_true _ ▸ hclock
  dsimp only
  split
  · rename_i hsecured
    rw [Bool.not_eq_true'] at hsecured
    refine .refused .rejectedVehicleNotSecured hclock rfl (by decide) fun htrue => ?_
    rw [hsecured] at htrue
    contradiction
  split
  · rename_i status horder
    have horder : gate.orderFault evidence = some status := horder
    exact .refused status hclock (orderFault_clears horder) (orderFault_ne_regressed horder)
      fun _ => by simp [horder]
  · rename_i horder
    have hvalid : gate.detector.config.isValid = true := by
      rw [hdetector]
      unfold LockCommandGateConfig.isValid at hconfig
      simp only [Bool.and_eq_true] at hconfig
      exact hconfig.1.1
    rw [observe_of_valid (gate.clocked evidence.observedAtMs) evidence hvalid]
    exact .heard _ _ hclock
      (statusOf_clears (gate.detector.observe_ne_invalid evidence.observedAtMs hvalid)) horder
      (gate.detector.observe_observed evidence.observedAtMs).config

theorem Judged.config {gate after : LockCommandGate} {evidence : LockCommandEvidence}
    {nowMs : UInt32} {status : LockCommandStatus} (h : Judged gate evidence nowMs status after) :
    after.config = gate.config ∧ after.detector.config = gate.detector.config := by
  cases h with
  | rejected _ _ _ hconfig hdetector => exact ⟨hconfig, hdetector⟩
  | observed _ _ _ _ _ hconfig hobserved => exact ⟨hconfig, hobserved.config⟩

end LockCommandGate

end BmwRemote.Application
