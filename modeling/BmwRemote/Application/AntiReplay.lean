import BmwRemote.Application.LockCommandStep
import BmwRemote.Lib.Transcript
import Mathlib.Data.List.Nodup

/-! What the gate has heard moves forward: the evidences that reached the detector, in
the order in which they did, and what every other evidence leaves alone. -/
namespace BmwRemote.Application

open BmwRemote.Lib

namespace LockCommandGate

/-- Calls of `process` with the time each of them is made at. -/
def processing : Machine LockCommandGate (LockCommandEvidence × UInt32) LockCommandDecision :=
  fun gate call => gate.process call.1 call.2

abbrev Processed := Step LockCommandGate (LockCommandEvidence × UInt32) LockCommandDecision

def reachedDetector (call : Processed) : Bool :=
  call.output.accepted || call.output.status == .rejectedTiming

def heard (past : List Processed) : List LockCommandEvidence :=
  (past.filter reachedDetector).map fun call => call.input.1

/-- Newer by its source's count and by the time it was observed at. -/
def Newer (previous candidate : LockCommandEvidence) : Prop :=
  strictlyNewer candidate.sourceSequence previous.sourceSequence = true ∧
    strictlyNewer candidate.observedAtMs previous.observedAtMs = true

theorem reachedDetector_eq (call : Processed) :
    reachedDetector call = !call.output.status.clearsDetector := by
  have h := call.output.accepted_or_debounced_iff
  rw [Bool.eq_iff_iff, Bool.not_eq_true', ← h, reachedDetector, Bool.or_eq_true, beq_iff_eq]

theorem heard_concat (past : List Processed) (next : Processed) :
    heard (past ++ [next]) =
      heard past ++ if reachedDetector next then [next.input.1] else [] := by
  unfold heard
  rw [List.filter_append, List.map_append]
  by_cases hnext : reachedDetector next = true
  · simp [hnext]
  · simp [hnext]

/-- What the gate keeps of the evidences it has heard. -/
structure Remembers (gate : LockCommandGate) (past : List Processed) : Prop where
  detector : gate.detector.config = gate.config.sequence
  chain : (heard past).IsChain Newer
  last : ∀ evidence ∈ (heard past).getLast?, gate.evidenceInitialized = true ∧
    gate.lastSourceSequence = evidence.sourceSequence ∧
    gate.lastEvidenceTimestampMs = evidence.observedAtMs

inductive Kept (gate : LockCommandGate) (evidence : LockCommandEvidence) :
    LockCommandStatus → LockCommandGate → Prop
  | refused (status : LockCommandStatus) (after : LockCommandGate)
      (hclears : status.clearsDetector = true)
      (hconfig : after.config = gate.config)
      (hdetector : after.detector = gate.detector.reset)
      (hsequence : after.lastSourceSequence = gate.lastSourceSequence)
      (htime : after.lastEvidenceTimestampMs = gate.lastEvidenceTimestampMs)
      (hinitialized : after.evidenceInitialized = gate.evidenceInitialized) :
      Kept gate evidence status after
  | heard (status : LockCommandStatus) (after : LockCommandGate)
      (hclears : status.clearsDetector = false)
      (horder : gate.orderFault evidence = none)
      (hconfig : after.config = gate.config)
      (hdetector : after.detector.config = gate.detector.config)
      (hsequence : after.lastSourceSequence = evidence.sourceSequence)
      (htime : after.lastEvidenceTimestampMs = evidence.observedAtMs)
      (hinitialized : after.evidenceInitialized = true) :
      Kept gate evidence status after

theorem process_kept (gate : LockCommandGate) (evidence : LockCommandEvidence) (nowMs : UInt32)
    (hdetector : gate.detector.config = gate.config.sequence) :
    Kept gate evidence (gate.process evidence nowMs).1.status
      (gate.process evidence nowMs).2 := by
  rcases gate.process_cases evidence nowMs with
    ⟨status, hclears, h⟩ | ⟨status, hclears, h⟩ | ⟨h, hconfig, -, -, -, horder⟩
  · rw [h]
    exact .refused status _ hclears rfl rfl rfl rfl rfl
  · rw [h]
    exact .refused status _ hclears rfl rfl rfl rfl rfl
  · have hvalid : gate.detector.config.isValid = true := by
      unfold LockCommandGateConfig.isValid at hconfig
      simp only [Bool.and_eq_true] at hconfig
      rw [hdetector]
      exact hconfig.1.1
    rw [h, observe_of_valid (gate.clocked nowMs) evidence hvalid]
    exact .heard _ _
      (statusOf_clears (gate.detector.observe_ne_invalid evidence.observedAtMs hvalid)) horder rfl
      (gate.detector.observe_observed evidence.observedAtMs).config rfl rfl rfl

theorem new_remembers (config : LockCommandGateConfig) :
    Remembers (new config) [] where
  detector := rfl
  chain := List.isChain_nil
  last := nofun

theorem process_remembers {gate : LockCommandGate} {past : List Processed}
    (h : Remembers gate past) (call : LockCommandEvidence × UInt32) :
    Remembers (processing gate call).2 (past ++ [processing.stepOf gate call]) := by
  have hkept := gate.process_kept call.1 call.2 h.detector
  have hreached := reachedDetector_eq (processing.stepOf gate call)
  have hconcat := heard_concat past (processing.stepOf gate call)
  generalize hafter : (gate.process call.1 call.2).2 = after at hkept
  generalize hstatus : (gate.process call.1 call.2).1.status = status at hkept
  have hoff : (processing.stepOf gate call).output.status = status := hstatus
  rw [hoff] at hreached
  have hnext : (processing gate call).2 = after := hafter
  rw [hnext]
  cases hkept with
  | refused hclears hconfig hdetector hsequence htime hinitialized =>
    rw [hreached, hclears, Bool.not_true, if_neg Bool.false_ne_true, List.append_nil] at hconcat
    refine ⟨?_, ?_, ?_⟩
    · rw [hdetector, hconfig]
      exact h.detector
    · rw [hconcat]
      exact h.chain
    · rw [hconcat, hinitialized, hsequence, htime]
      exact h.last
  | heard hclears horder hconfig hdetector hsequence htime hinitialized =>
    rw [hreached, hclears, Bool.not_false, if_pos rfl] at hconcat
    refine ⟨?_, ?_, ?_⟩
    · rw [hdetector, hconfig]
      exact h.detector
    · rw [hconcat, List.isChain_append]
      refine ⟨h.chain, List.isChain_singleton _, ?_⟩
      rintro last hlast next ⟨⟩
      have hordered := (gate.orderFault_eq_none_iff call.1).1 horder
      obtain ⟨hinit, hseq, hobserved⟩ := h.last last hlast
      rw [hseq, hobserved] at hordered
      exact hordered hinit
    · rw [hconcat, List.getLast?_concat]
      rintro evidence ⟨⟩
      exact ⟨hinitialized, hsequence, htime⟩

/-- The evidences that reach the detector are newer and newer, so that none of them
does twice before a counter or the clock has gone round; the others change nothing of
what is remembered and end the gesture. -/
theorem heard_evidences_are_newer (config : LockCommandGateConfig)
    (calls : List (LockCommandEvidence × UInt32)) :
    let past := processing.transcript (new config) calls
    (heard past).IsChain Newer ∧
      (advance ((heard past).map fun evidence => evidence.sourceSequence) < UInt32.size →
        advance ((heard past).map fun evidence => evidence.observedAtMs) < UInt32.size →
        ((heard past).map fun evidence =>
          (evidence.sourceSequence, evidence.observedAtMs)).Nodup) ∧
      ∀ call ∈ past, reachedDetector call = false →
        call.after.evidenceInitialized = call.before.evidenceInitialized ∧
        call.after.lastSourceSequence = call.before.lastSourceSequence ∧
        call.after.lastEvidenceTimestampMs = call.before.lastEvidenceTimestampMs ∧
        call.after.detector.pressCount = 0 := by
  intro past
  have hremembers : Remembers (processing.final (new config) calls) past :=
    processing.history_induction Remembers (new_remembers config)
      (fun _ _ h call => process_remembers h call) calls
  have hsequences : ((heard past).map fun evidence => evidence.sourceSequence).IsChain
      fun previous candidate => strictlyNewer candidate previous :=
    (List.isChain_map _).2 (hremembers.chain.imp fun _ _ h => h.1)
  refine ⟨hremembers.chain, fun hadvance _ => ?_, ?_⟩
  · apply List.Nodup.of_map Prod.fst
    rw [List.map_map]
    exact nodup_of_advance_lt hsequences hadvance
  · intro call hmem hrefused
    obtain ⟨earlier, later, hsplit⟩ := List.append_of_mem hmem
    obtain ⟨hbefore, hcall⟩ := processing.history_at Remembers (new_remembers config)
      (fun _ _ h call => process_remembers h call) hsplit
    rw [reachedDetector_eq, Bool.not_eq_false'] at hrefused
    have hkept := call.before.process_kept call.input.1 call.input.2 hbefore.detector
    rw [hcall] at hrefused ⊢
    cases hkept with
    | refused _ _ hdetector hsequence htime hinitialized =>
      refine ⟨hinitialized, hsequence, htime, ?_⟩
      exact congrArg LockSequenceDetector.pressCount hdetector
    | heard hclears => exact absurd (hrefused.symm.trans hclears) (by decide)

end LockCommandGate

end BmwRemote.Application
