import BmwRemote.Application.VehicleStartObserver

/-! The observed state of a start and its qualification, against each other. They go together
unless the terminals and the speed are known and no state is assigned to them. -/
namespace BmwRemote.Application.VehicleStartObserver

open BmwRemote.Domain BmwRemote.Lib

/-- The state and its qualification, without the signals that are listed with them. -/
def primary (result : VehicleStartObservation) :
    VehicleStartObservedState × StartObservationQualification :=
  (result.primaryVehicleState, result.primaryStateQualification)

def keyPresent (snapshot : StartSignalSnapshot) : Bool :=
  snapshot.keyRast.known && snapshot.keyRast.value

structure SamePair (first second : StartSignalSnapshot) : Prop where
  klemmenstatus : first.klemmenstatus = second.klemmenstatus
  engineRpm : first.engineRpm = second.engineRpm

/-- The pair is known, and its byte is one that the test vehicle has shown. -/
def Qualified (current : StartSignalSnapshot) : Prop :=
  hasCommunicationError current = false ∧ isKnownPair current = true ∧
    (decodeKlemmenstatus current.klemmenstatus.value).rawValueObservedOnTestVehicle = true

/-- The combinations of a terminal byte and a speed that get no state: the engine turns and
the pair before does not explain it, the key is in the radio position of a turning engine, or
the starter is engaged and the engine does not turn. -/
def NoState (raw : UInt8) (rpm : FloatValue) (previous : Option (UInt8 × FloatValue)) : Prop :=
  (raw = 0x40 ∧ rpm.equals (.finite 0) = false ∧ ∀ pair ∈ previous, pair.1 ≠ 0x45) ∨
  (raw = 0x41 ∧ rpm.equals (.finite 0) = false) ∨
  (raw = 0x45 ∧ rpm.equals (.finite 0) = false ∧
    ∀ pair ∈ previous, pair.1 ≠ 0x55 ∧ ¬(pair.1 = 0x45 ∧ positive pair.2 = true)) ∨
  (raw = 0x55 ∧ positive rpm = false)

/-- A confirmed sequence is claimed for a combination that gets no state. A key in its slot
stands in where the analysis does not end with the byte. -/
def Unsupported (current : StartSignalSnapshot) (previous : Option StartSignalSnapshot) : Prop :=
  Qualified current ∧
    NoState current.klemmenstatus.value current.engineRpm.value (knownPair previous) ∧
    (keyPresent current = true →
      current.klemmenstatus.value = 0x40 ∨ current.klemmenstatus.value = 0x45)

structure Coherent (current : StartSignalSnapshot) (previous : Option StartSignalSnapshot) :
    Prop where
  qualified : (observe current previous).primaryStateQualification ≠ .unknown ↔
    (observe current previous).primaryVehicleState ≠ .unknown
  derived : (observe current previous).primaryStateQualification = .confirmedPhase3dSequence →
    ∀ other before, SamePair current other → Option.Rel SamePair previous before →
      primary (observe other before) = primary (observe current previous)
  assigned : ¬((observe current previous).primaryStateQualification = .confirmedPhase3dSequence ∧
    (observe current previous).primaryVehicleState = .unknown)

/-! The lists. -/

section Lists

variable {T : Type} (result : VehicleStartObservation) (id : StartSignalId)

@[simp] theorem primary_addEvidence (signal : DiagnosticSignal T) :
    primary (addEvidence result id signal) = primary result := by
  unfold addEvidence
  split <;> rfl

@[simp] theorem primary_addDocumentedSignal (signal : DiagnosticSignal Bool) :
    primary (addDocumentedSignal result id signal) = primary result := by
  unfold addDocumentedSignal
  split <;> rfl

@[simp] theorem primary_addMissing (signal : DiagnosticSignal T) :
    primary (addMissing result id signal) = primary result := by
  unfold addMissing
  split <;> rfl

@[simp] theorem primary_collect (snapshot : StartSignalSnapshot) :
    primary (collectDocumentedSignals (collectMissing {} snapshot) snapshot) =
      (.unknown, .unknown) := by
  simp only [collectDocumentedSignals, collectMissing, primary_addDocumentedSignal,
    primary_addMissing]
  rfl

end Lists

/-! The verdict. -/

variable {current other : StartSignalSnapshot} {previous before : Option StartSignalSnapshot}

theorem documented_of_observed (raw : UInt8)
    (h : (decodeKlemmenstatus raw).rawValueObservedOnTestVehicle = true) :
    (decodeKlemmenstatus raw).allFieldsDocumented = true := by
  simp only [decodeKlemmenstatus, Bool.or_eq_true, beq_iff_eq, or_assoc] at h
  rcases h with rfl | rfl | rfl | rfl <;> decide

/-- What the key makes of a state and its qualification. -/
def keyVerdict (current : StartSignalSnapshot)
    (verdict : VehicleStartObservedState × StartObservationQualification) :
    VehicleStartObservedState × StartObservationQualification :=
  if keyPresent current then (.keyPresent, .documentedNotVehicleValidated) else verdict

theorem primary_observeKey (result : VehicleStartObservation) (current : StartSignalSnapshot) :
    primary (observeKey result current) = keyVerdict current (primary result) := by
  unfold observeKey keyVerdict keyPresent
  split
  · rw [primary_addEvidence]
    rfl
  · rfl

theorem primary_qualified (h : Qualified current) (previous : Option StartSignalSnapshot) :
    primary (observe current previous) =
      match terminalState current.klemmenstatus.value current.engineRpm.value
          (knownPair previous) with
      | some state => (state, .confirmedPhase3dSequence)
      | none => keyVerdict current (.unknown, .confirmedPhase3dSequence) := by
  obtain ⟨herror, hpair, hobserved⟩ := h
  have hraw : (decodeKlemmenstatus current.klemmenstatus.value).raw =
      current.klemmenstatus.value := rfl
  unfold observe
  dsimp only
  rw [if_neg (by rw [herror]; decide), if_pos hpair,
    if_neg (by rw [documented_of_observed _ hobserved, hobserved]; decide), hraw]
  cases terminalState current.klemmenstatus.value current.engineRpm.value (knownPair previous) with
  | some state => rfl
  | none =>
    rw [primary_observeKey]
    have hstate := congrArg Prod.fst (primary_collect current)
    rw [← primary_addEvidence _ .klemmenstatus current.klemmenstatus,
      ← primary_addEvidence _ .engineRpm current.engineRpm] at hstate
    exact congrArg (fun state => keyVerdict current (state, _)) hstate

theorem primary_not_qualified (h : ¬Qualified current) (previous : Option StartSignalSnapshot) :
    primary (observe current previous) = (.unknown, .unknown) ∨
      primary (observe current previous) = (.keyPresent, .documentedNotVehicleValidated) := by
  have hkey : primary (observeKey
        (collectDocumentedSignals (collectMissing {} current) current) current) =
      (.unknown, .unknown) ∨
      primary (observeKey (collectDocumentedSignals (collectMissing {} current) current) current) =
        (.keyPresent, .documentedNotVehicleValidated) := by
    rw [primary_observeKey, primary_collect, keyVerdict]
    split
    · exact .inr rfl
    · exact .inl rfl
  unfold observe
  dsimp only
  split
  · exact .inl (primary_collect current)
  rename_i herror
  split
  · rename_i hpair
    rw [if_pos]
    · exact .inl (primary_collect current)
    · rw [Bool.or_eq_true, Bool.not_eq_true', Bool.not_eq_true']
      refine .inr (Bool.eq_false_iff.mpr fun hobserved => h ⟨?_, hpair, hobserved⟩)
      exact Bool.eq_false_iff.mpr herror
  · exact hkey

/-! The combinations. -/

theorem terminalState_cases {raw : UInt8} (rpm : FloatValue)
    (previous : Option (UInt8 × FloatValue))
    (h : (decodeKlemmenstatus raw).rawValueObservedOnTestVehicle = true) :
    (NoState raw rpm previous ∧ (raw = 0x40 ∨ raw = 0x45) ∧
      terminalState raw rpm previous = some .unknown) ∨
    (NoState raw rpm previous ∧ ¬(raw = 0x40 ∨ raw = 0x45) ∧
      terminalState raw rpm previous = none) ∨
    (¬NoState raw rpm previous ∧
      ∃ state, state ≠ .unknown ∧ terminalState raw rpm previous = some state) := by
  simp only [decodeKlemmenstatus, Bool.or_eq_true, beq_iff_eq, or_assoc] at h
  unfold NoState terminalState
  rcases h with rfl | rfl | rfl | rfl
  · rcases previous with _ | ⟨byte, speed⟩
    · cases hrpm : rpm.equals (.finite 0) <;> simp
    · cases hrpm : rpm.equals (.finite 0) with
      | true =>
        by_cases hturning : byte = 0x40 ∧ positive speed = true <;> simp [hturning]
      | false => by_cases hafter : byte = 0x45 <;> simp [hafter]
  · cases hrpm : rpm.equals (.finite 0) <;> simp
  · rcases previous with _ | ⟨byte, speed⟩
    · cases hrpm : rpm.equals (.finite 0) <;> simp
    · cases hrpm : rpm.equals (.finite 0) with
      | true => simp
      | false =>
        by_cases hcranked : byte = 0x55
        · simp [hcranked]
        · by_cases hturning : byte = 0x45 ∧ positive speed = true
          · simp [hturning]
          · simp [hcranked, hturning]
            simpa using hturning
  · cases hrpm : positive rpm <;> simp

/-! Coherence. -/

theorem Qualified.samePair (h : Qualified current) (hsame : SamePair current other) :
    Qualified other := by
  obtain ⟨herror, hpair, hobserved⟩ := h
  unfold hasCommunicationError at herror
  unfold isKnownPair at hpair
  rw [hsame.klemmenstatus, hsame.engineRpm] at herror hpair
  rw [hsame.klemmenstatus] at hobserved
  exact ⟨herror, hpair, hobserved⟩

theorem knownPair_congr (h : Option.Rel SamePair previous before) :
    knownPair previous = knownPair before := by
  cases h with
  | none => rfl
  | some hsame =>
    unfold knownPair
    rename_i first second
    have hpair : isKnownPair first = isKnownPair second := by
      unfold isKnownPair
      rw [hsame.klemmenstatus, hsame.engineRpm]
    cases hknown : isKnownPair second with
    | false => simp [Option.filter, hpair, hknown]
    | true => simp [Option.filter, hpair, hknown, hsame.klemmenstatus, hsame.engineRpm]

theorem coherent_of_assigned (h : Qualified current) {state : VehicleStartObservedState}
    (hknown : state ≠ .unknown)
    (hstate : terminalState current.klemmenstatus.value current.engineRpm.value
      (knownPair previous) = some state) : Coherent current previous := by
  have hprimary : primary (observe current previous) = (state, .confirmedPhase3dSequence) := by
    rw [primary_qualified h previous, hstate]
  have hfirst : (observe current previous).primaryVehicleState = state :=
    congrArg Prod.fst hprimary
  have hsecond : (observe current previous).primaryStateQualification =
      .confirmedPhase3dSequence :=
    congrArg Prod.snd hprimary
  refine ⟨by simp [hfirst, hsecond, hknown], fun _ other before hsame hbefore => ?_,
    by simp [hfirst, hknown]⟩
  rw [hprimary, primary_qualified (h.samePair hsame) before, ← hsame.klemmenstatus,
    ← hsame.engineRpm, ← knownPair_congr hbefore, hstate]

theorem coherent_of_unconfirmed
    (h : primary (observe current previous) = (.unknown, .unknown) ∨
      primary (observe current previous) = (.keyPresent, .documentedNotVehicleValidated)) :
    Coherent current previous := by
  rcases h with h | h <;> rw [primary, Prod.mk.injEq] at h
  · exact ⟨by simp [h.1, h.2], by simp [h.2], by simp [h.2]⟩
  · exact ⟨by simp [h.1, h.2], by simp [h.2], by simp [h.2]⟩

/-- An observation is coherent unless it claims a confirmed sequence for a combination that
gets no state. -/
theorem coherent_iff (current : StartSignalSnapshot) (previous : Option StartSignalSnapshot) :
    Coherent current previous ↔ ¬Unsupported current previous := by
  by_cases hqualified : Qualified current
  · have hprimary := primary_qualified hqualified previous
    rcases terminalState_cases current.engineRpm.value (knownPair previous) hqualified.2.2 with
      ⟨hnone, hends, hstate⟩ | ⟨hnone, hgoes, hstate⟩ | ⟨hassigned, state, hknown, hstate⟩
    · rw [hstate, primary, Prod.mk.injEq] at hprimary
      refine iff_of_false (fun hcoherent => hcoherent.assigned hprimary.symm) ?_
      exact not_not.mpr ⟨hqualified, hnone, fun _ => hends⟩
    · rw [hstate] at hprimary
      change _ = keyVerdict current _ at hprimary
      unfold keyVerdict at hprimary
      split at hprimary
      · rename_i hkey
        refine iff_of_true (coherent_of_unconfirmed (.inr hprimary)) fun h => hgoes (h.2.2 hkey)
      · rename_i hkey
        rw [primary, Prod.mk.injEq] at hprimary
        refine iff_of_false (fun hcoherent => hcoherent.assigned hprimary.symm) ?_
        exact not_not.mpr ⟨hqualified, hnone, fun h => absurd h hkey⟩
    · exact iff_of_true (coherent_of_assigned hqualified hknown hstate) fun h => hassigned h.2.1
  · exact iff_of_true (coherent_of_unconfirmed (primary_not_qualified hqualified previous))
      fun h => hqualified h.1

def unexplainedEngine : StartSignalSnapshot where
  klemmenstatus := .knownValue 0x40 .casStatusFzgZustand 100 150
  engineRpm := .knownValue (.finite 800) .ddeStatusMotordrehzahl 151 200

theorem unexplainedEngine_incoherent : ¬Coherent unexplainedEngine none := by
  intro h
  exact h.assigned ⟨by decide +kernel, by decide +kernel⟩

end BmwRemote.Application.VehicleStartObserver
