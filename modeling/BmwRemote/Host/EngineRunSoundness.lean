import BmwRemote.Host.EngineRunLimits
import Mathlib.Data.List.Chain

/-! What a timeline says of the engine is right exactly where no engine speed that is not a
finite number is met while the engine counts as running. -/
namespace BmwRemote.Host.EngineSpeedLog

open BmwRemote.Lib

/-! The samples, with coherent thresholds. -/

def Limits.samplesOf (limits : Limits) (origin : ℤ) :
    Nat → Hysteresis → Option ObservedState → List Parsed → List Sample
  | _, _, _, [] => []
  | sequence, before, previousState, parsed :: rest =>
    let (observedState, after) := limits.classify before parsed.rpm
    { sequence
      timestampUs := parsed.timestamp - origin
      rpm := parsed.rpm
      observedState
      transition := transitionBetween previousState observedState
      sourceRow := parsed.rowNumber } ::
        limits.samplesOf origin (sequence + 1) after (some observedState) rest

variable {limits : Limits} {path : String} {thresholds : PyDict} {origin previousTimestamp : ℤ}
  {sequence : Nat} {before : Hysteresis} {previousState : Option ObservedState}
  {parsed : List Parsed} {samples : List Sample}

theorem samplesFrom_eq_ok_iff (h : limits.Of thresholds) :
    samplesFrom path thresholds origin sequence before previousState previousTimestamp parsed =
      .ok samples ↔
      ((previousTimestamp + origin) :: parsed.map Parsed.timestamp).IsChain (· ≤ ·) ∧
        samples = limits.samplesOf origin sequence before previousState parsed := by
  induction parsed generalizing sequence before previousState previousTimestamp samples with
  | nil =>
    unfold samplesFrom Limits.samplesOf
    simp [eq_comm]
  | cons first rest ih =>
    rw [samplesFrom, List.map_cons, List.isChain_cons_cons]
    dsimp only
    split
    · rename_i hearlier
      simp only [validationError, reduceCtorEq, false_iff]
      rintro ⟨⟨hle, -⟩, -⟩
      omega
    · rename_i hlater
      have hle : previousTimestamp + origin ≤ first.timestamp := by omega
      have hback : first.timestamp - origin + origin = first.timestamp := Int.sub_add_cancel _ _
      rw [h.classify, Limits.samplesOf, and_iff_right hle]
      change (do
        let others ← samplesFrom path thresholds origin (sequence + 1)
          (limits.classify before first.rpm).2 (some (limits.classify before first.rpm).1)
          (first.timestamp - origin) rest
        return _) = _ ↔ _
      simp only [bind_eq_ok_iff, ih, hback]
      constructor
      · rintro ⟨others, ⟨hchain, rfl⟩, hsamples⟩
        cases hsamples
        exact ⟨hchain, rfl⟩
      · rintro ⟨hchain, rfl⟩
        exact ⟨_, ⟨hchain, rfl⟩, rfl⟩

theorem map_rpm_samplesOf :
    (limits.samplesOf origin sequence before previousState parsed).map Sample.rpm =
      parsed.map Parsed.rpm := by
  induction parsed generalizing sequence before previousState with
  | nil => rfl
  | cons first rest ih =>
    rw [Limits.samplesOf, List.map_cons, List.map_cons, ih]

theorem map_timestampUs_samplesOf :
    (limits.samplesOf origin sequence before previousState parsed).map Sample.timestampUs =
      parsed.map fun sample => sample.timestamp - origin := by
  induction parsed generalizing sequence before previousState with
  | nil => rfl
  | cons first rest ih =>
    rw [Limits.samplesOf, List.map_cons, List.map_cons, ih]

theorem observedState_samplesOf {past rest : List Sample} {sample : Sample}
    (h : limits.samplesOf origin sequence before previousState parsed = past ++ sample :: rest) :
    sample.observedState =
      (limits.classify (limits.after before (past.map Sample.rpm)) sample.rpm).1 := by
  induction parsed generalizing sequence before previousState past with
  | nil =>
    have hlength := congrArg List.length h
    simp [Limits.samplesOf] at hlength
  | cons first later ih =>
    rw [Limits.samplesOf] at h
    cases past with
    | nil =>
      rw [List.nil_append, List.cons.injEq] at h
      rw [← h.1]
      rfl
    | cons earlier past =>
      rw [List.cons_append, List.cons.injEq] at h
      rw [ih h.2, ← h.1]
      rfl

theorem validateSamples_samplesOf
    (hchain : ((previousTimestamp + origin) :: parsed.map Parsed.timestamp).IsChain (· ≤ ·))
    (hrpm : ∀ sample ∈ parsed, sample.rpm.below (.finite 0) = false) :
    validateSamples sequence previousTimestamp previousState
      (limits.samplesOf origin sequence before previousState parsed) = .ok () := by
  induction parsed generalizing sequence before previousState previousTimestamp with
  | nil => rfl
  | cons first rest ih =>
    rw [List.map_cons, List.isChain_cons_cons] at hchain
    rw [List.forall_mem_cons] at hrpm
    have hback : first.timestamp - origin + origin = first.timestamp := Int.sub_add_cancel _ _
    rw [Limits.samplesOf, validateSamples]
    dsimp only
    rw [if_neg (not_not.2 rfl), if_neg (by omega), hrpm.1, if_neg Bool.false_ne_true,
      if_neg (not_not.2 rfl)]
    apply ih _ hrpm.2
    rw [hback]
    exact hchain.2

/-! The checks of a timeline. -/

theorem not_escapes_requireNonemptyString (value : PyValue) (location : String) :
    ¬ Escapes (requireNonemptyString value location) := by
  unfold requireNonemptyString
  dsimp only
  split
  · split
    · simp
    · simp
  · simp

section Validation

variable (fromIsoFormat : String → Option Bool)

theorem not_escapes_requireTimestamp (value : PyValue) (location : String) :
    ¬ Escapes (requireTimestamp fromIsoFormat value location) := by
  unfold requireTimestamp
  rw [escapes_bind, not_or]
  refine ⟨not_escapes_requireNonemptyString value location, ?_⟩
  rintro ⟨text, -, h⟩
  dsimp only at h
  split at h
  · simp at h
  · simp at h
  · simp at h

theorem not_escapes_validateSource (source : PyValue) :
    ¬ Escapes (validateSource fromIsoFormat source) := by
  unfold validateSource
  split
  · simp only [escapes_bind, not_escapes_required, not_escapes_requireNonemptyString,
      not_escapes_requireTimestamp, and_false, exists_false, or_false, not_false_eq_true]
  · simp

theorem not_escapes_validateDescription (timeline : Timeline) :
    ¬ Escapes (validateDescription fromIsoFormat timeline) := by
  unfold validateDescription
  simp only [escapes_bind, not_escapes_requireNonemptyString, not_escapes_validateSource, and_false,
    exists_false, or_false, not_false_eq_true]

end Validation

theorem not_escapes_validateThresholds (thresholds : PyDict) :
    ¬ Escapes (validateThresholds thresholds) := by
  unfold validateThresholds
  rw [escapes_bind, or_iff_right (not_escapes_required _ _ _)]
  rintro ⟨-, -, h⟩
  dsimp only at h
  split at h
  · split at h
    · split at h
      · simp at h
      split at h
      · simp at h
      split at h
      · split at h
        · simp at h
        · simp at h
      · simp at h
    · simp at h
  · simp at h

theorem not_escapes_validateSamples (samples : List Sample) :
    ¬ Escapes (validateSamples sequence previousTimestamp previousState samples) := by
  induction samples generalizing sequence previousTimestamp previousState with
  | nil => simp [validateSamples]
  | cons sample rest ih =>
    unfold validateSamples
    dsimp only
    split
    · simp
    split
    · simp
    split
    · simp
    split
    · simp
    · exact ih

theorem has_of_get {dict : PyDict} {name : String} (h : dict.get name ≠ .none) :
    dict.has name = true := by
  unfold PyDict.has
  rw [Limits.lookup_of_get rfl h]
  rfl

theorem get_ne_none {dict : PyDict} {name : String} {value : FloatValue}
    (h : (dict.get name).number = some value) : dict.get name ≠ .none := by
  intro hnone
  rw [hnone] at h
  cases h

theorem missingFields_of (h : limits.Of thresholds)
    (honly : thresholds.get "candidate_only" = .bool true) :
    missingFields thresholdFields thresholds = [] := by
  have hfields : ∀ field ∈ thresholdFields, thresholds.has field = true := by
    unfold thresholdFields
    simp only [List.forall_mem_cons]
    refine ⟨has_of_get ?_, has_of_get ?_, has_of_get ?_, has_of_get ?_, has_of_get ?_, has_of_get ?_,
      nofun⟩
    · rw [honly]
      nofun
    · rw [h.consecutive]
      nofun
    · exact get_ne_none h.bandMax
    · exact get_ne_none h.bandMin
    · exact get_ne_none h.exit
    · exact get_ne_none h.stoppedMax
  unfold missingFields
  rw [List.filter_eq_nil_iff]
  intro field hfield
  rw [hfields field hfield]
  exact Bool.false_ne_true

theorem validateThresholds_eq_ok_iff {result : Unit} :
    validateThresholds thresholds = .ok result ↔
      thresholds.get "candidate_only" = .bool true ∧ ∃ limits : Limits, limits.Of thresholds := by
  constructor
  · intro h
    unfold validateThresholds at h
    obtain ⟨-, -, h⟩ := bind_eq_ok_iff.1 h
    split at h
    · rename_i honly
      split at h
      · rename_i stoppedMax exit bandMin bandMax hstopped hexit hmin hmax
        split at h
        · cases h
        rename_i hnonnegative
        split at h
        · cases h
        rename_i hordered
        split at h
        · rename_i consecutive hconsecutive
          split at h
          · cases h
          · rename_i htwo
            rw [List.any_eq_true, not_exists] at hnonnegative
            simp only [Bool.not_eq_true', Bool.and_eq_false_iff, not_or, Bool.not_eq_false] at hordered
            refine ⟨honly, ⟨stoppedMax, exit, bandMin, bandMax, consecutive, ?_, hordered.1.1,
              hordered.1.2, hordered.2, by omega⟩, hstopped, hexit, hmin, hmax, hconsecutive⟩
            intro limit hlimit
            rw [← Bool.not_eq_true]
            exact fun hbelow => hnonnegative limit ⟨hlimit, hbelow⟩
        · cases h
      · cases h
    · cases h
  · rintro ⟨honly, limits, h⟩
    have hnonnegative : ¬ [limits.stoppedMax, limits.exit, limits.bandMin, limits.bandMax].any
        (·.below (.finite 0)) = true := by
      rw [List.any_eq_true]
      rintro ⟨limit, hlimit, hbelow⟩
      rw [limits.nonnegative limit hlimit] at hbelow
      cases hbelow
    have htwo := limits.two_le
    unfold validateThresholds
    rw [bind_eq_ok_iff]
    refine ⟨(), required_eq_ok_iff.2 (missingFields_of h honly), ?_⟩
    rw [honly, h.stoppedMax, h.exit, h.bandMin, h.bandMax]
    dsimp only
    rw [if_neg hnonnegative, limits.stoppedMax_below, limits.exit_atMost, limits.bandMin_below,
      if_neg (by decide), h.consecutive]
    exact if_neg (by omega)

/-! The import as a whole. -/

def Incomparable (thresholds : PyDict) (moments : List Moment) : Prop :=
  ∃ earlier moment later, moments = earlier ++ moment :: later ∧
    ((earlier ++ [moment]).map Prod.fst).IsChain (· ≤ ·) ∧
    ∃ reached, hysteresisFrom thresholds {} (earlier.map Prod.snd) = .ok reached ∧
      ¬ Comparable thresholds reached moment.2

theorem isChain_below_cons {times : List ℤ} {first : ℤ} (h : times.head? = some first) :
    ((-1 + first) :: times).IsChain (· ≤ ·) ↔ times.IsChain (· ≤ ·) := by
  cases times with
  | nil => cases h
  | cons time rest =>
    cases h
    rw [List.isChain_cons_cons, and_iff_right (by omega)]

theorem loopFails_first {first : Moment} {rest : List Moment} :
    LoopFails thresholds {} (-1 + first.1) (first :: rest) ↔
      Incomparable thresholds (first :: rest) := by
  unfold LoopFails Incomparable
  apply exists_congr
  intro earlier
  apply exists_congr
  intro moment
  apply exists_congr
  intro later
  apply and_congr_right
  intro hsplit
  rw [isChain_below_cons]
  cases earlier with
  | nil =>
    rw [List.nil_append, List.cons.injEq] at hsplit
    rw [hsplit.1]
    rfl
  | cons other earlier =>
    rw [List.cons_append, List.cons.injEq] at hsplit
    rw [hsplit.1]
    rfl

theorem exists_readRows_and {file : InputFile} {mapping : EngineMapping}
    (holds : List Moment → Prop) :
    (∃ parsed, readRows file mapping = .ok parsed ∧ holds (parsed.map Parsed.moment)) ↔
      ∃ moments, LogReads file mapping moments ∧ holds moments := by
  constructor
  · rintro ⟨parsed, hparsed, hholds⟩
    exact ⟨_, exists_readRows_iff.1 ⟨parsed, hparsed, rfl⟩, hholds⟩
  · rintro ⟨moments, hreads, hholds⟩
    obtain ⟨parsed, hparsed, rfl⟩ := exists_readRows_iff.2 hreads
    exact ⟨parsed, hparsed, hholds⟩

section Import

variable (fromIsoFormat : String → Option Bool)

theorem escapes_timelineFrom {mapping : EngineMapping} :
    Escapes (timelineFrom fromIsoFormat path mapping parsed) ↔
      Incomparable mapping.thresholds (parsed.map Parsed.moment) := by
  unfold timelineFrom
  cases parsed with
  | nil =>
    simp only [not_escapes_validationError, List.map_nil, false_iff]
    rintro ⟨earlier, moment, later, h, -⟩
    simp at h
  | cons first rest =>
    have hvalidate : ∀ timeline, ¬ Escapes (validateEngineRunTimeline fromIsoFormat timeline) := by
      intro timeline
      unfold validateEngineRunTimeline
      simp only [escapes_bind, not_escapes_validateDescription, not_escapes_validateThresholds,
        not_escapes_validateSamples, and_false, exists_false, or_false, not_false_eq_true]
    simp only [escapes_bind, escapes_samplesFrom, hvalidate, not_raises_pure, and_false,
      exists_false, or_false]
    exact loopFails_first

theorem escapes_buildTimeline {file : InputFile} {mapping : PyDict} {evidenceIds : List String} :
    Escapes (buildTimeline fromIsoFormat file mapping evidenceIds) ↔
      Misshapen mapping ∨ ∃ checked, requireMapping mapping evidenceIds = .ok checked ∧
        (Illegible file checked ∨
          ∃ moments, LogReads file checked moments ∧ Incomparable checked.thresholds moments) := by
  unfold buildTimeline
  rw [escapes_bind, escapes_requireMapping]
  apply or_congr_right
  apply exists_congr
  intro checked
  rw [escapes_bind, escapes_readRows]
  simp only [escapes_timelineFrom]
  apply and_congr_right'
  apply or_congr_right
  exact exists_readRows_and fun moments => Incomparable checked.thresholds moments

/-- What a timeline is accepted for. -/
structure Accepted (mapping : EngineMapping) (limits : Limits) (moments : List Moment) : Prop where
  limits : limits.Of mapping.thresholds
  candidate : mapping.thresholds.get "candidate_only" = .bool true
  description : validateDescription fromIsoFormat (timelineOf mapping []) = .ok ()
  nonempty : moments ≠ []
  ordered : (moments.map Prod.fst).IsChain (· ≤ ·)

variable {fromIsoFormat}

theorem timelineFrom_eq_ok_iff {mapping : EngineMapping} {timeline : Timeline}
    (hrpm : ∀ sample ∈ parsed, sample.rpm.below (.finite 0) = false) :
    timelineFrom fromIsoFormat path mapping parsed = .ok timeline ↔
      ∃ limits, Accepted fromIsoFormat mapping limits (parsed.map Parsed.moment) ∧
        ∃ origin, (parsed.map Parsed.timestamp).head? = some origin ∧
          timeline = timelineOf mapping (limits.samplesOf origin 0 {} none parsed) := by
  cases parsed with
  | nil =>
    simp only [timelineFrom, validationError, reduceCtorEq, List.map_nil, List.head?_nil, false_and,
      exists_false, and_false]
  | cons first rest =>
    have htimes : ((first :: rest).map Parsed.moment).map Prod.fst =
        (first :: rest).map Parsed.timestamp := by
      rw [List.map_map]
      rfl
    have hchain : ((-1 + first.timestamp) :: (first :: rest).map Parsed.timestamp).IsChain (· ≤ ·) ↔
        ((first :: rest).map Parsed.timestamp).IsChain (· ≤ ·) := isChain_below_cons rfl
    unfold timelineFrom validateEngineRunTimeline
    simp only [bind_eq_ok_iff, validateThresholds_eq_ok_iff]
    constructor
    · rintro ⟨samples, hsamples, _, ⟨_, hdescription, _, ⟨honly, limits, hlimits⟩, -⟩, htimeline⟩
      have hread : limits.Of mapping.thresholds := hlimits
      rw [samplesFrom_eq_ok_iff hread, hchain] at hsamples
      cases htimeline
      refine ⟨limits, ⟨hread, honly, hdescription, by simp, ?_⟩, first.timestamp, rfl, ?_⟩
      · rw [htimes]
        exact hsamples.1
      · rw [hsamples.2]
    · rintro ⟨limits, haccepted, origin, horigin, rfl⟩
      cases horigin
      have hordered := haccepted.ordered
      rw [htimes] at hordered
      have hsamples : samplesFrom path mapping.thresholds first.timestamp 0 {} none (-1)
          (first :: rest) =
            .ok (limits.samplesOf first.timestamp 0 {} none (first :: rest)) :=
        (samplesFrom_eq_ok_iff haccepted.limits).2 ⟨hchain.2 hordered, rfl⟩
      refine ⟨_, hsamples, (), ?_, rfl⟩
      refine ⟨(), haccepted.description, (), ⟨haccepted.candidate, limits, haccepted.limits⟩, ?_⟩
      exact validateSamples_samplesOf (hchain.2 hordered) hrpm

end Import

/-! What a timeline says. -/

/-- The engine is seen to run behind enough samples within the band, at a speed that is a number
and not below the exit; at the lowest speeds it is stopped; and the times start at zero. -/
structure Sound (limits : Limits) (samples : List Sample) : Prop where
  running : ∀ past sample rest, samples = past ++ sample :: rest →
    sample.observedState = .running →
      sample.rpm.isFinite = true ∧ limits.exit.atMost sample.rpm = true ∧
        ∃ earlier window since, past ++ [sample] = earlier ++ window ++ since ∧
          limits.consecutive ≤ window.length ∧ (∀ other ∈ window, limits.InBand other.rpm) ∧
          ∀ other ∈ window ++ since,
            other.observedState ≠ .stopped ∧ other.observedState ≠ .unknown
  stopped : ∀ sample ∈ samples, sample.rpm.atMost limits.stoppedMax = true →
    sample.observedState = .stopped
  start : (samples.map Sample.timestampUs).head? = some 0
  ordered : (samples.map Sample.timestampUs).IsChain (· ≤ ·)

/-- No engine speed that is not a finite number comes while the samples are warm. -/
def FiniteWhileWarm (limits : Limits) (rpms : List FloatValue) : Prop :=
  ∀ earlier rpm later, rpms = earlier ++ rpm :: later → limits.Warm (earlier ++ [rpm]) →
    rpm.isFinite = true

theorem running_samplesOf_iff {past rest : List Sample} {sample : Sample}
    (h : limits.samplesOf origin 0 {} none parsed = past ++ sample :: rest) :
    sample.observedState = .running ↔ limits.Warm (past.map Sample.rpm ++ [sample.rpm]) := by
  rw [observedState_samplesOf h, Limits.classify_running_iff, ← Limits.running_iff,
    Limits.after_append]
  rfl

theorem observedState_of_mem {sample : Sample}
    (h : sample ∈ limits.samplesOf origin 0 {} none parsed) :
    ∃ reached, sample.observedState = (limits.classify reached sample.rpm).1 := by
  obtain ⟨past, rest, hsplit⟩ := List.append_of_mem h
  exact ⟨_, observedState_samplesOf hsplit⟩

/-- Warm samples come from samples in a row within the band, and none of those from there on is
stopped or unknown. -/
theorem window_of_warm {past rest : List Sample} {sample : Sample}
    (hsplit : limits.samplesOf origin 0 {} none parsed = past ++ sample :: rest)
    (hwarm : limits.Warm (past.map Sample.rpm ++ [sample.rpm])) :
    ∃ earlier window since, past ++ [sample] = earlier ++ window ++ since ∧
      limits.consecutive ≤ window.length ∧ (∀ other ∈ window, limits.InBand other.rpm) ∧
      ∀ other ∈ window ++ since, other.observedState ≠ .stopped ∧ other.observedState ≠ .unknown := by
  obtain ⟨_, _, _, hrpms, hlength, hband, hsince⟩ := hwarm
  have hmap : (past ++ [sample]).map Sample.rpm = past.map Sample.rpm ++ [sample.rpm] := by simp
  rw [← hmap, List.map_eq_append_iff] at hrpms
  obtain ⟨front, since, hfront, hleft, rfl⟩ := hrpms
  rw [List.map_eq_append_iff] at hleft
  obtain ⟨earlier, window, rfl, rfl, rfl⟩ := hleft
  rw [List.length_map] at hlength
  rw [List.forall_mem_map] at hband hsince
  refine ⟨earlier, window, since, hfront, hlength, hband, ?_⟩
  intro other hother
  have hnot : other.rpm.below limits.exit = false := by
    rcases List.mem_append.1 hother with hwindow | hafter
    · exact (hband other hwindow).not_below
    · exact hsince other hafter
  have hmem : other ∈ limits.samplesOf origin 0 {} none parsed := by
    have hinside : other ∈ past ++ [sample] := by
      rw [hfront, List.append_assoc]
      exact List.mem_append_right earlier hother
    rw [hsplit, List.append_cons]
    exact List.mem_append_left rest hinside
  obtain ⟨reached, hstate⟩ := observedState_of_mem hmem
  rw [hstate]
  exact Limits.classify_of_not_below hnot

theorem sound_samplesOf_iff (horigin : (parsed.map Parsed.timestamp).head? = some origin)
    (hordered : (parsed.map Parsed.timestamp).IsChain (· ≤ ·)) :
    Sound limits (limits.samplesOf origin 0 {} none parsed) ↔
      FiniteWhileWarm limits (parsed.map Parsed.rpm) := by
  have hrpms : (limits.samplesOf origin 0 {} none parsed).map Sample.rpm = parsed.map Parsed.rpm :=
    map_rpm_samplesOf
  have htimes : (limits.samplesOf origin 0 {} none parsed).map Sample.timestampUs =
      (parsed.map Parsed.timestamp).map (· - origin) := by
    rw [map_timestampUs_samplesOf, List.map_map]
    rfl
  constructor
  · intro hsound earlier rpm later hsplit hwarm
    rw [← hrpms, List.map_eq_append_iff] at hsplit
    obtain ⟨past, others, hpast, rfl, hothers⟩ := hsplit
    rw [List.map_eq_cons_iff] at hothers
    obtain ⟨sample, rest, rfl, rfl, -⟩ := hothers
    exact (hsound.running past sample rest hpast ((running_samplesOf_iff hpast).2 hwarm)).1
  · intro hfinite
    constructor
    · intro past sample rest hsplit hrunning
      have hwarm := (running_samplesOf_iff hsplit).1 hrunning
      have hsplitRpms : parsed.map Parsed.rpm =
          past.map Sample.rpm ++ sample.rpm :: rest.map Sample.rpm := by
        rw [← hrpms, hsplit, List.map_append, List.map_cons]
      have hnumber := hfinite _ _ _ hsplitRpms hwarm
      have hnot : sample.rpm.below limits.exit = false := by
        rw [observedState_samplesOf hsplit] at hrunning
        exact Limits.not_below_of_running hrunning
      refine ⟨hnumber, ?_, window_of_warm hsplit hwarm⟩
      exact FloatValue.atMost_of_not_below limits.exit_finite hnumber hnot
    · intro sample hsample hstopped
      obtain ⟨reached, hstate⟩ := observedState_of_mem hsample
      rw [hstate]
      exact Limits.classify_stopped hstopped
    · rw [htimes, List.head?_map, horigin, Option.map_some, sub_self]
    · rw [htimes, List.isChain_map]
      exact hordered.imp fun earlier later hle => by omega

/-! The import. -/

theorem rpm_nonnegative {mapping : EngineMapping} {fieldnames : List String}
    {rows : List (List String)} {moments : List Moment}
    (h : List.Forall₂ (RowReads mapping fieldnames) rows moments) :
    ∀ moment ∈ moments, moment.2.below (.finite 0) = false := by
  induction h with
  | nil => exact nofun
  | cons hrow hrest ih =>
    obtain ⟨-, text, -, -, hpositive⟩ := hrow
    exact List.forall_mem_cons.2 ⟨hpositive, ih⟩

theorem readRows_nonnegative {file : InputFile} {mapping : EngineMapping}
    (h : readRows file mapping = .ok parsed) :
    ∀ sample ∈ parsed, sample.rpm.below (.finite 0) = false := by
  obtain ⟨fieldnames, rows, -, -, hrows⟩ := exists_readRows_iff.1 ⟨parsed, h, rfl⟩
  intro sample hsample
  exact rpm_nonnegative hrows sample.moment (List.mem_map_of_mem hsample)

/-- A timeline is accepted for what it says to be right, and nothing but invalid data is a reason
to refuse one. -/
structure Reliable (result : Attempt Timeline) : Prop where
  sound : ∀ timeline, result = .ok timeline →
    ∃ limits : Limits, limits.Of timeline.candidateThresholds ∧ Sound limits timeline.samples
  refused : ∀ raised, result = .error raised → ∃ message, raised = .validationError message

/-- The input has none of the faults that nothing looks for. -/
structure Regular (fromIsoFormat : String → Option Bool) (file : InputFile) (mapping : PyDict)
    (evidenceIds : List String) : Prop where
  shaped : ¬ Misshapen mapping
  legible : ∀ checked, requireMapping mapping evidenceIds = .ok checked → ¬ Illegible file checked
  comparable : ∀ checked moments, requireMapping mapping evidenceIds = .ok checked →
    LogReads file checked moments → ¬ Incomparable checked.thresholds moments
  finite : ∀ checked moments limits, requireMapping mapping evidenceIds = .ok checked →
    LogReads file checked moments → Accepted fromIsoFormat checked limits moments →
    FiniteWhileWarm limits (moments.map Prod.snd)

theorem not_escapes_iff {result : Attempt Timeline} :
    ¬ Escapes result ↔
      ∀ raised, result = .error raised → ∃ message, raised = .validationError message := by
  constructor
  · intro h raised hresult
    cases raised with
    | validationError message => exact ⟨message, rfl⟩
    | keyError key => exact absurd ⟨_, hresult, trivial⟩ h
    | typeError => exact absurd ⟨_, hresult, trivial⟩ h
    | attributeError => exact absurd ⟨_, hresult, trivial⟩ h
    | valueError => exact absurd ⟨_, hresult, trivial⟩ h
    | overflowError => exact absurd ⟨_, hresult, trivial⟩ h
    | readError message => exact absurd ⟨_, hresult, trivial⟩ h
  · rintro h ⟨raised, hresult, hunchecked⟩
    obtain ⟨message, rfl⟩ := h raised hresult
    exact hunchecked

variable {fromIsoFormat : String → Option Bool} {file : InputFile} {mapping : PyDict}
  {evidenceIds : List String}

theorem sound_of_finite {timeline : Timeline}
    (h : Regular fromIsoFormat file mapping evidenceIds)
    (hbuilt : buildTimeline fromIsoFormat file mapping evidenceIds = .ok timeline) :
    ∃ limits : Limits, limits.Of timeline.candidateThresholds ∧ Sound limits timeline.samples := by
  obtain ⟨checked, hchecked, hbuilt⟩ := bind_eq_ok_iff.1 hbuilt
  obtain ⟨parsed, hparsed, hbuilt⟩ := bind_eq_ok_iff.1 hbuilt
  rw [timelineFrom_eq_ok_iff (readRows_nonnegative hparsed)] at hbuilt
  obtain ⟨limits, haccepted, origin, horigin, rfl⟩ := hbuilt
  have hreads : LogReads file checked (parsed.map Parsed.moment) :=
    exists_readRows_iff.1 ⟨parsed, hparsed, rfl⟩
  have hfinite := h.finite checked _ limits hchecked hreads haccepted
  have hordered := haccepted.ordered
  rw [List.map_map] at hfinite hordered
  exact ⟨limits, haccepted.limits, (sound_samplesOf_iff horigin hordered).2 hfinite⟩

theorem finite_of_sound {checked : EngineMapping} {moments : List Moment} {limits : Limits}
    (h : ∀ timeline, buildTimeline fromIsoFormat file mapping evidenceIds = .ok timeline →
      ∃ limits : Limits, limits.Of timeline.candidateThresholds ∧ Sound limits timeline.samples)
    (hchecked : requireMapping mapping evidenceIds = .ok checked)
    (hreads : LogReads file checked moments) (haccepted : Accepted fromIsoFormat checked limits moments) :
    FiniteWhileWarm limits (moments.map Prod.snd) := by
  obtain ⟨parsed, hparsed, rfl⟩ := exists_readRows_iff.2 hreads
  cases parsed with
  | nil => exact absurd rfl haccepted.nonempty
  | cons first rest =>
    have hbuilt : buildTimeline fromIsoFormat file mapping evidenceIds = .ok (timelineOf checked
        (limits.samplesOf first.timestamp 0 {} none (first :: rest))) := by
      unfold buildTimeline
      rw [bind_eq_ok_iff]
      refine ⟨checked, hchecked, bind_eq_ok_iff.2 ⟨first :: rest, hparsed, ?_⟩⟩
      rw [timelineFrom_eq_ok_iff (readRows_nonnegative hparsed)]
      exact ⟨limits, haccepted, first.timestamp, rfl, rfl⟩
    obtain ⟨other, hother, hsound⟩ := h _ hbuilt
    have hordered := haccepted.ordered
    rw [haccepted.limits.unique hother] at hsound ⊢
    rw [List.map_map] at hordered ⊢
    exact (sound_samplesOf_iff rfl hordered).1 hsound

theorem classification_reliable_iff (fromIsoFormat : String → Option Bool) (file : InputFile)
    (mapping : PyDict) (evidenceIds : List String) :
    Reliable (buildTimeline fromIsoFormat file mapping evidenceIds) ↔
      Regular fromIsoFormat file mapping evidenceIds := by
  constructor
  · intro h
    have hescapes := not_escapes_iff.2 h.refused
    rw [escapes_buildTimeline, not_or] at hescapes
    refine ⟨hescapes.1, ?_, ?_, ?_⟩
    · intro checked hchecked hillegible
      exact hescapes.2 ⟨checked, hchecked, .inl hillegible⟩
    · intro checked moments hchecked hreads hincomparable
      exact hescapes.2 ⟨checked, hchecked, .inr ⟨moments, hreads, hincomparable⟩⟩
    · intro checked moments limits hchecked hreads haccepted
      exact finite_of_sound h.sound hchecked hreads haccepted
  · intro h
    refine ⟨fun timeline hbuilt => sound_of_finite h hbuilt, not_escapes_iff.1 ?_⟩
    rw [escapes_buildTimeline]
    rintro (hmisshapen | ⟨checked, hchecked, hillegible | ⟨moments, hreads, hincomparable⟩⟩)
    · exact h.shaped hmisshapen
    · exact h.legible checked hchecked hillegible
    · exact h.comparable checked moments hchecked hreads hincomparable

/-! The mapping of the repository's example. -/

def exampleSource : PyDict :=
  [("tool", .str "EXAMPLE_ONLY_GENERIC_CSV"), ("sgbd_prg", .str "EXAMPLE_ONLY"),
    ("job", .str "EXAMPLE_ONLY_ENGINE_SPEED"), ("session", .str "EXAMPLE_ONLY_SESSION"),
    ("observed_at", .str "2000-01-01T00:00:00Z"),
    ("notes", .str "Synthetic timeline used only to test the generic importer.")]

def exampleThresholds : PyDict :=
  [("candidate_only", .bool true), ("stopped_max_rpm", .int 0), ("running_band_min_rpm", .int 700),
    ("running_band_max_rpm", .int 1100), ("running_exit_rpm", .int 500),
    ("consecutive_samples", .int 3)]

def exampleMapping : PyDict :=
  [("schema_version", .int 1), ("mapping_id", .str "EXAMPLE_ONLY_ENGINE_SPEED_MAPPING"),
    ("example_only", .bool true),
    ("input", .dict [("delimiter", .str ","), ("encoding", .str "utf-8-sig"),
      ("timestamp_unit", .str "ms")]),
    ("columns", .dict [("timestamp", .str "elapsed_ms"), ("rpm", .str "rpm")]),
    ("timeline", .dict [("timeline_id", .str "EXAMPLE_ONLY_ENGINE_TIMELINE"),
      ("profile_ref", .str "../profiles/EXAMPLE_ONLY.vehicle-profile.json"),
      ("evidence_index", .str "../evidence/EXAMPLE_ONLY.evidence-index.json"),
      ("evidence_ref", .str "EXAMPLE_ONLY_MANUAL_NOTE"), ("source", .dict exampleSource)]),
    ("candidate_thresholds", .dict exampleThresholds)]

def exampleLog (rows : List (List String)) : InputFile where
  path := "engine-speed.csv"
  contents := fun _ _ => .stream (["elapsed_ms", "rpm"] :: rows) none

def exampleIsoFormat (text : String) : Option Bool :=
  if text = "2000-01-01T00:00:00+00:00" then some true else none

/-- Behind three samples at 800 the text `nan` is read as the speed of a running engine, and as a
time it ends the import with a `ValueError`. -/
theorem classification_nan_unreliable :
    ¬ Reliable (buildTimeline exampleIsoFormat
      (exampleLog [["0", "800"], ["100", "800"], ["200", "800"], ["300", "nan"]]) exampleMapping
      ["EXAMPLE_ONLY_MANUAL_NOTE"]) ∧
    ¬ Reliable (buildTimeline exampleIsoFormat (exampleLog [["0", "0"], ["nan", "0"]])
      exampleMapping ["EXAMPLE_ONLY_MANUAL_NOTE"]) := by
  constructor
  · intro h
    have hseen : (match buildTimeline exampleIsoFormat
        (exampleLog [["0", "800"], ["100", "800"], ["200", "800"], ["300", "nan"]]) exampleMapping
        ["EXAMPLE_ONLY_MANUAL_NOTE"] with
      | .ok timeline => timeline.samples.any fun sample =>
          decide (sample.observedState = .running ∧ sample.rpm = .nan)
      | .error _ => false) = true := by
      decide +kernel
    split at hseen
    swap
    · cases hseen
    rename_i timeline hbuilt
    rw [List.any_eq_true] at hseen
    obtain ⟨sample, hmem, hstate⟩ := hseen
    obtain ⟨hrunning, hnan⟩ := of_decide_eq_true hstate
    obtain ⟨limits, -, hsound⟩ := h.sound timeline hbuilt
    obtain ⟨past, rest, hsplit⟩ := List.append_of_mem hmem
    have hfinite := (hsound.running past sample rest hsplit hrunning).1
    rw [hnan] at hfinite
    cases hfinite
  · intro h
    have hraised : (match buildTimeline exampleIsoFormat (exampleLog [["0", "0"], ["nan", "0"]])
        exampleMapping ["EXAMPLE_ONLY_MANUAL_NOTE"] with
      | .ok _ => none
      | .error raised => some raised) = some .valueError := by
      decide +kernel
    split at hraised
    · cases hraised
    · rename_i raised hbuilt
      obtain ⟨message, rfl⟩ := h.refused raised hbuilt
      cases hraised

end BmwRemote.Host.EngineSpeedLog
