import BmwRemote.Host.EngineSpeedErrors

/-! The loop over the samples compares them with thresholds that nothing has looked at yet: it
fails at the first sample that meets one which is missing or not a number. -/
namespace BmwRemote.Host.EngineSpeedLog

open BmwRemote.Lib

/-! Thresholds. -/

def Number (thresholds : PyDict) (name : String) (value : FloatValue) : Prop :=
  ∃ entry, thresholds.lookup name = some entry ∧ entry.number? = some value

theorem threshold_eq_ok_iff {thresholds : PyDict} {name : String} {value : FloatValue} :
    threshold thresholds name = .ok value ↔ Number thresholds name value := by
  unfold threshold Number
  cases thresholds.lookup name with
  | none => simp
  | some entry =>
    dsimp only
    cases hnumber : entry.number? with
    | none => simp [hnumber]
    | some number => simp [hnumber]

theorem escapes_threshold_bind {α : Type} {thresholds : PyDict} {name : String}
    {next : FloatValue → Attempt α} :
    Escapes (threshold thresholds name >>= next) ↔
      ¬ ∃ value, Number thresholds name value ∧ ¬ Escapes (next value) := by
  simp only [← threshold_eq_ok_iff]
  rw [escapes_bind]
  unfold threshold
  cases thresholds.lookup name with
  | none => simp [Raised.Unchecked]
  | some entry =>
    dsimp only
    cases entry.number? with
    | none => simp [Raised.Unchecked]
    | some number => simp

def Comparable (thresholds : PyDict) (before : Hysteresis) (rpm : FloatValue) : Prop :=
  ∃ stoppedMax, Number thresholds "stopped_max_rpm" stoppedMax ∧
    (rpm.atMost stoppedMax = false →
      (before.running = true → ∃ exit, Number thresholds "running_exit_rpm" exit) ∧
      (before.running = false →
        (∃ bandMin, Number thresholds "running_band_min_rpm" bandMin ∧
          (bandMin.atMost rpm = true → ∃ bandMax, Number thresholds "running_band_max_rpm" bandMax)) ∧
        ∃ consecutive, Number thresholds "consecutive_samples" consecutive))

theorem escapes_inBand {thresholds : PyDict} {rpm : FloatValue} :
    Escapes (inBand thresholds rpm) ↔
      ¬ ∃ bandMin, Number thresholds "running_band_min_rpm" bandMin ∧
        (bandMin.atMost rpm = true → ∃ bandMax, Number thresholds "running_band_max_rpm" bandMax) := by
  unfold inBand
  rw [escapes_threshold_bind, not_iff_not]
  apply exists_congr
  intro bandMin
  apply and_congr_right'
  split
  · rename_i hwithin
    rw [escapes_threshold_bind, not_not]
    simp [hwithin]
  · rename_i hbelow
    simp [hbelow]

theorem inBand_ok_or_escapes (thresholds : PyDict) (rpm : FloatValue) :
    (∃ within, inBand thresholds rpm = .ok within) ∨ Escapes (inBand thresholds rpm) := by
  have hthreshold : ∀ name, (∃ value, threshold thresholds name = .ok value) ∨
      Escapes (threshold thresholds name) := by
    intro name
    unfold threshold
    cases thresholds.lookup name with
    | none => simp [Raised.Unchecked]
    | some entry =>
      dsimp only
      cases entry.number? with
      | none => simp [Raised.Unchecked]
      | some number => simp
  unfold inBand
  rw [escapes_bind]
  simp only [bind_eq_ok_iff]
  rcases hthreshold "running_band_min_rpm" with ⟨bandMin, hmin⟩ | hmin
  · by_cases hwithin : bandMin.atMost rpm = true
    · rcases hthreshold "running_band_max_rpm" with ⟨bandMax, hmax⟩ | hmax
      · refine .inl ⟨rpm.atMost bandMax, bandMin, hmin, ?_⟩
        rw [if_pos hwithin, hmax]
        rfl
      · refine .inr (.inr ⟨bandMin, hmin, ?_⟩)
        rw [if_pos hwithin, escapes_bind]
        exact .inl hmax
    · exact .inl ⟨false, bandMin, hmin, if_neg hwithin⟩
  · exact .inr (.inl hmin)

theorem escapes_counted {thresholds : PyDict} {inBandCount : Nat} :
    Escapes (counted thresholds inBandCount) ↔
      ¬ ∃ consecutive, Number thresholds "consecutive_samples" consecutive := by
  unfold counted
  rw [escapes_threshold_bind, not_iff_not]
  apply exists_congr
  intro consecutive
  split
  · simp
  · simp

theorem escapes_classify {thresholds : PyDict} {before : Hysteresis} {rpm : FloatValue} :
    Escapes (classify thresholds before rpm) ↔ ¬ Comparable thresholds before rpm := by
  unfold classify Comparable
  rw [escapes_threshold_bind, not_iff_not]
  apply exists_congr
  intro stoppedMax
  apply and_congr_right'
  split
  · rename_i hstopped
    simp [hstopped]
  rename_i hmoving
  rw [Bool.not_eq_true] at hmoving
  rw [forall_prop_of_true hmoving]
  split
  · rename_i hrunning
    rw [escapes_threshold_bind, not_not]
    simp only [hrunning, forall_const, reduceCtorEq, false_implies, and_true]
    apply exists_congr
    intro exit
    split
    · simp
    · simp
  · rename_i hcranking
    rw [Bool.not_eq_true] at hcranking
    rw [escapes_bind, escapes_inBand, not_or, not_not]
    simp only [hcranking, reduceCtorEq, false_implies, true_and, forall_const]
    apply and_congr_right
    intro hband
    have hinBand := (inBand_ok_or_escapes thresholds rpm).resolve_right fun h =>
      escapes_inBand.1 h hband
    obtain ⟨within, hwithin⟩ := hinBand
    simp [hwithin, escapes_counted]

/-! The loop. -/

/-- What the loop knows behind some samples. -/
def hysteresisFrom (thresholds : PyDict) : Hysteresis → List FloatValue → Attempt Hysteresis
  | before, [] => .ok before
  | before, rpm :: rest => do
    let (_, after) ← classify thresholds before rpm
    hysteresisFrom thresholds after rest

/-- Behind samples in the order of their times there is one that cannot be compared. -/
def LoopFails (thresholds : PyDict) (before : Hysteresis) (previous : ℤ) (moments : List Moment) :
    Prop :=
  ∃ earlier moment later, moments = earlier ++ moment :: later ∧
    (previous :: (earlier ++ [moment]).map Prod.fst).IsChain (· ≤ ·) ∧
    ∃ reached, hysteresisFrom thresholds before (earlier.map Prod.snd) = .ok reached ∧
      ¬ Comparable thresholds reached moment.2

variable {thresholds : PyDict} {before : Hysteresis} {previous : ℤ}

theorem not_loopFails_nil : ¬ LoopFails thresholds before previous [] := by
  rintro ⟨earlier, moment, later, h, -⟩
  simp at h

theorem hysteresisFrom_cons_eq_ok_iff {rpm : FloatValue} {rest : List FloatValue}
    {reached : Hysteresis} :
    hysteresisFrom thresholds before (rpm :: rest) = .ok reached ↔
      ∃ state after, classify thresholds before rpm = .ok (state, after) ∧
        hysteresisFrom thresholds after rest = .ok reached := by
  rw [hysteresisFrom, bind_eq_ok_iff]
  simp only [Prod.exists]

theorem loopFails_cons {moment : Moment} {rest : List Moment} :
    LoopFails thresholds before previous (moment :: rest) ↔
      previous ≤ moment.1 ∧ (¬ Comparable thresholds before moment.2 ∨
        ∃ state after, classify thresholds before moment.2 = .ok (state, after) ∧
          LoopFails thresholds after moment.1 rest) := by
  constructor
  · rintro ⟨earlier, found, later, hsplit, hchain, reached, hreached, hfails⟩
    cases earlier with
    | nil =>
      rw [List.nil_append, List.cons.injEq] at hsplit
      obtain ⟨rfl, -⟩ := hsplit
      cases hreached
      have hle : previous ≤ moment.1 := by simpa using hchain
      exact ⟨hle, .inl hfails⟩
    | cons first earlier =>
      rw [List.cons_append, List.cons.injEq] at hsplit
      obtain ⟨rfl, hsplit⟩ := hsplit
      rw [List.cons_append, List.map_cons, List.isChain_cons_cons] at hchain
      rw [List.map_cons, hysteresisFrom_cons_eq_ok_iff] at hreached
      obtain ⟨state, after, hclassify, hreached⟩ := hreached
      refine ⟨hchain.1, .inr ⟨state, after, hclassify, ?_⟩⟩
      exact ⟨earlier, found, later, hsplit, hchain.2, reached, hreached, hfails⟩
  · rintro ⟨hle, hfails | ⟨state, after, hclassify, hrest⟩⟩
    · exact ⟨[], moment, rest, rfl, by simpa using hle, before, rfl, hfails⟩
    · obtain ⟨earlier, found, later, hsplit, hchain, reached, hreached, hfails⟩ := hrest
      refine ⟨moment :: earlier, found, later, ?_, ?_, reached, ?_, hfails⟩
      · rw [hsplit, List.cons_append]
      · rw [List.cons_append, List.map_cons, List.isChain_cons_cons]
        exact ⟨hle, hchain⟩
      · rw [List.map_cons, hysteresisFrom_cons_eq_ok_iff]
        exact ⟨state, after, hclassify, hreached⟩

theorem escapes_samplesFrom {path : String} {origin previousTimestamp : ℤ} {sequence : Nat}
    {previousState : Option ObservedState} {parsed : List Parsed} :
    Escapes (samplesFrom path thresholds origin sequence before previousState previousTimestamp
      parsed) ↔
      LoopFails thresholds before (previousTimestamp + origin) (parsed.map Parsed.moment) := by
  induction parsed generalizing before previousTimestamp sequence previousState with
  | nil =>
    simp only [samplesFrom, not_raises_ok, List.map_nil, false_iff]
    exact not_loopFails_nil
  | cons first rest ih =>
    rw [List.map_cons, loopFails_cons, samplesFrom]
    dsimp only
    have horder : ¬ first.timestamp - origin < previousTimestamp ↔
        previousTimestamp + origin ≤ first.moment.1 := by
      change _ ↔ _ ≤ first.timestamp
      omega
    split
    · rename_i hearlier
      simp [← horder, hearlier]
    rename_i hlater
    rw [and_iff_right (horder.1 hlater), escapes_bind, escapes_classify]
    simp only [Prod.exists, escapes_bind, ih, not_raises_pure, and_false, exists_false, or_false]
    have hback : first.timestamp - origin + origin = first.moment.1 := Int.sub_add_cancel _ _
    rw [hback]
    rfl

end BmwRemote.Host.EngineSpeedLog
