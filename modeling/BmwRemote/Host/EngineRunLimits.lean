import BmwRemote.Host.EngineRunLoop
import BmwRemote.Lib.FloatOrder

/-! Coherent thresholds, and what the loop makes of samples with them: it takes the engine for
running exactly when enough samples in a row were within the band and none since fell below the
exit. -/
namespace BmwRemote.Host.EngineSpeedLog

open BmwRemote.Lib

structure Limits where
  stoppedMax : FloatValue
  exit : FloatValue
  bandMin : FloatValue
  bandMax : FloatValue
  consecutive : ℤ
  nonnegative : ∀ limit ∈ [stoppedMax, exit, bandMin, bandMax], limit.below (.finite 0) = false
  stoppedMax_below : stoppedMax.below exit = true
  exit_atMost : exit.atMost bandMin = true
  bandMin_below : bandMin.below bandMax = true
  two_le : 2 ≤ consecutive

namespace Limits

structure Of (limits : Limits) (thresholds : PyDict) : Prop where
  stoppedMax : (thresholds.get "stopped_max_rpm").number = some limits.stoppedMax
  exit : (thresholds.get "running_exit_rpm").number = some limits.exit
  bandMin : (thresholds.get "running_band_min_rpm").number = some limits.bandMin
  bandMax : (thresholds.get "running_band_max_rpm").number = some limits.bandMax
  consecutive : thresholds.get "consecutive_samples" = .int limits.consecutive

def InBand (limits : Limits) (rpm : FloatValue) : Prop :=
  limits.bandMin.atMost rpm = true ∧ rpm.atMost limits.bandMax = true

instance (limits : Limits) : DecidablePred limits.InBand :=
  fun _ => inferInstanceAs (Decidable (_ ∧ _))

/-- Enough samples in a row within the band, and none below the exit since. -/
def Warm (limits : Limits) (rpms : List FloatValue) : Prop :=
  ∃ earlier window since, rpms = earlier ++ window ++ since ∧
    limits.consecutive ≤ window.length ∧ (∀ rpm ∈ window, limits.InBand rpm) ∧
    ∀ rpm ∈ since, rpm.below limits.exit = false

theorem exit_finite (limits : Limits) : limits.exit.isFinite = true :=
  FloatValue.finite_of_between limits.stoppedMax_below
    (FloatValue.below_of_atMost_of_below limits.exit_atMost limits.bandMin_below)

/-! The thresholds that are read. -/

theorem lookup_of_get {dict : PyDict} {name : String} {value : PyValue} (h : dict.get name = value)
    (hsome : value ≠ .none) : dict.lookup name = some value := by
  unfold PyDict.get at h
  cases hlookup : dict.lookup name with
  | none =>
    rw [hlookup] at h
    exact absurd h.symm hsome
  | some entry =>
    rw [hlookup] at h
    rw [← h]
    rfl

theorem number_of_get {dict : PyDict} {name : String} {value : FloatValue}
    (h : (dict.get name).number = some value) : Number dict name value := by
  cases hentry : dict.get name with
  | int entry =>
    rw [hentry] at h
    exact ⟨_, lookup_of_get hentry nofun, h⟩
  | float entry =>
    rw [hentry] at h
    exact ⟨_, lookup_of_get hentry nofun, h⟩
  | none | bool entry | str entry | list entries | dict entries =>
    rw [hentry] at h
    cases h

theorem Of.number {limits : Limits} {thresholds : PyDict} (h : limits.Of thresholds) :
    Number thresholds "stopped_max_rpm" limits.stoppedMax ∧
      Number thresholds "running_exit_rpm" limits.exit ∧
      Number thresholds "running_band_min_rpm" limits.bandMin ∧
      Number thresholds "running_band_max_rpm" limits.bandMax ∧
      Number thresholds "consecutive_samples" (.finite limits.consecutive) :=
  ⟨number_of_get h.stoppedMax, number_of_get h.exit, number_of_get h.bandMin,
    number_of_get h.bandMax, _, lookup_of_get h.consecutive nofun, rfl⟩

theorem Of.unique {limits other : Limits} {thresholds : PyDict} (h : limits.Of thresholds)
    (hother : other.Of thresholds) : limits = other := by
  obtain ⟨hstopped, hexit, hmin, hmax, hconsecutive⟩ := h
  obtain ⟨hstopped', hexit', hmin', hmax', hconsecutive'⟩ := hother
  rw [hstopped, Option.some.injEq] at hstopped'
  rw [hexit, Option.some.injEq] at hexit'
  rw [hmin, Option.some.injEq] at hmin'
  rw [hmax, Option.some.injEq] at hmax'
  rw [hconsecutive, PyValue.int.injEq] at hconsecutive'
  rw [Limits.mk.injEq]
  exact ⟨hstopped', hexit', hmin', hmax', hconsecutive'⟩

/-! One sample. -/

def classify (limits : Limits) (before : Hysteresis) (rpm : FloatValue) :
    ObservedState × Hysteresis :=
  if rpm.atMost limits.stoppedMax then (.stopped, {})
  else if before.running then
    if rpm.below limits.exit then (.unknown, {}) else (.running, before)
  else
    let inBandCount := if limits.InBand rpm then before.inBandCount + 1 else 0
    if limits.consecutive ≤ inBandCount then (.running, { running := true, inBandCount })
    else (.cranking, { running := false, inBandCount })

theorem Of.classify {limits : Limits} {thresholds : PyDict} (h : limits.Of thresholds)
    (before : Hysteresis) (rpm : FloatValue) :
    EngineSpeedLog.classify thresholds before rpm = .ok (limits.classify before rpm) := by
  obtain ⟨hstopped, hexit, hmin, hmax, hconsecutive⟩ := h.number
  rw [← threshold_eq_ok_iff] at hstopped hexit hmin hmax hconsecutive
  have hband : inBand thresholds rpm = .ok (decide (limits.InBand rpm)) := by
    unfold inBand InBand
    rw [hmin]
    change (if limits.bandMin.atMost rpm = true then _ else _) = _
    rw [hmax]
    by_cases hlow : limits.bandMin.atMost rpm = true
    · simp [hlow, bind, Except.bind, pure, Except.pure]
    · simp [hlow, pure, Except.pure]
  have hcount : ∀ count : Nat, counted thresholds count =
      .ok (if limits.consecutive ≤ count then (.running, { running := true, inBandCount := count })
        else (.cranking, { running := false, inBandCount := count })) := by
    intro count
    have hcompare : (FloatValue.finite limits.consecutive).atMost (.finite (count : ℚ)) =
        decide (limits.consecutive ≤ count) := by
      rw [Bool.eq_iff_iff, FloatValue.finite_atMost_iff, decide_eq_true_iff]
      exact_mod_cast Iff.rfl
    unfold counted
    rw [hconsecutive]
    change (if FloatValue.atMost _ _ = true then _ else _) = _
    rw [hcompare]
    by_cases hle : limits.consecutive ≤ count
    · simp [hle, pure, Except.pure]
    · simp [hle, pure, Except.pure]
  unfold EngineSpeedLog.classify Limits.classify
  rw [hstopped, hexit, hband]
  change (if rpm.atMost limits.stoppedMax = true then _ else _) = _
  split
  · rfl
  split
  · change (if rpm.below limits.exit = true then _ else _) = _
    split
    · rfl
    · rfl
  · change counted thresholds _ = _
    rw [hcount]
    simp

variable {limits : Limits} {before : Hysteresis} {rpm : FloatValue} {rpms : List FloatValue}

theorem InBand.not_below (h : limits.InBand rpm) : rpm.below limits.exit = false :=
  FloatValue.not_below_of_atMost (FloatValue.atMost_trans limits.exit_atMost h.1)

theorem not_stopped_of_not_below (h : rpm.below limits.exit = false) :
    rpm.atMost limits.stoppedMax = false := by
  by_contra hstopped
  rw [Bool.not_eq_false] at hstopped
  have hbelow := FloatValue.below_of_atMost_of_below hstopped limits.stoppedMax_below
  rw [h] at hbelow
  cases hbelow

inductive Classified (limits : Limits) (before : Hysteresis) (rpm : FloatValue) :
    ObservedState × Hysteresis → Prop where
  | stopped (hstopped : rpm.atMost limits.stoppedMax = true) :
      Classified limits before rpm (.stopped, {})
  | dropped (hrunning : before.running = true) (hbelow : rpm.below limits.exit = true) :
      Classified limits before rpm (.unknown, {})
  | kept (hrunning : before.running = true) (hbelow : rpm.below limits.exit = false) :
      Classified limits before rpm (.running, before)
  | started (hidle : before.running = false) (hband : limits.InBand rpm)
      (hcount : limits.consecutive ≤ before.inBandCount + 1) :
      Classified limits before rpm (.running, ⟨true, before.inBandCount + 1⟩)
  | counting (hidle : before.running = false) (hband : limits.InBand rpm)
      (hcount : (before.inBandCount : ℤ) + 1 < limits.consecutive) :
      Classified limits before rpm (.cranking, ⟨false, before.inBandCount + 1⟩)
  | outside (hidle : before.running = false) (hband : ¬ limits.InBand rpm) :
      Classified limits before rpm (.cranking, {})

theorem classified (limits : Limits) (before : Hysteresis) (rpm : FloatValue) :
    Classified limits before rpm (limits.classify before rpm) := by
  unfold Limits.classify
  by_cases hstopped : rpm.atMost limits.stoppedMax = true
  · rw [if_pos hstopped]
    exact .stopped hstopped
  rw [if_neg hstopped]
  by_cases hrunning : before.running = true
  · rw [if_pos hrunning]
    by_cases hbelow : rpm.below limits.exit = true
    · rw [if_pos hbelow]
      exact .dropped hrunning hbelow
    · rw [if_neg hbelow]
      exact .kept hrunning (Bool.not_eq_true _ ▸ hbelow)
  rw [if_neg hrunning]
  rw [Bool.not_eq_true] at hrunning
  by_cases hband : limits.InBand rpm
  · rw [if_pos hband]
    by_cases hcount : limits.consecutive ≤ (before.inBandCount + 1 : Nat)
    · rw [if_pos hcount]
      exact .started hrunning hband hcount
    · rw [if_neg hcount]
      exact .counting hrunning hband (by omega)
  · have htwo := limits.two_le
    rw [if_neg hband, if_neg (by omega)]
    exact .outside hrunning hband

theorem classify_running_iff :
    (limits.classify before rpm).1 = .running ↔ (limits.classify before rpm).2.running = true := by
  have hresult := limits.classified before rpm
  generalize limits.classify before rpm = result at hresult ⊢
  cases hresult with
  | stopped hstopped => simp
  | dropped hrunning hbelow => simp
  | kept hrunning hbelow => simp [hrunning]
  | started hidle hband hcount => simp
  | counting hidle hband hcount => simp
  | outside hidle hband => simp

theorem classify_stopped (h : rpm.atMost limits.stoppedMax = true) :
    (limits.classify before rpm).1 = .stopped :=
  congrArg Prod.fst (if_pos h)

theorem classify_running_of (hrunning : before.running = true) (h : rpm.below limits.exit = false) :
    (limits.classify before rpm).1 = .running := by
  unfold Limits.classify
  rw [not_stopped_of_not_below h, h, hrunning]
  rfl

theorem classify_of_not_below (h : rpm.below limits.exit = false) :
    (limits.classify before rpm).1 ≠ .stopped ∧ (limits.classify before rpm).1 ≠ .unknown := by
  have hmoving := not_stopped_of_not_below h
  have hresult := limits.classified before rpm
  generalize limits.classify before rpm = result at hresult ⊢
  cases hresult with
  | stopped hstopped =>
    rw [hmoving] at hstopped
    cases hstopped
  | dropped hrunning hbelow =>
    rw [h] at hbelow
    cases hbelow
  | kept hrunning hbelow => simp
  | started hidle hband hcount => simp
  | counting hidle hband hcount => simp
  | outside hidle hband => simp

theorem not_below_of_running (h : (limits.classify before rpm).1 = .running) :
    rpm.below limits.exit = false := by
  have hresult := limits.classified before rpm
  generalize limits.classify before rpm = result at hresult h
  cases hresult with
  | stopped hstopped => cases h
  | dropped hrunning hbelow => cases h
  | kept hrunning hbelow => exact hbelow
  | started hidle hband hcount => exact hband.not_below
  | counting hidle hband hcount => cases h
  | outside hidle hband => cases h

/-! Many samples. -/

def after (limits : Limits) (before : Hysteresis) (rpms : List FloatValue) : Hysteresis :=
  rpms.foldl (fun reached rpm => (limits.classify reached rpm).2) before

theorem after_cons (before : Hysteresis) (rpm : FloatValue) (rest : List FloatValue) :
    limits.after before (rpm :: rest) = limits.after (limits.classify before rpm).2 rest := rfl

theorem after_append (before : Hysteresis) (left right : List FloatValue) :
    limits.after before (left ++ right) = limits.after (limits.after before left) right :=
  List.foldl_append

/-- While the engine does not run, the samples that were counted end the list. -/
structure Tracks (limits : Limits) (rpms : List FloatValue) (reached : Hysteresis) : Prop where
  warm : reached.running = true → limits.Warm rpms
  few : reached.running = false → (reached.inBandCount : ℤ) < limits.consecutive
  counted : reached.running = false → ∃ earlier window, rpms = earlier ++ window ∧
    window.length = reached.inBandCount ∧ ∀ rpm ∈ window, limits.InBand rpm

theorem tracks_reset (rpms : List FloatValue) : limits.Tracks rpms {} := by
  constructor
  · exact nofun
  · intro _
    have htwo := limits.two_le
    change (0 : ℤ) < limits.consecutive
    omega
  · intro _
    exact ⟨rpms, [], (List.append_nil rpms).symm, rfl, nofun⟩

theorem Tracks.window (h : limits.Tracks rpms before) (hidle : before.running = false)
    (hband : limits.InBand rpm) :
    ∃ earlier window, rpms ++ [rpm] = earlier ++ window ∧
      window.length = before.inBandCount + 1 ∧ ∀ rpm ∈ window, limits.InBand rpm := by
  obtain ⟨earlier, window, hsplit, hlength, hwindow⟩ := h.counted hidle
  refine ⟨earlier, window ++ [rpm], ?_, ?_, ?_⟩
  · rw [hsplit, List.append_assoc]
  · rw [List.length_append, hlength, List.length_singleton]
  · rw [List.forall_mem_append]
    exact ⟨hwindow, by simpa using hband⟩

theorem Tracks.concat (h : limits.Tracks rpms before) (rpm : FloatValue) :
    limits.Tracks (rpms ++ [rpm]) (limits.classify before rpm).2 := by
  have hresult := limits.classified before rpm
  generalize limits.classify before rpm = result at hresult ⊢
  cases hresult with
  | stopped hstopped => exact tracks_reset _
  | dropped hrunning hbelow => exact tracks_reset _
  | kept hrunning hbelow =>
    obtain ⟨earlier, window, since, hsplit, hlength, hband, hsince⟩ := h.warm hrunning
    have hwarm : limits.Warm (rpms ++ [rpm]) := by
      refine ⟨earlier, window, since ++ [rpm], ?_, hlength, hband, ?_⟩
      · rw [hsplit, List.append_assoc]
      · rw [List.forall_mem_append]
        exact ⟨hsince, by simpa using hbelow⟩
    exact ⟨fun _ => hwarm, by simp [hrunning], by simp [hrunning]⟩
  | started hidle hband hcount =>
    obtain ⟨earlier, window, hsplit, hlength, hwindow⟩ := h.window hidle hband
    have hwarm : limits.Warm (rpms ++ [rpm]) := by
      refine ⟨earlier, window, [], ?_, ?_, hwindow, nofun⟩
      · rw [hsplit, List.append_nil]
      · rw [hlength]
        exact_mod_cast hcount
    exact ⟨fun _ => hwarm, nofun, nofun⟩
  | counting hidle hband hcount =>
    refine ⟨nofun, fun _ => ?_, fun _ => h.window hidle hband⟩
    exact_mod_cast hcount
  | outside hidle hband => exact tracks_reset _

theorem tracks (limits : Limits) (rpms : List FloatValue) :
    limits.Tracks rpms (limits.after {} rpms) := by
  induction rpms using List.reverseRecOn with
  | nil => exact tracks_reset []
  | append_singleton rpms rpm ih =>
    rw [after_append]
    exact ih.concat rpm

theorem running_of_window {window : List FloatValue} (hwindow : ∀ rpm ∈ window, limits.InBand rpm)
    (hidle : (limits.after before window).running = false) :
    before.running = false ∧
      (limits.after before window).inBandCount = before.inBandCount + window.length := by
  induction window generalizing before with
  | nil => exact ⟨hidle, rfl⟩
  | cons rpm rest ih =>
    rw [List.forall_mem_cons] at hwindow
    rw [after_cons] at hidle ⊢
    obtain ⟨hnext, hcount⟩ := ih hwindow.2 hidle
    have hresult := limits.classified before rpm
    rw [hcount, List.length_cons]
    generalize limits.classify before rpm = result at hresult hnext ⊢
    cases hresult with
    | stopped hstopped =>
      rw [not_stopped_of_not_below hwindow.1.not_below] at hstopped
      cases hstopped
    | dropped hrunning hbelow =>
      rw [hwindow.1.not_below] at hbelow
      cases hbelow
    | kept hrunning hbelow =>
      rw [hrunning] at hnext
      cases hnext
    | started hidle hband hcount => cases hnext
    | counting hidle hband hcount =>
      refine ⟨hidle, ?_⟩
      dsimp only
      omega
    | outside hidle hband => exact absurd hwindow.1 hband

theorem running_since {since : List FloatValue} (hsince : ∀ rpm ∈ since, rpm.below limits.exit = false)
    (hrunning : before.running = true) : (limits.after before since).running = true := by
  induction since generalizing before with
  | nil => exact hrunning
  | cons rpm rest ih =>
    rw [List.forall_mem_cons] at hsince
    rw [after_cons]
    apply ih hsince.2
    exact classify_running_iff.1 (classify_running_of hrunning hsince.1)

/-- The loop takes the engine for running exactly when the samples were warm. -/
theorem running_iff : (limits.after {} rpms).running = true ↔ limits.Warm rpms := by
  refine ⟨(limits.tracks rpms).warm, ?_⟩
  rintro ⟨earlier, window, since, rfl, hlength, hband, hsince⟩
  rw [after_append, after_append]
  apply running_since hsince
  by_contra hidle
  rw [Bool.not_eq_true] at hidle
  obtain ⟨hbefore, hcount⟩ := running_of_window hband hidle
  have htracks := limits.tracks (earlier ++ window)
  rw [after_append] at htracks
  have hfew := htracks.few hidle
  rw [hcount] at hfew
  push_cast at hfew
  omega

end Limits

end BmwRemote.Host.EngineSpeedLog
