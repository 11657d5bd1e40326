import BmwRemote.Application.LockCommandStep
import BmwRemote.Application.TelemetryMonitor
import BmwRemote.Application.UserConfiguration
import BmwRemote.Lib.Transcript
import Mathlib.Algebra.Ring.Nat

/-! What valid settings promise to the parts that are configured from them: each of them
accepts its configuration, and every gesture in the pace of the settings is recognised. -/
namespace BmwRemote.Application

open BmwRemote.Domain BmwRemote.Lib

namespace LockSequenceDetector

def pressing : Machine LockSequenceDetector UInt32 LockPressResult := observe

def laterPresses (last : UInt32) : List UInt32 → List UInt32
  | [] => []
  | gap :: gaps => (last + gap) :: laterPresses (last + gap) gaps

/-- The answers to a press at `start` and those behind it. -/
def answers (detector : LockSequenceDetector) (start : UInt32) (gaps : List UInt32) :
    List LockPressResult :=
  (pressing.transcript detector (start :: laterPresses start gaps)).map fun call => call.output

/-- The gaps of a whole sequence, in the pace of its configuration. -/
structure Paced (config : LockSequenceConfig) (gaps : List UInt32) : Prop where
  count : gaps.length + 1 = config.requiredPresses.toNat
  pace : ∀ gap ∈ gaps, config.minimumGapMs ≤ gap ∧ gap ≤ config.maximumGapMs
  total : (gaps.map UInt32.toNat).sum ≤ config.maximumSequenceMs.toNat

theorem toNat_elapsed_add {first last gap maximum : UInt32}
    (h : (last - first).toNat + gap.toNat ≤ maximum.toNat) :
    (last + gap - first).toNat = (last - first).toNat + gap.toNat := by
  have hsum : last + gap - first = last - first + gap := by
    rw [UInt32.sub_eq_iff_eq_add, UInt32.add_assoc, UInt32.add_comm gap, ← UInt32.add_assoc,
      UInt32.sub_add_cancel]
  have hmaximum := maximum.toNat_lt
  rw [hsum, toNat_add_of_fits (by omega)]

theorem observe_paced {detector : LockSequenceDetector} {gap : UInt32}
    (hvalid : detector.config.isValid = true) (hcount : detector.pressCount ≠ 0)
    (hminimum : detector.config.minimumGapMs ≤ gap) (hmaximum : gap ≤ detector.config.maximumGapMs)
    (htotal : (detector.lastPressTimestampMs - detector.firstPressTimestampMs).toNat + gap.toNat ≤
      detector.config.maximumSequenceMs.toNat) :
    detector.observe (detector.lastPressTimestampMs + gap) =
      (detector.pressed (detector.lastPressTimestampMs + gap)).concluded .accepted := by
  have hlast : detector.lastPressTimestampMs + gap - detector.lastPressTimestampMs = gap := by
    rw [UInt32.add_comm, UInt32.add_sub_cancel]
  have hfirst : detector.lastPressTimestampMs + gap - detector.firstPressTimestampMs ≤
      detector.config.maximumSequenceMs := by
    rw [UInt32.le_iff_toNat_le, toNat_elapsed_add htotal]
    exact htotal
  unfold observe
  dsimp only
  rw [hvalid, hlast, if_neg (by decide), if_neg hcount, if_neg (UInt32.not_lt.2 hminimum), if_neg]
  rw [not_or]
  exact ⟨UInt32.not_lt.2 hmaximum, UInt32.not_lt.2 hfirst⟩

theorem answers_later {detector : LockSequenceDetector} {gaps : List UInt32}
    (hvalid : detector.config.isValid = true) (hcount : detector.pressCount ≠ 0)
    (hgaps : gaps ≠ [])
    (hmissing : detector.pressCount.toNat + gaps.length = detector.config.requiredPresses.toNat)
    (hpace : ∀ gap ∈ gaps,
      detector.config.minimumGapMs ≤ gap ∧ gap ≤ detector.config.maximumGapMs)
    (htotal : (detector.lastPressTimestampMs - detector.firstPressTimestampMs).toNat +
      (gaps.map UInt32.toNat).sum ≤ detector.config.maximumSequenceMs.toNat) :
    (pressing.transcript detector (laterPresses detector.lastPressTimestampMs gaps)).map
        (fun call => call.output) =
      List.replicate (gaps.length - 1) .accepted ++ [.sequenceCompleted] := by
  induction gaps generalizing detector with
  | nil => exact absurd rfl hgaps
  | cons gap gaps ih =>
    rw [List.forall_mem_cons] at hpace
    rw [List.map_cons, List.sum_cons] at htotal
    rw [List.length_cons] at hmissing ⊢
    have helapsed : (detector.lastPressTimestampMs - detector.firstPressTimestampMs).toNat +
        gap.toNat ≤ detector.config.maximumSequenceMs.toNat := by omega
    have hbound : detector.pressCount < detector.config.requiredPresses := by
      rw [UInt8.lt_iff_toNat_lt]
      omega
    have hnext := toNat_add_one_of_lt hbound
    have hpressed := observe_paced hvalid hcount hpace.1.1 hpace.1.2 helapsed
    rw [laterPresses, Machine.transcript, List.map_cons, Machine.stepOf_output, pressing, hpressed]
    unfold concluded pressed
    dsimp only
    cases gaps with
    | nil =>
      rw [if_neg]
      · rfl
      · rw [UInt8.not_lt, UInt8.le_iff_toNat_le, hnext, ← hmissing]
        rfl
    | cons second rest =>
      rw [if_pos]
      · rw [List.length_cons, Nat.add_sub_cancel, List.replicate_succ]
        apply congrArg (List.cons LockPressResult.accepted)
        apply @ih (detector.pressed (detector.lastPressTimestampMs + gap)) hvalid _
          (List.cons_ne_nil _ _) _ hpace.2 _
        · intro hzero
          rw [← UInt8.toNat_inj] at hzero
          exact absurd (hnext.symm.trans hzero) (Nat.succ_ne_zero _)
        · calc (detector.pressCount + 1).toNat + (second :: rest).length
            _ = detector.pressCount.toNat + 1 + (second :: rest).length := by rw [hnext]
            _ = detector.config.requiredPresses.toNat := by omega
        · calc (detector.lastPressTimestampMs + gap - detector.firstPressTimestampMs).toNat +
                ((second :: rest).map UInt32.toNat).sum
            _ = (detector.lastPressTimestampMs - detector.firstPressTimestampMs).toNat +
                gap.toNat + ((second :: rest).map UInt32.toNat).sum := by
              rw [toNat_elapsed_add helapsed]
            _ ≤ detector.config.maximumSequenceMs.toNat := by omega
      · rw [UInt8.lt_iff_toNat_lt, hnext, ← hmissing, List.length_cons]
        omega

/-- Presses in the pace of a valid configuration are counted one by one, and the last of
them completes the sequence. -/
theorem answers_paced {detector : LockSequenceDetector} {gaps : List UInt32}
    (hvalid : detector.config.isValid = true) (hempty : detector.pressCount = 0)
    (hpaced : Paced detector.config gaps) (start : UInt32) :
    answers detector start gaps =
      List.replicate gaps.length .accepted ++ [.sequenceCompleted] := by
  have hfirst : detector.observe start = (detector.started start).concluded .accepted := by
    unfold observe
    dsimp only
    rw [hvalid, if_neg (by decide), if_pos hempty]
  have hcount := hpaced.count
  unfold answers
  rw [Machine.transcript, List.map_cons, Machine.stepOf_output, pressing, hfirst]
  unfold concluded
  cases gaps with
  | nil =>
    rw [if_neg]
    · rfl
    · rw [UInt8.not_lt, UInt8.le_iff_toNat_le]
      exact hcount.symm.le
  | cons gap gaps =>
    rw [if_pos]
    · rw [List.length_cons, List.replicate_succ]
      apply congrArg (List.cons LockPressResult.accepted)
      apply @answers_later (detector.started start) _ hvalid (show (1 : UInt8) ≠ 0 by decide)
        (List.cons_ne_nil _ _)
      · rw [← Nat.add_comm]
        exact hcount
      · exact hpaced.pace
      · have hzero : (start - start).toNat = 0 := by rw [UInt32.sub_self]; rfl
        change (start - start).toNat + _ ≤ detector.config.maximumSequenceMs.toNat
        rw [hzero, Nat.zero_add]
        exact hpaced.total
    · rw [UInt8.lt_iff_toNat_lt]
      change 1 < detector.config.requiredPresses.toNat
      rw [← hcount, List.length_cons]
      omega

theorem toNat_intervals_mul (presses : UInt8) (gap : UInt32) (hpositive : presses ≠ 0) :
    ((presses - 1).toUInt32.toUInt64 * gap.toUInt64).toNat = (presses.toNat - 1) * gap.toNat := by
  have hone : 1 ≤ presses.toNat := by
    rw [ne_eq, ← UInt8.toNat_inj] at hpositive
    exact Nat.pos_of_ne_zero hpositive
  have hintervals : (presses - 1).toNat = presses.toNat - 1 :=
    UInt8.toNat_sub_of_le _ _ (UInt8.le_iff_toNat_le.2 hone)
  have hpresses := presses.toNat_lt
  have hfits : (presses.toNat - 1) * gap.toNat < 2 ^ 8 * 2 ^ 32 :=
    Nat.mul_lt_mul'' (by omega) gap.toNat_lt
  rw [UInt64.toNat_mul, UInt32.toNat_toUInt64, UInt8.toNat_toUInt32, UInt32.toNat_toUInt64,
    hintervals, Nat.mod_eq_of_lt (by omega)]

theorem paced_replicate {config : LockSequenceConfig} (hvalid : config.isValid = true) :
    Paced config (List.replicate (config.requiredPresses.toNat - 1) config.minimumGapMs) := by
  unfold LockSequenceConfig.isValid at hvalid
  simp only [Bool.and_eq_true, bne_iff_ne, decide_eq_true_eq] at hvalid
  obtain ⟨⟨⟨hpositive, hgaps⟩, -⟩, htotal⟩ := hvalid
  rw [if_neg hpositive, UInt64.le_iff_toNat_le, toNat_intervals_mul _ _ hpositive,
    UInt32.toNat_toUInt64] at htotal
  refine ⟨?_, ?_, ?_⟩
  · rw [ne_eq, ← UInt8.toNat_inj] at hpositive
    rw [List.length_replicate]
    exact Nat.sub_add_cancel (Nat.pos_of_ne_zero hpositive)
  · intro gap hgap
    rw [List.eq_of_mem_replicate hgap]
    exact ⟨UInt32.le_refl _, hgaps⟩
  · rw [List.map_replicate, List.sum_replicate_nat]
    exact htotal

end LockSequenceDetector

open UserSettingsLimits in
theorem temperatures_of_valid {settings : UserSettings}
    (h : (validateUserSettings settings).valid = true) :
    (minimumEngineWarmTemperatureC ≤ settings.engineWarmTemperatureC ∧
        settings.engineWarmTemperatureC ≤ maximumEngineWarmTemperatureC) ∧
      (minimumTransmissionOverheatTemperatureC ≤ settings.transmissionOverheatTemperatureC ∧
        settings.transmissionOverheatTemperatureC ≤ maximumTransmissionOverheatTemperatureC) ∧
      (minimumTemperatureAlertHysteresisC ≤ settings.temperatureAlertHysteresisC ∧
        settings.temperatureAlertHysteresisC ≤ maximumTemperatureAlertHysteresisC) ∧
      (minimumColdEngineMaximumRpm ≤ settings.coldEngineMaximumRpm ∧
        settings.coldEngineMaximumRpm ≤ maximumColdEngineMaximumRpm) ∧
      settings.features.valid = true := by
  unfold validateUserSettings at h
  simp only [valid_addIf, Bool.not_eq_false'] at h
  simp only [← outside_eq_false_iff UInt16.not_lt, h, and_self]

/-- What a configuration promises to those that it is for. -/
structure Serves (settings : UserSettings) (configuration : UserConfiguration) : Prop where
  sequence : configuration.lockSequence = ⟨settings.lockPressCount, settings.lockMinimumGapMs,
    settings.lockMaximumGapMs, settings.lockMaximumSequenceMs⟩
  detector : configuration.lockSequence.isValid = true
  gate : ∀ maximumEvidenceAgeMs allowSyntheticSource, 1 ≤ maximumEvidenceAgeMs →
    maximumEvidenceAgeMs ≤ LockCommandGateConfig.maximumEvidenceAgeLimitMs →
    LockCommandGateConfig.isValid
      ⟨configuration.lockSequence, maximumEvidenceAgeMs, allowSyntheticSource⟩ = true
  telemetry : ∀ runtime, validTelemetryMonitorConfig { configuration.telemetry with runtime } = true
  warmTemperature :
    configuration.telemetry.engineWarmTemperatureC.toInt = settings.engineWarmTemperatureC.toNat
  overheatTemperature : configuration.telemetry.transmissionOverheatTemperatureC.toInt =
    settings.transmissionOverheatTemperatureC.toNat
  hysteresis : configuration.telemetry.temperatureHysteresisC.toNat =
    settings.temperatureAlertHysteresisC.toNat
  gesture : ∀ gaps, LockSequenceDetector.Paced configuration.lockSequence gaps →
    ∀ (detector : LockSequenceDetector) (start : UInt32),
      detector.config = configuration.lockSequence → detector.pressCount = 0 →
      detector.answers start gaps = List.replicate gaps.length .accepted ++ [.sequenceCompleted]
  pace : ∃ gaps, LockSequenceDetector.Paced configuration.lockSequence gaps

theorem lockSequence_isValid {settings : UserSettings}
    (h : (validateUserSettings settings).valid = true) :
    LockSequenceConfig.isValid ⟨settings.lockPressCount, settings.lockMinimumGapMs,
      settings.lockMaximumGapMs, settings.lockMaximumSequenceMs⟩ = true := by
  unfold validateUserSettings at h
  simp only [valid_addIf, Bool.or_eq_false_iff, decide_eq_false_iff_not, gt_iff_lt,
    UInt32.not_lt, UInt64.not_lt] at h
  obtain ⟨⟨⟨⟨⟨⟨⟨⟨⟨⟨-, hpresses⟩, -⟩, -⟩, -⟩, ⟨hgaps, hsequence⟩, htotal⟩, -⟩, -⟩, -⟩, -⟩, -⟩ := h
  have hpositive : settings.lockPressCount ≠ 0 := by
    intro hzero
    rw [hzero] at hpresses
    exact absurd hpresses (by decide)
  unfold LockSequenceConfig.isValid
  simp only [Bool.and_eq_true, bne_iff_ne, decide_eq_true_eq]
  exact ⟨⟨⟨hpositive, hgaps⟩, hsequence⟩, htotal⟩

theorem serves_of_valid {settings : UserSettings} (vehicleProfile : Option VehicleProfile)
    (h : (validateUserSettings settings).valid = true) :
    Serves settings (makeUserConfiguration settings vehicleProfile) := by
  have hsequence : (makeUserConfiguration settings vehicleProfile).lockSequence =
      ⟨settings.lockPressCount, settings.lockMinimumGapMs, settings.lockMaximumGapMs,
        settings.lockMaximumSequenceMs⟩ := by
    unfold makeUserConfiguration
    simp [h]
  have htelemetry : (makeUserConfiguration settings vehicleProfile).telemetry =
      { requestedFeatures := settings.features
        coldEngineMaximumRpm := settings.coldEngineMaximumRpm
        engineWarmTemperatureC := settings.engineWarmTemperatureC.toInt16
        transmissionOverheatTemperatureC := settings.transmissionOverheatTemperatureC.toInt16
        temperatureHysteresisC := settings.temperatureAlertHysteresisC.toUInt8 } := by
    unfold makeUserConfiguration
    simp [h]
  have hvalid := lockSequence_isValid h
  rw [← hsequence] at hvalid
  obtain ⟨⟨hwarmMinimum, hwarmMaximum⟩, ⟨hoverMinimum, hoverMaximum⟩,
    ⟨hhysteresisMinimum, hhysteresisMaximum⟩, ⟨hrpmMinimum, hrpmMaximum⟩, hfeatures⟩ :=
    temperatures_of_valid h
  simp only [UInt16.le_iff_toNat_le] at hwarmMinimum hwarmMaximum hoverMinimum hoverMaximum
  rw [UInt16.le_iff_toNat_le] at hhysteresisMinimum hhysteresisMaximum
  have hwarm : settings.engineWarmTemperatureC.toInt16.toInt =
      settings.engineWarmTemperatureC.toNat :=
    toInt_toInt16 (hwarmMaximum.trans_lt (by decide))
  have hover : settings.transmissionOverheatTemperatureC.toInt16.toInt =
      settings.transmissionOverheatTemperatureC.toNat :=
    toInt_toInt16 (hoverMaximum.trans_lt (by decide))
  have hhysteresis : settings.temperatureAlertHysteresisC.toUInt8.toNat =
      settings.temperatureAlertHysteresisC.toNat :=
    Nat.mod_eq_of_lt (hhysteresisMaximum.trans_lt (by decide))
  refine ⟨hsequence, hvalid, ?_, ?_, ?_, ?_, ?_, ?_, _, LockSequenceDetector.paced_replicate hvalid⟩
  · intro age synthetic hone hlimit
    have hpositive : age ≠ 0 := by
      rintro rfl
      exact absurd hone (by decide)
    unfold LockCommandGateConfig.isValid
    simp [hvalid, hpositive, hlimit]
  · intro runtime
    rw [htelemetry]
    unfold validTelemetryMonitorConfig
    simp only [Bool.and_eq_true, decide_eq_true_eq, ge_iff_le, Int16.le_iff_toInt_le,
      UInt8.le_iff_toNat_le, hwarm, hover, hhysteresis]
    exact ⟨⟨⟨⟨⟨⟨⟨⟨hfeatures, hrpmMinimum⟩, hrpmMaximum⟩, Int.ofNat_le.2 hwarmMinimum⟩,
      Int.ofNat_le.2 hwarmMaximum⟩, Int.ofNat_le.2 hoverMinimum⟩, Int.ofNat_le.2 hoverMaximum⟩,
      hhysteresisMinimum⟩, hhysteresisMaximum⟩
  · rw [htelemetry]
    exact hwarm
  · rw [htelemetry]
    exact hover
  · rw [htelemetry]
    exact hhysteresis
  · intro gaps hpaced detector start hconfig hempty
    rw [← hconfig] at hvalid hpaced
    exact LockSequenceDetector.answers_paced hvalid hempty hpaced start

/-- Settings that pass the validation configure parts that accept their configuration
and gestures that can be made; others keep the remote start off. -/
theorem validators_agree (settings : UserSettings) (vehicleProfile : Option VehicleProfile) :
    ((validateUserSettings settings).valid = true →
        Serves settings (makeUserConfiguration settings vehicleProfile)) ∧
      ((validateUserSettings settings).valid = false →
        (makeUserConfiguration settings vehicleProfile).controller.remoteStartEnabled = false) := by
  refine ⟨serves_of_valid vehicleProfile, fun hinvalid => ?_⟩
  rw [makeUserConfiguration_remoteStartEnabled, hinvalid, Bool.false_and]

end BmwRemote.Application
