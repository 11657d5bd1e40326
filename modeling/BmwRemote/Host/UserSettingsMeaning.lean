import BmwRemote.Host.UserSettingsFile
import BmwRemote.Lib.Assignments

/-! What a settings file says: values, in the units of the program, that are assigned to
settings. -/
namespace BmwRemote.Host.UserSettingsFile

open BmwRemote.Application BmwRemote.Lib

inductive Setting where
  | remoteStartEnabled
  | hoodMonitoring
  | driverEntryMode
  | remoteRunMinutes
  | takeoverTimeoutSeconds
  | lockPressCount
  | lockMinimumGapMs
  | lockMaximumGapMs
  | lockSequenceWindowMs
  | coldEngineMaximumRpm
  | engineWarmTemperatureC
  | transmissionOverheatTemperatureC
  | temperatureAlertHysteresisC
  | feature (id : FeatureId) (known : id ≠ .count)
  deriving DecidableEq

/-- How the values of a setting are spelled: by words, or as a number of units that has to
fit the size of a field. -/
inductive Spelling where
  | words (choices : List (Text × Nat))
  | number (unit size : Nat)

def Spelling.parse : Spelling → Text → Option Nat
  | .words choices, text => choices.lookup text
  | .number unit size, text =>
    (Text.number 10 text).bind fun value =>
      if value * unit < size then some (value * unit) else none

def Spelling.switch : Spelling := .words [(.ascii "true", 1), (.ascii "false", 0)]

namespace Setting

def key : Setting → Text
  | .remoteStartEnabled => .ascii "remote_start_enabled"
  | .hoodMonitoring => .ascii "hood_monitoring"
  | .driverEntryMode => .ascii "driver_entry_mode"
  | .remoteRunMinutes => .ascii "remote_run_minutes"
  | .takeoverTimeoutSeconds => .ascii "takeover_timeout_seconds"
  | .lockPressCount => .ascii "lock_press_count"
  | .lockMinimumGapMs => .ascii "lock_minimum_gap_ms"
  | .lockMaximumGapMs => .ascii "lock_maximum_gap_ms"
  | .lockSequenceWindowMs => .ascii "lock_sequence_window_ms"
  | .coldEngineMaximumRpm => .ascii "cold_engine_maximum_rpm"
  | .engineWarmTemperatureC => .ascii "engine_warm_temperature_c"
  | .transmissionOverheatTemperatureC => .ascii "transmission_overheat_temperature_c"
  | .temperatureAlertHysteresisC => .ascii "temperature_alert_hysteresis_c"
  | .feature id _ => featureKeyPrefix ++ ((findFeature id).map (·.code)).getD []

def spelling : Setting → Spelling
  | .remoteStartEnabled | .feature _ _ => .switch
  | .hoodMonitoring =>
    .words [(.ascii "required", 0), (.ascii "disabled", 1), (.ascii "optional", 1)]
  | .driverEntryMode =>
    .words [(.ascii "require_takeover", 0), (.ascii "require-takeover", 0),
      (.ascii "stop_immediately", 1), (.ascii "stop-immediately", 1)]
  | .remoteRunMinutes => .number 60000 UInt32.size
  | .takeoverTimeoutSeconds => .number 1000 UInt32.size
  | .lockPressCount => .number 1 UInt8.size
  | .lockMinimumGapMs | .lockMaximumGapMs | .lockSequenceWindowMs => .number 1 UInt32.size
  | .coldEngineMaximumRpm | .engineWarmTemperatureC | .transmissionOverheatTemperatureC
  | .temperatureAlertHysteresisC => .number 1 UInt16.size

def all : List Setting :=
  [.remoteStartEnabled, .hoodMonitoring, .remoteRunMinutes, .driverEntryMode,
    .takeoverTimeoutSeconds, .lockPressCount, .lockMinimumGapMs, .lockMaximumGapMs,
    .lockSequenceWindowMs, .coldEngineMaximumRpm, .engineWarmTemperatureC,
    .transmissionOverheatTemperatureC, .temperatureAlertHysteresisC,
    .feature .coldEngineGuard (by decide), .feature .dpfRegenerationIndicator (by decide),
    .feature .transmissionOverheatAlert (by decide)]

theorem mem_all (setting : Setting) : setting ∈ all := by
  cases setting with
  | feature id known =>
    cases id with
    | count => exact absurd rfl known
    | _ => simp [all]
  | _ => simp [all]

theorem nodup_keys : (all.map key).Nodup := by decide +kernel

theorem key_injective {first second : Setting} (h : first.key = second.key) : first = second :=
  List.inj_on_of_nodup_map nodup_keys (mem_all first) (mem_all second) h

end Setting

/-- The value of each setting, in the units of its field. -/
def reading (settings : UserSettings) : Setting → Nat
  | .remoteStartEnabled => settings.remoteStartEnabled.toNat
  | .hoodMonitoring => settings.hoodMonitoring.raw.toNat
  | .driverEntryMode => settings.driverEntryMode.raw.toNat
  | .remoteRunMinutes => settings.maximumRemoteRunTimeMs.toNat
  | .takeoverTimeoutSeconds => settings.driverTakeoverTimeoutMs.toNat
  | .lockPressCount => settings.lockPressCount.toNat
  | .lockMinimumGapMs => settings.lockMinimumGapMs.toNat
  | .lockMaximumGapMs => settings.lockMaximumGapMs.toNat
  | .lockSequenceWindowMs => settings.lockMaximumSequenceMs.toNat
  | .coldEngineMaximumRpm => settings.coldEngineMaximumRpm.toNat
  | .engineWarmTemperatureC => settings.engineWarmTemperatureC.toNat
  | .transmissionOverheatTemperatureC => settings.transmissionOverheatTemperatureC.toNat
  | .temperatureAlertHysteresisC => settings.temperatureAlertHysteresisC.toNat
  | .feature id _ => (settings.features.enabled id).toNat

theorem reading_injective {first second : UserSettings} (hfirst : first.features.valid = true)
    (hsecond : second.features.valid = true) (h : reading first = reading second) :
    first = second := by
  have hreading := congrFun h
  have hbool {left right : Bool} (heq : left.toNat = right.toNat) : left = right := by
    cases left <;> cases right <;> simp_all
  have hfeatures : first.features = second.features :=
    FeatureRequests.eq_of_enabled hfirst hsecond fun id known =>
      hbool (hreading (.feature id known))
  obtain ⟨_, ⟨_⟩, ⟨_⟩, _, _, _, _, _, _, _, _, _, _, _⟩ := first
  obtain ⟨_, ⟨_⟩, ⟨_⟩, _, _, _, _, _, _, _, _, _, _, _⟩ := second
  have hmode := UInt8.toNat_inj.mp (hreading .hoodMonitoring)
  have hentry := UInt8.toNat_inj.mp (hreading .driverEntryMode)
  simp only [UserSettings.mk.injEq, HoodMonitoringMode.mk.injEq, DriverEntryMode.mk.injEq]
  exact ⟨hbool (hreading .remoteStartEnabled), hmode, hentry,
    UInt32.toNat_inj.mp (hreading .remoteRunMinutes),
    UInt32.toNat_inj.mp (hreading .takeoverTimeoutSeconds),
    UInt8.toNat_inj.mp (hreading .lockPressCount),
    UInt32.toNat_inj.mp (hreading .lockMinimumGapMs),
    UInt32.toNat_inj.mp (hreading .lockMaximumGapMs),
    UInt32.toNat_inj.mp (hreading .lockSequenceWindowMs), hfeatures,
    UInt16.toNat_inj.mp (hreading .coldEngineMaximumRpm),
    UInt16.toNat_inj.mp (hreading .engineWarmTemperatureC),
    UInt16.toNat_inj.mp (hreading .transmissionOverheatTemperatureC),
    UInt16.toNat_inj.mp (hreading .temperatureAlertHysteresisC)⟩

/-! Values. -/

theorem parseUnsigned_eq (text : Text) : parseUnsigned text =
    (Text.number 10 text).bind fun value =>
      if value < UInt32.size then some (UInt32.ofNat value) else none := by
  unfold parseUnsigned
  cases hnumber : Text.number 10 text with
  | none =>
    by_cases hnil : text = []
    · rw [if_pos hnil]
      rfl
    · have hrest := Text.fromChars_rest hnil hnumber
      rw [if_neg hnil]
      split
      · rename_i hparsed
        rw [hparsed] at hrest
        exact absurd rfl hrest
      · rfl
  | some value =>
    have hne := ((Text.number_isSome_iff 10 text).mp (Option.isSome_of_eq_some hnumber)).1
    rw [if_neg hne, Text.fromChars_of_number hnumber, Option.bind_some]
    by_cases hlong : value < 2 ^ 64
    · rw [if_pos hlong]
      dsimp only
      rw [UInt64.toNat_ofNat_of_lt' hlong, UInt64.toUInt32_ofNat']
    · have hsize : UInt32.size ≤ 2 ^ 64 := by decide
      rw [if_neg hlong, if_neg (by omega)]

theorem parse_number {size : Nat} (h : size ≤ UInt32.size) (text : Text) :
    (Spelling.number 1 size).parse text = (parseUnsigned text).bind fun parsed =>
      if parsed.toNat < size then some parsed.toNat else none := by
  rw [parseUnsigned_eq, Spelling.parse]
  cases Text.number 10 text with
  | none => rfl
  | some value =>
    simp only [Option.bind_some, Nat.mul_one]
    by_cases hvalue : value < UInt32.size
    · rw [if_pos hvalue, Option.bind_some, UInt32.toNat_ofNat_of_lt' hvalue]
    · rw [if_neg hvalue, if_neg (by omega)]
      rfl

theorem parse_scaled {unit : UInt32} (h : 0 < unit.toNat) (text : Text) :
    (Spelling.number unit.toNat UInt32.size).parse text =
      (parseScaledDuration text unit).map UInt32.toNat := by
  rw [parseScaledDuration, parseUnsigned_eq, Spelling.parse]
  cases Text.number 10 text with
  | none => rfl
  | some value =>
    simp only [Option.bind_some]
    have hmax : UInt32.size = 4294967295 + 1 := rfl
    have hfits : value * unit.toNat < UInt32.size ↔ value ≤ 4294967295 / unit.toNat := by
      rw [Nat.le_div_iff_mul_le h]
      omega
    have hquotient : 4294967295 / unit.toNat < UInt32.size :=
      Nat.lt_of_le_of_lt (Nat.div_le_self ..) (by decide)
    have hdiv : (4294967295 / unit).toNat = 4294967295 / unit.toNat := UInt32.toNat_div ..
    by_cases hvalue : value < UInt32.size
    · rw [if_pos hvalue, Option.bind_some]
      simp only [gt_iff_lt, UInt32.lt_iff_toNat_lt, hdiv, UInt32.toNat_ofNat_of_lt' hvalue]
      split
      · rename_i hfit
        rw [if_neg (by omega), Option.map_some, UInt32.toNat_mul,
          UInt32.toNat_ofNat_of_lt' hvalue, Nat.mod_eq_of_lt hfit]
      · rw [if_pos (by omega)]
        rfl
    · rw [if_neg hvalue, if_neg (by omega)]
      rfl

theorem parse_words_nil (text : Text) : (Spelling.words []).parse text = none := rfl

theorem parse_words_cons (text word : Text) (value : Nat) (choices : List (Text × Nat)) :
    (Spelling.words ((word, value) :: choices)).parse text =
      if text = word then some value else (Spelling.words choices).parse text := by
  change List.lookup text ((word, value) :: choices) = _
  rw [List.lookup_cons]
  split
  · rename_i heq
    rw [if_pos (beq_iff_eq.mp heq)]
  · rename_i hne
    rw [if_neg (beq_eq_false_iff_ne.mp hne)]
    rfl

theorem parse_switch (text : Text) :
    Spelling.switch.parse text = (parseBoolean text).map Bool.toNat := by
  simp only [Spelling.switch, parse_words_cons, parse_words_nil, parseBoolean]
  split_ifs <;> rfl

/-! Settings. -/

theorem reading_eq_update {before after : UserSettings} {setting : Setting} {value : Nat}
    (h : reading after setting = value)
    (hother : ∀ other ≠ setting, reading after other = reading before other) :
    reading after = Function.update (reading before) setting value :=
  Function.eq_update_iff.mpr ⟨h, hother⟩

variable {settings : UserSettings} {setting : Setting}

theorem number_reading {size : Nat} (hsize : size ≤ UInt32.size)
    {apply : UInt32 → Option UserSettings} {write : UInt32 → UserSettings}
    (happly : ∀ parsed, apply parsed = if parsed.toNat < size then some (write parsed) else none)
    (hwrite : ∀ parsed, parsed.toNat < size →
      reading (write parsed) = Function.update (reading settings) setting parsed.toNat)
    (text : Text) : ((parseUnsigned text).bind apply).map reading =
      ((Spelling.number 1 size).parse text).map (Function.update (reading settings) setting) := by
  rw [parse_number hsize]
  cases parseUnsigned text with
  | none => rfl
  | some parsed =>
    rw [Option.bind_some, Option.bind_some, happly]
    split
    · rename_i hfits
      exact congrArg some (hwrite parsed hfits)
    · rfl

theorem scaled_reading {unit : UInt32} (hunit : 0 < unit.toNat) {write : UInt32 → UserSettings}
    (hwrite : ∀ duration,
      reading (write duration) = Function.update (reading settings) setting duration.toNat)
    (text : Text) : ((parseScaledDuration text unit).map write).map reading =
      ((Spelling.number unit.toNat UInt32.size).parse text).map
        (Function.update (reading settings) setting) := by
  rw [parse_scaled hunit, Option.map_map, Option.map_map]
  exact congrArg (Option.map · _) (funext hwrite)

theorem switch_reading {apply : Bool → Option UserSettings}
    (happly : ∀ enabled, (apply enabled).map reading =
      some (Function.update (reading settings) setting enabled.toNat))
    (text : Text) : ((parseBoolean text).bind apply).map reading =
      (Spelling.switch.parse text).map (Function.update (reading settings) setting) := by
  rw [parse_switch]
  cases parseBoolean text with
  | none => rfl
  | some enabled => exact happly enabled

theorem ite_gt_eq {α : Type} (parsed limit : UInt32) (value : α) :
    (if parsed > limit then none else some value) =
      if parsed.toNat < limit.toNat + 1 then some value else none := by
  have hlt : parsed > limit ↔ limit.toNat < parsed.toNat := UInt32.lt_iff_toNat_lt
  by_cases hover : parsed > limit
  · rw [if_pos hover, if_neg (Nat.not_lt.mpr (hlt.mp hover))]
  · rw [if_neg hover, if_pos (Nat.lt_succ_of_le (Nat.not_lt.mp (hlt.not.mp hover)))]

theorem applySetting_feature (id : FeatureId) (known : id ≠ .count) (text : Text)
    (settings : UserSettings) : applySetting (Setting.feature id known).key text settings =
      (parseBoolean text).bind fun enabled =>
        (settings.features.setEnabled id enabled).map fun features =>
          { settings with features := features } := by
  cases id with
  | count => exact absurd rfl known
  | _ => rfl

theorem applySetting_reading (setting : Setting) (text : Text) (settings : UserSettings) :
    (applySetting setting.key text settings).map reading =
      (setting.spelling.parse text).map (Function.update (reading settings) setting) := by
  cases setting with
  | remoteStartEnabled =>
    change ((parseBoolean text).map _).map reading = (Spelling.switch.parse text).map _
    rw [parse_switch, Option.map_map, Option.map_map]
    refine congrArg (Option.map · _) (funext fun enabled => ?_)
    refine reading_eq_update rfl fun other hne => ?_
    cases other <;> first | rfl | exact absurd rfl hne
  | hoodMonitoring =>
    have hwrite (mode : HoodMonitoringMode) : reading { settings with hoodMonitoring := mode } =
        Function.update (reading settings) .hoodMonitoring mode.raw.toNat := by
      refine reading_eq_update rfl fun other hne => ?_
      cases other <;> first | rfl | exact absurd rfl hne
    change (if text = Text.ascii "required" then some _
      else if text = Text.ascii "disabled" ∨ text = Text.ascii "optional" then some _
      else none).map reading = _
    rw [ite_or]
    simp only [Setting.spelling, parse_words_cons, parse_words_nil]
    split_ifs
    · exact congrArg some (hwrite .required)
    · exact congrArg some (hwrite .disabled)
    · exact congrArg some (hwrite .disabled)
    · rfl
  | driverEntryMode =>
    have hwrite (mode : DriverEntryMode) : reading { settings with driverEntryMode := mode } =
        Function.update (reading settings) .driverEntryMode mode.raw.toNat := by
      refine reading_eq_update rfl fun other hne => ?_
      cases other <;> first | rfl | exact absurd rfl hne
    change (if text = Text.ascii "require_takeover" ∨ text = Text.ascii "require-takeover" then
        some _
      else if text = Text.ascii "stop_immediately" ∨ text = Text.ascii "stop-immediately" then
        some _
      else none).map reading = _
    rw [ite_or, ite_or]
    simp only [Setting.spelling, parse_words_cons, parse_words_nil]
    split_ifs
    · exact congrArg some (hwrite .requireTakeover)
    · exact congrArg some (hwrite .requireTakeover)
    · exact congrArg some (hwrite .stopImmediately)
    · exact congrArg some (hwrite .stopImmediately)
    · rfl
  | remoteRunMinutes | takeoverTimeoutSeconds =>
    refine scaled_reading (by decide) (fun duration => reading_eq_update rfl fun other hne => ?_) text
    cases other <;> first | rfl | exact absurd rfl hne
  | lockMinimumGapMs | lockMaximumGapMs | lockSequenceWindowMs =>
    refine number_reading (Nat.le_refl _) (fun parsed => (if_pos parsed.toNat_lt).symm)
      (fun parsed _ => reading_eq_update rfl fun other hne => ?_) text
    cases other <;> first | rfl | exact absurd rfl hne
  | lockPressCount =>
    refine number_reading (by decide) (fun parsed => ite_gt_eq parsed 255 _)
      (fun parsed hfits => reading_eq_update ?_ fun other hne => ?_) text
    · exact (UInt32.toNat_toUInt8 parsed).trans (Nat.mod_eq_of_lt hfits)
    · cases other <;> first | rfl | exact absurd rfl hne
  | coldEngineMaximumRpm | engineWarmTemperatureC | transmissionOverheatTemperatureC
  | temperatureAlertHysteresisC =>
    refine number_reading (by decide) (fun parsed => ite_gt_eq parsed 65535 _)
      (fun parsed hfits => reading_eq_update ?_ fun other hne => ?_) text
    · exact (UInt32.toNat_toUInt16 parsed).trans (Nat.mod_eq_of_lt hfits)
    · cases other <;> first | rfl | exact absurd rfl hne
  | feature id known =>
    rw [applySetting_feature]
    refine switch_reading (fun enabled => ?_) text
    obtain ⟨after, hafter⟩ := FeatureRequests.exists_setEnabled known settings.features enabled
    rw [hafter]
    refine congrArg some (reading_eq_update ?_ fun other hne => ?_)
    · change (after.enabled id).toNat = _
      rw [FeatureRequests.enabled_setEnabled hafter, if_pos rfl]
    · cases other with
      | feature otherId otherKnown =>
        change (after.enabled otherId).toNat = (settings.features.enabled otherId).toNat
        rw [FeatureRequests.enabled_setEnabled hafter, if_neg]
        rintro rfl
        exact hne rfl
      | _ => rfl

end BmwRemote.Host.UserSettingsFile
