import BmwRemote.Host.UserSettingsAcceptance

/-! What is written of settings is read back as these settings. -/
namespace BmwRemote.Host.UserSettingsFile

open BmwRemote.Application BmwRemote.Lib

def valueText (settings : UserSettings) : Setting → Text
  | .remoteStartEnabled => boolean settings.remoteStartEnabled
  | .hoodMonitoring => hoodMonitoringText settings.hoodMonitoring
  | .driverEntryMode => driverEntryModeText settings.driverEntryMode
  | .remoteRunMinutes => Text.decimal (settings.maximumRemoteRunTimeMs / 60000).toNat
  | .takeoverTimeoutSeconds => Text.decimal (settings.driverTakeoverTimeoutMs / 1000).toNat
  | .feature id _ => boolean (settings.features.enabled id)
  | setting => Text.decimal (reading settings setting)

theorem coldEngineGuard_known : FeatureId.coldEngineGuard ≠ .count := by decide

theorem dpfRegenerationIndicator_known : FeatureId.dpfRegenerationIndicator ≠ .count := by decide

theorem transmissionOverheatAlert_known : FeatureId.transmissionOverheatAlert ≠ .count := by decide

/-- The lines of the file: texts that say nothing, and settings. -/
def layout : List (Text ⊕ Setting) :=
  [.inl (.ascii "# BMW E9x Remote Control - configuration utilisateur"),
    .inl (.ascii "# Generee par le configurateur ; les valeurs invalides sont refusees."),
    .inl [], .inr .remoteStartEnabled, .inr .hoodMonitoring, .inr .remoteRunMinutes,
    .inr .driverEntryMode, .inr .takeoverTimeoutSeconds, .inr .lockPressCount,
    .inr .lockMinimumGapMs, .inr .lockMaximumGapMs, .inr .lockSequenceWindowMs, .inl [],
    .inl (.ascii "# Seuils de telemetrie en lecture seule."), .inr .coldEngineMaximumRpm,
    .inr .engineWarmTemperatureC, .inr .transmissionOverheatTemperatureC,
    .inr .temperatureAlertHysteresisC, .inl [],
    .inl (.ascii "# Fonctionnalites modulaires ; toutes sont desactivees par defaut."),
    .inr (.feature .coldEngineGuard coldEngineGuard_known),
    .inr (.feature .dpfRegenerationIndicator dpfRegenerationIndicator_known),
    .inr (.feature .transmissionOverheatAlert transmissionOverheatAlert_known)]

def render (settings : UserSettings) : Text ⊕ Setting → Text
  | .inl text => text
  | .inr setting => entry setting.key (valueText settings setting)

theorem settingsLines_eq (settings : UserSettings) :
    settingsLines settings = layout.map (render settings) := rfl

/-! Texts that are read as they stand. -/

structure Plain (text : Text) : Prop where
  nonempty : text ≠ []
  solid : ∀ byte ∈ text, Text.isSpace byte = false
  uncommented : comment ∉ text
  unequal : equals ∉ text

instance (text : Text) : Decidable (Plain text) :=
  letI : Decidable (∀ byte ∈ text, Text.isSpace byte = false) := List.decidableBAll _ text
  decidable_of_iff (text ≠ [] ∧ (∀ byte ∈ text, Text.isSpace byte = false) ∧ comment ∉ text ∧
      equals ∉ text)
    ⟨fun ⟨nonempty, solid, uncommented, unequal⟩ => ⟨nonempty, solid, uncommented, unequal⟩,
      fun ⟨nonempty, solid, uncommented, unequal⟩ => ⟨nonempty, solid, uncommented, unequal⟩⟩

theorem plain_key (setting : Setting) : Plain setting.key := by
  have hall : Setting.all.all (fun setting => decide (Plain setting.key)) = true := by
    decide +kernel
  exact of_decide_eq_true (List.all_eq_true.mp hall setting (Setting.mem_all setting))

theorem plain_boolean (value : Bool) : Plain (boolean value) := by
  cases value <;> decide +kernel

theorem plain_decimal (value : Nat) : Plain (Text.decimal value) := by
  have hrange : ∀ byte ∈ Text.decimal value, 48 ≤ byte.toNat ∧ byte.toNat ≤ 57 := by
    rw [Text.decimal, List.forall_mem_map]
    exact Text.forall_toDigits (by decide) (by decide) value
  have hnonempty : Text.decimal value ≠ [] := by simp [Text.decimal]
  refine ⟨hnonempty, fun byte hmem => ?_, fun hmem => ?_, fun hmem => ?_⟩
  · have hlower := (hrange byte hmem).1
    rw [Text.isSpace, Bool.or_eq_false_iff, beq_eq_false_iff_ne, Bool.and_eq_false_iff]
    refine ⟨?_, .inr (decide_eq_false ?_)⟩
    · rintro rfl
      exact absurd hlower (by decide)
    · rw [UInt8.le_iff_toNat_le, show (13 : UInt8).toNat = 13 from rfl]
      omega
  · exact absurd (hrange comment hmem) (by decide)
  · exact absurd (hrange equals hmem) (by decide)

/-! Lines. -/

variable {key value : Text}

theorem content_entry (hkey : Plain key) (hvalue : Plain value) :
    content (entry key value) = entry key value := by
  have hcut : Text.cut comment (entry key value) = none := by
    cases hcut : Text.cut comment (entry key value) with
    | none => rfl
    | some pair =>
      obtain ⟨hsplit, -⟩ := Text.cut_eq_some_iff.mp hcut
      have hmem : comment ∈ entry key value := by
        rw [hsplit]
        exact List.mem_append_right _ List.mem_cons_self
      rw [entry, List.mem_append, List.mem_cons] at hmem
      rcases hmem with hkeyMem | heq | hvalueMem
      · exact absurd hkeyMem hkey.uncommented
      · exact absurd heq (by decide)
      · exact absurd hvalueMem hvalue.uncommented
  rw [content, hcut]
  refine Text.strip_solid ⟨by simp [entry], fun byte hmem => ?_⟩
  rw [entry, List.mem_append, List.mem_cons] at hmem
  rcases hmem with hkeyMem | rfl | hvalueMem
  · exact hkey.solid byte hkeyMem
  · rfl
  · exact hvalue.solid byte hvalueMem

theorem splitContent_entry (hkey : Plain key) (hvalue : Plain value) :
    splitContent (entry key value) = .ok (key, value) := by
  have hcut : Text.cut equals (entry key value) = some (key, value) :=
    Text.cut_eq_some_iff.mpr ⟨rfl, hkey.unequal⟩
  have hstrip {text : Text} (h : Plain text) : text.strip = text :=
    Text.strip_solid ⟨h.nonempty, h.solid⟩
  rw [splitContent, hcut]
  simp only [hvalue.unequal, hstrip hkey, hstrip hvalue, hkey.nonempty, hvalue.nonempty, or_self,
    if_false]

theorem assigned_entry {setting : Setting} {number : Nat} (hvalue : Plain value)
    (hparse : setting.spelling.parse value = some number) :
    assigned (entry setting.key value) = some [(setting, number)] := by
  have hkey := plain_key setting
  rw [assigned, content_entry hkey hvalue, if_neg (by simp [entry]), splitContent_entry hkey hvalue]
  simp only [settingOf_key, Option.bind_some, hparse, Option.map_some]

/-! Values. -/

variable {settings : UserSettings}

/-- The settings that the file has values for. -/
structure Representable (settings : UserSettings) : Prop where
  valid : (validateUserSettings settings).valid = true
  minutes : 60000 ∣ settings.maximumRemoteRunTimeMs.toNat
  seconds : 1000 ∣ settings.driverTakeoverTimeoutMs.toNat

theorem modes_of_valid (h : (validateUserSettings settings).valid = true) :
    (settings.hoodMonitoring = .required ∨ settings.hoodMonitoring = .disabled) ∧
      (settings.driverEntryMode = .requireTakeover ∨
        settings.driverEntryMode = .stopImmediately) := by
  unfold validateUserSettings at h
  simp only [valid_addIf, Bool.and_eq_false_iff, bne_eq_false_iff_eq] at h
  simp only [h, and_self]

theorem parse_decimal {unit size value : Nat} (h : value * unit < size) :
    (Spelling.number unit size).parse (Text.decimal value) = some (value * unit) := by
  rw [Spelling.parse, Text.number_decimal, Option.bind_some, if_pos h]

theorem parse_boolean (value : Bool) :
    Spelling.switch.parse (boolean value) = some value.toNat := by
  cases value <;> rfl

theorem parse_units {unit duration : UInt32} (h : unit.toNat ∣ duration.toNat) :
    (Spelling.number unit.toNat UInt32.size).parse (Text.decimal (duration / unit).toNat) =
      some duration.toNat := by
  have hexact : (duration / unit).toNat * unit.toNat = duration.toNat := by
    rw [UInt32.toNat_div, Nat.div_mul_cancel h]
  rw [parse_decimal (by rw [hexact]; exact duration.toNat_lt), hexact]

theorem plain_valueText (h : Representable settings) (setting : Setting) :
    Plain (valueText settings setting) := by
  obtain ⟨hhood, hentry⟩ := modes_of_valid h.valid
  cases setting with
  | remoteStartEnabled | feature => exact plain_boolean _
  | hoodMonitoring =>
    rw [valueText]
    rcases hhood with heq | heq <;> rw [heq] <;> decide +kernel
  | driverEntryMode =>
    rw [valueText]
    rcases hentry with heq | heq <;> rw [heq] <;> decide +kernel
  | _ => exact plain_decimal _

theorem parse_valueText (h : Representable settings) (setting : Setting) :
    setting.spelling.parse (valueText settings setting) = some (reading settings setting) := by
  obtain ⟨hhood, hentry⟩ := modes_of_valid h.valid
  have hword {size value : Nat} (hlt : value < size) :
      (Spelling.number 1 size).parse (Text.decimal value) = some value := by
    rw [parse_decimal (by rwa [Nat.mul_one]), Nat.mul_one]
  cases setting with
  | remoteStartEnabled | feature => exact parse_boolean _
  | hoodMonitoring =>
    rw [valueText, reading]
    rcases hhood with heq | heq <;> rw [heq] <;> rfl
  | driverEntryMode =>
    rw [valueText, reading]
    rcases hentry with heq | heq <;> rw [heq] <;> rfl
  | remoteRunMinutes => exact parse_units h.minutes
  | takeoverTimeoutSeconds => exact parse_units h.seconds
  | lockPressCount => exact hword settings.lockPressCount.toNat_lt
  | lockMinimumGapMs => exact hword settings.lockMinimumGapMs.toNat_lt
  | lockMaximumGapMs => exact hword settings.lockMaximumGapMs.toNat_lt
  | lockSequenceWindowMs => exact hword settings.lockMaximumSequenceMs.toNat_lt
  | coldEngineMaximumRpm => exact hword settings.coldEngineMaximumRpm.toNat_lt
  | engineWarmTemperatureC => exact hword settings.engineWarmTemperatureC.toNat_lt
  | transmissionOverheatTemperatureC =>
    exact hword settings.transmissionOverheatTemperatureC.toNat_lt
  | temperatureAlertHysteresisC => exact hword settings.temperatureAlertHysteresisC.toNat_lt

/-! The file. -/

theorem assigned_render (h : Representable settings) :
    ∀ part ∈ layout, assigned (render settings part) =
      some (part.elim (fun _ => []) fun setting => [(setting, reading settings setting)]) := by
  have hsilent : ∀ text : Text, content text = [] → assigned text = some [] :=
    fun text hblank => if_pos hblank
  have hsetting (setting : Setting) :
      assigned (entry setting.key (valueText settings setting)) =
        some [(setting, reading settings setting)] :=
    assigned_entry (plain_valueText h setting) (parse_valueText h setting)
  intro part hmem
  cases part with
  | inr setting => exact hsetting setting
  | inl text =>
    have htext : content text = [] := by
      have hall : layout.all (fun part => part.elim (fun text => decide (content text = []))
          fun _ => true) = true := by
        decide +kernel
      exact of_decide_eq_true (List.all_eq_true.mp hall _ hmem)
    exact hsilent text htext

theorem assignments_written (h : Representable settings) :
    assignments (settingsLines settings) =
      Setting.all.map fun setting => (setting, reading settings setting) := by
  have hparts (parts : List (Text ⊕ Setting)) (hmem : ∀ part ∈ parts, part ∈ layout) :
      assignments (parts.map (render settings)) =
        parts.flatMap fun part =>
          part.elim (fun _ => []) fun setting => [(setting, reading settings setting)] := by
    rw [assignments, List.flatMap_map]
    refine List.flatMap_congr fun part hpart => ?_
    rw [assigned_render h part (hmem part hpart)]
    rfl
  rw [settingsLines_eq, hparts layout fun _ hpart => hpart]
  rfl

theorem newline_written (h : Representable settings) :
    ∀ line ∈ settingsLines settings, Text.newline ∉ line := by
  have hplain {text : Text} (hplain : Plain text) : Text.newline ∉ text :=
    fun hmem => absurd (hplain.solid Text.newline hmem) (by decide)
  rw [settingsLines_eq, List.forall_mem_map]
  intro part hmem
  cases part with
  | inr setting =>
    rw [render, entry, List.mem_append, List.mem_cons]
    rintro (hkey | heq | hvalue)
    · exact hplain (plain_key setting) hkey
    · exact absurd heq (by decide)
    · exact hplain (plain_valueText h setting) hvalue
  | inl text =>
    have hall : layout.all (fun part => part.elim (fun text => decide (Text.newline ∉ text))
        fun _ => true) = true := by
      decide +kernel
    exact of_decide_eq_true (List.all_eq_true.mp hall _ hmem)

/-- The file of representable settings assigns every setting its value. -/
theorem parseInput_written (h : Representable settings) :
    parseInput (.ofText (Text.unlines (settingsLines settings))) = .ok settings := by
  have hkeys : ((assignments (settingsLines settings)).map Prod.fst).Nodup := by
    rw [assignments_written h, List.map_map]
    exact Setting.nodup_keys.of_map _
  rw [parseInput_eq_ok_iff, InputStream.ofText, Text.lines_unlines (newline_written h)]
  refine ⟨rfl, ⟨?_, hkeys⟩, h.valid, ?_⟩
  · rw [settingsLines_eq, List.forall_mem_map]
    intro part hmem
    rw [assigned_render h part hmem]
    rfl
  · funext setting
    refine (assign_of_mem hkeys ?_).symm
    rw [assignments_written h]
    exact List.mem_map_of_mem (Setting.mem_all setting)

theorem mod_eq_zero_iff (value unit : UInt32) : value % unit = 0 ↔ unit.toNat ∣ value.toNat := by
  rw [← UInt32.toNat_inj, UInt32.toNat_mod, Nat.dvd_iff_mod_eq_zero]
  rfl

/-- Settings are written if the file has values for them, and are then read back. -/
theorem write_round_trip (settings : UserSettings) (written : Text) :
    let outcome := writeUserSettings ⟨written, false⟩ settings
    (outcome.success = true ↔ (validateUserSettings settings).valid = true ∧
        60000 ∣ settings.maximumRemoteRunTimeMs.toNat ∧
        1000 ∣ settings.driverTakeoverTimeoutMs.toNat) ∧
      (outcome.success = true → ∃ text, outcome.output = ⟨written ++ text, false⟩ ∧
        ∀ before, parseUserSettings (.ofText text) before = ⟨true, settings, []⟩) ∧
      (outcome.success = false → outcome.output = ⟨written, false⟩) := by
  have hminutes := mod_eq_zero_iff settings.maximumRemoteRunTimeMs 60000
  have hseconds := mod_eq_zero_iff settings.driverTakeoverTimeoutMs 1000
  dsimp only
  by_cases h : Representable settings
  · have houtcome : writeUserSettings ⟨written, false⟩ settings =
        ⟨true, ⟨written ++ Text.unlines (settingsLines settings), false⟩, []⟩ := by
      unfold writeUserSettings
      rw [if_neg (by rw [h.valid]; decide), if_neg (not_not.mpr (hminutes.mpr h.minutes)),
        if_neg (not_not.mpr (hseconds.mpr h.seconds))]
      rfl
    rw [houtcome]
    refine ⟨⟨fun _ => ⟨h.valid, h.minutes, h.seconds⟩, fun _ => rfl⟩, fun _ => ⟨_, rfl, ?_⟩, ?_⟩
    · intro before
      rw [parseUserSettings, parseInput_written h]
    · intro hfailed
      cases hfailed
  · have houtcome : ∃ error, writeUserSettings ⟨written, false⟩ settings =
        ⟨false, ⟨written, false⟩, error⟩ := by
      unfold writeUserSettings
      dsimp only
      split
      · exact ⟨_, rfl⟩
      rename_i hvalid
      split
      · exact ⟨_, rfl⟩
      rename_i hwhole
      split
      · exact ⟨_, rfl⟩
      rename_i hwholeSeconds
      exact absurd ⟨Bool.not_eq_false _ ▸ hvalid, hminutes.mp (not_not.mp hwhole),
        hseconds.mp (not_not.mp hwholeSeconds)⟩ h
    obtain ⟨error, houtcome⟩ := houtcome
    rw [houtcome]
    refine ⟨⟨fun hsuccess => ?_, fun ⟨hvalid, hwhole, hwholeSeconds⟩ => ?_⟩, fun hsuccess => ?_,
      fun _ => rfl⟩
    · cases hsuccess
    · exact absurd ⟨hvalid, hwhole, hwholeSeconds⟩ h
    · cases hsuccess

end BmwRemote.Host.UserSettingsFile
