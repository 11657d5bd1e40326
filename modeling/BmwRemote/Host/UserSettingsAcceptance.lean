import BmwRemote.Application.SettingsAgreement
import BmwRemote.Host.UserSettingsMeaning

/-! Which settings files are accepted: every line is blank or assigns a value to a setting, no
setting is assigned twice, and what comes out keeps the limits. The order of the lines does
not matter. -/
namespace BmwRemote.Host.UserSettingsFile

open BmwRemote.Application BmwRemote.Lib

def settingOf (key : Text) : Option Setting := Setting.all.find? fun setting => setting.key == key

/-- What a line assigns, none where it is refused whatever stands in the others. -/
def assigned (line : Text) : Option (List (Setting × Nat)) :=
  if content line = [] then some []
  else
    match splitContent (content line) with
    | .error _ => none
    | .ok (key, value) =>
      (settingOf key).bind fun setting =>
        (setting.spelling.parse value).map fun reading => [(setting, reading)]

def assignments (lines : List Text) : List (Setting × Nat) :=
  lines.flatMap fun line => (assigned line).getD []

def keysOf (lines : List Text) : List Text :=
  lines.filterMap fun line =>
    if content line = [] then none
    else (splitContent (content line)).toOption.map Prod.fst

structure WellFormed (lines : List Text) : Prop where
  assigned : ∀ line ∈ lines, (assigned line).isSome = true
  distinct : ((assignments lines).map Prod.fst).Nodup

/-! Keys. -/

theorem key_of_settingOf {key : Text} {setting : Setting} (h : settingOf key = some setting) :
    setting.key = key := by
  have hfound := List.find?_some h
  exact beq_iff_eq.mp hfound

theorem settingOf_key (setting : Setting) : settingOf setting.key = some setting := by
  cases hfind : settingOf setting.key with
  | none =>
    have hnone := List.find?_eq_none.mp hfind setting (Setting.mem_all setting)
    exact absurd (beq_self_eq_true setting.key) hnone
  | some other => rw [Setting.key_injective (key_of_settingOf hfind)]

theorem knownKey_iff (key : Text) : knownKey key = true ↔ (settingOf key).isSome = true := by
  have hcode (feature : FeatureDescriptor) (hmem : feature ∈ featureCatalog) :
      ∃ setting : Setting, setting.key = featureKeyPrefix ++ feature.code := by
    have hfind := (findFeature_of_mem hmem).2
    have hknown : feature.id ≠ .count := by
      intro hcount
      rw [hcount] at hfind
      cases hfind
    refine ⟨.feature feature.id hknown, ?_⟩
    rw [Setting.key, hfind]
    rfl
  have hsetting : (∃ setting : Setting, setting.key = key) ↔ (settingOf key).isSome = true := by
    constructor
    · rintro ⟨setting, rfl⟩
      rw [settingOf_key]
      rfl
    · intro h
      obtain ⟨setting, hfind⟩ := Option.isSome_iff_exists.mp h
      exact ⟨setting, key_of_settingOf hfind⟩
  rw [← hsetting]
  constructor
  · intro h
    unfold knownKey at h
    split at h
    · rename_i hprefix
      obtain ⟨feature, hfind⟩ := Option.isSome_iff_exists.mp h
      obtain ⟨setting, hkey⟩ := hcode feature (List.mem_of_find?_eq_some hfind)
      refine ⟨setting, hkey.trans ?_⟩
      rw [isFeatureKey, Bool.and_eq_true, beq_iff_eq] at hprefix
      have hfound := List.find?_some hfind
      rw [← beq_iff_eq.mp hfound, ← List.take_append_drop featureKeyPrefix.length key, hprefix.2,
        List.drop_left]
    · simp only [Bool.or_eq_true, beq_iff_eq, or_assoc] at h
      rcases h with h | h | h | h | h | h | h | h | h | h | h | h | h
      · exact ⟨.remoteStartEnabled, h.symm⟩
      · exact ⟨.hoodMonitoring, h.symm⟩
      · exact ⟨.driverEntryMode, h.symm⟩
      · exact ⟨.remoteRunMinutes, h.symm⟩
      · exact ⟨.takeoverTimeoutSeconds, h.symm⟩
      · exact ⟨.lockPressCount, h.symm⟩
      · exact ⟨.lockMinimumGapMs, h.symm⟩
      · exact ⟨.lockMaximumGapMs, h.symm⟩
      · exact ⟨.lockSequenceWindowMs, h.symm⟩
      · exact ⟨.coldEngineMaximumRpm, h.symm⟩
      · exact ⟨.engineWarmTemperatureC, h.symm⟩
      · exact ⟨.transmissionOverheatTemperatureC, h.symm⟩
      · exact ⟨.temperatureAlertHysteresisC, h.symm⟩
  · rintro ⟨setting, rfl⟩
    cases setting with
    | feature id known =>
      cases id with
      | count => exact absurd rfl known
      | _ => rfl
    | _ => rfl

/-! Lines. -/

theorem parseLine_eq_ok_iff {line : Text} {parsed after : UserSettings} {keys keys' : List Text} :
    parseLine line parsed keys = .ok (after, keys') ↔
      (content line = [] ∧ after = parsed ∧ keys' = keys) ∨
      (content line ≠ [] ∧ ∃ key value, splitContent (content line) = .ok (key, value) ∧
        knownKey key = true ∧ key ∉ keys ∧ applySetting key value parsed = some after ∧
        keys' = keys ++ [key]) := by
  unfold parseLine
  by_cases hblank : content line = []
  · rw [if_pos hblank]
    constructor
    · intro h
      cases h
      exact .inl ⟨hblank, rfl, rfl⟩
    · rintro (⟨-, rfl, rfl⟩ | ⟨hcontent, -⟩)
      · rfl
      · exact absurd hblank hcontent
  rw [if_neg hblank]
  cases hsplit : splitContent (content line) with
  | error message => simp [hblank, bind, Except.bind]
  | ok pair =>
    obtain ⟨key, value⟩ := pair
    simp only [hblank, bind, Except.bind, throw, throwThe, MonadExceptOf.throw, pure, Except.pure,
      hasKey]
    cases hknown : knownKey key with
    | false => simp [hknown]
    | true =>
      by_cases hmem : key ∈ keys
      · simp [hmem, hknown]
      · cases happly : applySetting key value parsed with
        | none => simp [hmem, hknown, happly]
        | some settings =>
          simp only [hmem, decide_false]
          constructor
          · intro h
            cases h
            exact .inr ⟨hblank, key, value, rfl, hknown, hmem, happly, rfl⟩
          · rintro (⟨hcontent, -⟩ | ⟨-, _, _, heq, -, -, hafter, rfl⟩)
            · exact hcontent.elim
            · cases heq
              rw [happly] at hafter
              cases hafter
              rfl

variable {setting : Setting} {key value : Text} {parsed after : UserSettings}
  {keys keys' : List Text} {made more : List (Setting × Nat)} {line : Text} {lines : List Text}

theorem reading_of_applySetting (h : applySetting setting.key value parsed = some after) :
    ∃ number, setting.spelling.parse value = some number ∧
      reading after = Function.update (reading parsed) setting number := by
  have hreading := applySetting_reading setting value parsed
  rw [h, Option.map_some] at hreading
  obtain ⟨number, hparse, hafter⟩ := Option.map_eq_some_iff.mp hreading.symm
  exact ⟨number, hparse, hafter.symm⟩

theorem exists_applySetting {number : Nat} (h : setting.spelling.parse value = some number)
    (parsed : UserSettings) : ∃ after, applySetting setting.key value parsed = some after := by
  have hreading := applySetting_reading setting value parsed
  rw [h, Option.map_some] at hreading
  obtain ⟨after, happly, -⟩ := Option.map_eq_some_iff.mp hreading
  exact ⟨after, happly⟩

theorem valid_applySetting (h : applySetting setting.key value parsed = some after)
    (hvalid : parsed.features.valid = true) : after.features.valid = true := by
  cases setting with
  | remoteStartEnabled | remoteRunMinutes | takeoverTimeoutSeconds =>
    obtain ⟨_, -, rfl⟩ := Option.map_eq_some_iff.mp h
    exact hvalid
  | hoodMonitoring | driverEntryMode =>
    change (if _ then some _ else if _ then some _ else none) = some after at h
    split_ifs at h <;> cases h <;> exact hvalid
  | lockMinimumGapMs | lockMaximumGapMs | lockSequenceWindowMs =>
    obtain ⟨number, -, h⟩ := Option.bind_eq_some_iff.mp h
    cases h
    exact hvalid
  | lockPressCount | coldEngineMaximumRpm | engineWarmTemperatureC
  | transmissionOverheatTemperatureC | temperatureAlertHysteresisC =>
    obtain ⟨number, -, h⟩ := Option.bind_eq_some_iff.mp h
    change (if _ then none else some _) = some after at h
    split_ifs at h
    cases h
    exact hvalid
  | feature id known =>
    rw [applySetting_feature] at h
    obtain ⟨enabled, -, h⟩ := Option.bind_eq_some_iff.mp h
    obtain ⟨features, hset, rfl⟩ := Option.map_eq_some_iff.mp h
    exact FeatureRequests.valid_setEnabled hvalid hset

/-- What the loop has after lines that made these assignments. -/
structure Parsed (made : List (Setting × Nat)) (parsed : UserSettings) (keys : List Text) :
    Prop where
  reading : reading parsed = assign (reading {}) made
  keys : keys = made.map (·.1.key)
  distinct : (made.map Prod.fst).Nodup
  valid : parsed.features.valid = true

theorem Parsed.mem_keys (h : Parsed made parsed keys) (setting : Setting) :
    setting.key ∈ keys ↔ setting ∈ made.map Prod.fst := by
  rw [h.keys, List.mem_map, List.mem_map]
  refine exists_congr fun assignment => and_congr_right fun _ => ?_
  exact ⟨Setting.key_injective, congrArg Setting.key⟩

theorem Parsed.step (h : Parsed made parsed keys)
    (hline : parseLine line parsed keys = .ok (after, keys')) :
    ∃ more, assigned line = some more ∧ Parsed (made ++ more) after keys' := by
  rcases parseLine_eq_ok_iff.mp hline with ⟨hblank, rfl, rfl⟩ | hentry
  · exact ⟨[], if_pos hblank, by rwa [List.append_nil]⟩
  obtain ⟨hcontent, key, value, hsplit, hknown, hnew, happly, rfl⟩ := hentry
  obtain ⟨setting, hsetting⟩ := Option.isSome_iff_exists.mp ((knownKey_iff key).mp hknown)
  obtain rfl := key_of_settingOf hsetting
  obtain ⟨number, hparse, hafter⟩ := reading_of_applySetting happly
  refine ⟨[(setting, number)], ?_, ?_, ?_, ?_, valid_applySetting happly h.valid⟩
  · rw [assigned, if_neg hcontent, hsplit]
    simp only [hsetting, Option.bind_some, hparse, Option.map_some]
  · rw [hafter, h.reading, assign_concat]
  · rw [h.keys, List.map_append, List.map_singleton]
  · rw [List.map_append, List.map_singleton, List.nodup_append]
    refine ⟨h.distinct, List.nodup_singleton _, fun first hfirst second hsecond heq => ?_⟩
    rw [List.mem_singleton] at hsecond
    subst hsecond heq
    exact hnew ((h.mem_keys _).mpr hfirst)

theorem Parsed.exists_step (h : Parsed made parsed keys) (hline : assigned line = some more)
    (hdistinct : ((made ++ more).map Prod.fst).Nodup) :
    ∃ after keys', parseLine line parsed keys = .ok (after, keys') := by
  unfold assigned at hline
  split at hline
  · rename_i hblank
    exact ⟨parsed, keys, parseLine_eq_ok_iff.mpr (.inl ⟨hblank, rfl, rfl⟩)⟩
  rename_i hcontent
  split at hline
  · cases hline
  rename_i key value hsplit
  obtain ⟨setting, hsetting, hline⟩ := Option.bind_eq_some_iff.mp hline
  obtain ⟨number, hparse, rfl⟩ := Option.map_eq_some_iff.mp hline
  obtain rfl := key_of_settingOf hsetting
  obtain ⟨after, happly⟩ := exists_applySetting hparse parsed
  refine ⟨after, _, parseLine_eq_ok_iff.mpr (.inr ⟨hcontent, setting.key, value, hsplit, ?_, ?_,
    happly, rfl⟩)⟩
  · rw [knownKey_iff, hsetting]
    rfl
  · rw [h.mem_keys]
    intro hmem
    rw [List.map_append, List.nodup_append] at hdistinct
    exact hdistinct.2.2 setting hmem setting (List.mem_singleton_self _) rfl

/-! Files. -/

theorem assignments_cons (hline : assigned line = some more) :
    assignments (line :: lines) = more ++ assignments lines := by
  rw [assignments, List.flatMap_cons, hline]
  rfl

theorem Parsed.run (h : Parsed made parsed keys) {lineNumber : Nat}
    (hlines : parseLines lineNumber lines parsed keys = .ok after) :
    (∀ line ∈ lines, (assigned line).isSome = true) ∧
      ∃ keys', Parsed (made ++ assignments lines) after keys' := by
  induction lines generalizing made parsed keys lineNumber with
  | nil =>
    cases hlines
    exact ⟨by simp, keys, by rwa [assignments, List.flatMap_nil, List.append_nil]⟩
  | cons line lines ih =>
    unfold parseLines at hlines
    split at hlines
    · cases hlines
    rename_i next keys' hline
    obtain ⟨more, hmore, hstep⟩ := h.step hline
    obtain ⟨hassigned, keys'', hrun⟩ := ih hstep hlines
    rw [List.append_assoc, ← assignments_cons hmore] at hrun
    refine ⟨?_, keys'', hrun⟩
    rw [List.forall_mem_cons]
    exact ⟨Option.isSome_of_eq_some hmore, hassigned⟩

theorem Parsed.exists_run (h : Parsed made parsed keys)
    (hassigned : ∀ line ∈ lines, (assigned line).isSome = true)
    (hdistinct : ((made ++ assignments lines).map Prod.fst).Nodup) (lineNumber : Nat) :
    ∃ after, parseLines lineNumber lines parsed keys = .ok after := by
  induction lines generalizing made parsed keys lineNumber with
  | nil => exact ⟨parsed, rfl⟩
  | cons line lines ih =>
    rw [List.forall_mem_cons] at hassigned
    obtain ⟨more, hmore⟩ := Option.isSome_iff_exists.mp hassigned.1
    rw [assignments_cons hmore, ← List.append_assoc] at hdistinct
    have hprefix : ((made ++ more).map Prod.fst).Nodup := by
      rw [List.map_append] at hdistinct
      exact hdistinct.of_append_left
    obtain ⟨next, keys', hline⟩ := h.exists_step hmore hprefix
    obtain ⟨more', hmore', hstep⟩ := h.step hline
    obtain rfl : more = more' := Option.some.inj (hmore.symm.trans hmore')
    obtain ⟨after, hafter⟩ := ih hstep hassigned.2 hdistinct (lineNumber + 1)
    refine ⟨after, ?_⟩
    rw [parseLines, hline]
    exact hafter

theorem parsed_nil : Parsed [] {} [] := ⟨rfl, rfl, List.nodup_nil, by decide⟩

theorem features_of_valid (h : (validateUserSettings after).valid = true) :
    after.features.valid = true :=
  (temperatures_of_valid h).2.2.2.2

/-- A file is accepted as the settings that its assignments make of the defaults. -/
theorem parseInput_eq_ok_iff (input : InputStream) (settings : UserSettings) :
    parseInput input = .ok settings ↔ input.eof = true ∧ WellFormed input.lines ∧
      (validateUserSettings settings).valid = true ∧
      reading settings = assign (reading {}) (assignments input.lines) := by
  have hchecks (parsed : UserSettings) (hparsed : parseLines 0 input.lines {} [] = .ok parsed) :
      parseInput input = .ok settings ↔ input.eof = true ∧
        (validateUserSettings parsed).valid = true ∧ parsed = settings := by
    unfold parseInput
    rw [hparsed]
    cases heof : input.eof with
    | false => simp [bind, Except.bind, throw, throwThe, MonadExceptOf.throw]
    | true =>
      cases hvalid : (validateUserSettings parsed).valid <;>
        simp [bind, Except.bind, throw, throwThe, MonadExceptOf.throw, pure, Except.pure, hvalid]
  constructor
  · intro h
    cases hparsed : parseLines 0 input.lines {} [] with
    | error message =>
      rw [parseInput, hparsed] at h
      cases h
    | ok parsed =>
      obtain ⟨heof, hvalid, rfl⟩ := (hchecks parsed hparsed).mp h
      obtain ⟨hassigned, keys, hrun⟩ := parsed_nil.run hparsed
      exact ⟨heof, ⟨hassigned, hrun.distinct⟩, hvalid, hrun.reading⟩
  · rintro ⟨heof, hformed, hvalid, hreading⟩
    obtain ⟨parsed, hparsed⟩ := parsed_nil.exists_run hformed.assigned hformed.distinct 0
    obtain ⟨-, keys, hrun⟩ := parsed_nil.run hparsed
    obtain rfl : parsed = settings :=
      reading_injective hrun.valid (features_of_valid hvalid) (hrun.reading.trans hreading.symm)
    exact (hchecks parsed hparsed).mpr ⟨heof, hvalid, rfl⟩

end BmwRemote.Host.UserSettingsFile
