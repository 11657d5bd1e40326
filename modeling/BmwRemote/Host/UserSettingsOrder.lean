import BmwRemote.Host.UserSettingsAcceptance

/-! The order of the lines of a settings file does not matter, and a file that is refused
changes nothing. -/
namespace BmwRemote.Host.UserSettingsFile

open BmwRemote.Application BmwRemote.Lib

variable {lines permuted : List Text} {line : Text} {more : List (Setting × Nat)}

theorem success_eq (input : InputStream) (settings : UserSettings) :
    (parseUserSettings input settings).success = (parseInput input).toOption.isSome := by
  unfold parseUserSettings
  cases parseInput input <;> rfl

theorem settings_eq (input : InputStream) (settings : UserSettings) :
    (parseUserSettings input settings).settings = (parseInput input).toOption.getD settings := by
  unfold parseUserSettings
  cases parseInput input <;> rfl

theorem toOption_eq_some_iff {result : Except Text UserSettings} {settings : UserSettings} :
    result.toOption = some settings ↔ result = .ok settings := by
  cases result <;> simp [Except.toOption]

/-! Keys. -/

theorem keysOf_singleton (h : assigned line = some more) :
    keysOf [line] = more.map (·.1.key) := by
  unfold assigned at h
  unfold keysOf
  rw [List.filterMap_cons, List.filterMap_nil]
  split at h
  · rename_i hblank
    cases h
    rw [if_pos hblank]
    rfl
  rename_i hcontent
  rw [if_neg hcontent]
  split at h
  · cases h
  rename_i key value hsplit
  obtain ⟨setting, hsetting, h⟩ := Option.bind_eq_some_iff.mp h
  obtain ⟨number, -, rfl⟩ := Option.map_eq_some_iff.mp h
  rw [hsplit, List.map_singleton, key_of_settingOf hsetting]
  rfl

theorem keysOf_eq (h : ∀ line ∈ lines, (assigned line).isSome = true) :
    keysOf lines = (assignments lines).map (·.1.key) := by
  induction lines with
  | nil => rfl
  | cons line lines ih =>
    rw [List.forall_mem_cons] at h
    obtain ⟨more, hmore⟩ := Option.isSome_iff_exists.mp h.1
    have happend : keysOf (line :: lines) = keysOf [line] ++ keysOf lines :=
      @List.filterMap_append _ _ [line] lines _
    rw [assignments_cons hmore, List.map_append, happend, ih h.2, keysOf_singleton hmore]

/-! Order. -/

theorem assignments_perm (h : lines.Perm permuted) :
    (assignments lines).Perm (assignments permuted) :=
  h.flatMap_right _

theorem WellFormed.perm (hformed : WellFormed lines) (h : lines.Perm permuted) :
    WellFormed permuted where
  assigned line hmem := hformed.assigned line (h.mem_iff.mpr hmem)
  distinct := ((assignments_perm h).map Prod.fst).nodup_iff.mp hformed.distinct

theorem parseInput_perm (h : lines.Perm permuted) {eof : Bool} {settings : UserSettings}
    (hparse : parseInput ⟨lines, eof⟩ = .ok settings) :
    parseInput ⟨permuted, eof⟩ = .ok settings := by
  rw [parseInput_eq_ok_iff] at hparse ⊢
  obtain ⟨heof, hformed, hvalid, hreading⟩ := hparse
  refine ⟨heof, hformed.perm h, hvalid, hreading.trans ?_⟩
  exact assign_perm (assignments_perm h) hformed.distinct _

theorem toOption_perm (h : lines.Perm permuted) (eof : Bool) :
    (parseInput ⟨lines, eof⟩).toOption = (parseInput ⟨permuted, eof⟩).toOption := by
  ext settings
  rw [toOption_eq_some_iff, toOption_eq_some_iff]
  exact ⟨parseInput_perm h, parseInput_perm h.symm⟩

theorem accepted_spec {input : InputStream} {settings : UserSettings}
    (h : parseInput input = .ok settings) : (validateUserSettings settings).valid = true ∧
      (keysOf input.lines).Nodup ∧
      ∀ setting : Setting, setting.key ∉ keysOf input.lines →
        reading settings setting = reading {} setting := by
  obtain ⟨-, hformed, hvalid, hreading⟩ := (parseInput_eq_ok_iff input settings).mp h
  have hkeys : keysOf input.lines = ((assignments input.lines).map Prod.fst).map Setting.key := by
    rw [keysOf_eq hformed.assigned, List.map_map]
    rfl
  refine ⟨hvalid, ?_, fun setting hkey => ?_⟩
  · rw [hkeys]
    exact hformed.distinct.map fun _ _ => Setting.key_injective
  · rw [hreading]
    refine assign_of_not_mem fun hmem => hkey ?_
    rw [hkeys]
    exact List.mem_map_of_mem hmem

/-- Lines may come in any order, and a file is taken as a whole or not at all. -/
theorem parse_order_atomic (lines permuted : List Text)
    (hlines : ∀ line ∈ lines, Text.newline ∉ line) (hperm : lines.Perm permuted)
    (settings : UserSettings) :
    let outcome := parseUserSettings (.ofText (Text.unlines lines)) settings
    let other := parseUserSettings (.ofText (Text.unlines permuted)) settings
    (outcome.success = other.success ∧ outcome.settings = other.settings) ∧
      (outcome.success = true → (validateUserSettings outcome.settings).valid = true ∧
        (keysOf lines).Nodup ∧
        ∀ setting : Setting, setting.key ∉ keysOf lines →
          reading outcome.settings setting = reading {} setting) ∧
      (outcome.success = false → outcome.settings = settings) := by
  have hpermuted : ∀ line ∈ permuted, Text.newline ∉ line :=
    fun line hmem => hlines line (hperm.mem_iff.mpr hmem)
  dsimp only
  simp only [success_eq, settings_eq, InputStream.ofText, Text.lines_unlines hlines,
    Text.lines_unlines hpermuted, toOption_perm hperm.symm, true_and, and_self]
  cases hparse : parseInput ⟨lines, true⟩ with
  | error message =>
    refine ⟨fun h => ?_, fun _ => rfl⟩
    cases h
  | ok parsed =>
    refine ⟨fun _ => accepted_spec hparse, fun h => ?_⟩
    cases h

theorem parse_order_atomic_presses :
    let presses := Text.ascii "lock_press_count = 4 # presses"
    let guard := Text.ascii "feature.cold_engine_guard=true"
    let outcome := parseUserSettings (.ofText (Text.unlines [presses, guard])) {}
    let other := parseUserSettings (.ofText (Text.unlines [guard, presses])) {}
    (outcome.success = other.success ∧ outcome.settings = other.settings) ∧
      other.success = true ∧ other.settings = { lockPressCount := 4, features := ⟨1⟩ } :=
  ⟨(parse_order_atomic _ _ (by decide) (.swap _ _ []) {}).1, by decide +kernel,
    by decide +kernel⟩

end BmwRemote.Host.UserSettingsFile
