import BmwRemote.Host.UserSettingsRoundTrip
import BmwRemote.Infrastructure.SettingsPayload
import BmwRemote.Lib.Transcript
import BmwRemote.Lib.FileStore

/-! The settings file as it is kept on disk. New settings are written beside the file and
read back from there before they take its place, and the old ones are set aside until
then. Any of the calls on the file system may fail, and the process may be stopped
between any two of them. -/
namespace BmwRemote.Host.UserSettingsFile

open BmwRemote.Application BmwRemote.Lib FileOperation

abbrev Files := FileStore Text Text

/-- What comes of opening and reading a file that is there. A stream that breaks yields
some lines and never comes to its end. -/
inductive ReadAnswer where
  | unopened
  | broken (lines : List Text)
  | whole

def openFile (content : Option Text) (answer : ReadAnswer) : Option InputStream :=
  content.bind fun text =>
    match answer with
    | .unopened => none
    | .broken lines => some ⟨lines, false⟩
    | .whole => some (.ofText text)

def loadUserSettingsFile (path : Text) (answer : ReadAnswer) (files : Files)
    (settings : UserSettings) : Outcome :=
  if path = [] then ⟨false, settings, .ascii "configuration path is empty"⟩
  else
    match openFile (files path) answer with
    | none => ⟨false, settings, .ascii "unable to open configuration file"⟩
    | some input => parseUserSettings input settings

/-- How the file system answers the calls of one save. An error has a message. -/
structure SaveAnswers where
  created : Bool
  /-- What the temporary file holds from one write of the text to the next. -/
  stored : Text → List Text
  persisted : Bool
  verification : ReadAnswer
  inspected : Option Text
  staleRemoved : Bool
  preserved : Option Text
  installed : Option Text
  restored : Bool
  backupRemoved : Bool
  temporaryRemoved : Bool

def temporaryPath (path : Text) : Text := path ++ .ascii ".tmp"
def backupPath (path : Text) : Text := path ++ .ascii ".bak"

abbrev Saved := (Bool × Text) × Disk Text Text

def abandon (path : Text) (answers : SaveAnswers) (error : Text) (disk : Disk Text Text) : Saved :=
  ((false, error), disk.attempt answers.temporaryRemoved (remove (temporaryPath path)))

def replaceTarget (path : Text) (answers : SaveAnswers) (hadExistingTarget : Bool)
    (disk : Disk Text Text) : Saved :=
  match answers.installed with
  | some message =>
      let disk :=
        if hadExistingTarget then disk.attempt answers.restored (rename (backupPath path) path)
        else disk
      abandon path answers (.ascii "unable to install new configuration: " ++ message) disk
  | none =>
      let disk := disk.perform (rename (temporaryPath path) path)
      ((true, []),
        if hadExistingTarget then disk.attempt answers.backupRemoved (remove (backupPath path))
        else disk)

def installTemporary (path : Text) (answers : SaveAnswers) (disk : Disk Text Text) : Saved :=
  match answers.inspected with
  | some message => abandon path answers (.ascii "unable to inspect destination: " ++ message) disk
  | none =>
      if (disk.files path).isSome then
        let disk := disk.attempt answers.staleRemoved (remove (backupPath path))
        match answers.preserved with
        | some message =>
            abandon path answers
              (.ascii "unable to preserve previous configuration: " ++ message) disk
        | none => replaceTarget path answers true (disk.perform (rename path (backupPath path)))
      else replaceTarget path answers false disk

def sameSettings (left right : UserSettings) : Bool :=
  Infrastructure.userSettingsEqual left right

def verificationError (error : Text) : Text :=
  Text.ascii "temporary configuration verification failed" ++
    if error = [] then [] else Text.ascii ": " ++ error

def writeTemporary (path : Text) (answers : SaveAnswers) (text : Text) (disk : Disk Text Text) :
    Disk Text Text :=
  (disk.perform (put (temporaryPath path) [])).rewrite (temporaryPath path) (answers.stored text)

def saveUserSettingsFile (path : Text) (settings : UserSettings) (answers : SaveAnswers)
    (disk : Disk Text Text) : Saved :=
  if path = [] then ((false, .ascii "configuration path is empty"), disk)
  else
    let serialized := writeUserSettings {} settings
    if !serialized.success then ((false, serialized.error), disk)
    else if !answers.created then
      ((false, .ascii "unable to create temporary configuration file"), disk)
    else
      let disk := writeTemporary path answers serialized.output.written disk
      if !answers.persisted then
        abandon path answers (.ascii "unable to persist temporary configuration file") disk
      else
        let verified := loadUserSettingsFile (temporaryPath path) answers.verification disk.files {}
        if !verified.success || !sameSettings settings verified.settings then
          abandon path answers (verificationError verified.error) disk
        else installTemporary path answers disk

/-! The paths. -/

variable {path : Text} {settings : UserSettings} {answers : SaveAnswers} {disk : Disk Text Text}
  {files start : Files}

theorem append_ne {suffix : Text} (h : suffix ≠ []) (path : Text) : path ++ suffix ≠ path := by
  intro hsame
  exact h (List.append_right_eq_self.1 hsame)

theorem temporaryPath_ne (path : Text) : temporaryPath path ≠ path := append_ne (by decide) path

theorem backupPath_ne (path : Text) : backupPath path ≠ path := append_ne (by decide) path

theorem temporaryPath_ne_backupPath (path : Text) : temporaryPath path ≠ backupPath path := by
  unfold temporaryPath backupPath
  rw [Ne, List.append_cancel_left_eq]
  decide

theorem sameSettings_iff {left right : UserSettings} :
    sameSettings left right = true ↔ left = right := Infrastructure.userSettingsEqual_iff

def Reads (text : Text) (settings : UserSettings) : Prop :=
  parseInput (.ofText text) = .ok settings

/-- What a user can get back: the file, or what is set aside when there is none. -/
def recovered (path : Text) (files : Files) : Option Text :=
  (files path).or (files (backupPath path))

theorem recovered_of_target {text : Text} (h : files path = some text) :
    recovered path files = some text := by
  unfold recovered
  rw [h]
  rfl

def Untouched (path : Text) (start files : Files) : Prop :=
  ∀ other, other ≠ path → other ≠ temporaryPath path → other ≠ backupPath path →
    files other = start other

/-- What holds wherever a save is stopped: nothing else is touched, and what can be got
back is what it was, or a text of the new settings. -/
structure Safe (path : Text) (settings : UserSettings) (start files : Files) : Prop where
  untouched : Untouched path start files
  recovered : recovered path files = recovered path start ∨
    ∃ text, recovered path files = some text ∧ Reads text settings

structure Pending (path : Text) (start files : Files) : Prop where
  untouched : Untouched path start files
  target : files path = start path
  backup : (start path).isSome = true ∨ files (backupPath path) = start (backupPath path)

theorem Pending.recovered_eq (h : Pending path start files) :
    recovered path files = recovered path start := by
  unfold recovered
  rw [h.target]
  rcases h.backup with hexists | hsame
  · obtain ⟨text, htext⟩ := Option.isSome_iff_exists.1 hexists
    rw [htext]
    rfl
  · rw [hsame]

theorem Pending.safe (h : Pending path start files) (settings : UserSettings) :
    Safe path settings start files := ⟨h.untouched, .inl h.recovered_eq⟩

theorem pending_start (path : Text) (start : Files) : Pending path start start :=
  ⟨fun _ _ _ _ => rfl, rfl, .inr rfl⟩

theorem Pending.put (h : Pending path start files) (text : Text) :
    Pending path start ((FileOperation.put (temporaryPath path) text).apply files) where
  untouched other htarget htemporary hbackup := by
    rw [apply_put_other htemporary]
    exact h.untouched other htarget htemporary hbackup
  target := by
    rw [apply_put_other (temporaryPath_ne path).symm]
    exact h.target
  backup := by
    rw [apply_put_other (temporaryPath_ne_backupPath path).symm]
    exact h.backup

theorem Pending.removeTemporary (h : Pending path start files) :
    Pending path start ((FileOperation.remove (temporaryPath path)).apply files) where
  untouched other htarget htemporary hbackup := by
    rw [apply_remove_other htemporary]
    exact h.untouched other htarget htemporary hbackup
  target := by
    rw [apply_remove_other (temporaryPath_ne path).symm]
    exact h.target
  backup := by
    rw [apply_remove_other (temporaryPath_ne_backupPath path).symm]
    exact h.backup

theorem Pending.removeBackup (h : Pending path start files) (hexists : (files path).isSome = true) :
    Pending path start ((FileOperation.remove (backupPath path)).apply files) where
  untouched other htarget htemporary hbackup := by
    rw [apply_remove_other hbackup]
    exact h.untouched other htarget htemporary hbackup
  target := by
    rw [apply_remove_other (backupPath_ne path).symm]
    exact h.target
  backup := .inl (h.target ▸ hexists)

structure SetAside (path : Text) (start files : Files) : Prop where
  untouched : Untouched path start files
  existed : (start path).isSome = true
  target : files path = none
  backup : files (backupPath path) = start path

theorem SetAside.recovered_eq (h : SetAside path start files) :
    recovered path files = recovered path start := by
  obtain ⟨text, htext⟩ := Option.isSome_iff_exists.1 h.existed
  unfold recovered
  rw [h.target, h.backup, htext]
  rfl

theorem SetAside.safe (h : SetAside path start files) (settings : UserSettings) :
    Safe path settings start files := ⟨h.untouched, .inl h.recovered_eq⟩

theorem Pending.setAside (h : Pending path start files) (hexists : (files path).isSome = true) :
    SetAside path start ((rename path (backupPath path)).apply files) where
  existed := h.target ▸ hexists
  untouched other htarget htemporary hbackup := by
    rw [apply_rename_other htarget hbackup]
    exact h.untouched other htarget htemporary hbackup
  target := apply_rename_source (Option.isSome_iff_ne_none.1 hexists) (backupPath_ne path).symm
  backup := by
    rw [apply_rename_target (Option.isSome_iff_ne_none.1 hexists)]
    exact h.target

theorem SetAside.restored (h : SetAside path start files) :
    Pending path start ((rename (backupPath path) path).apply files) where
  untouched other htarget htemporary hbackup := by
    rw [apply_rename_other hbackup htarget]
    exact h.untouched other htarget htemporary hbackup
  target := by
    have hbackup : files (backupPath path) ≠ none := by
      rw [h.backup]
      exact Option.isSome_iff_ne_none.1 h.existed
    rw [apply_rename_target hbackup]
    exact h.backup
  backup := .inl h.existed

theorem SetAside.removeTemporary (h : SetAside path start files) :
    SetAside path start ((FileOperation.remove (temporaryPath path)).apply files) where
  existed := h.existed
  untouched other htarget htemporary hbackup := by
    rw [apply_remove_other htemporary]
    exact h.untouched other htarget htemporary hbackup
  target := by
    rw [apply_remove_other (temporaryPath_ne path).symm]
    exact h.target
  backup := by
    rw [apply_remove_other (temporaryPath_ne_backupPath path).symm]
    exact h.backup

structure Replaced (path : Text) (settings : UserSettings) (start files : Files) : Prop where
  untouched : Untouched path start files
  target : ∃ text, files path = some text ∧ Reads text settings

theorem Replaced.safe (h : Replaced path settings start files) : Safe path settings start files where
  untouched := h.untouched
  recovered := by
    obtain ⟨text, htext, hreads⟩ := h.target
    exact .inr ⟨text, recovered_of_target htext, hreads⟩

theorem replaced (huntouched : Untouched path start files) {text : Text}
    (htemporary : files (temporaryPath path) = some text) (hreads : Reads text settings) :
    Replaced path settings start ((rename (temporaryPath path) path).apply files) where
  untouched other htarget htemporary hbackup := by
    rw [apply_rename_other htemporary htarget]
    exact huntouched other htarget htemporary hbackup
  target := by
    have hsome : files (temporaryPath path) ≠ none := by
      rw [htemporary]
      exact nofun
    refine ⟨text, ?_, hreads⟩
    rw [apply_rename_target hsome]
    exact htemporary

theorem Replaced.removeBackup (h : Replaced path settings start files) :
    Replaced path settings start ((FileOperation.remove (backupPath path)).apply files) where
  untouched other htarget htemporary hbackup := by
    rw [apply_remove_other hbackup]
    exact h.untouched other htarget htemporary hbackup
  target := by
    rw [apply_remove_other (backupPath_ne path).symm]
    exact h.target

/-! The saves. -/

/-- What a save makes of the files: on the way, when it succeeds, and when it fails. The
file is missing after a failure only if it could be neither replaced nor restored. -/
structure Kept (path : Text) (settings : UserSettings) (answers : SaveAnswers) (start : Files)
    (saved : Saved) : Prop where
  always : saved.2.Always (Safe path settings start)
  success : saved.1.1 = true → ∃ text, saved.2.files path = some text ∧ Reads text settings
  failure : saved.1.1 = false → recovered path saved.2.files = recovered path start ∧
    (saved.2.files path = start path ∨
      saved.2.files path = none ∧ answers.installed ≠ none ∧ answers.restored = false)

theorem attempt_cases (works : Bool) (operation : FileOperation Text Text)
    (disk : Disk Text Text) :
    disk.attempt works operation = disk ∨
      disk.attempt works operation = disk.perform operation := by
  cases works with
  | false => exact .inl rfl
  | true => exact .inr rfl

theorem abandon_pending (halways : disk.Always (Safe path settings start))
    (hpending : Pending path start disk.files) (error : Text) :
    Kept path settings answers start (abandon path answers error disk) := by
  have hafter : Pending path start (disk.attempt answers.temporaryRemoved
      (remove (temporaryPath path))).files := by
    rcases attempt_cases answers.temporaryRemoved (remove (temporaryPath path)) disk with h | h
    · rwa [h]
    · rw [h]
      exact hpending.removeTemporary
  exact ⟨halways.attempt (hpending.removeTemporary.safe settings), nofun,
    fun _ => ⟨hafter.recovered_eq, .inl hafter.target⟩⟩

theorem abandon_setAside (halways : disk.Always (Safe path settings start))
    (haside : SetAside path start disk.files) (hinstalled : answers.installed ≠ none)
    (hrestored : answers.restored = false) (error : Text) :
    Kept path settings answers start (abandon path answers error disk) := by
  have hafter : SetAside path start (disk.attempt answers.temporaryRemoved
      (remove (temporaryPath path))).files := by
    rcases attempt_cases answers.temporaryRemoved (remove (temporaryPath path)) disk with h | h
    · rwa [h]
    · rw [h]
      exact haside.removeTemporary
  exact ⟨halways.attempt (haside.removeTemporary.safe settings), nofun,
    fun _ => ⟨hafter.recovered_eq, .inr ⟨hafter.target, hinstalled, hrestored⟩⟩⟩

theorem replaceTarget_kept (halways : disk.Always (Safe path settings start)) {text : Text}
    (htemporary : disk.files (temporaryPath path) = some text) (hreads : Reads text settings)
    {hadExistingTarget : Bool}
    (hstate : if hadExistingTarget then SetAside path start disk.files
      else Pending path start disk.files) :
    Kept path settings answers start (replaceTarget path answers hadExistingTarget disk) := by
  unfold replaceTarget
  cases hinstalled : answers.installed with
  | some message =>
    have hfails : answers.installed ≠ none := by simp [hinstalled]
    cases hadExistingTarget with
    | false => exact abandon_pending halways hstate _
    | true =>
      have haside : SetAside path start disk.files := hstate
      cases hrestored : answers.restored with
      | false => exact abandon_setAside halways haside hfails hrestored _
      | true =>
        exact abandon_pending (halways.perform (haside.restored.safe settings)) haside.restored _
  | none =>
    have huntouched : Untouched path start disk.files := by
      cases hadExistingTarget with
      | false => exact (show Pending path start disk.files from hstate).untouched
      | true => exact (show SetAside path start disk.files from hstate).untouched
    have hreplaced : Replaced path settings start
        ((rename (temporaryPath path) path).apply disk.files) :=
      replaced huntouched htemporary hreads
    have hinstall := halways.perform hreplaced.safe
    cases hadExistingTarget with
    | false => exact ⟨hinstall, fun _ => hreplaced.target, nofun⟩
    | true =>
      refine ⟨hinstall.attempt hreplaced.removeBackup.safe, fun _ => ?_, nofun⟩
      dsimp only
      rw [if_pos rfl]
      rcases attempt_cases answers.backupRemoved (remove (backupPath path))
        (disk.perform (rename (temporaryPath path) path)) with h | h
      · rw [h]
        exact hreplaced.target
      · rw [h]
        exact hreplaced.removeBackup.target

theorem installTemporary_kept (halways : disk.Always (Safe path settings start))
    (hpending : Pending path start disk.files) {text : Text}
    (htemporary : disk.files (temporaryPath path) = some text) (hreads : Reads text settings) :
    Kept path settings answers start (installTemporary path answers disk) := by
  unfold installTemporary
  cases answers.inspected with
  | some message => exact abandon_pending halways hpending _
  | none =>
  cases hexists : (disk.files path).isSome with
  | false =>
    dsimp only
    rw [if_neg Bool.false_ne_true]
    exact replaceTarget_kept halways htemporary hreads hpending
  | true =>
    dsimp only
    rw [if_pos rfl]
    -- Whether or not the stale backup could be removed, the file is still where it was.
    have hstale : Pending path start (disk.attempt answers.staleRemoved
        (remove (backupPath path))).files := by
      rcases attempt_cases answers.staleRemoved (remove (backupPath path)) disk with h | h
      · rwa [h]
      · rw [h]
        exact hpending.removeBackup hexists
    have hthere : ((disk.attempt answers.staleRemoved (remove (backupPath path))).files
        path).isSome = true := by
      rw [hstale.target, ← hpending.target]
      exact hexists
    have hsafe : (disk.attempt answers.staleRemoved (remove (backupPath path))).Always
        (Safe path settings start) :=
      halways.attempt ((hpending.removeBackup hexists).safe settings)
    have hkept : (disk.attempt answers.staleRemoved (remove (backupPath path))).files
        (temporaryPath path) = some text := by
      rw [Disk.attempt_other (apply_remove_other (temporaryPath_ne_backupPath path))]
      exact htemporary
    generalize disk.attempt answers.staleRemoved (remove (backupPath path)) = disk
      at hstale hthere hsafe hkept
    cases answers.preserved with
    | some message => exact abandon_pending hsafe hstale _
    | none =>
      have haside := hstale.setAside hthere
      refine replaceTarget_kept (hsafe.perform (haside.safe settings)) ?_ hreads haside
      rw [Disk.perform_files,
        apply_rename_other (temporaryPath_ne path) (temporaryPath_ne_backupPath path)]
      exact hkept

theorem parse_broken (lines : List Text) (before : UserSettings) :
    (parseUserSettings ⟨lines, false⟩ before).success = false := by
  unfold parseUserSettings
  cases hparsed : parseInput ⟨lines, false⟩ with
  | error error => rfl
  | ok settings =>
    rw [parseInput_eq_ok_iff] at hparsed
    cases hparsed.1

theorem load_whole (hpath : path ≠ []) {text : Text} (htext : files path = some text)
    (hreads : Reads text settings) (before : UserSettings) :
    loadUserSettingsFile path .whole files before = ⟨true, settings, []⟩ := by
  unfold loadUserSettingsFile
  rw [if_neg hpath, htext]
  change parseUserSettings (.ofText text) before = _
  unfold parseUserSettings
  rw [hreads]

theorem load_success_iff {answer : ReadAnswer} {before : UserSettings} :
    (loadUserSettingsFile path answer files before).success = true ↔
      path ≠ [] ∧ answer = .whole ∧ ∃ text settings, files path = some text ∧ Reads text settings ∧
        loadUserSettingsFile path answer files before = ⟨true, settings, []⟩ := by
  unfold loadUserSettingsFile
  by_cases hpath : path = []
  · rw [if_pos hpath]
    simp [hpath]
  rw [if_neg hpath]
  cases hcontent : files path with
  | none => simp [openFile]
  | some text =>
  cases answer with
  | unopened => simp [openFile]
  | broken lines =>
    change (parseUserSettings ⟨lines, false⟩ before).success = true ↔ _
    simp [parse_broken]
  | whole =>
    change (parseUserSettings (.ofText text) before).success = true ↔ _ ∧ _ ∧ ∃ text' settings',
      some text = some text' ∧ _ ∧ parseUserSettings (.ofText text) before = _
    unfold parseUserSettings Reads
    cases hparsed : parseInput (.ofText text) with
    | error error => simp
    | ok settings => simpa [hpath] using hparsed

theorem refused (error : Text) : Kept path settings answers start ((false, error), { files := start }) :=
  ⟨Disk.always_start ((pending_start path start).safe settings), nofun,
    fun _ => ⟨rfl, .inl rfl⟩⟩

theorem saveUserSettingsFile_kept (path : Text) (settings : UserSettings) (answers : SaveAnswers)
    (start : Files) :
    Kept path settings answers start
      (saveUserSettingsFile path settings answers { files := start }) := by
  unfold saveUserSettingsFile
  split
  · exact refused _
  dsimp only
  split
  · exact refused _
  split
  · exact refused _
  generalize (writeUserSettings {} settings).output.written = text
  have hpending := pending_start path start
  have hwritten : (writeTemporary path answers text { files := start }).Always
      (Pending path start) :=
    ((Disk.always_start hpending).perform (hpending.put [])).rewrite _
      fun files content h => h.put content
  generalize writeTemporary path answers text { files := start } = disk at hwritten
  have hsafe : disk.Always (Safe path settings start) := hwritten.mono fun _ h => h.safe settings
  split
  · exact abandon_pending hsafe hwritten.now _
  split
  · exact abandon_pending hsafe hwritten.now _
  · rename_i hverified
    rw [Bool.not_eq_true, Bool.or_eq_false_iff, Bool.not_eq_false', Bool.not_eq_false'] at hverified
    obtain ⟨-, -, stored, read, hstored, hreads, hload⟩ := load_success_iff.1 hverified.1
    rw [hload] at hverified
    obtain rfl := sameSettings_iff.1 hverified.2
    exact installTemporary_kept hsafe hwritten.now hstored hreads

/-! When a save succeeds. -/

def lastStored (answers : SaveAnswers) (settings : UserSettings) : Text :=
  (answers.stored (Text.unlines (settingsLines settings))).getLast?.getD []

/-- The file has values for the settings, every call that a save needs works, and what
was stored reads as the settings. -/
structure SaveWorks (path : Text) (settings : UserSettings) (answers : SaveAnswers)
    (start : Files) : Prop where
  named : path ≠ []
  representable : Representable settings
  created : answers.created = true
  persisted : answers.persisted = true
  verified : answers.verification = .whole
  stored : Reads (lastStored answers settings) settings
  inspected : answers.inspected = none
  preserved : (start path).isSome = true → answers.preserved = none
  installed : answers.installed = none

theorem writeUserSettings_representable (h : Representable settings) :
    writeUserSettings {} settings = ⟨true, ⟨Text.unlines (settingsLines settings), false⟩, []⟩ := by
  unfold writeUserSettings
  rw [if_neg (by rw [h.valid]; decide), if_neg (not_not.2 ((mod_eq_zero_iff _ _).2 h.minutes)),
    if_neg (not_not.2 ((mod_eq_zero_iff _ _).2 h.seconds))]
  rfl

theorem representable_of_write (h : (writeUserSettings {} settings).success = true) :
    Representable settings := by
  unfold writeUserSettings at h
  dsimp only at h
  split at h
  · cases h
  rename_i hvalid
  split at h
  · cases h
  rename_i hminutes
  split at h
  · cases h
  rename_i hseconds
  exact ⟨by simpa using hvalid, (mod_eq_zero_iff _ _).1 (not_not.1 hminutes),
    (mod_eq_zero_iff _ _).1 (not_not.1 hseconds)⟩

theorem temporary_written (path : Text) (answers : SaveAnswers) (text : Text) (start : Files) :
    (writeTemporary path answers text { files := start }).files (temporaryPath path) =
      some ((answers.stored text).getLast?.getD []) := by
  unfold writeTemporary
  rw [Disk.rewrite_same, Disk.perform_files, apply_put_same]
  cases (answers.stored text).getLast? with
  | none => rfl
  | some last => rfl

theorem replaceTarget_succeeds (hadExistingTarget : Bool) (disk : Disk Text Text) :
    (replaceTarget path answers hadExistingTarget disk).1.1 = true ↔ answers.installed = none := by
  unfold replaceTarget
  cases answers.installed with
  | none => simp
  | some message => simp [abandon]

theorem installTemporary_succeeds (disk : Disk Text Text) :
    (installTemporary path answers disk).1.1 = true ↔
      answers.inspected = none ∧ ((disk.files path).isSome = true → answers.preserved = none) ∧
        answers.installed = none := by
  unfold installTemporary
  cases answers.inspected with
  | some message => simp [abandon]
  | none =>
  cases (disk.files path).isSome with
  | false => simp [replaceTarget_succeeds]
  | true =>
    cases answers.preserved with
    | some message => simp [abandon]
    | none => simp [replaceTarget_succeeds]

/-- A verification that succeeds has read the whole text, and the same settings from it. -/
theorem verified_iff (settings : UserSettings) {text : Text} (hpath : path ≠ []) (htext : files path = some text)
    (answer : ReadAnswer) (before : UserSettings) :
    (!(loadUserSettingsFile path answer files before).success ||
        !sameSettings settings (loadUserSettingsFile path answer files before).settings) = false ↔
      answer = .whole ∧ Reads text settings := by
  rw [Bool.or_eq_false_iff, Bool.not_eq_false', Bool.not_eq_false']
  constructor
  · rintro ⟨hsuccess, hsame⟩
    obtain ⟨-, hwhole, stored, read, hstored, hreads, hload⟩ := load_success_iff.1 hsuccess
    rw [hload] at hsame
    obtain rfl := sameSettings_iff.1 hsame
    rw [htext, Option.some.injEq] at hstored
    exact ⟨hwhole, hstored ▸ hreads⟩
  · rintro ⟨rfl, hreads⟩
    rw [load_whole hpath htext hreads before]
    exact ⟨rfl, sameSettings_iff.2 rfl⟩

theorem save_succeeds_iff (path : Text) (settings : UserSettings) (answers : SaveAnswers)
    (start : Files) :
    (saveUserSettingsFile path settings answers { files := start }).1.1 = true ↔
      SaveWorks path settings answers start := by
  unfold saveUserSettingsFile
  by_cases hpath : path = []
  · rw [if_pos hpath]
    exact ⟨nofun, fun h => absurd hpath h.named⟩
  rw [if_neg hpath]
  dsimp only
  split
  · rename_i hrefused
    refine ⟨nofun, fun h => ?_⟩
    rw [writeUserSettings_representable h.representable] at hrefused
    cases hrefused
  rename_i hwritten
  have hrepresentable : Representable settings := representable_of_write (by simpa using hwritten)
  rw [writeUserSettings_representable hrepresentable]
  split
  · rename_i hcreated
    exact ⟨nofun, fun h => absurd h.created (by simpa using hcreated)⟩
  rename_i hcreated
  split
  · rename_i hpersisted
    exact ⟨nofun, fun h => absurd h.persisted (by simpa using hpersisted)⟩
  rename_i hpersisted
  have hstored := temporary_written path answers (Text.unlines (settingsLines settings)) start
  have htarget : (writeTemporary path answers (Text.unlines (settingsLines settings))
      { files := start }).files path = start path := by
    unfold writeTemporary
    rw [Disk.rewrite_other _ _ (temporaryPath_ne path).symm]
    exact apply_put_other (temporaryPath_ne path).symm
  have hnamed : temporaryPath path ≠ [] := by
    unfold temporaryPath
    rw [Ne, List.append_eq_nil_iff]
    exact fun h => hpath h.1
  have hverified := verified_iff settings hnamed hstored answers.verification {}
  split
  · rename_i hfailed
    refine ⟨nofun, fun h => ?_⟩
    rw [hverified.2 ⟨h.verified, h.stored⟩] at hfailed
    cases hfailed
  · rename_i hpassed
    rw [Bool.not_eq_true] at hpassed
    obtain ⟨hwhole, hreads⟩ := hverified.1 hpassed
    rw [installTemporary_succeeds, htarget]
    exact ⟨fun ⟨hinspected, hpreserved, hinstalled⟩ => ⟨hpath, hrepresentable,
      by simpa using hcreated, by simpa using hpersisted, hwhole, hreads, hinspected, hpreserved,
      hinstalled⟩,
      fun h => ⟨h.inspected, h.preserved, h.installed⟩⟩

theorem load_saved (path : Text) (settings : UserSettings) (answers : SaveAnswers) (start : Files)
    (h : (saveUserSettingsFile path settings answers { files := start }).1.1 = true)
    (before : UserSettings) :
    loadUserSettingsFile path .whole
        (saveUserSettingsFile path settings answers { files := start }).2.files before =
      ⟨true, settings, []⟩ := by
  obtain ⟨text, htext, hreads⟩ :=
    (saveUserSettingsFile_kept path settings answers start).success h
  exact load_whole ((save_succeeds_iff path settings answers start).1 h).named htext hreads before

/-- A save succeeds exactly when everything it needs works. The file then loads as the
settings; otherwise what can be got back is what could be before, in the file itself
unless the new one could not be put in place and the old one not restored. -/
theorem save_outcome (path : Text) (settings : UserSettings) (answers : SaveAnswers)
    (start : Files) :
    let saved := saveUserSettingsFile path settings answers { files := start }
    (saved.1.1 = true ↔ SaveWorks path settings answers start) ∧
      (saved.1.1 = true → ∀ before,
        loadUserSettingsFile path .whole saved.2.files before = ⟨true, settings, []⟩) ∧
      (saved.1.1 = false → recovered path saved.2.files = recovered path start ∧
        (saved.2.files path = start path ∨
          saved.2.files path = none ∧ answers.installed ≠ none ∧ answers.restored = false)) := by
  intro saved
  exact ⟨save_succeeds_iff path settings answers start, load_saved path settings answers start,
    (saveUserSettingsFile_kept path settings answers start).failure⟩

/-! Saves one after the other. -/

/-- A save, which may be stopped after some of its operations on the files. -/
structure SaveRequest where
  settings : UserSettings
  answers : SaveAnswers
  stopped : Option Nat

def leaves (saved : Saved) : Option Nat → Files
  | none => saved.2.files
  | some operations => saved.2.points.getD operations saved.2.files

def saves (path : Text) : Machine Files SaveRequest (Option (Bool × Text))
  | files, request =>
      let saved := saveUserSettingsFile path request.settings request.answers { files }
      (if request.stopped.isNone then some saved.1 else none, leaves saved request.stopped)

theorem safe_leaves {saved : Saved} (h : Kept path settings answers start saved)
    (stopped : Option Nat) : Safe path settings start (leaves saved stopped) := by
  cases stopped with
  | none => exact h.always.now
  | some operations =>
    have hleaves : leaves saved (some operations) =
        saved.2.points[operations]?.getD saved.2.files := List.getD_eq_getElem?_getD
    rw [hleaves]
    cases hpoint : saved.2.points[operations]? with
    | none => exact h.always.now
    | some files => exact h.always files (List.mem_of_getElem? hpoint)

theorem saves_safe (path : Text) (start : Files) (request : SaveRequest) :
    Safe path request.settings start (saves path start request).2 :=
  safe_leaves (saveUserSettingsFile_kept path request.settings request.answers start) request.stopped

def RecoversOneOf (path : Text) (requests : List SaveRequest) (files : Files) : Prop :=
  ∃ request ∈ requests, ∃ text, recovered path files = some text ∧ Reads text request.settings

theorem final_saves (path : Text) (start : Files) (requests : List SaveRequest) :
    Untouched path start ((saves path).final start requests) ∧
      (recovered path ((saves path).final start requests) = recovered path start ∨
        RecoversOneOf path requests ((saves path).final start requests)) := by
  induction requests generalizing start with
  | nil => exact ⟨fun _ _ _ _ => rfl, .inl rfl⟩
  | cons request rest ih =>
    obtain ⟨huntouched, hrecovered⟩ := ih (saves path start request).2
    have hsafe := saves_safe path start request
    refine ⟨fun other htarget htemporary hbackup => ?_, ?_⟩
    · exact (huntouched other htarget htemporary hbackup).trans
        (hsafe.untouched other htarget htemporary hbackup)
    rw [Machine.final]
    rcases hrecovered with hsame | ⟨later, hlater, hreads⟩
    · rw [hsame]
      rcases hsafe.recovered with hkept | ⟨text, htext, hreads⟩
      · exact .inl hkept
      · exact .inr ⟨request, List.mem_cons_self, text, hsame.trans htext, hreads⟩
    · exact .inr ⟨later, List.mem_cons_of_mem _ hlater, hreads⟩

/-- No failure and no stop loses the settings. In every run of saves, with any failures and
any temporary contents, and wherever each save was stopped: no other file is touched, what
can be got back is what could be before or a whole text of the settings of one of the
saves, and after a save that succeeded it is of that save or of a later one. -/
theorem saves_never_lose (path : Text) (start : Files) (earlier later : List SaveRequest)
    (request : SaveRequest) :
    let files := (saves path).final start (earlier ++ request :: later)
    Untouched path start files ∧
      (recovered path files = recovered path start ∨
        RecoversOneOf path (earlier ++ request :: later) files) ∧
      ∀ error, (saves path ((saves path).final start earlier) request).1 = some (true, error) →
        RecoversOneOf path (request :: later) files := by
  intro files
  obtain ⟨huntouched, hrecovered⟩ := final_saves path start (earlier ++ request :: later)
  refine ⟨huntouched, hrecovered, fun error hsaved => ?_⟩
  have hfiles : files = (saves path).final
      (saves path ((saves path).final start earlier) request).2 later := by
    change (saves path).final start (earlier ++ request :: later) = _
    rw [Machine.final_append]
    rfl
  have hkept := saveUserSettingsFile_kept path request.settings request.answers
    ((saves path).final start earlier)
  rw [hfiles]
  generalize (saves path).final start earlier = before at hsaved hkept ⊢
  -- The save was not stopped, so it left the file that it had put in place.
  obtain ⟨text, htext, hreads⟩ : ∃ text, recovered path (saves path before request).2 = some text ∧
      Reads text request.settings := by
    unfold saves at hsaved ⊢
    dsimp only at hsaved ⊢
    cases hstopped : request.stopped with
    | some operations =>
      rw [hstopped] at hsaved
      cases hsaved
    | none =>
      rw [hstopped, Option.isNone_none, if_pos rfl, Option.some.injEq] at hsaved
      obtain ⟨text, htext, hreads⟩ := hkept.success (congrArg Prod.fst hsaved)
      exact ⟨text, recovered_of_target htext, hreads⟩
  rcases (final_saves path (saves path before request).2 later).2 with hsame | ⟨last, hlast, hlater⟩
  · exact ⟨request, List.mem_cons_self, text, hsame.trans htext, hreads⟩
  · exact ⟨last, List.mem_cons_of_mem _ hlast, hlater⟩

end BmwRemote.Host.UserSettingsFile
