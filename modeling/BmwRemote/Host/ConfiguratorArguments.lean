import BmwRemote.Host.SettingsConfigurator

/-! The command line of the configurator: where the settings file is, and at most one
action, some of which are on a device behind a port. -/
namespace BmwRemote.Host.SettingsConfigurator

open BmwRemote.Lib
open BmwRemote.Lib.Text (ascii)

inductive Mode where
  | interactive
  | show
  | check
  | writeDefaults
  | printDefaults
  | listDevices
  | probeDevice
  | readDevice
  | writeDevice
  deriving DecidableEq, Repr

structure Options where
  mode : Mode := .interactive
  configPath : Text := ascii "config/user-settings.conf"
  devicePort : Text := []
  deriving DecidableEq, Repr

def selectMode (requested : Mode) (options : Options) : Except Text Options :=
  if options.mode ≠ .interactive then .error (ascii "une seule action peut etre demandee")
  else .ok { options with mode := requested }

def fileActions : List (String × Mode) :=
  [("--show", .show), ("--check", .check), ("--write-defaults", .writeDefaults),
    ("--print-defaults", .printDefaults), ("--list-devices", .listDevices)]

def deviceActions : List (String × Mode) :=
  [("--probe-device", .probeDevice), ("--read-device", .readDevice),
    ("--write-device", .writeDevice)]

/-- The loop over the arguments. No options come out where help is requested. -/
def parseArguments : List Text → Options → Except Text (Option Options)
  | [], options => .ok (some options)
  | argument :: rest, options =>
    if argument = ascii "--help" ∨ argument = ascii "-h" then .ok none
    else if argument = ascii "--config" then
      match rest with
      | [] => .error (ascii "--config exige un chemin")
      | path :: rest =>
        if path = [] then .error (ascii "le chemin de configuration est vide")
        else parseArguments rest { options with configPath := path }
    else
      match choose fileActions argument, choose deviceActions argument with
      | some requested, _ =>
        match selectMode requested options with
        | .error error => .error error
        | .ok options => parseArguments rest options
      | none, some requested =>
        match rest with
        | [] => .error (argument ++ ascii " exige un port COM")
        | port :: rest =>
          match selectMode requested options with
          | .error error => .error error
          | .ok options =>
            if port = [] then .error (ascii "le nom du port COM est vide")
            else parseArguments rest { options with devicePort := port }
      | none, none => .error (ascii "option inconnue : " ++ argument)

/-! What a command line says. -/

/-- One thing that a command line says. -/
inductive Wish where
  | config (path : Text)
  | file (word : String) (mode : Mode)
  | device (word : String) (mode : Mode) (port : Text)

namespace Wish

def arguments : Wish → List Text
  | config path => [ascii "--config", path]
  | file word _ => [ascii word]
  | device word _ port => [ascii word, port]

def WellFormed : Wish → Prop
  | config path => path ≠ []
  | file word mode => (word, mode) ∈ fileActions
  | device word mode port => (word, mode) ∈ deviceActions ∧ port ≠ []

def isAction : Wish → Bool
  | config _ => false
  | file _ _ | device _ _ _ => true

def apply (options : Options) : Wish → Options
  | config path => { options with configPath := path }
  | file _ mode => { options with mode }
  | device _ mode port => { options with mode, devicePort := port }

def Admitted (options : Options) (wish : Wish) : Prop :=
  wish.WellFormed ∧ (wish.isAction = true → options.mode = .interactive)

end Wish

def helpWords : List Text := [ascii "--help", ascii "-h"]

variable {options after : Options} {wish : Wish} {arguments rest : List Text}
  {result : Option Options}

theorem file_word {word : String} {mode : Mode} (h : (word, mode) ∈ fileActions) :
    ascii word ∉ helpWords ∧ ascii word ≠ ascii "--config" ∧
      choose fileActions (ascii word) = some mode ∧ mode ≠ .interactive := by
  have hall : ∀ action ∈ fileActions, ascii action.1 ∉ helpWords ∧
      ascii action.1 ≠ ascii "--config" ∧
      choose fileActions (ascii action.1) = some action.2 ∧ action.2 ≠ .interactive := by decide
  exact hall _ h

theorem device_word {word : String} {mode : Mode} (h : (word, mode) ∈ deviceActions) :
    ascii word ∉ helpWords ∧ ascii word ≠ ascii "--config" ∧
      choose fileActions (ascii word) = none ∧
      choose deviceActions (ascii word) = some mode ∧ mode ≠ .interactive := by
  have hall : ∀ action ∈ deviceActions, ascii action.1 ∉ helpWords ∧
      ascii action.1 ≠ ascii "--config" ∧ choose fileActions (ascii action.1) = none ∧
      choose deviceActions (ascii action.1) = some action.2 ∧ action.2 ≠ .interactive := by decide
  exact hall _ h

theorem mem_of_choose {T : Type} {choices : List (String × T)} {answer : Text} {value : T}
    (h : choose choices answer = some value) :
    ∃ word, (word, value) ∈ choices ∧ answer = ascii word := by
  unfold choose at h
  obtain ⟨⟨word, listed⟩, hfind, hvalue⟩ := Option.map_eq_some_iff.mp h
  have hsame : (answer == ascii word) = true := by
    have hfound := List.find?_some hfind
    exact hfound
  refine ⟨word, ?_, beq_iff_eq.mp hsame⟩
  rw [← hvalue]
  exact List.mem_of_find?_eq_some hfind

/-! One turn of the loop. -/

theorem parse_help {word : Text} (h : word ∈ helpWords) :
    parseArguments (word :: rest) options = .ok none := by
  have hword : word = ascii "--help" ∨ word = ascii "-h" := by simpa [helpWords] using h
  unfold parseArguments
  rw [if_pos hword]

theorem selectMode_idle (requested : Mode) (h : options.mode = .interactive) :
    selectMode requested options = .ok { options with mode := requested } :=
  if_neg (not_not_intro h)

theorem parse_wish (h : wish.Admitted options) :
    parseArguments (wish.arguments ++ rest) options = parseArguments rest (wish.apply options) := by
  obtain ⟨hformed, hidle⟩ := h
  cases wish with
  | config path =>
    have hpath : path ≠ [] := hformed
    change parseArguments (ascii "--config" :: path :: rest) options = _
    rw [parseArguments, if_neg (by decide), if_pos rfl, if_neg hpath]
    rfl
  | file word mode =>
    obtain ⟨hhelp, hconfig, hchoose, -⟩ := file_word hformed
    have hhelp : ¬ (ascii word = ascii "--help" ∨ ascii word = ascii "-h") := by
      simpa [helpWords] using hhelp
    change parseArguments (ascii word :: rest) options = _
    rw [parseArguments.eq_def]
    dsimp only
    rw [if_neg hhelp, if_neg hconfig, hchoose]
    dsimp only
    rw [selectMode_idle mode (hidle rfl)]
    rfl
  | device word mode port =>
    obtain ⟨hformed, hport⟩ := hformed
    obtain ⟨hhelp, hconfig, hchoose, hdevice, -⟩ := device_word hformed
    have hhelp : ¬ (ascii word = ascii "--help" ∨ ascii word = ascii "-h") := by
      simpa [helpWords] using hhelp
    change parseArguments (ascii word :: port :: rest) options = _
    rw [parseArguments, if_neg hhelp, if_neg hconfig, hchoose, hdevice]
    dsimp only
    rw [selectMode_idle mode (hidle rfl)]
    dsimp only
    rw [if_neg hport]
    rfl

/-- What is accepted begins with nothing, with a request for help or with a wish. -/
theorem parse_cases (h : parseArguments arguments options = .ok result) :
    (arguments = [] ∧ result = some options) ∨
      (∃ word rest, word ∈ helpWords ∧ arguments = word :: rest ∧ result = none) ∨
      ∃ wish rest, Wish.Admitted options wish ∧ arguments = wish.arguments ++ rest ∧
        parseArguments rest (wish.apply options) = .ok result := by
  cases arguments with
  | nil =>
    cases h
    exact .inl ⟨rfl, rfl⟩
  | cons argument others =>
  right
  unfold parseArguments at h
  split at h
  · rename_i hhelp
    cases h
    exact .inl ⟨argument, others, by simpa [helpWords] using hhelp, rfl, rfl⟩
  right
  split at h
  · rename_i hconfig
    cases others with
    | nil => cases h
    | cons path rest =>
      dsimp only at h
      split at h
      · cases h
      · rename_i hpath
        rw [hconfig]
        exact ⟨.config path, rest, ⟨hpath, nofun⟩, rfl, h⟩
  split at h
  · rename_i requested hchoose
    obtain ⟨word, hword, rfl⟩ := mem_of_choose hchoose
    unfold selectMode at h
    split at h
    · cases h
    · rename_i selected hselected
      split at hselected
      · cases hselected
      · rename_i hidle
        cases hselected
        exact ⟨.file word requested, others, ⟨hword, fun _ => not_not.mp hidle⟩, rfl, h⟩
  · rename_i requested hfile hchoose
    obtain ⟨word, hword, rfl⟩ := mem_of_choose hchoose
    cases others with
    | nil => cases h
    | cons port rest =>
      unfold selectMode at h
      dsimp only at h
      split at h
      · cases h
      · rename_i selected hselected
        split at hselected
        · cases hselected
        · rename_i hidle
          cases hselected
          split at h
          · cases h
          · rename_i hport
            exact ⟨.device word requested port, rest, ⟨⟨hword, hport⟩, fun _ => not_not.mp hidle⟩,
              rfl, h⟩
  · cases h

/-! Whole command lines. -/

/-- How many actions can still be asked for. -/
def Options.room (options : Options) : Nat := if options.mode = .interactive then 1 else 0

structure Granted (options : Options) (wishes : List Wish) : Prop where
  formed : ∀ wish ∈ wishes, wish.WellFormed
  once : wishes.countP Wish.isAction ≤ options.room

theorem mode_apply (h : wish.WellFormed) :
    if wish.isAction then (wish.apply options).mode ≠ .interactive
    else (wish.apply options).mode = options.mode := by
  cases wish with
  | config path => rfl
  | file word mode => exact (file_word h).2.2.2
  | device word mode port => exact (device_word h.1).2.2.2.2

theorem granted_cons {wishes : List Wish} :
    Granted options (wish :: wishes) ↔
      wish.Admitted options ∧ Granted (wish.apply options) wishes := by
  have hroom (hformed : wish.WellFormed) :
      (wish :: wishes).countP Wish.isAction ≤ options.room ↔
        (wish.isAction = true → options.mode = .interactive) ∧
          wishes.countP Wish.isAction ≤ (wish.apply options).room := by
    have hmode := @mode_apply options wish hformed
    unfold Options.room
    rw [List.countP_cons]
    cases haction : wish.isAction with
    | false =>
      rw [haction, if_neg Bool.false_ne_true] at hmode
      simp [hmode]
    | true =>
      rw [haction, if_pos rfl] at hmode
      rw [if_neg hmode, if_pos rfl]
      by_cases hidle : options.mode = .interactive
      · simp [hidle]
      · simp [hidle]
  constructor
  · rintro ⟨hformed, honce⟩
    obtain ⟨hwish, hwishes⟩ := List.forall_mem_cons.mp hformed
    obtain ⟨hidle, hrest⟩ := (hroom hwish).mp honce
    exact ⟨⟨hwish, hidle⟩, hwishes, hrest⟩
  · rintro ⟨⟨hwish, hidle⟩, hwishes, hrest⟩
    exact ⟨List.forall_mem_cons.mpr ⟨hwish, hwishes⟩, (hroom hwish).mpr ⟨hidle, hrest⟩⟩

theorem parse_wishes {wishes : List Wish} (h : Granted options wishes) :
    parseArguments (wishes.flatMap Wish.arguments ++ rest) options =
      parseArguments rest (wishes.foldl Wish.apply options) := by
  induction wishes generalizing options with
  | nil => rfl
  | cons wish wishes ih =>
    obtain ⟨hwish, hwishes⟩ := granted_cons.mp h
    rw [List.flatMap_cons, List.append_assoc, parse_wish hwish, ih hwishes]
    rfl

theorem exists_wishes (h : parseArguments arguments options = .ok result) :
    ∃ wishes, Granted options wishes ∧
      ((arguments = wishes.flatMap Wish.arguments ∧
          result = some (wishes.foldl Wish.apply options)) ∨
        ∃ word rest, word ∈ helpWords ∧
          arguments = wishes.flatMap Wish.arguments ++ word :: rest ∧ result = none) := by
  induction hlength : arguments.length using Nat.strong_induction_on
    generalizing arguments options with
  | _ length ih =>
  rcases parse_cases h with ⟨rfl, rfl⟩ | ⟨word, rest, hword, rfl, rfl⟩ |
    ⟨wish, rest, hwish, rfl, hrest⟩
  · exact ⟨[], ⟨nofun, Nat.zero_le _⟩, .inl ⟨rfl, rfl⟩⟩
  · exact ⟨[], ⟨nofun, Nat.zero_le _⟩, .inr ⟨word, rest, hword, rfl, rfl⟩⟩
  · have hshorter : rest.length < length := by
      rw [← hlength, List.length_append]
      have hsome : 0 < wish.arguments.length := by
        cases wish <;> exact Nat.succ_pos _
      omega
    obtain ⟨wishes, hwishes, hends⟩ := ih _ hshorter hrest rfl
    refine ⟨wish :: wishes, granted_cons.mpr ⟨hwish, hwishes⟩, ?_⟩
    rw [List.flatMap_cons]
    rcases hends with ⟨harguments, hresult⟩ | ⟨word, others, hword, harguments, hresult⟩
    · rw [← harguments]
      exact .inl ⟨rfl, hresult⟩
    · refine .inr ⟨word, others, hword, ?_, hresult⟩
      rw [List.append_assoc, ← harguments]

structure Options.Sound (options : Options) : Prop where
  configPath : options.configPath ≠ []
  devicePort : options.devicePort ≠ [] ↔ options.mode ∈ deviceActions.map (·.2)

theorem sound_apply (hoptions : options.Sound) (h : wish.Admitted options) :
    (wish.apply options).Sound := by
  obtain ⟨hformed, hidle⟩ := h
  cases wish with
  | config path => exact ⟨hformed, hoptions.devicePort⟩
  | file word mode =>
    have hnone : ∀ action ∈ fileActions, action.2 ∉ deviceActions.map (·.2) := by decide
    have hport : ¬ options.devicePort ≠ [] := by
      rw [hoptions.devicePort, hidle rfl]
      decide
    exact ⟨hoptions.configPath, iff_of_false hport (hnone _ hformed)⟩
  | device word mode port =>
    exact ⟨hoptions.configPath, iff_of_true hformed.2 (List.mem_map_of_mem hformed.1)⟩

theorem sound_wishes {wishes : List Wish} (hoptions : options.Sound) (h : Granted options wishes) :
    (wishes.foldl Wish.apply options).Sound := by
  induction wishes generalizing options with
  | nil => exact hoptions
  | cons wish wishes ih =>
    obtain ⟨hwish, hwishes⟩ := granted_cons.mp h
    exact ih (sound_apply hoptions hwish) hwishes

/-- The command lines that are accepted are those that spell wishes, at most one of them an
action, and the last of each kind counts; behind a word for help everything is ignored. The
options then have a path, and a port exactly where the action needs one. -/
theorem parseArguments_accepts (arguments : List Text) :
    (∀ options, parseArguments arguments {} = .ok (some options) ↔
      ∃ wishes : List Wish, arguments = wishes.flatMap Wish.arguments ∧
        (∀ wish ∈ wishes, wish.WellFormed) ∧ wishes.countP Wish.isAction ≤ 1 ∧
        options = wishes.foldl Wish.apply {}) ∧
    (parseArguments arguments {} = .ok none ↔
      ∃ (wishes : List Wish) (word : Text) (rest : List Text),
        arguments = wishes.flatMap Wish.arguments ++ word :: rest ∧
        (∀ wish ∈ wishes, wish.WellFormed) ∧ wishes.countP Wish.isAction ≤ 1 ∧
        word ∈ helpWords) ∧
    (∀ options, parseArguments arguments {} = .ok (some options) → options.Sound) := by
  have hstart : ({} : Options).Sound := ⟨by decide, by decide⟩
  refine ⟨fun options => ⟨fun h => ?_, ?_⟩, ⟨fun h => ?_, ?_⟩, fun options h => ?_⟩
  · obtain ⟨wishes, hwishes, hends⟩ := exists_wishes h
    rcases hends with ⟨harguments, hresult⟩ | ⟨_, _, _, _, hresult⟩
    · exact ⟨wishes, harguments, hwishes.formed, hwishes.once, Option.some.inj hresult⟩
    · cases hresult
  · rintro ⟨wishes, rfl, hformed, honce, rfl⟩
    have hparse := @parse_wishes {} [] wishes ⟨hformed, honce⟩
    rw [List.append_nil] at hparse
    exact hparse
  · obtain ⟨wishes, hwishes, hends⟩ := exists_wishes h
    rcases hends with ⟨_, hresult⟩ | ⟨word, rest, hword, harguments, -⟩
    · cases hresult
    · exact ⟨wishes, word, rest, harguments, hwishes.formed, hwishes.once, hword⟩
  · rintro ⟨wishes, word, rest, rfl, hformed, honce, hword⟩
    rw [@parse_wishes {} (word :: rest) wishes ⟨hformed, honce⟩, parse_help hword]
  · obtain ⟨wishes, hwishes, hends⟩ := exists_wishes h
    rcases hends with ⟨-, hresult⟩ | ⟨_, _, _, _, hresult⟩
    · cases hresult
      exact sound_wishes hstart hwishes
    · cases hresult

end BmwRemote.Host.SettingsConfigurator
