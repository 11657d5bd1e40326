import BmwRemote.Infrastructure.ReceiverThreads
import BmwRemote.Lib.Transcript

/-! What `start` and `stop` keep over any sequence of calls: the barriers before each
driver, and the flags with the driver. -/
namespace BmwRemote.Infrastructure

open BmwRemote.Lib

namespace DriverCall

def leavesDriver : DriverCall → Bool
  | .driverInstall _ | .driverUninstall _ => false
  | _ => true

/-- The calls of one `start` behind which a driver may be installed. -/
def barriers (pins : TwaiSafetyPinConfig) : List DriverCall :=
  [.start,
    .configureOutput (pinNumber pins.silentPin) pins.silentLevel true,
    .configureOutput (pinNumber pins.transmitInhibitPin) pins.transmitInhibitLevel true,
    .read (pinNumber pins.silentPin) (some pins.silentLevel),
    .read (pinNumber pins.transmitInhibitPin) (some pins.transmitInhibitLevel)]

/-- Every installation is tried right behind the barriers. -/
def Guarded (pins : TwaiSafetyPinConfig) (calls : List DriverCall) : Prop :=
  ∀ earlier call later, calls = earlier ++ call :: later →
    ∀ done, call = .driverInstall done → barriers pins <:+ earlier

variable {pins : TwaiSafetyPinConfig} {calls : List DriverCall} {call : DriverCall}

theorem Guarded.concat (h : Guarded pins calls)
    (hcall : ∀ done, call = .driverInstall done → barriers pins <:+ calls) :
    Guarded pins (calls ++ [call]) :=
  forall_split_concat.mpr ⟨h, hcall⟩

end DriverCall

namespace Control

def opens : Control → Bool
  | .driverInstall | .twaiStart | .clearQueue | .resetStatistics | .clearExited | .setRunning
  | .createTask | .publish => true
  | _ => false

def closes : Control → Bool
  | .uninstallUnstarted | .clearRunning | .setExited | .stopUncreated | .uninstallUncreated
  | .stopRunning | .twaiStop | .awaitExit _ | .checkExit | .driverUninstall => true
  | _ => false

end Control

namespace ListenOnlyReceiver

open DriverCall

/-- What is assumed of `twai_driver_uninstall`: it succeeds when no task is running. -/
def UninstallsIdle (receiver : ListenOnlyReceiver) : LifecycleAction → Prop
  | .control answer =>
      receiver.control.uninstalls = true → receiver.AllSignalled → answer.done = true
  | _ => True

instance (receiver : ListenOnlyReceiver) :
    (action : LifecycleAction) → Decidable (UninstallsIdle receiver action)
  | .control _ => inferInstanceAs <| Decidable (_ → _ → _)
  | .start | .stop | .task .. => isTrue trivial

def Opening (receiver : ListenOnlyReceiver) : Prop :=
  receiver.state ≠ .runningListenOnly ∧ receiver.driverInstalled = receiver.installedAtStart

def Receiving (receiver : ListenOnlyReceiver) : Prop :=
  receiver.driverInstalled = true ∧ receiver.running = true ∧ receiver.taskHandle = true ∧
    receiver.tasks ≠ []

/-- What the control thread knows where it stands. -/
def Outline (pins : TwaiSafetyPinConfig) (receiver : ListenOnlyReceiver) : Prop :=
  match receiver.control with
  | .idle last =>
      (receiver.state = .runningListenOnly → receiver.Receiving) ∧
      ∀ status, last = some status → status ≠ .started → status ≠ .alreadyRunning →
        receiver.driverInstalled = true → receiver.installedAtStart = true
  | .holdHardwareSilent => receiver.Opening ∧ (barriers pins).take 1 <:+ receiver.calls
  | .holdTransmitInhibited => receiver.Opening ∧ (barriers pins).take 2 <:+ receiver.calls
  | .readSilent => receiver.Opening ∧ (barriers pins).take 3 <:+ receiver.calls
  | .readInhibit silentLevel =>
      receiver.Opening ∧ (barriers pins).take 3 ++
        [.read (pinNumber pins.silentPin) (some silentLevel)] <:+ receiver.calls
  | .driverInstall => receiver.Opening ∧ barriers pins <:+ receiver.calls
  | .createTask =>
      receiver.state ≠ .runningListenOnly ∧ receiver.driverInstalled = true ∧
        receiver.running = true
  | .publish => receiver.Receiving
  | .stopRunning | .twaiStop | .awaitExit _ | .checkExit | .driverUninstall =>
      receiver.driverInstalled = true
  | _ => receiver.state ≠ .runningListenOnly ∧ receiver.driverInstalled = true

variable {pins : TwaiSafetyPinConfig} {receiver next : ListenOnlyReceiver} {answer : Answer}

/-- What a step does to the log and to the driver. -/
theorem controlStep_calls (h : receiver.controlStep answer = some next) :
    (next.driver = receiver.driver ∧ next.driverInstalled = receiver.driverInstalled ∧
      (next.calls = receiver.calls ∨ ∃ call, call.leavesDriver = true ∧
        next.calls = receiver.calls ++ [call])) ∨
    (receiver.control = .driverInstall ∧
      next.calls = receiver.calls ++ [.driverInstall answer.done] ∧
      next.driver = (receiver.driver || answer.done) ∧
      next.driverInstalled = (receiver.driverInstalled || answer.done)) ∨
    (receiver.control.uninstalls = true ∧
      next.calls = receiver.calls ++ [.driverUninstall answer.done] ∧
      next.driver = (receiver.driver && !answer.done) ∧ next.driverInstalled = false) := by
  unfold controlStep at h
  cases hcontrol : receiver.control with
  | idle => simp [hcontrol] at h
  | driverInstall =>
    simp only [hcontrol] at h
    split at h <;> rename_i hdone <;> obtain rfl := Option.some.inj h <;>
      exact .inr (.inl ⟨rfl, rfl, by simp_all [refuse, log], by simp_all [refuse, log]⟩)
  | uninstallUnstarted | uninstallUncreated | driverUninstall =>
    simp only [hcontrol] at h
    obtain rfl := Option.some.inj h
    exact .inr (.inr ⟨rfl, rfl, rfl, rfl⟩)
  | clearQueue | resetStatistics | clearExited | setRunning | clearRunning | setExited | publish
    | stopRunning =>
    simp only [hcontrol] at h
    obtain rfl := Option.some.inj h
    exact .inl ⟨rfl, rfl, .inl rfl⟩
  | awaitExit | checkExit =>
    simp only [hcontrol] at h
    split at h <;> obtain rfl := Option.some.inj h <;> exact .inl ⟨rfl, rfl, .inl rfl⟩
  | stopUncreated | twaiStop =>
    simp only [hcontrol] at h
    obtain rfl := Option.some.inj h
    exact .inl ⟨rfl, rfl, .inr ⟨_, rfl, rfl⟩⟩
  | twaiStart | createTask =>
    simp only [hcontrol] at h
    split at h <;> obtain rfl := Option.some.inj h <;>
      exact .inl ⟨rfl, rfl, .inr ⟨_, rfl, rfl⟩⟩
  | holdHardwareSilent | holdTransmitInhibited =>
    simp only [hcontrol] at h
    obtain rfl := Option.some.inj h
    by_cases hvalid : receiver.safety.config.isValid
    · split <;> simp [goto, refuse, log, leavesDriver]
    · split <;> simp [goto, refuse]
  | readSilent =>
    simp only [hcontrol] at h
    (repeat' split at h) <;> obtain rfl := Option.some.inj h <;>
      simp [goto, refuse, log, leavesDriver]
  | readInhibit =>
    simp only [hcontrol] at h
    (repeat' split at h) <;> obtain rfl := Option.some.inj h <;>
      simp [goto, refuse, log, leavesDriver]

theorem Opening.outline_refuse {status : CanReceiverStartStatus} (h : receiver.Opening) :
    Outline pins (receiver.refuse status) := by
  refine ⟨by simp [refuse], ?_⟩
  intro _ _ _ _ hinstalled
  exact h.2.symm.trans hinstalled

section Phases

variable (h : Outline pins receiver) (hstep : receiver.controlStep answer = some next)

include h hstep

/-! The barriers, with the pins that the receiver was given. -/

theorem Outline.held (hpins : receiver.safety.config = pins)
    (hcontrol : receiver.control = .holdHardwareSilent ∨
      receiver.control = .holdTransmitInhibited) : Outline pins next := by
  unfold controlStep at hstep
  unfold Outline at h
  rcases hcontrol with hcontrol | hcontrol
  all_goals
    simp only [hcontrol, hpins] at h hstep
    obtain rfl := Option.some.inj hstep
    split
    · rename_i hheld
      obtain ⟨hvalid, hdone⟩ : pins.isValid = true ∧ answer.done = true := by
        simpa [GpioTwaiSafetyHal.holdHardwareSilent, GpioTwaiSafetyHal.holdTransmitInhibited,
          hpins] using hheld
      refine ⟨by simpa [Opening, goto, log, hvalid] using h.1, ?_⟩
      simpa [hvalid, hdone, goto, log, barriers] using List.suffix_append_self_iff.mpr h.2
    · apply Opening.outline_refuse
      split <;> exact h.1

theorem Outline.readSilent (hpins : receiver.safety.config = pins)
    (hcontrol : receiver.control = .readSilent) : Outline pins next := by
  unfold controlStep at hstep
  unfold Outline at h
  simp only [hcontrol, hpins] at h hstep
  split at hstep
  · obtain rfl := Option.some.inj hstep
    exact Opening.outline_refuse h.1
  · cases hlevel : answer.level with
    | none =>
      simp only [hlevel] at hstep
      obtain rfl := Option.some.inj hstep
      exact Opening.outline_refuse h.1
    | some silentLevel =>
      simp only [hlevel] at hstep
      obtain rfl := Option.some.inj hstep
      exact ⟨h.1, List.suffix_append_self_iff.mpr h.2⟩

theorem Outline.readInhibit (hpins : receiver.safety.config = pins) {silentLevel : GpioLevel}
    (hcontrol : receiver.control = .readInhibit silentLevel) : Outline pins next := by
  unfold controlStep at hstep
  unfold Outline at h
  simp only [hcontrol] at h hstep
  cases hlevel : answer.level with
  | none =>
    simp only [hlevel] at hstep
    obtain rfl := Option.some.inj hstep
    exact Opening.outline_refuse h.1
  | some inhibitLevel =>
    simp only [hlevel] at hstep
    split at hstep <;> obtain rfl := Option.some.inj hstep
    · rename_i hconfirmed
      obtain ⟨rfl, rfl⟩ : silentLevel = pins.silentLevel ∧
          inhibitLevel = pins.transmitInhibitLevel := by
        simpa [GpioTwaiSafetyHal.levelsConfirmed, log, hpins] using hconfirmed
      refine ⟨h.1, ?_⟩
      simpa [hpins, goto, log, barriers] using List.suffix_append_self_iff.mpr h.2
    · exact Opening.outline_refuse h.1

/-! The rest of `start`, and `stop`. -/

theorem Outline.opened (hcontrol : receiver.control.opens = true) : Outline pins next := by
  unfold controlStep at hstep
  unfold Outline at h
  cases hcase : receiver.control with
  | driverInstall =>
    simp only [hcase] at h hstep
    split at hstep <;> obtain rfl := Option.some.inj hstep
    · exact Opening.outline_refuse h.1
    · exact ⟨h.1.1, rfl⟩
  | twaiStart =>
    simp only [hcase] at h hstep
    split at hstep <;> obtain rfl := Option.some.inj hstep <;> exact h
  | clearQueue | resetStatistics | clearExited =>
    simp only [hcase] at h hstep
    obtain rfl := Option.some.inj hstep
    exact h
  | setRunning =>
    simp only [hcase] at h hstep
    obtain rfl := Option.some.inj hstep
    exact ⟨h.1, h.2, rfl⟩
  | createTask =>
    simp only [hcase] at h hstep
    split at hstep <;> obtain rfl := Option.some.inj hstep
    · exact ⟨h.2.1, h.2.2, rfl, by simp [log]⟩
    · exact ⟨h.1, h.2.1⟩
  | publish =>
    simp only [hcase] at h hstep
    obtain rfl := Option.some.inj hstep
    exact ⟨fun _ => h, by simp⟩
  | _ => simp [hcase, Control.opens] at hcontrol

theorem Outline.closed (hcontrol : receiver.control.closes = true) : Outline pins next := by
  unfold controlStep at hstep
  unfold Outline at h
  cases hcase : receiver.control with
  | uninstallUnstarted | uninstallUncreated =>
    simp only [hcase] at hstep
    obtain rfl := Option.some.inj hstep
    exact ⟨by simp [refuse], by simp [refuse, uninstall]⟩
  | clearRunning | setExited | stopUncreated | stopRunning | twaiStop =>
    simp only [hcase] at h hstep
    obtain rfl := Option.some.inj hstep
    exact h
  | awaitExit wait =>
    simp only [hcase] at h hstep
    split at hstep <;> obtain rfl := Option.some.inj hstep <;> exact h
  | checkExit =>
    simp only [hcase] at h hstep
    split at hstep <;> obtain rfl := Option.some.inj hstep
    · exact ⟨by simp, by simp⟩
    · exact h
  | driverUninstall =>
    simp only [hcase] at hstep
    obtain rfl := Option.some.inj hstep
    exact ⟨by simp, by simp⟩
  | _ => simp [hcase, Control.closes] at hcontrol

theorem Outline.control (hpins : receiver.safety.config = pins) : Outline pins next := by
  cases hcontrol : receiver.control with
  | idle =>
    unfold controlStep at hstep
    simp [hcontrol] at hstep
  | holdHardwareSilent => exact h.held hstep hpins (.inl hcontrol)
  | holdTransmitInhibited => exact h.held hstep hpins (.inr hcontrol)
  | readSilent => exact h.readSilent hstep hpins hcontrol
  | readInhibit => exact h.readInhibit hstep hpins hcontrol
  | driverInstall | twaiStart | clearQueue | resetStatistics | clearExited | setRunning
    | createTask | publish => exact h.opened hstep (by rw [hcontrol]; rfl)
  | _ => exact h.closed hstep (by rw [hcontrol]; rfl)

end Phases

theorem controlStep_pins (h : receiver.controlStep answer = some next) :
    next.safety.config = receiver.safety.config := by
  unfold controlStep at h
  cases hcontrol : receiver.control with
  | idle => simp [hcontrol] at h
  | _ =>
    simp only [hcontrol] at h
    (repeat' split at h) <;> obtain rfl := Option.some.inj h <;>
      simp [goto, refuse, log, uninstall, GpioTwaiSafetyHal.holdHardwareSilent,
        GpioTwaiSafetyHal.holdTransmitInhibited]

theorem taskStep_frame {index : Nat} {arrived : Arrived}
    (h : receiver.taskStep index arrived = some next) :
    ∃ ring tasks taskExited, tasks.length = receiver.tasks.length ∧
      next = { receiver with ring := ring, tasks := tasks, taskExited := taskExited } := by
  obtain ⟨task, after, -, htasks, -⟩ := taskStep_cases h
  refine ⟨next.ring, next.tasks, next.taskExited, by rw [htasks, List.length_set], ?_⟩
  unfold taskStep at h
  split at h
  case h_1 => simp at h
  case h_8 => simp at h
  all_goals
    (repeat' split at h) <;> obtain rfl := Option.some.inj h <;> rfl

structure Kept (pins : TwaiSafetyPinConfig) (receiver : ListenOnlyReceiver) : Prop where
  wired : receiver.safety.config = pins
  sound : receiver.Sound
  outline : Outline pins receiver
  guarded : Guarded pins receiver.calls
  balanced : receiver.calls.count (.driverInstall true) =
    receiver.calls.count (.driverUninstall true) + receiver.driver.toNat
  agrees : receiver.driver = receiver.driverInstalled

theorem kept_new (config : TwaiListenOnlyConfig) (pins : TwaiSafetyPinConfig)
    (ring : RingReceiver) : Kept pins (new config pins ring) where
  wired := rfl
  sound := sound_new config pins ring
  outline := ⟨by simp [new], by simp⟩
  guarded := by simp [Guarded, new]
  balanced := rfl
  agrees := rfl

theorem Outline.installed_of_uninstalls (h : Outline pins receiver)
    (hcontrol : receiver.control.uninstalls = true) : receiver.driverInstalled = true := by
  unfold Outline at h
  cases hcase : receiver.control with
  | uninstallUnstarted | uninstallUncreated =>
    simp only [hcase] at h
    exact h.2
  | driverUninstall =>
    simp only [hcase] at h
    exact h
  | _ => simp [hcase, Control.uninstalls] at hcontrol

theorem Kept.leaves (h : Kept pins receiver) (hwired : next.safety.config = pins)
    (hsound : next.Sound) (houtline : Outline pins next) (hdriver : next.driver = receiver.driver)
    (hinstalled : next.driverInstalled = receiver.driverInstalled)
    (hcalls : next.calls = receiver.calls ∨ ∃ call, call.leavesDriver = true ∧
      next.calls = receiver.calls ++ [call]) : Kept pins next := by
  have hagrees : next.driver = next.driverInstalled := by rw [hdriver, hinstalled, h.agrees]
  rcases hcalls with hcalls | ⟨call, hleaves, hcalls⟩
  · exact ⟨hwired, hsound, houtline, hcalls ▸ h.guarded, by rw [hcalls, hdriver, h.balanced],
      hagrees⟩
  · refine ⟨hwired, hsound, houtline, ?_, ?_, hagrees⟩
    · rw [hcalls]
      exact h.guarded.concat (by rintro done rfl; simp [leavesDriver] at hleaves)
    · rw [hcalls, hdriver]
      have hbalanced := h.balanced
      cases call <;> simp_all [leavesDriver]

theorem Kept.control (h : Kept pins receiver) (hinstall : InstallsOnce receiver (.control answer))
    (huninstall : UninstallsIdle receiver (.control answer))
    (hstep : receiver.controlStep answer = some next) : Kept pins next := by
  have hsound := h.sound.control hinstall hstep
  have houtline := h.outline.control hstep h.wired
  have hpins := (controlStep_pins hstep).trans h.wired
  rcases controlStep_calls hstep with ⟨hdriver, hinstalled, hcalls⟩ |
    ⟨hcontrol, hcalls, hdriver, hinstalled⟩ | ⟨hcontrol, hcalls, hdriver, hinstalled⟩
  · exact h.leaves hpins hsound houtline hdriver hinstalled hcalls
  · have hbarriers : barriers pins <:+ receiver.calls := by
      have := h.outline
      simp only [Outline, hcontrol] at this
      exact this.2
    refine ⟨hpins, hsound, houtline, ?_, ?_, by rw [hdriver, hinstalled, h.agrees]⟩
    · rw [hcalls]
      exact h.guarded.concat fun _ _ => hbarriers
    · rw [hcalls, hdriver]
      have hbalanced := h.balanced
      cases hdone : answer.done with
      | false => simpa [hdone] using hbalanced
      | true =>
        have hnone := hinstall hcontrol hdone
        simpa [hdone, hnone] using hbalanced
  · have hdone := huninstall hcontrol (h.sound.atUninstall hcontrol)
    have hheld := h.outline.installed_of_uninstalls hcontrol
    refine ⟨hpins, hsound, houtline, ?_, ?_, by rw [hdriver, hinstalled, hdone]; simp⟩
    · rw [hcalls]
      exact h.guarded.concat (by simp)
    · rw [hcalls, hdriver]
      have hbalanced := h.balanced
      simpa [hdone, h.agrees, hheld] using hbalanced

theorem isIdle_iff : receiver.isIdle = true ↔ ∃ last, receiver.control = .idle last := by
  unfold isIdle
  cases receiver.control <;> simp

theorem Outline.start (h : Outline pins receiver) (hidle : receiver.isIdle = true) :
    Outline pins receiver.beginStart := by
  obtain ⟨last, hcontrol⟩ := isIdle_iff.mp hidle
  simp only [Outline, hcontrol] at h
  simp only [beginStart]
  split_ifs with hrunning
  · exact ⟨fun _ => h.1 hrunning, by simp⟩
  · exact Opening.outline_refuse ⟨hrunning, rfl⟩
  · exact ⟨⟨hrunning, rfl⟩, List.suffix_append _ _⟩

theorem Outline.stop : Outline pins receiver.beginStop := by
  simp only [beginStop]
  split_ifs with hinstalled
  · exact ⟨by simp, by simp⟩
  · simpa [Outline, goto] using hinstalled

theorem Kept.start (h : Kept pins receiver) (hidle : receiver.isIdle = true) :
    Kept pins receiver.beginStart := by
  refine h.leaves ?_ h.sound.start (h.outline.start hidle) ?_ ?_ (.inr ⟨.start, rfl, ?_⟩) <;>
    simp only [beginStart] <;> split_ifs
  all_goals first | rfl | exact h.wired

theorem Kept.stop (h : Kept pins receiver) : Kept pins receiver.beginStop := by
  refine h.leaves ?_ h.sound.stop .stop ?_ ?_ (.inr ⟨.stop, rfl, ?_⟩) <;>
    simp only [beginStop] <;> split_ifs
  all_goals first | rfl | exact h.wired

theorem Kept.task (h : Kept pins receiver) {index : Nat} {arrived : Arrived}
    (hstep : receiver.taskStep index arrived = some next) : Kept pins next := by
  have hsound := h.sound.task hstep
  obtain ⟨ring, tasks, taskExited, hlength, rfl⟩ := taskStep_frame hstep
  refine ⟨h.wired, hsound, ?_, h.guarded, h.balanced, h.agrees⟩
  have hnonempty : receiver.tasks ≠ [] → tasks ≠ [] := by
    rintro hsome rfl
    exact hsome (List.length_eq_zero_iff.mp hlength.symm)
  have houtline := h.outline
  unfold Outline at houtline ⊢
  cases hcontrol : receiver.control with
  | idle last =>
    simp only [hcontrol] at houtline ⊢
    refine ⟨?_, houtline.2⟩
    intro hrunning
    obtain ⟨hinstalled, htold, hhandle, hsome⟩ := houtline.1 hrunning
    exact ⟨hinstalled, htold, hhandle, hnonempty hsome⟩
  | publish =>
    simp only [hcontrol] at houtline ⊢
    obtain ⟨hinstalled, htold, hhandle, hsome⟩ := houtline
    exact ⟨hinstalled, htold, hhandle, hnonempty hsome⟩
  | _ =>
    simp only [hcontrol] at houtline ⊢
    exact houtline

theorem Kept.step (h : Kept pins receiver) {action : LifecycleAction}
    (hassumed : InstallsOnce receiver action ∧ UninstallsIdle receiver action)
    (hstep : step receiver action = some next) : Kept pins next := by
  cases action with
  | start =>
    obtain ⟨hidle, rfl⟩ := by simpa [ListenOnlyReceiver.step] using hstep
    exact h.start hidle
  | stop =>
    obtain ⟨-, rfl⟩ := by simpa [ListenOnlyReceiver.step] using hstep
    exact h.stop
  | control answer => exact h.control hassumed.1 hassumed.2 hstep
  | task index arrived => exact h.task hstep

/-- The driver is not uninstalled while a task that was created has not signalled its exit. -/
def UninstallsBehindTasks (receiver : ListenOnlyReceiver) (action : LifecycleAction) : Prop :=
  ∀ next done, step receiver action = some next →
    next.calls = receiver.calls ++ [.driverUninstall done] → receiver.AllSignalled

theorem Kept.uninstallsBehindTasks (h : Kept pins receiver) (action : LifecycleAction) :
    UninstallsBehindTasks receiver action := by
  intro next done hstep hcalls
  cases action with
  | start =>
    obtain ⟨-, rfl⟩ := by simpa [ListenOnlyReceiver.step] using hstep
    simp only [beginStart] at hcalls
    split_ifs at hcalls <;> simp [goto, refuse, log] at hcalls
  | stop =>
    obtain ⟨-, rfl⟩ := by simpa [ListenOnlyReceiver.step] using hstep
    simp only [beginStop] at hcalls
    split_ifs at hcalls <;> simp [goto, log] at hcalls
  | task index arrived =>
    obtain ⟨_, _, _, -, rfl⟩ := taskStep_frame hstep
    simp at hcalls
  | control answer =>
    rcases controlStep_calls hstep with ⟨-, -, hsame | ⟨call, hleaves, hlogged⟩⟩ |
      ⟨-, hlogged, -⟩ | ⟨hcontrol, -⟩
    · simp [hsame] at hcalls
    · obtain rfl : call = .driverUninstall done := by simpa [hlogged] using hcalls
      simp [leavesDriver] at hleaves
    · simp [hlogged] at hcalls
    · exact h.sound.atUninstall hcontrol

/-- What can be relied on between the calls of `start` and `stop`. -/
structure Lifecycle (pins : TwaiSafetyPinConfig) (receiver : ListenOnlyReceiver) : Prop where
  guarded : Guarded pins receiver.calls
  balanced : receiver.isIdle = true → receiver.calls.count (.driverInstall true) =
    receiver.calls.count (.driverUninstall true) + receiver.driverInstalled.toNat
  running : receiver.isIdle = true → receiver.state = .runningListenOnly → receiver.Receiving
  refused : ∀ status, receiver.control = .idle (some status) → status ≠ .started →
    status ≠ .alreadyRunning → receiver.driverInstalled = true → receiver.installedAtStart = true

theorem Kept.lifecycle (h : Kept pins receiver) : Lifecycle pins receiver where
  guarded := h.guarded
  balanced _ := by rw [h.balanced, h.agrees]
  running hidle hrunning := by
    obtain ⟨last, hcontrol⟩ := isIdle_iff.mp hidle
    have houtline := h.outline
    simp only [Outline, hcontrol] at houtline
    exact houtline.1 hrunning
  refused status hcontrol hstarted halready hinstalled := by
    have houtline := h.outline
    simp only [Outline, hcontrol] at houtline
    exact houtline.2 status rfl hstarted halready hinstalled

/-- Over any sequence of calls and any order of the steps. -/
theorem lifecycle_of_run (config : TwaiListenOnlyConfig) (pins : TwaiSafetyPinConfig)
    (ring : RingReceiver) (actions : List LifecycleAction)
    (hassumed : Interleaving.Along step
      (fun receiver action => InstallsOnce receiver action ∧ UninstallsIdle receiver action)
      (new config pins ring) actions) :
    (∀ final, Interleaving.run step (new config pins ring) actions = some final →
      Lifecycle pins final) ∧
    Interleaving.Along step UninstallsBehindTasks (new config pins ring) actions := by
  have hkept := kept_new config pins ring
  constructor
  · intro final hrun
    exact (Interleaving.run_keeps (fun h => h.step) hkept hassumed hrun).lifecycle
  · exact Interleaving.along_of_keeps (fun h => h.step) (fun h _ => h.uninstallsBehindTasks _)
      hkept hassumed

def oneSession : List LifecycleAction :=
  startUpToTask ++ [.control {}, .control {}, .task 0 {},
    .task 0 { received := some (10, ⟨0x23A, false, false, false, 1, Vector.replicate 8 7⟩) },
    .task 0 {}, .stop, .control {}, .control {}, .control {}, .task 0 {}, .task 0 {}, .task 0 {},
    .control {}, .control {}, .control {}]

theorem lifecycle_of_run_session :
    (∀ final, Interleaving.run step (new benchConfig benchPins emptyRing) oneSession =
      some final → Lifecycle benchPins final) ∧
    Interleaving.Along step UninstallsBehindTasks (new benchConfig benchPins emptyRing)
      oneSession :=
  lifecycle_of_run benchConfig benchPins emptyRing oneSession (by decide)

end ListenOnlyReceiver

end BmwRemote.Infrastructure
