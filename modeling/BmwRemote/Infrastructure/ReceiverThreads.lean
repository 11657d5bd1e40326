import BmwRemote.Infrastructure.ReceiverLifecycle

/-! The receive tasks against the control thread: a task that has not signalled its exit
keeps its driver, so that no second task comes before it has. -/
namespace BmwRemote.Infrastructure

namespace TaskStep

/-- A task that has stored `taskExited_`. -/
def signalled : TaskStep → Bool
  | .deleting | .deleted => true
  | _ => false

def canPush : TaskStep → Bool
  | .checking | .receiving | .enqueueing .. | .updating => true
  | _ => false

theorem canPush_of_signalled {task : TaskStep} (h : task.signalled = true) :
    task.canPush = false := by
  cases task <;> simp_all [signalled, canPush]

end TaskStep

namespace Control

def holdsDriver : Control → Bool
  | .twaiStart | .uninstallUnstarted | .clearQueue | .resetStatistics | .clearExited
  | .setRunning | .createTask | .clearRunning | .setExited | .stopUncreated
  | .uninstallUncreated => true
  | _ => false

/-- Between the store of `taskExited_` and the creation of a task. -/
def awaitsTask : Control → Bool
  | .setRunning | .createTask => true
  | _ => false

def uninstalls : Control → Bool
  | .uninstallUnstarted | .uninstallUncreated | .driverUninstall => true
  | _ => false

end Control

namespace ListenOnlyReceiver

def AllSignalled (receiver : ListenOnlyReceiver) : Prop :=
  ∀ task ∈ receiver.tasks, task.signalled = true

/-- What is assumed of `twai_driver_install`: it fails while a driver is installed. -/
def InstallsOnce (receiver : ListenOnlyReceiver) : LifecycleAction → Prop
  | .control answer =>
      receiver.control = .driverInstall → answer.done = true → receiver.driver = false
  | _ => True

instance (receiver : ListenOnlyReceiver) : Decidable receiver.AllSignalled :=
  inferInstanceAs (Decidable (∀ task ∈ receiver.tasks, task.signalled = true))

instance (receiver : ListenOnlyReceiver) :
    (action : LifecycleAction) → Decidable (InstallsOnce receiver action)
  | .control _ => inferInstanceAs <| Decidable (_ → _ → _)
  | .start | .stop | .task .. => isTrue trivial

/-- What the control thread can know about the tasks. -/
structure Sound (receiver : ListenOnlyReceiver) : Prop where
  exited : receiver.taskExited = true → receiver.AllSignalled
  latest : ∀ {index : Nat} {task : TaskStep}, receiver.tasks[index]? = some task →
    task.signalled = false → index + 1 = receiver.tasks.length
  driver : receiver.driver = false → receiver.AllSignalled
  holding : receiver.control.holdsDriver = true → receiver.AllSignalled ∧ receiver.driver = true
  awaiting : receiver.control.awaitsTask = true → receiver.taskExited = false
  uninstalling : receiver.control = .driverUninstall → receiver.AllSignalled

structure SameThreads (receiver next : ListenOnlyReceiver) : Prop where
  tasks : next.tasks = receiver.tasks
  taskExited : next.taskExited = receiver.taskExited
  driver : next.driver = receiver.driver

variable {receiver next : ListenOnlyReceiver} {answer : Answer}

theorem controlStep_cases (h : receiver.controlStep answer = some next) :
    (SameThreads receiver next ∧ (next.control.holdsDriver = true →
      receiver.control.holdsDriver = true) ∧ (next.control.awaitsTask = true →
      receiver.control.awaitsTask = true) ∧ next.control ≠ .driverUninstall) ∨
    (receiver.control = .driverInstall ∧ answer.done = true ∧ next.tasks = receiver.tasks ∧
      next.taskExited = receiver.taskExited ∧ next.driver = true ∧ next.control = .twaiStart) ∨
    (receiver.control.uninstalls = true ∧ next.tasks = receiver.tasks ∧
      next.taskExited = receiver.taskExited ∧ ∃ last, next.control = .idle last) ∨
    (receiver.control = .clearExited ∧ next.tasks = receiver.tasks ∧
      next.taskExited = false ∧ next.driver = receiver.driver ∧ next.control = .setRunning) ∨
    (receiver.control = .createTask ∧ next.tasks = receiver.tasks ++ [.checking] ∧
      next.taskExited = receiver.taskExited ∧ next.driver = receiver.driver ∧
      next.control = .publish) ∨
    (receiver.control = .setExited ∧ next.tasks = receiver.tasks ∧ next.taskExited = true ∧
      next.driver = receiver.driver ∧ next.control = .stopUncreated) ∨
    (receiver.control = .checkExit ∧ receiver.taskExited = true ∧
      next = receiver.goto .driverUninstall) := by
  unfold controlStep at h
  cases hcontrol : receiver.control with
  | idle => simp [hcontrol] at h
  | driverInstall =>
    simp only [hcontrol] at h
    split at h <;> obtain rfl := Option.some.inj h
    · exact .inl ⟨⟨rfl, rfl, rfl⟩, by simp [refuse, Control.holdsDriver],
        by simp [refuse, Control.awaitsTask], by simp [refuse]⟩
    · exact .inr (.inl ⟨rfl, by simp_all, rfl, rfl, rfl, rfl⟩)
  | uninstallUnstarted | uninstallUncreated | driverUninstall =>
    simp only [hcontrol] at h
    obtain rfl := Option.some.inj h
    exact .inr (.inr (.inl ⟨rfl, rfl, rfl, _, rfl⟩))
  | clearExited =>
    simp only [hcontrol] at h
    obtain rfl := Option.some.inj h
    exact .inr (.inr (.inr (.inl ⟨rfl, rfl, rfl, rfl, rfl⟩)))
  | createTask =>
    simp only [hcontrol] at h
    split at h <;> obtain rfl := Option.some.inj h
    · exact .inr (.inr (.inr (.inr (.inl ⟨rfl, rfl, rfl, rfl, rfl⟩))))
    · exact .inl ⟨⟨rfl, rfl, rfl⟩, fun _ => rfl, fun _ => rfl, by simp⟩
  | setExited =>
    simp only [hcontrol] at h
    obtain rfl := Option.some.inj h
    exact .inr (.inr (.inr (.inr (.inr (.inl ⟨rfl, rfl, rfl, rfl, rfl⟩)))))
  | checkExit =>
    simp only [hcontrol] at h
    split at h <;> obtain rfl := Option.some.inj h
    · exact .inl ⟨⟨rfl, rfl, rfl⟩, by simp [Control.holdsDriver], by simp [Control.awaitsTask],
        by simp⟩
    · exact .inr (.inr (.inr (.inr (.inr (.inr ⟨rfl, by simp_all, rfl⟩)))))
  | _ =>
    -- the others only move on
    refine .inl ?_
    simp only [hcontrol] at h
    (repeat' split at h) <;> obtain rfl := Option.some.inj h <;>
      refine ⟨⟨rfl, rfl, rfl⟩, ?_, ?_, ?_⟩ <;>
      simp [goto, refuse, log, Control.holdsDriver, Control.awaitsTask]

theorem AllSignalled.of_tasks (hall : receiver.AllSignalled)
    (htasks : next.tasks = receiver.tasks) : next.AllSignalled := by
  unfold AllSignalled
  rw [htasks]
  exact hall

theorem Sound.latest_of_tasks (hsound : Sound receiver) (htasks : next.tasks = receiver.tasks)
    {index : Nat} {task : TaskStep} (htask : next.tasks[index]? = some task)
    (hsignalled : task.signalled = false) : index + 1 = next.tasks.length := by
  rw [htasks] at htask ⊢
  exact hsound.latest htask hsignalled

/-- A step that the tasks do not notice and that does not go forward to a place where more
of them is known. -/
theorem Sound.same (hsound : Sound receiver) (h : SameThreads receiver next)
    (hholding : next.control.holdsDriver = true → receiver.control.holdsDriver = true)
    (hawaiting : next.control.awaitsTask = true → receiver.control.awaitsTask = true)
    (huninstalling : next.control ≠ .driverUninstall) : Sound next where
  exited hexited := (hsound.exited (h.taskExited ▸ hexited)).of_tasks h.tasks
  latest := hsound.latest_of_tasks h.tasks
  driver hdriver := (hsound.driver (h.driver ▸ hdriver)).of_tasks h.tasks
  holding hheld := by
    obtain ⟨hall, hdriver⟩ := hsound.holding (hholding hheld)
    exact ⟨hall.of_tasks h.tasks, h.driver.trans hdriver⟩
  awaiting hawaits := h.taskExited.trans (hsound.awaiting (hawaiting hawaits))
  uninstalling hcontrol := absurd hcontrol huninstalling

theorem Sound.atUninstall (hsound : Sound receiver) (h : receiver.control.uninstalls = true) :
    receiver.AllSignalled := by
  cases hcontrol : receiver.control with
  | driverUninstall => exact hsound.uninstalling hcontrol
  | uninstallUnstarted | uninstallUncreated =>
    exact (hsound.holding (by simp [hcontrol, Control.holdsDriver])).1
  | _ => simp [hcontrol, Control.uninstalls] at h

theorem sound_new (config : TwaiListenOnlyConfig) (pins : TwaiSafetyPinConfig)
    (ring : RingReceiver) : Sound (new config pins ring) := by
  constructor <;> simp [new, AllSignalled, Control.holdsDriver, Control.awaitsTask]

theorem Sound.start (hsound : Sound receiver) : Sound receiver.beginStart := by
  simp only [beginStart]
  split_ifs <;>
    exact hsound.same ⟨rfl, rfl, rfl⟩ (by simp [goto, refuse, Control.holdsDriver])
      (by simp [goto, refuse, Control.awaitsTask]) (by simp [goto, refuse])

theorem Sound.stop (hsound : Sound receiver) : Sound receiver.beginStop := by
  simp only [beginStop]
  split_ifs <;>
    exact hsound.same ⟨rfl, rfl, rfl⟩ (by simp [goto, Control.holdsDriver])
      (by simp [goto, Control.awaitsTask]) (by simp [goto])

theorem Sound.control (hsound : Sound receiver)
    (hinstall : InstallsOnce receiver (.control answer))
    (h : receiver.controlStep answer = some next) : Sound next := by
  rcases controlStep_cases h with ⟨hsame, hholding, hawaiting, hcontrol⟩ |
    ⟨hcontrol, hdone, htasks, hexited, hdriver, hnext⟩ | ⟨hcontrol, htasks, hexited, last, hnext⟩ |
    ⟨hcontrol, htasks, hexited, hdriver, hnext⟩ | ⟨hcontrol, htasks, hexited, hdriver, hnext⟩ |
    ⟨hcontrol, htasks, hexited, hdriver, hnext⟩ | ⟨hcontrol, hexited, rfl⟩
  · exact hsound.same hsame hholding hawaiting hcontrol
  · -- no driver was installed, so that no task can be left
    have hall := (hsound.driver (hinstall hcontrol hdone)).of_tasks htasks
    exact ⟨fun _ => hall, hsound.latest_of_tasks htasks, fun _ => hall,
      fun _ => ⟨hall, hdriver⟩, by simp [hnext, Control.awaitsTask], by simp [hnext]⟩
  · have hall := (hsound.atUninstall hcontrol).of_tasks htasks
    exact ⟨fun _ => hall, hsound.latest_of_tasks htasks, fun _ => hall,
      by simp [hnext, Control.holdsDriver], by simp [hnext, Control.awaitsTask], by simp [hnext]⟩
  · have hheld := hsound.holding (by simp [hcontrol, Control.holdsDriver])
    have hall := hheld.1.of_tasks htasks
    exact ⟨fun _ => hall, hsound.latest_of_tasks htasks, fun _ => hall,
      fun _ => ⟨hall, hdriver.trans hheld.2⟩, fun _ => hexited, by simp [hnext]⟩
  · obtain ⟨hall, hheld⟩ := hsound.holding (by simp [hcontrol, Control.holdsDriver])
    have hrunning := hsound.awaiting (by simp [hcontrol, Control.awaitsTask])
    refine ⟨by simp [hexited, hrunning], ?_, by simp [hdriver, hheld], ?_, ?_, ?_⟩
    · intro index task htask hsignalled
      rw [htasks] at htask ⊢
      by_cases hlast : index < receiver.tasks.length
      · rw [List.getElem?_append_left hlast] at htask
        have := hall task (List.mem_of_getElem? htask)
        simp_all
      · have := (List.getElem?_eq_some_iff.mp htask).1
        simp at this ⊢
        omega
    · simp [hnext, Control.holdsDriver]
    · simp [hnext, Control.awaitsTask]
    · simp [hnext]
  · have hheld := hsound.holding (by simp [hcontrol, Control.holdsDriver])
    have hall := hheld.1.of_tasks htasks
    exact ⟨fun _ => hall, hsound.latest_of_tasks htasks, fun _ => hall,
      fun _ => ⟨hall, hdriver.trans hheld.2⟩, by simp [hnext, Control.awaitsTask],
      by simp [hnext]⟩
  · -- the flag that the control thread has read
    exact ⟨hsound.exited, hsound.latest, hsound.driver, by simp [goto, Control.holdsDriver],
      by simp [goto, Control.awaitsTask], fun _ => hsound.exited hexited⟩

theorem taskStep_cases {index : Nat} {arrived : Arrived}
    (h : receiver.taskStep index arrived = some next) :
    ∃ task after, receiver.tasks[index]? = some task ∧
      next.tasks = receiver.tasks.set index after ∧
      next.driver = receiver.driver ∧ next.control = receiver.control ∧
      (after.signalled = task.signalled ∧ next.taskExited = receiver.taskExited ∨
        task.signalled = false ∧ after.signalled = true ∧ next.taskExited = true) := by
  unfold taskStep at h
  cases htask : receiver.tasks[index]? with
  | none => simp [htask] at h
  | some task =>
    cases task with
    | deleted => simp [htask] at h
    | exiting =>
      simp only [htask] at h
      obtain rfl := Option.some.inj h
      exact ⟨_, _, rfl, rfl, rfl, rfl, .inr ⟨rfl, rfl, rfl⟩⟩
    | _ =>
      simp only [htask] at h
      (repeat' split at h) <;> obtain rfl := Option.some.inj h <;>
        exact ⟨_, _, rfl, rfl, rfl, rfl, .inl ⟨by simp [TaskStep.signalled], rfl⟩⟩

theorem Sound.allSignalled_of_exit (hsound : Sound receiver) {index : Nat} {task after : TaskStep}
    (htask : receiver.tasks[index]? = some task) (hsignalled : task.signalled = false)
    (hnext : next.tasks = receiver.tasks.set index after) (hafter : after.signalled = true) :
    next.AllSignalled := by
  intro other hother
  obtain ⟨place, hplace⟩ := List.mem_iff_getElem?.mp (hnext ▸ hother)
  rw [List.getElem?_set] at hplace
  split_ifs at hplace with hsame hlength
  · obtain rfl := Option.some.inj hplace
    exact hafter
  · by_contra hsignals
    have := hsound.latest hplace (by simpa using hsignals)
    have := hsound.latest htask hsignalled
    omega

theorem Sound.task (hsound : Sound receiver) {index : Nat} {arrived : Arrived}
    (h : receiver.taskStep index arrived = some next) : Sound next := by
  obtain ⟨task, after, htask, htasks, hdriver, hcontrol, hmove⟩ := taskStep_cases h
  have hkeeps (hall : receiver.AllSignalled) : next.AllSignalled := by
    intro other hother
    rw [htasks] at hother
    rcases List.mem_or_eq_of_mem_set hother with hmem | rfl
    · exact hall other hmem
    · rcases hmove with ⟨hsame, -⟩ | ⟨-, hafter, -⟩
      · exact hsame.trans (hall task (List.mem_of_getElem? htask))
      · exact hafter
  have hexits (hexited : next.taskExited = true) : next.AllSignalled := by
    rcases hmove with ⟨-, hsame⟩ | ⟨hsignalled, hafter, -⟩
    · exact hkeeps (hsound.exited (hsame ▸ hexited))
    · exact hsound.allSignalled_of_exit htask hsignalled htasks hafter
  refine ⟨hexits, ?_, fun hnone => hkeeps (hsound.driver (hdriver ▸ hnone)), ?_, ?_, ?_⟩
  · intro place other hother hsignalled
    rw [htasks, List.getElem?_set] at hother
    rw [htasks, List.length_set]
    split_ifs at hother with hplace hlength
    · obtain rfl := Option.some.inj hother
      rcases hmove with ⟨hsame, -⟩ | ⟨-, hafter, -⟩
      · exact hsound.latest (hplace ▸ htask) (hsame.symm.trans hsignalled)
      · simp [hsignalled] at hafter
    · exact hsound.latest hother hsignalled
  · intro hheld
    obtain ⟨hall, hinstalled⟩ := hsound.holding (hcontrol ▸ hheld)
    exact ⟨hkeeps hall, hdriver.trans hinstalled⟩
  · intro hawaits
    rw [hcontrol] at hawaits
    rcases hmove with ⟨-, hsame⟩ | ⟨hsignalled, -, -⟩
    · exact hsame.trans (hsound.awaiting hawaits)
    · have hheld : receiver.control.holdsDriver = true := by
        cases hcase : receiver.control <;> simp_all [Control.awaitsTask, Control.holdsDriver]
      have := (hsound.holding hheld).1 task (List.mem_of_getElem? htask)
      simp [hsignalled] at this
  · exact fun huninstalls => hkeeps (hsound.uninstalling (hcontrol ▸ huninstalls))

theorem Sound.step (hsound : Sound receiver) {action : LifecycleAction}
    (hinstall : InstallsOnce receiver action) (h : step receiver action = some next) :
    Sound next := by
  cases action with
  | start =>
    obtain ⟨-, rfl⟩ := by simpa [ListenOnlyReceiver.step] using h
    exact hsound.start
  | stop =>
    obtain ⟨-, rfl⟩ := by simpa [ListenOnlyReceiver.step] using h
    exact hsound.stop
  | control answer => exact hsound.control hinstall h
  | task index arrived => exact hsound.task h

end ListenOnlyReceiver

end BmwRemote.Infrastructure
