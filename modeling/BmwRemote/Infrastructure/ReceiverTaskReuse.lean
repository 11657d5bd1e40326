import BmwRemote.Infrastructure.ReceiverThreads

/-! The static stack and control block of the receive task: who still uses them when the
next task is created on them. -/
namespace BmwRemote.Infrastructure

open BmwRemote.Lib

namespace ListenOnlyReceiver

/-- Stack, control block, queue and counters are taken when no earlier task uses them. -/
def ReusesNothing (receiver : ListenOnlyReceiver) : LifecycleAction → Prop
  | .control _ =>
      (receiver.control = .createTask → ∀ task ∈ receiver.tasks, task = .deleted) ∧
      (receiver.control = .clearQueue ∨ receiver.control = .resetStatistics →
        ∀ task ∈ receiver.tasks, task.canPush = false)
  | _ => True

/-- No task is created while another is between its store of `taskExited_` and the end of
its `vTaskDelete`. -/
def DeletedBeforeCreation (receiver : ListenOnlyReceiver) : LifecycleAction → Prop
  | .control _ => receiver.control = .createTask → .deleting ∉ receiver.tasks
  | _ => True

instance (receiver : ListenOnlyReceiver) :
    (action : LifecycleAction) → Decidable (ReusesNothing receiver action)
  | .control _ => inferInstanceAs <| Decidable (_ ∧ _)
  | .start | .stop | .task .. => isTrue trivial

variable {receiver : ListenOnlyReceiver} {action : LifecycleAction}

theorem Sound.reusesNothing_iff (hsound : Sound receiver) :
    ReusesNothing receiver action ↔ DeletedBeforeCreation receiver action := by
  cases action with
  | start | stop | task => exact Iff.rfl
  | control answer =>
    constructor
    · intro hreuses hcreates hdeleting
      have := hreuses.1 hcreates _ hdeleting
      contradiction
    · intro hdeleted
      constructor
      · intro hcreates task htask
        have hsignalled :=
          (hsound.holding (by simp [hcreates, Control.holdsDriver])).1 task htask
        cases task with
        | deleted => rfl
        | deleting => exact absurd htask (hdeleted hcreates)
        | _ => simp [TaskStep.signalled] at hsignalled
      · intro hclears task htask
        have hheld : receiver.control.holdsDriver = true := by
          rcases hclears with hclears | hclears <;> simp [hclears, Control.holdsDriver]
        exact TaskStep.canPush_of_signalled ((hsound.holding hheld).1 task htask)

/-- With a driver that is installed once, the task is reused exactly where a task that has
signalled its exit has not been deleted. -/
theorem reusesNothing_along_iff (config : TwaiListenOnlyConfig) (pins : TwaiSafetyPinConfig)
    (ring : RingReceiver) (actions : List LifecycleAction)
    (hinstall : Interleaving.Along step InstallsOnce (new config pins ring) actions) :
    Interleaving.Along step ReusesNothing (new config pins ring) actions ↔
      Interleaving.Along step DeletedBeforeCreation (new config pins ring) actions := by
  have hsound := sound_new config pins ring
  constructor
  · intro hreuses
    exact Interleaving.along_of_keeps (fun hsound hboth => hsound.step hboth.1)
      (fun hsound hboth => hsound.reusesNothing_iff.mp hboth.2) hsound
      (Interleaving.along_and.mpr ⟨hinstall, hreuses⟩)
  · intro hdeleted
    exact Interleaving.along_of_keeps (fun hsound hboth => hsound.step hboth.1)
      (fun hsound hboth => hsound.reusesNothing_iff.mpr hboth.2) hsound
      (Interleaving.along_and.mpr ⟨hinstall, hdeleted⟩)

/-- `stop` finds the flag of a task that has not been deleted yet. -/
def restartBeforeDeletion : List LifecycleAction :=
  startUpToTask ++ [.control {}, .control {}, .stop, .control {}, .control {},
    .task 0 {}, .task 0 {}, .control {}, .control {}, .control {}] ++
    startUpToTask ++ [.control {}]

theorem task_reused_before_deletion :
    Interleaving.Along step InstallsOnce (new benchConfig benchPins emptyRing)
        restartBeforeDeletion ∧
      ¬ Interleaving.Along step ReusesNothing (new benchConfig benchPins emptyRing)
        restartBeforeDeletion := by
  decide

theorem reusesNothing_along_iff_restart :
    Interleaving.Along step ReusesNothing (new benchConfig benchPins emptyRing)
        restartBeforeDeletion ↔
      Interleaving.Along step DeletedBeforeCreation (new benchConfig benchPins emptyRing)
        restartBeforeDeletion :=
  reusesNothing_along_iff benchConfig benchPins emptyRing restartBeforeDeletion (by decide)

end ListenOnlyReceiver

end BmwRemote.Infrastructure
