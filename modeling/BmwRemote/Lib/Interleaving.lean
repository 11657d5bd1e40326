import Mathlib.Logic.Basic

/-! Runs of several threads as one list of steps, in any order. A step that is not its
thread's turn is refused, and a run ends there. -/
namespace BmwRemote.Lib

universe u v

/-- What a step of some thread makes of a state, when it can be taken. -/
abbrev Interleaving (S : Type u) (A : Type v) := S → A → Option S

namespace Interleaving

variable {S : Type u} {A : Type v}

def run (step : Interleaving S A) : S → List A → Option S
  | state, [] => some state
  | state, action :: rest => (step state action).bind fun next => run step next rest

/-- What holds of every step that a run takes, with the state before it. -/
def Along (step : Interleaving S A) (holds : S → A → Prop) : S → List A → Prop
  | _, [] => True
  | state, action :: rest =>
      ∀ next, step state action = some next → holds state action ∧ Along step holds next rest

instance decidableAlong (step : Interleaving S A) (holds : S → A → Prop)
    [∀ state action, Decidable (holds state action)] :
    (state : S) → (actions : List A) → Decidable (Along step holds state actions)
  | _, [] => isTrue trivial
  | state, action :: rest =>
      match hstep : step state action with
      | none => isTrue fun _ hnext => by simp [hstep] at hnext
      | some next =>
          have := decidableAlong step holds next rest
          decidable_of_iff (holds state action ∧ Along step holds next rest) <| by
            simp [Along, hstep]

variable {step : Interleaving S A} {keeps : S → Prop} {assumed holds : S → A → Prop}

theorem along_and {state : S} {actions : List A} :
    Along step (fun state action => assumed state action ∧ holds state action) state actions ↔
      Along step assumed state actions ∧ Along step holds state actions := by
  induction actions generalizing state with
  | nil => simp [Along]
  | cons action rest ih =>
    simp only [Along, ih]
    constructor
    · intro hboth
      exact ⟨fun next hnext => ⟨(hboth next hnext).1.1, (hboth next hnext).2.1⟩,
        fun next hnext => ⟨(hboth next hnext).1.2, (hboth next hnext).2.2⟩⟩
    · rintro ⟨hassumed, hholds⟩ next hnext
      exact ⟨⟨(hassumed next hnext).1, (hholds next hnext).1⟩, (hassumed next hnext).2,
        (hholds next hnext).2⟩

/-- A state that is kept by the steps under an assumption is there at the end. -/
theorem run_keeps (hkeeps : ∀ {state next : S} {action : A}, keeps state →
      assumed state action → step state action = some next → keeps next)
    {state final : S} {actions : List A} (hstart : keeps state)
    (hassumed : Along step assumed state actions) (hrun : run step state actions = some final) :
    keeps final := by
  induction actions generalizing state with
  | nil =>
    obtain rfl := Option.some.inj hrun
    exact hstart
  | cons action rest ih =>
    obtain ⟨next, hnext, hrest⟩ := Option.bind_eq_some_iff.mp hrun
    obtain ⟨hhere, hlater⟩ := hassumed next hnext
    exact ih (hkeeps hstart hhere hnext) hlater hrest

theorem along_of_keeps (hkeeps : ∀ {state next : S} {action : A}, keeps state →
      assumed state action → step state action = some next → keeps next)
    (hholds : ∀ {state : S} {action : A}, keeps state → assumed state action →
      holds state action)
    {state : S} {actions : List A} (hstart : keeps state)
    (hassumed : Along step assumed state actions) : Along step holds state actions := by
  induction actions generalizing state with
  | nil => trivial
  | cons action rest ih =>
    intro next hnext
    obtain ⟨hhere, hlater⟩ := hassumed next hnext
    exact ⟨hholds hstart hhere, ih (hkeeps hstart hhere hnext) hlater⟩

end Interleaving

end BmwRemote.Lib
