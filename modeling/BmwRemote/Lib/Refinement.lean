import BmwRemote.Lib.Transcript
import Mathlib.Data.List.Forall2

/-! One machine in place of another. Two machines that answer alike from related
states, and stay related, cannot be told apart by any run. -/
namespace BmwRemote.Lib

universe u v w x

variable {S : Type u} {T : Type v} {O : Type w} {I : Type x}

def Alike (related : S → T → Prop) (left : O × S) (right : O × T) : Prop :=
  left.1 = right.1 ∧ related left.2 right.2

namespace Alike

variable {related : S → T → Prop} {left : O × S} {right : O × T}

theorem same {state : S} {other : T} (answer : O) (h : related state other) :
    Alike related (answer, state) (answer, other) := ⟨rfl, h⟩

theorem eq_same (h : Alike related left right) :
    ∃ answer state other, left = (answer, state) ∧ right = (answer, other) ∧ related state other :=
  ⟨left.1, left.2, right.2, rfl, by rw [h.1], h.2⟩

end Alike

namespace Machine

/-- Related states answer every input alike. -/
def Simulates (related : S → T → Prop) (left : Machine S I O) (right : Machine T I O) : Prop :=
  ∀ state other, related state other → ∀ input, Alike related (left state input) (right other input)

structure SameCall (related : S → T → Prop) (call : Step S I O) (other : Step T I O) : Prop where
  before : related call.before other.before
  input : call.input = other.input
  output : call.output = other.output
  after : related call.after other.after

namespace Simulates

variable {related : S → T → Prop} {left : Machine S I O} {right : Machine T I O} {state : S}
  {other : T}

theorem sameCall (h : Simulates related left right) (hrelated : related state other) (input : I) :
    SameCall related (left.stepOf state input) (right.stepOf other input) where
  before := hrelated
  input := rfl
  output := (h state other hrelated input).1
  after := (h state other hrelated input).2

theorem final (h : Simulates related left right) (hrelated : related state other)
    (inputs : List I) : related (left.final state inputs) (right.final other inputs) := by
  induction inputs generalizing state other with
  | nil => exact hrelated
  | cons input rest ih => exact ih (h state other hrelated input).2

/-- Runs over the same inputs agree call by call. -/
theorem transcript (h : Simulates related left right) (hrelated : related state other)
    (inputs : List I) :
    List.Forall₂ (SameCall related) (left.transcript state inputs)
      (right.transcript other inputs) := by
  induction inputs generalizing state other with
  | nil => exact .nil
  | cons input rest ih =>
    exact .cons (h.sameCall hrelated input) (ih (h state other hrelated input).2)

theorem outputs (h : Simulates related left right) (hrelated : related state other)
    (inputs : List I) :
    (left.transcript state inputs).map (fun call => call.output) =
      (right.transcript other inputs).map fun call => call.output := by
  rw [← List.forall₂_eq_eq_eq, List.forall₂_map_left_iff, List.forall₂_map_right_iff]
  exact (h.transcript hrelated inputs).imp fun _ _ hcall => hcall.output

theorem exists_sameCall (h : Simulates related left right) (hrelated : related state other)
    {inputs : List I} {call : Step T I O} (hcall : call ∈ right.transcript other inputs) :
    ∃ same ∈ left.transcript state inputs, SameCall related same call := by
  induction inputs generalizing state other with
  | nil => cases hcall
  | cons input rest ih =>
    rw [Machine.transcript, List.mem_cons] at hcall
    rcases hcall with rfl | hrest
    · exact ⟨_, List.mem_cons_self, h.sameCall hrelated input⟩
    · obtain ⟨same, hsame, hlike⟩ := ih (h state other hrelated input).2 hrest
      exact ⟨same, List.mem_cons_of_mem _ hsame, hlike⟩

end Simulates

end Machine

end BmwRemote.Lib
