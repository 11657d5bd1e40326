import Mathlib.Data.List.Basic

/-! Lists that begin with a first item and go on in an order, and what may be appended to
them by who compares with the last item alone. -/
namespace BmwRemote.Lib

variable {α : Type} {first : α → Prop} {next : α → α → Prop} {items others : List α} {item : α}

structure Sequence (first : α → Prop) (next : α → α → Prop) (items : List α) : Prop where
  start : ∀ item ∈ items.head?, first item
  ordered : items.Pairwise next

structure Succeeds (first : α → Prop) (next : α → α → Prop) (items : List α) (item : α) :
    Prop where
  start : items = [] → first item
  ordered : ∀ last ∈ items.getLast?, next last item

theorem sequence_nil : Sequence first next [] := ⟨by simp, .nil⟩

theorem Sequence.succeeds (h : Sequence first next (items ++ item :: others)) :
    Succeeds first next items item := by
  constructor
  · rintro rfl
    exact h.start item rfl
  · intro last hlast
    exact (List.pairwise_append.1 h.ordered).2.2 last (List.mem_of_getLast? hlast) item
      List.mem_cons_self

theorem Sequence.concat (h : Sequence first next items)
    (hsucceeds : Succeeds first next items item)
    (htrans : ∀ {earlier between later},
      next earlier between → next between later → next earlier later) :
    Sequence first next (items ++ [item]) := by
  cases hlast : items.getLast? with
  | none =>
    rw [List.getLast?_eq_none_iff] at hlast
    subst hlast
    exact ⟨by simpa using hsucceeds.start rfl, List.pairwise_singleton ..⟩
  | some last =>
    have hnext := hsucceeds.ordered last hlast
    obtain ⟨earlier, rfl⟩ := List.getLast?_eq_some_iff.1 hlast
    constructor
    · have hstart := h.start
      cases earlier with
      | nil => exact hstart
      | cons first others => exact hstart
    · rw [List.pairwise_append]
      refine ⟨h.ordered, List.pairwise_singleton .., fun previous hmem other hother => ?_⟩
      rw [List.mem_singleton] at hother
      subst hother
      rw [List.mem_append, List.mem_singleton] at hmem
      rcases hmem with hmem | rfl
      · exact htrans ((List.pairwise_append.1 h.ordered).2.2 previous hmem last
          (List.mem_singleton_self last)) hnext
      · exact hnext

end BmwRemote.Lib
