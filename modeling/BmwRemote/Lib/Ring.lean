import Mathlib.Algebra.GroupWithZero.Nat
import Mathlib.Data.Fin.Basic
import Mathlib.Data.List.Basic
import Mathlib.Logic.Function.Basic

/-! Rings: a storage of fixed capacity whose positions go round. What a ring holds is the
window of the storage from its oldest position on. -/
namespace BmwRemote.Lib

universe u

theorem mod_ne_of_lt_lap {capacity earlier later : Nat} (hlt : earlier < later)
    (hlap : later < earlier + capacity) : earlier % capacity ≠ later % capacity := by
  intro hsame
  have hmultiple := Nat.sub_mod_eq_zero_of_mod_eq hsame.symm
  rw [Nat.mod_eq_of_lt (by omega)] at hmultiple
  omega

namespace Ring

variable {A : Type u} {capacity : Nat} [NeZero capacity]

def slot (capacity : Nat) [NeZero capacity] (position : Nat) : Fin capacity :=
  Fin.ofNat capacity position

/-- The elements at `count` positions from `start` on. -/
def window (storage : Fin capacity → A) (start count : Nat) : List A :=
  (List.range count).map fun offset => storage (slot capacity (start + offset))

theorem slot_eq_iff (first second : Nat) :
    slot capacity first = slot capacity second ↔ first % capacity = second % capacity :=
  Fin.ext_iff

@[simp] theorem slot_mod (position : Nat) :
    slot capacity (position % capacity) = slot capacity position := by
  rw [slot_eq_iff, Nat.mod_mod]

@[simp] theorem slot_add_capacity (position : Nat) :
    slot capacity (position + capacity) = slot capacity position := by
  rw [slot_eq_iff, Nat.add_mod_right]

variable (storage : Fin capacity → A)

@[simp] theorem window_zero (start : Nat) : window storage start 0 = [] := rfl

@[simp] theorem length_window (start count : Nat) : (window storage start count).length = count := by
  rw [window, List.length_map, List.length_range]

theorem window_cons (start count : Nat) :
    window storage start (count + 1) =
      storage (slot capacity start) :: window storage (start + 1) count := by
  unfold window
  rw [List.range_succ_eq_map, List.map_cons, List.map_map, Nat.add_zero]
  congr 2
  funext offset
  simp only [Function.comp_apply, Nat.succ_eq_add_one, Nat.add_assoc, Nat.add_comm 1]

theorem window_concat (start count : Nat) :
    window storage start (count + 1) =
      window storage start count ++ [storage (slot capacity (start + count))] := by
  unfold window
  rw [List.range_succ, List.map_append, List.map_singleton]

theorem getElem?_window (start : Nat) {count index : Nat} (h : index < count) :
    (window storage start count)[index]? = some (storage (slot capacity (start + index))) := by
  unfold window
  rw [List.getElem?_map, List.getElem?_range h, Option.map_some]

theorem window_congr {first second : Nat} (h : slot capacity first = slot capacity second)
    (count : Nat) : window storage first count = window storage second count := by
  unfold window
  congr 1
  funext offset
  rw [slot_eq_iff] at h
  have hoffset : slot capacity (first + offset) = slot capacity (second + offset) := by
    rw [slot_eq_iff, Nat.add_mod, h, ← Nat.add_mod]
  rw [hoffset]

theorem window_update_outside {start count position : Nat} (value : A)
    (h : ∀ offset, offset < count → slot capacity (start + offset) ≠ slot capacity position) :
    window (Function.update storage (slot capacity position) value) start count =
      window storage start count := by
  unfold window
  apply List.map_congr_left
  intro offset hoffset
  exact Function.update_of_ne (h offset (List.mem_range.1 hoffset)) value storage

theorem window_update_behind (start : Nat) {count : Nat} (value : A) (h : count < capacity) :
    window (Function.update storage (slot capacity (start + count)) value) start (count + 1) =
      window storage start count ++ [value] := by
  rw [window_concat, Function.update_self, window_update_outside]
  intro offset hoffset
  rw [ne_eq, slot_eq_iff]
  exact mod_ne_of_lt_lap (by omega) (by omega)

/-- A value written over the oldest element of a full ring takes its place at the end. -/
theorem window_overwrite (start : Nat) (value : A) :
    window (Function.update storage (slot capacity start) value) (start + 1) capacity =
      (window storage start capacity).tail ++ [value] := by
  obtain ⟨count, hcount⟩ := Nat.exists_eq_succ_of_ne_zero (NeZero.ne capacity)
  have hslot : slot capacity start = slot capacity (start + 1 + count) := by
    rw [Nat.add_assoc, Nat.add_comm 1 count, ← Nat.succ_eq_add_one, ← hcount, slot_add_capacity]
  calc window (Function.update storage (slot capacity start) value) (start + 1) capacity
    _ = window (Function.update storage (slot capacity (start + 1 + count)) value) (start + 1)
        (count + 1) := by
      rw [hslot]
      exact congrArg (window _ (start + 1)) hcount
    _ = window storage (start + 1) count ++ [value] :=
      window_update_behind storage (start + 1) value (by omega)
    _ = (window storage start (count + 1)).tail ++ [value] := by
      rw [window_cons, List.tail_cons]
    _ = (window storage start capacity).tail ++ [value] :=
      congrArg (fun length => (window storage start length).tail ++ [value]) hcount.symm

end Ring

end BmwRemote.Lib
