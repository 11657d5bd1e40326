import Mathlib.Data.List.Nodup
import Mathlib.Logic.Function.Basic

/-! Values that are assigned to keys one after the other. Where no key comes twice, the order
does not matter. -/
namespace BmwRemote.Lib

variable {K V : Type} [DecidableEq K] {values : K → V} {first second : List (K × V)} {key : K}

def assign (values : K → V) (assignments : List (K × V)) : K → V :=
  assignments.foldl
    (fun values assignment => Function.update values assignment.1 assignment.2) values

theorem assign_concat (values : K → V) (assignments : List (K × V)) (key : K) (value : V) :
    assign values (assignments ++ [(key, value)]) =
      Function.update (assign values assignments) key value := by
  unfold assign
  rw [List.foldl_append, List.foldl_cons, List.foldl_nil]

theorem assign_of_not_mem (h : key ∉ first.map Prod.fst) : assign values first key = values key := by
  induction first generalizing values with
  | nil => rfl
  | cons assignment rest ih =>
    rw [List.map_cons, List.mem_cons, not_or] at h
    exact (ih h.2).trans (Function.update_of_ne h.1 _ _)

theorem assign_of_mem {value : V} (hkeys : (first.map Prod.fst).Nodup)
    (h : (key, value) ∈ first) : assign values first key = value := by
  induction first generalizing values with
  | nil => cases h
  | cons assignment rest ih =>
    rw [List.map_cons, List.nodup_cons] at hkeys
    rw [List.mem_cons] at h
    rcases h with rfl | hrest
    · exact (assign_of_not_mem hkeys.1).trans (Function.update_self ..)
    · exact ih hkeys.2 hrest

theorem assign_perm (h : first.Perm second) (hkeys : (first.map Prod.fst).Nodup)
    (values : K → V) : assign values first = assign values second := by
  refine h.foldl_eq' (fun assignment hmem other hother values => ?_) values
  by_cases heq : assignment = other
  · rw [heq]
  · refine (Function.update_comm ?_ _ _ _).symm
    exact fun hkey => heq (List.inj_on_of_nodup_map hkeys hmem hother hkey.symm)

end BmwRemote.Lib
