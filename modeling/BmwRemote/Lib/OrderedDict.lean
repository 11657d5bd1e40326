import Mathlib.Data.List.Induction
import Mathlib.Data.List.Nodup

/-! Dictionaries that keep their keys in the order in which these came, and the grouping of
items under their keys. -/
namespace BmwRemote.Lib

universe u v w

abbrev OrderedDict (K : Type u) (V : Type v) := List (K × V)

namespace OrderedDict

variable {K : Type u} {V : Type v} {A : Type w} [DecidableEq K]

def keys (dict : OrderedDict K V) : List K := dict.map Prod.fst

def upsert (key : K) (initial : V) (change : V → V) : OrderedDict K V → OrderedDict K V
  | [] => [(key, change initial)]
  | (found, value) :: rest =>
      if found = key then (found, change value) :: rest
      else (found, value) :: upsert key initial change rest

/-- Every item is added to the value under its key. -/
def group (keyOf : A → K) (initial : K → V) (add : A → V → V) (items : List A) :
    OrderedDict K V :=
  items.foldl (fun dict item => upsert (keyOf item) (initial (keyOf item)) (add item) dict) []

variable (key : K) (initial : V) (change : V → V) (dict : OrderedDict K V)

theorem lookup_upsert (other : K) :
    (upsert key initial change dict).lookup other =
      if other = key then some (change ((dict.lookup key).getD initial))
      else dict.lookup other := by
  induction dict with
  | nil => by_cases h : other = key <;> simp [upsert, h]
  | cons entry rest ih =>
    obtain ⟨found, value⟩ := entry
    by_cases hfound : found = key
    · subst hfound
      by_cases h : other = found
      · simp [upsert, h]
      · simp [upsert, List.lookup_cons, beq_false_of_ne h, h]
    · by_cases h : other = found
      · subst h
        simp [upsert, hfound]
      · have hother : (other == found) = false := beq_false_of_ne h
        have hkey : (key == found) = false := beq_false_of_ne (Ne.symm hfound)
        rw [upsert, if_neg hfound, List.lookup_cons, List.lookup_cons, List.lookup_cons, hother,
          hkey]
        exact ih

theorem keys_upsert :
    keys (upsert key initial change dict) =
      if key ∈ keys dict then keys dict else keys dict ++ [key] := by
  induction dict with
  | nil => simp [upsert, keys]
  | cons entry rest ih =>
    obtain ⟨found, value⟩ := entry
    by_cases hfound : found = key
    · simp [upsert, keys, hfound]
    · rw [upsert, if_neg hfound]
      change found :: keys (upsert key initial change rest) = if key ∈ found :: keys rest then
        found :: keys rest else found :: (keys rest ++ [key])
      rw [ih]
      have hkey : key ≠ found := Ne.symm hfound
      by_cases hmem : key ∈ keys rest <;> simp [hmem, hkey]

theorem nodup_upsert (h : (keys dict).Nodup) : (keys (upsert key initial change dict)).Nodup := by
  rw [keys_upsert]
  split
  · exact h
  · rename_i hnew
    rw [← List.concat_eq_append, List.nodup_concat]
    exact ⟨hnew, h⟩

variable {key} {dict}

theorem lookup_eq_some_of_mem (hnodup : (keys dict).Nodup) {value : V} (h : (key, value) ∈ dict) :
    dict.lookup key = some value := by
  induction dict with
  | nil => cases h
  | cons entry rest ih =>
    obtain ⟨found, kept⟩ := entry
    rw [keys, List.map_cons, List.nodup_cons] at hnodup
    rw [List.lookup_cons]
    rcases List.mem_cons.1 h with hhere | hlater
    · cases hhere
      rw [beq_self_eq_true]
    · have hother : key ≠ found := by
        rintro rfl
        exact hnodup.1 (List.mem_map.2 ⟨(key, value), hlater, rfl⟩)
      rw [beq_false_of_ne hother]
      exact ih hnodup.2 hlater

theorem mem_of_lookup {value : V} (h : dict.lookup key = some value) : (key, value) ∈ dict := by
  rw [List.lookup_eq_some_iff] at h
  obtain ⟨before, after, rfl, -⟩ := h
  simp

theorem mem_keys_iff : key ∈ keys dict ↔ (dict.lookup key).isSome = true := by
  rw [List.lookup_isSome_iff, keys, List.mem_map]
  constructor
  · rintro ⟨entry, hmem, rfl⟩
    exact ⟨entry, hmem, beq_self_eq_true _⟩
  · rintro ⟨entry, hmem, hsame⟩
    exact ⟨entry, hmem, (beq_iff_eq.1 hsame).symm⟩

section Group

variable (keyOf : A → K) (initial : K → V) (add : A → V → V) (items : List A)

theorem nodup_group : (keys (group keyOf initial add items)).Nodup := by
  induction items using List.reverseRecOn with
  | nil => exact List.nodup_nil
  | append_singleton items item ih =>
    rw [group, List.foldl_concat]
    exact nodup_upsert _ _ _ _ ih

theorem lookup_group (key : K) :
    (group keyOf initial add items).lookup key =
      if key ∈ items.map keyOf then
        some ((items.filter fun item => keyOf item = key).foldl (fun value item => add item value)
          (initial key))
      else none := by
  induction items using List.reverseRecOn with
  | nil => rfl
  | append_singleton items item ih =>
    have hgroup : group keyOf initial add (items ++ [item]) =
        upsert (keyOf item) (initial (keyOf item)) (add item) (group keyOf initial add items) :=
      List.foldl_concat ..
    rw [hgroup, lookup_upsert, List.filter_append, List.map_append, List.foldl_append]
    by_cases hkey : key = keyOf item
    · subst hkey
      rw [if_pos rfl, if_pos (by simp), ih]
      by_cases hmem : keyOf item ∈ items.map keyOf
      · simp [hmem]
      · have hnone : items.filter (fun other => keyOf other = keyOf item) = [] := by
          rw [List.filter_eq_nil_iff]
          intro other hother hsame
          apply hmem
          rw [← of_decide_eq_true hsame]
          exact List.mem_map_of_mem hother
        simp [hmem, hnone]
    · have hother : keyOf item ≠ key := Ne.symm hkey
      rw [if_neg hkey, ih]
      simp [hother, hkey]

theorem mem_keys_group (key : K) :
    key ∈ keys (group keyOf initial add items) ↔ key ∈ items.map keyOf := by
  rw [mem_keys_iff, lookup_group]
  split <;> simp_all

end Group

end OrderedDict

end BmwRemote.Lib
