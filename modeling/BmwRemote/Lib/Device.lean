import Mathlib.Data.List.Basic

/-! Devices that may refuse a call: running a list of calls up to the first
refusal, the record of the calls that were made, and how a relation to an
abstract state survives such runs. -/
namespace BmwRemote.Lib

universe u v w

/-- A device answers a call with acceptance or refusal and moves on. -/
abbrev Device (W : Type u) (C : Type v) := C → W → Bool × W

namespace Device

variable {W : Type u} {C : Type v} {A : Type w}

def traced (device : Device W C) : Device (W × List (C × Bool)) C := fun call world =>
  let answer := device call world.1
  (answer.1, (answer.2, world.2 ++ [(call, answer.1)]))

/-- Make the calls in order; stop at the first refusal and return that call. -/
def runUntilRefused (device : Device W C) : List C → W → Option C × W
  | [], world => (none, world)
  | call :: rest, world =>
      let answer := device call world
      if answer.1 then runUntilRefused device rest answer.2 else (some call, answer.2)

def runAll (device : Device W C) : List C → W → W
  | [], world => world
  | call :: rest, world => runAll device rest (device call world).2

theorem runUntilRefused_refused (device : Device W C) (calls : List C) (world : W) {call : C}
    (h : (runUntilRefused device calls world).1 = some call) :
    ∃ reached, device call reached = (false, (runUntilRefused device calls world).2) := by
  induction calls generalizing world with
  | nil => simp [runUntilRefused] at h
  | cons next rest ih =>
    unfold runUntilRefused at h ⊢
    dsimp only at h ⊢
    split at h
    · rename_i haccepted
      rw [if_pos haccepted]
      exact ih _ h
    · rename_i hrefused
      rw [if_neg hrefused]
      cases h
      exact ⟨world, Prod.ext (by simpa using hrefused) rfl⟩

theorem refused_of_runUntilRefused (device : Device W C) (calls : List C) (world : W) {call : C}
    (h : (runUntilRefused device calls world).1 = some call) :
    ∃ reached, (device call reached).1 = false := by
  rcases runUntilRefused_refused device calls world h with ⟨reached, hrefused⟩
  exact ⟨reached, congrArg Prod.fst hrefused⟩

/-- Either every call was accepted, or the record ends with the first refused
one and nothing after it was called. -/
theorem runUntilRefused_traced (device : Device W C) (calls : List C)
    (world : W × List (C × Bool)) :
    ((runUntilRefused device.traced calls world).1 = none ∧
      (runUntilRefused device.traced calls world).2.2 =
        world.2 ++ calls.map fun call => (call, true)) ∨
    ∃ done refused rest, calls = done ++ refused :: rest ∧
      (runUntilRefused device.traced calls world).1 = some refused ∧
      (runUntilRefused device.traced calls world).2.2 =
        world.2 ++ (done.map fun call => (call, true)) ++ [(refused, false)] := by
  induction calls generalizing world with
  | nil => exact .inl ⟨rfl, by simp [runUntilRefused]⟩
  | cons call rest ih =>
    unfold runUntilRefused
    by_cases haccepted : (device.traced call world).1 = true
    · have hentry : (device.traced call world).2.2 = world.2 ++ [(call, true)] := by
        rw [← haccepted]
        rfl
      simp only [haccepted, ↓reduceIte]
      rcases ih (device.traced call world).2 with ⟨hnone, hlog⟩ | ⟨done, refused, tail, hrest,
        hsome, hlog⟩
      · refine .inl ⟨hnone, ?_⟩
        rw [hlog, hentry, List.map_cons, List.append_assoc, List.singleton_append]
      · refine .inr ⟨call :: done, refused, tail, ?_, hsome, ?_⟩
        · rw [hrest, List.cons_append]
        · simp [hlog, hentry]
    · have hrefused : (device.traced call world).1 = false := by simpa using haccepted
      refine .inr ⟨[], call, rest, rfl, ?_, ?_⟩
      · simp [hrefused]
      · have hentry : (device.traced call world).2.2 = world.2 ++ [(call, false)] := by
          rw [← hrefused]
          rfl
        simp [hrefused, hentry]

theorem runAll_traced (device : Device W C) (calls : List C) (world : W × List (C × Bool)) :
    ∃ answers, answers.length = calls.length ∧
      (runAll device.traced calls world).2 = world.2 ++ calls.zip answers := by
  induction calls generalizing world with
  | nil => exact ⟨[], rfl, by simp [runAll]⟩
  | cons call rest ih =>
    rcases ih (device.traced call world).2 with ⟨answers, hlength, hlog⟩
    refine ⟨(device call world.1).1 :: answers, by simp [hlength], ?_⟩
    unfold runAll
    rw [hlog]
    simp [traced]

/-! Every call has an effect on an abstract state, whether it is accepted or not. -/

variable {device : Device W C} {effect : A → C → A} {related : W → A → Prop}

theorem runAll_related
    (hcall : ∀ call world state, related world state →
      related (device call world).2 (effect state call))
    (calls : List C) (world : W) (state : A) (h : related world state) :
    related (runAll device calls world) (calls.foldl effect state) := by
  induction calls generalizing world state with
  | nil => exact h
  | cons call rest ih => exact ih _ _ (hcall call world state h)

theorem runUntilRefused_related
    (hcall : ∀ call world state, related world state →
      related (device call world).2 (effect state call))
    (calls : List C) (world : W) (state : A) (h : related world state) :
    ∃ reached, related (runUntilRefused device calls world).2 reached ∧
      ((runUntilRefused device calls world).1 = none → reached = calls.foldl effect state) := by
  induction calls generalizing world state with
  | nil => exact ⟨state, h, fun _ => rfl⟩
  | cons call rest ih =>
    unfold runUntilRefused
    dsimp only
    split
    · exact ih _ _ (hcall call world state h)
    · exact ⟨effect state call, hcall call world state h, nofun⟩

theorem runUntilRefused_accepted
    (hcall : ∀ call world state, related world state → (device call world).1 = true →
      related (device call world).2 (effect state call))
    (calls : List C) (world : W) (state : A) (h : related world state)
    (haccepted : (runUntilRefused device calls world).1 = none) :
    related (runUntilRefused device calls world).2 (calls.foldl effect state) := by
  induction calls generalizing world state with
  | nil => exact h
  | cons call rest ih =>
    unfold runUntilRefused at haccepted ⊢
    dsimp only at haccepted ⊢
    split at haccepted
    · rename_i hanswer
      rw [if_pos hanswer]
      exact ih _ _ (hcall call world state h hanswer) haccepted
    · cases haccepted

theorem runAll_keeps {holds : W → Prop}
    (hcall : ∀ call world, holds world → holds (device call world).2) (calls : List C) (world : W)
    (h : holds world) : holds (runAll device calls world) := by
  induction calls generalizing world with
  | nil => exact h
  | cons call rest ih => exact ih _ (hcall call world h)

theorem runUntilRefused_keeps {holds : W → Prop}
    (hcall : ∀ call world, holds world → holds (device call world).2) (calls : List C) (world : W)
    (h : holds world) : holds (runUntilRefused device calls world).2 := by
  induction calls generalizing world with
  | nil => exact h
  | cons call rest ih =>
    unfold runUntilRefused
    dsimp only
    split
    · exact ih _ (hcall call world h)
    · exact hcall call world h

end Device

end BmwRemote.Lib
