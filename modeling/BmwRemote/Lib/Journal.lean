import Mathlib.Data.Option.Basic

/-! A journal of two slots. Each holds an entry or nothing that can be read, the
newest entry is the one that counts, and the next one is put into the other slot. -/
namespace BmwRemote.Lib

universe u v

inductive Slot where
  | first
  | second
  deriving DecidableEq, Repr

def Slot.other : Slot → Slot
  | .first => .second
  | .second => .first

@[simp] theorem Slot.other_ne (slot : Slot) : slot.other ≠ slot := by
  cases slot <;> decide

/-- How entries are ordered. Nothing is asked of `newer` but that a generation
and its successor are told apart, so counters may wrap. -/
structure Generations (E : Type u) (G : Type v) where
  generation : E → G
  newer : G → G → Bool
  initial : G
  next : G → G
  newer_next : ∀ generation, newer (next generation) generation = true
  not_newer_next : ∀ generation, newer generation (next generation) = false

structure Journal (E : Type u) where
  first : Option E
  second : Option E

namespace Journal

variable {E : Type u} {G : Type v}

def get (journal : Journal E) : Slot → Option E
  | .first => journal.first
  | .second => journal.second

def put (journal : Journal E) (slot : Slot) (entry : Option E) : Journal E :=
  match slot with
  | .first => { journal with first := entry }
  | .second => { journal with second := entry }

variable (generations : Generations E G)

/-- The slot of the newest entry: the first one unless the second is newer. -/
def newest (journal : Journal E) : Option Slot :=
  match journal.first, journal.second with
  | none, none => none
  | none, some _ => some .second
  | some _, none => some .first
  | some first, some second =>
      if generations.newer (generations.generation second) (generations.generation first) then
        some .second
      else some .first

def current (journal : Journal E) : Option E := (journal.newest generations).bind journal.get

def target (journal : Journal E) : Slot := ((journal.newest generations).map Slot.other).getD .first

def nextGeneration (journal : Journal E) : G :=
  ((journal.current generations).map fun entry =>
    generations.next (generations.generation entry)).getD generations.initial

variable {generations} {journal : Journal E}

theorem newest_ne_target : journal.newest generations ≠ some (journal.target generations) := by
  unfold target
  cases journal.newest generations with
  | none => simp
  | some slot =>
    intro h
    exact slot.other_ne (Option.some.inj h).symm

theorem current_put_none :
    (journal.put (journal.target generations) none).current generations =
      journal.current generations := by
  rcases journal with ⟨_ | first, _ | second⟩
  · rfl
  · rfl
  · rfl
  · cases hnewer : generations.newer (generations.generation second)
      (generations.generation first) with
    | false => simp [current, newest, target, put, get, hnewer, Slot.other]
    | true => simp [current, newest, target, put, get, hnewer, Slot.other]

/-- An entry of the next generation in the target slot is the newest one, whatever
the two slots held. -/
theorem current_put_next {entry : E}
    (h : generations.generation entry = journal.nextGeneration generations) :
    (journal.put (journal.target generations) (some entry)).current generations = some entry := by
  rcases journal with ⟨_ | first, _ | second⟩
  · rfl
  · have hnext : generations.generation entry = generations.next (generations.generation second) := h
    simp [current, newest, target, put, get, hnext, Slot.other, generations.not_newer_next]
  · have hnext : generations.generation entry = generations.next (generations.generation first) := h
    simp [current, newest, target, put, get, hnext, Slot.other, generations.newer_next]
  · cases hnewer : generations.newer (generations.generation second)
      (generations.generation first) with
    | false =>
      have hnext : generations.generation entry =
          generations.next (generations.generation first) := by
        rw [h]
        simp [nextGeneration, current, newest, get, hnewer]
      simp [current, newest, target, put, get, hnewer, hnext, Slot.other, generations.newer_next]
    | true =>
      have hnext : generations.generation entry =
          generations.next (generations.generation second) := by
        rw [h]
        simp [nextGeneration, current, newest, get, hnewer]
      simp [current, newest, target, put, get, hnewer, hnext, Slot.other,
        generations.not_newer_next]

/-- What an attempt to write `entry` can leave: nothing changed, the entry, or a
target slot that cannot be read. -/
inductive Attempted (generations : Generations E G) (journal : Journal E) (entry : E) :
    Journal E → Prop
  | unchanged : Attempted generations journal entry journal
  | complete : Attempted generations journal entry
      (journal.put (journal.target generations) (some entry))
  | torn : Attempted generations journal entry (journal.put (journal.target generations) none)

theorem Attempted.current {entry : E} {after : Journal E}
    (h : Attempted generations journal entry after)
    (hentry : generations.generation entry = journal.nextGeneration generations) :
    after.current generations = journal.current generations ∨
      after.current generations = some entry := by
  cases h with
  | unchanged => exact .inl rfl
  | complete => exact .inr (current_put_next hentry)
  | torn => exact .inl current_put_none

end Journal

end BmwRemote.Lib
