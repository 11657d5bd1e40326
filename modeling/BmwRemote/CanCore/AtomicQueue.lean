import BmwRemote.CanCore.BoundedSpscQueue
import Mathlib.Data.List.FinRange

/-! The bounded queue with each of its calls taken as one step: a ring between two
counters that never come back, of 64 bits each. -/
namespace BmwRemote.CanCore

open BmwRemote.Lib

universe u

/-- The counters are never more than one lap apart. -/
structure AtomicQueue (T : Type u) (capacity : Nat) where
  storage : Fin capacity → T
  head : UInt64 := 0
  tail : UInt64 := 0
  bounded : (head - tail).toNat ≤ capacity

namespace AtomicQueue

variable {T : Type u} {capacity : Nat}

theorem add_one_sub (head tail : UInt64) : head + 1 - tail = head - tail + 1 := by
  rw [UInt64.sub_eq_iff_eq_add, UInt64.add_assoc, UInt64.add_comm 1, ← UInt64.add_assoc,
    UInt64.sub_add_cancel]

theorem toNat_add_one_sub {head tail : UInt64} {bound : Nat} (h : (head - tail).toNat < bound) :
    (head + 1 - tail).toNat ≤ bound := by
  rw [add_one_sub, UInt64.toNat_add]
  exact (Nat.mod_le _ _).trans h

theorem toNat_sub_add_one {head tail : UInt64} (h : tail ≠ head) :
    (head - (tail + 1)).toNat + 1 = (head - tail).toNat := by
  have hnext : head - (tail + 1) = head - tail - 1 := by
    rw [UInt64.sub_eq_iff_eq_add, UInt64.add_comm tail, ← UInt64.add_assoc, UInt64.sub_add_cancel,
      UInt64.sub_add_cancel]
  have hpositive : 1 ≤ (head - tail).toNat := by
    apply Nat.pos_of_ne_zero
    intro hzero
    apply h
    have hsame : head - tail = 0 := UInt64.toNat_inj.1 hzero
    rw [UInt64.sub_eq_iff_eq_add, UInt64.zero_add] at hsame
    exact hsame.symm
  have hone : 1 ≤ head - tail := UInt64.le_iff_toNat_le.2 hpositive
  rw [hnext, UInt64.toNat_sub_of_le _ _ hone]
  exact Nat.sub_add_cancel hpositive

variable [NeZero capacity]

def tryPush (queue : AtomicQueue T capacity) (value : T) : Bool × AtomicQueue T capacity :=
  if h : (queue.head - queue.tail).toNat ≥ capacity then (false, queue)
  else
    (true,
      { queue with
        storage := Function.update queue.storage (Ring.slot capacity queue.head.toNat) value
        head := queue.head + 1
        bounded := toNat_add_one_sub (Nat.not_le.1 h) })

/-- `tryPop`: the popped value in place of the flag and the reference. -/
def tryPop (queue : AtomicQueue T capacity) : Option T × AtomicQueue T capacity :=
  if h : queue.tail = queue.head then (none, queue)
  else
    (some (queue.storage (Ring.slot capacity queue.tail.toNat)),
      { queue with
        tail := queue.tail + 1
        bounded := by
          have hnext := toNat_sub_add_one h
          have hbounded := queue.bounded
          omega })

/-- `size`, with the 32 bits that `std::size_t` has on the controller. -/
def size (queue : AtomicQueue T capacity) : UInt32 := (queue.head - queue.tail).toUInt32

def clear (queue : AtomicQueue T capacity) : AtomicQueue T capacity :=
  { queue with
    tail := queue.head
    bounded := by simp }

def contents (queue : AtomicQueue T capacity) : List T :=
  Ring.window queue.storage queue.tail.toNat (queue.head - queue.tail).toNat

theorem length_contents (queue : AtomicQueue T capacity) :
    queue.contents.length = (queue.head - queue.tail).toNat := Ring.length_window ..

theorem length_contents_le (queue : AtomicQueue T capacity) : queue.contents.length ≤ capacity := by
  rw [length_contents]
  exact queue.bounded

theorem contents_clear (queue : AtomicQueue T capacity) : queue.clear.contents = [] := by
  rw [← List.length_eq_zero_iff, length_contents]
  change (queue.head - queue.head).toNat = 0
  rw [UInt64.sub_self]
  rfl

theorem toNat_size (hword : capacity < 2 ^ 32) (queue : AtomicQueue T capacity) :
    queue.size.toNat = queue.contents.length := by
  have hbounded := queue.bounded
  rw [length_contents, size, UInt64.toNat_toUInt32]
  exact Nat.mod_eq_of_lt (by omega)

section Laps

/-! The counters come round together with the slots. -/

variable (hlaps : capacity ∣ 2 ^ 64) (hsmall : capacity < 2 ^ 64)

include hlaps

theorem slot_add (counter distance : UInt64) :
    Ring.slot capacity (counter + distance).toNat =
      Ring.slot capacity (counter.toNat + distance.toNat) := by
  rw [Ring.slot_eq_iff, UInt64.toNat_add, Nat.mod_mod_of_dvd _ hlaps]

theorem slot_head (queue : AtomicQueue T capacity) :
    Ring.slot capacity queue.head.toNat =
      Ring.slot capacity (queue.tail.toNat + queue.contents.length) := by
  rw [length_contents, ← slot_add hlaps, UInt64.add_comm, UInt64.sub_add_cancel]

theorem tryPop_cases (queue : AtomicQueue T capacity) :
    queue.contents = [] ∧ queue.tryPop = (none, queue) ∨
      ∃ oldest rest, queue.contents = oldest :: rest ∧ queue.tryPop.1 = some oldest ∧
        queue.tryPop.2.contents = rest := by
  unfold tryPop
  split
  · rename_i hempty
    refine .inl ⟨?_, rfl⟩
    rw [← List.length_eq_zero_iff, length_contents, hempty, UInt64.sub_self]
    rfl
  · rename_i hfilled
    have hnext := toNat_sub_add_one hfilled
    refine .inr ⟨queue.storage (Ring.slot capacity queue.tail.toNat), _, ?_, rfl, rfl⟩
    unfold contents
    dsimp only
    rw [← hnext, Ring.window_cons, Ring.window_congr _ (slot_add hlaps queue.tail 1)]
    rfl

include hsmall

theorem tryPush_cases (queue : AtomicQueue T capacity) (value : T) :
    queue.contents.length = capacity ∧ queue.tryPush value = (false, queue) ∨
      queue.contents.length < capacity ∧ (queue.tryPush value).1 = true ∧
        (queue.tryPush value).2.contents = queue.contents ++ [value] := by
  have hbounded := queue.bounded
  have hhead := slot_head hlaps queue
  rw [length_contents] at hhead ⊢
  unfold tryPush
  split
  · rename_i hfull
    exact .inl ⟨Nat.le_antisymm hbounded hfull, rfl⟩
  · rename_i hroom
    rw [ge_iff_le, Nat.not_le] at hroom
    have hone : (1 : UInt64).toNat = 1 := rfl
    have hlength : (queue.head + 1 - queue.tail).toNat = (queue.head - queue.tail).toNat + 1 := by
      rw [add_one_sub, UInt64.toNat_add, hone, Nat.mod_eq_of_lt (by omega)]
    refine .inr ⟨hroom, rfl, ?_⟩
    unfold contents
    dsimp only
    rw [hlength, hhead]
    exact Ring.window_update_behind queue.storage queue.tail.toNat value hroom

end Laps

section Steps

/-! A call of the atomic queue is a run of the steps that its thread takes in it. -/

open BoundedSpscQueue

variable {B : Type u} {size : Nat}

structure Matches (queue : AtomicQueue (Record B size) capacity) (state : State B capacity size) :
    Prop where
  storage : state.storage = queue.storage
  head : state.head = queue.head
  tail : state.tail = queue.tail

theorem run_append (state : State B capacity size) (first second : List (Action B size)) :
    run state (first ++ second) = (run state first).bind fun next => run next second := by
  induction first generalizing state with
  | nil => rfl
  | cons action first ih =>
    rw [List.cons_append, run, run, Option.bind_assoc]
    congr 1
    funext next
    exact ih next

theorem run_writeParts (state : State B capacity size) (value : Record B size) (head : UInt64)
    (written : Fin size → Bool) (h : state.producer = .writing value head written)
    (parts : List (Fin size)) :
    run state (parts.map .writePart) = some { state with
      storage := fun other position =>
        if other = slot capacity head ∧ position ∈ parts then value position
        else state.storage other position
      producer := .writing value head fun part => written part || parts.contains part } := by
  induction parts generalizing state written with
  | nil =>
    obtain ⟨_, _, _, producer, _, _, _⟩ := state
    obtain rfl : producer = .writing value head written := h
    simp [run]
  | cons part parts ih =>
    have hstep : step state (.writePart part) = some { state with
        storage := writeSlot state.storage head part (value part)
        producer := .writing value head fun other => written other || other == part } := by
      simp [step, stepProducer, h]
    rw [List.map_cons, run, hstep, Option.bind_some, ih _ _ rfl]
    congr 2
    · funext other position
      by_cases hslot : other = slot capacity head
      · by_cases hpart : position = part
        · simp [writeSlot, hslot, hpart]
        · simp [writeSlot, hslot, hpart]
      · simp [writeSlot, hslot]
    · congr 1
      funext other
      simp [Bool.or_assoc, beq_eq_decide]

/-- `tryPush` is a run of the producer's steps. -/
theorem run_tryPush (queue : AtomicQueue (Record B size) capacity) (state : State B capacity size)
    (h : Matches queue state) {last : Option Bool} (hidle : state.producer = .idle last)
    (value : Record B size) :
    ∃ actions after, run state actions = some after ∧ Matches (queue.tryPush value).2 after ∧
      after.producer = .idle (some (queue.tryPush value).1) ∧
      after.consumer = state.consumer := by
  unfold tryPush
  split
  · rename_i hfull
    refine ⟨[.callPush value, .pushLoadHead, .pushLoadTail],
      { state with producer := .idle (some false) }, ?_, ⟨h.storage, h.head, h.tail⟩, rfl, rfl⟩
    rw [← h.head, ← h.tail] at hfull
    simp [run, step, stepProducer, hidle, hfull]
  · rename_i hroom
    rw [← h.head, ← h.tail] at hroom
    have hbegin : run state [.callPush value, .pushLoadHead, .pushLoadTail] =
        some { state with producer := .writing value state.head fun _ => false } := by
      simp [run, step, stepProducer, hidle, hroom]
    refine ⟨[.callPush value, .pushLoadHead, .pushLoadTail] ++
      ((List.finRange size).map .writePart ++ [.storeHead]), { state with
        storage := Function.update state.storage (slot capacity state.head) value
        head := state.head + 1
        producer := .idle (some true)
        pushed := state.pushed ++ [value] }, ?_, ?_, rfl, rfl⟩
    · rw [run_append, hbegin, Option.bind_some, run_append,
        run_writeParts _ value state.head _ rfl, Option.bind_some]
      simp only [run, step, stepProducer, List.contains_eq_mem, List.mem_finRange, decide_true,
        Bool.or_true, implies_true, if_true, and_true, Option.bind_some]
      congr 2
      funext other position
      by_cases hslot : other = slot capacity state.head
      · rw [if_pos hslot, hslot, Function.update_self]
      · rw [if_neg hslot, Function.update_of_ne hslot]
    · refine ⟨?_, ?_, h.tail⟩
      · dsimp only
        rw [h.storage, h.head]
        rfl
      · exact congrArg (· + 1) h.head

theorem run_readParts (state : State B capacity size) (tail : UInt64)
    (value : Fin size → Option B) (h : state.consumer = .reading tail value)
    (parts : List (Fin size)) :
    run state (parts.map .readPart) = some { state with
      consumer := .reading tail fun part =>
        if part ∈ parts then some (state.storage (slot capacity tail) part) else value part } := by
  induction parts generalizing state value with
  | nil =>
    obtain ⟨_, _, _, _, consumer, _, _⟩ := state
    obtain rfl : consumer = .reading tail value := h
    simp [run]
  | cons part parts ih =>
    have hstep : step state (.readPart part) = some { state with
        consumer := .reading tail fun other =>
          if other = part then some (state.storage (slot capacity tail) part) else value other } := by
      simp [step, stepConsumer, h]
    rw [List.map_cons, run, hstep, Option.bind_some, ih _ _ rfl]
    congr 3
    funext other
    by_cases hpart : other = part
    · simp [hpart]
    · simp [hpart]

theorem run_tryPop (queue : AtomicQueue (Record B size) capacity) (state : State B capacity size)
    (h : Matches queue state) {last : Option Bool} (hidle : state.consumer = .idle last) :
    ∃ actions after, run state actions = some after ∧ Matches queue.tryPop.2 after ∧
      after.consumer = .idle (some queue.tryPop.1.isSome) ∧ after.producer = state.producer ∧
      after.popped = state.popped ++ queue.tryPop.1.toList := by
  unfold tryPop
  split
  · rename_i hempty
    rw [← h.head, ← h.tail] at hempty
    refine ⟨[.callPop, .popLoadTail, .popLoadHead],
      { state with consumer := .idle (some false) }, ?_, ⟨h.storage, h.head, h.tail⟩, rfl, rfl, ?_⟩
    · simp [run, step, stepConsumer, hidle, hempty]
    · simp
  · rename_i hfilled
    rw [← h.head, ← h.tail] at hfilled
    have hbegin : run state [.callPop, .popLoadTail, .popLoadHead] =
        some { state with consumer := .reading state.tail fun _ => none } := by
      simp [run, step, stepConsumer, hidle, hfilled]
    refine ⟨[.callPop, .popLoadTail, .popLoadHead] ++
      ((List.finRange size).map .readPart ++ [.storeTail]), { state with
        tail := state.tail + 1
        consumer := .idle (some true)
        popped := state.popped ++ [state.storage (slot capacity state.tail)] }, ?_, ?_, rfl, rfl, ?_⟩
    · rw [run_append, hbegin, Option.bind_some, run_append, run_readParts _ state.tail _ rfl,
        Option.bind_some]
      simp [run, step, stepConsumer]
    · exact ⟨h.storage, h.head, congrArg (· + 1) h.tail⟩
    · rw [h.storage, h.tail]
      rfl

end Steps

end AtomicQueue

end BmwRemote.CanCore
