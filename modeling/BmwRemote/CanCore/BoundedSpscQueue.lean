import BmwRemote.Lib.Ring
import Mathlib.Data.List.Infix

/-! A bounded queue between one producer and one consumer, at the grain of single
loads and stores. The producer owns `head_`, the consumer owns `tail_`, and a
slot is copied part by part; the two threads may be interleaved anywhere. -/
namespace BmwRemote.CanCore

open BmwRemote.Lib

universe u

namespace BoundedSpscQueue

variable {B : Type u} {capacity size : Nat}

/-- A record is copied in `size` parts. -/
abbrev Record (B : Type u) (size : Nat) := Fin size → B

/-- Where a thread is in `tryPush`; `last` is what its last call returned. -/
inductive Producer (B : Type u) (size : Nat) where
  | idle (last : Option Bool)
  | called (value : Record B size)
  | loadedHead (value : Record B size) (head : UInt64)
  | writing (value : Record B size) (head : UInt64) (written : Fin size → Bool)

inductive Consumer (B : Type u) (size : Nat) where
  | idle (last : Option Bool)
  | called
  | loadedTail (tail : UInt64)
  | reading (tail : UInt64) (value : Fin size → Option B)

/-- The memory of the queue, its two threads, and the values that successful
calls have pushed and popped so far. -/
structure State (B : Type u) (capacity size : Nat) where
  storage : Fin capacity → Record B size
  head : UInt64 := 0
  tail : UInt64 := 0
  producer : Producer B size := .idle none
  consumer : Consumer B size := .idle none
  pushed : List (Record B size) := []
  popped : List (Record B size) := []

inductive Action (B : Type u) (size : Nat) where
  | callPush (value : Record B size)
  | pushLoadHead
  | pushLoadTail
  | writePart (part : Fin size)
  | storeHead
  | callPop
  | popLoadTail
  | popLoadHead
  | readPart (part : Fin size)
  | storeTail

def slot (capacity : Nat) [NeZero capacity] (index : UInt64) : Fin capacity :=
  Fin.ofNat capacity index.toNat

variable [NeZero capacity]

def writeSlot (storage : Fin capacity → Record B size) (index : UInt64) (part : Fin size)
    (value : B) : Fin capacity → Record B size :=
  fun other position =>
    if other = slot capacity index ∧ position = part then value else storage other position

theorem writeSlot_other (storage : Fin capacity → Record B size) {index : UInt64} (part : Fin size)
    (value : B) {other : Fin capacity} (h : other ≠ slot capacity index) :
    writeSlot storage index part value other = storage other := by
  funext position
  exact if_neg fun hsame => h hsame.1

theorem writeSlot_slot (storage : Fin capacity → Record B size) (index : UInt64)
    (part position : Fin size) (value : B) :
    writeSlot storage index part value (slot capacity index) position =
      if position = part then value else storage (slot capacity index) position := by
  simp [writeSlot]

def stepProducer (state : State B capacity size) : Action B size → Option (State B capacity size)
  | .callPush value =>
      match state.producer with
      | .idle _ => some { state with producer := .called value }
      | _ => none
  | .pushLoadHead =>
      match state.producer with
      | .called value => some { state with producer := .loadedHead value state.head }
      | _ => none
  | .pushLoadTail =>
      match state.producer with
      | .loadedHead value head =>
          if (head - state.tail).toNat ≥ capacity then
            some { state with producer := .idle (some false) }
          else some { state with producer := .writing value head fun _ => false }
      | _ => none
  | .writePart part =>
      match state.producer with
      | .writing value head written =>
          some { state with
            storage := writeSlot state.storage head part (value part)
            producer := .writing value head fun other => written other || other == part }
      | _ => none
  | .storeHead =>
      match state.producer with
      | .writing value head written =>
          if ∀ part, written part = true then
            some { state with
              head := head + 1
              producer := .idle (some true)
              pushed := state.pushed ++ [value] }
          else none
      | _ => none
  | _ => none

def stepConsumer (state : State B capacity size) : Action B size → Option (State B capacity size)
  | .callPop =>
      match state.consumer with
      | .idle _ => some { state with consumer := .called }
      | _ => none
  | .popLoadTail =>
      match state.consumer with
      | .called => some { state with consumer := .loadedTail state.tail }
      | _ => none
  | .popLoadHead =>
      match state.consumer with
      | .loadedTail tail =>
          if tail = state.head then some { state with consumer := .idle (some false) }
          else some { state with consumer := .reading tail fun _ => none }
      | _ => none
  | .readPart part =>
      match state.consumer with
      | .reading tail value =>
          some { state with
            consumer := .reading tail fun other =>
              if other = part then some (state.storage (slot capacity tail) part)
              else value other }
      | _ => none
  | .storeTail =>
      match state.consumer with
      | .reading tail value =>
          if h : ∀ part, (value part).isSome = true then
            some { state with
              tail := tail + 1
              consumer := .idle (some true)
              popped := state.popped ++ [fun part => (value part).get (h part)] }
          else none
      | _ => none
  | _ => none

def step (state : State B capacity size) (action : Action B size) :
    Option (State B capacity size) :=
  match action with
  | .callPush _ | .pushLoadHead | .pushLoadTail | .writePart _ | .storeHead =>
      stepProducer state action
  | .callPop | .popLoadTail | .popLoadHead | .readPart _ | .storeTail => stepConsumer state action

/-- A run is any order of actions that the two threads can take. -/
def run : State B capacity size → List (Action B size) → Option (State B capacity size)
  | state, [] => some state
  | state, action :: rest => (step state action).bind fun next => run next rest

inductive Stepped (state : State B capacity size) :
    Action B size → State B capacity size → Prop where
  | callPush (value : Record B size) (last : Option Bool) (h : state.producer = .idle last) :
      Stepped state (.callPush value) { state with producer := .called value }
  | pushLoadHead (value : Record B size) (h : state.producer = .called value) :
      Stepped state .pushLoadHead { state with producer := .loadedHead value state.head }
  | pushFull (value : Record B size) (head : UInt64) (h : state.producer = .loadedHead value head)
      (hfull : (head - state.tail).toNat ≥ capacity) :
      Stepped state .pushLoadTail { state with producer := .idle (some false) }
  | pushBegins (value : Record B size) (head : UInt64)
      (h : state.producer = .loadedHead value head) (hroom : (head - state.tail).toNat < capacity) :
      Stepped state .pushLoadTail { state with producer := .writing value head fun _ => false }
  | writePart (part : Fin size) (value : Record B size) (head : UInt64) (written : Fin size → Bool)
      (h : state.producer = .writing value head written) :
      Stepped state (.writePart part) { state with
        storage := writeSlot state.storage head part (value part)
        producer := .writing value head fun other => written other || other == part }
  | storeHead (value : Record B size) (head : UInt64) (written : Fin size → Bool)
      (h : state.producer = .writing value head written) (hall : ∀ part, written part = true) :
      Stepped state .storeHead { state with
        head := head + 1
        producer := .idle (some true)
        pushed := state.pushed ++ [value] }
  | callPop (last : Option Bool) (h : state.consumer = .idle last) :
      Stepped state .callPop { state with consumer := .called }
  | popLoadTail (h : state.consumer = .called) :
      Stepped state .popLoadTail { state with consumer := .loadedTail state.tail }
  | popEmpty (tail : UInt64) (h : state.consumer = .loadedTail tail) (hempty : tail = state.head) :
      Stepped state .popLoadHead { state with consumer := .idle (some false) }
  | popBegins (tail : UInt64) (h : state.consumer = .loadedTail tail) (hfilled : tail ≠ state.head) :
      Stepped state .popLoadHead { state with consumer := .reading tail fun _ => none }
  | readPart (part : Fin size) (tail : UInt64) (value : Fin size → Option B)
      (h : state.consumer = .reading tail value) :
      Stepped state (.readPart part) { state with
        consumer := .reading tail fun other =>
          if other = part then some (state.storage (slot capacity tail) part) else value other }
  | storeTail (tail : UInt64) (value : Fin size → Option B) (h : state.consumer = .reading tail value)
      (hall : ∀ part, (value part).isSome = true) :
      Stepped state .storeTail { state with
        tail := tail + 1
        consumer := .idle (some true)
        popped := state.popped ++ [fun part => (value part).get (hall part)] }

theorem stepped_of_stepProducer {state next : State B capacity size} {action : Action B size}
    (h : stepProducer state action = some next) : Stepped state action next := by
  unfold stepProducer at h
  split at h
  · split at h
    · rename_i last hproducer
      cases h
      exact .callPush _ last hproducer
    · cases h
  · split at h
    · rename_i hproducer
      cases h
      exact .pushLoadHead _ hproducer
    · cases h
  · split at h
    · rename_i hproducer
      split at h
      · rename_i hfull
        cases h
        exact .pushFull _ _ hproducer hfull
      · rename_i hroom
        cases h
        exact .pushBegins _ _ hproducer (Nat.not_le.1 hroom)
    · cases h
  · split at h
    · rename_i hproducer
      cases h
      exact .writePart _ _ _ _ hproducer
    · cases h
  · split at h
    · rename_i hproducer
      split at h
      · rename_i hall
        cases h
        exact .storeHead _ _ _ hproducer hall
      · cases h
    · cases h
  · cases h

theorem stepped_of_stepConsumer {state next : State B capacity size} {action : Action B size}
    (h : stepConsumer state action = some next) : Stepped state action next := by
  unfold stepConsumer at h
  split at h
  · split at h
    · rename_i last hconsumer
      cases h
      exact .callPop last hconsumer
    · cases h
  · split at h
    · rename_i hconsumer
      cases h
      exact .popLoadTail hconsumer
    · cases h
  · split at h
    · rename_i hconsumer
      split at h
      · rename_i hempty
        cases h
        exact .popEmpty _ hconsumer hempty
      · rename_i hfilled
        cases h
        exact .popBegins _ hconsumer hfilled
    · cases h
  · split at h
    · rename_i hconsumer
      cases h
      exact .readPart _ _ _ hconsumer
    · cases h
  · split at h
    · rename_i hconsumer
      split at h
      · rename_i hall
        cases h
        exact .storeTail _ _ hconsumer hall
      · cases h
    · cases h
  · cases h

theorem stepped_of_step {state next : State B capacity size} {action : Action B size}
    (h : step state action = some next) : Stepped state action next := by
  unfold step at h
  split at h
  · exact stepped_of_stepProducer h
  · exact stepped_of_stepProducer h
  · exact stepped_of_stepProducer h
  · exact stepped_of_stepProducer h
  · exact stepped_of_stepProducer h
  · exact stepped_of_stepConsumer h
  · exact stepped_of_stepConsumer h
  · exact stepped_of_stepConsumer h
  · exact stepped_of_stepConsumer h
  · exact stepped_of_stepConsumer h

/-- The counters count the values pushed and popped, every value that is still to
be popped is in its slot, and each thread works on the counter it owns. -/
structure Invariant (state : State B capacity size) : Prop where
  head : state.head.toNat = state.pushed.length
  tail : state.tail.toNat = state.popped.length
  popped : state.popped <+: state.pushed
  bounded : state.pushed.length ≤ state.popped.length + capacity
  stored : ∀ position value, state.popped.length ≤ position →
    state.pushed[position]? = some value → state.storage (Fin.ofNat capacity position) = value
  loadedHead : ∀ value head, state.producer = .loadedHead value head → head = state.head
  writing : ∀ value head written, state.producer = .writing value head written →
    head = state.head ∧ state.pushed.length < state.popped.length + capacity ∧
      ∀ part, written part = true → state.storage (slot capacity head) part = value part
  loadedTail : ∀ tail, state.consumer = .loadedTail tail → tail = state.tail
  reading : ∀ tail value, state.consumer = .reading tail value →
    tail = state.tail ∧ ∃ record, state.pushed[state.popped.length]? = some record ∧
      ∀ part found, value part = some found → record part = found

theorem invariant_initial (storage : Fin capacity → Record B size) :
    Invariant { storage } := by
  constructor <;> simp

theorem toNat_sub_eq {state : State B capacity size} (h : Invariant state) :
    (state.head - state.tail).toNat = state.pushed.length - state.popped.length := by
  have hle := h.popped.length_le
  rw [← h.head, ← h.tail] at *
  exact UInt64.toNat_sub_of_le _ _ (UInt64.le_iff_toNat_le.2 hle)

theorem slot_eq (capacity : Nat) [NeZero capacity] (index : UInt64) {position : Nat}
    (h : index.toNat = position) : slot capacity index = Fin.ofNat capacity position := by
  rw [slot, h]

theorem concat_prefix {A : Type u} {front whole : List A} {next : A} (h : front <+: whole)
    (hnext : whole[front.length]? = some next) : front ++ [next] <+: whole := by
  obtain ⟨rest, hwhole⟩ := h
  rw [← hwhole, List.getElem?_append_right (Nat.le_refl _), Nat.sub_self] at hnext
  cases rest with
  | nil => simp at hnext
  | cons first rest =>
    have hfirst : first = next := by simpa using hnext
    exact ⟨rest, by rw [← hwhole, hfirst, List.append_assoc, List.singleton_append]⟩

theorem Invariant.writePart {state : State B capacity size} (h : Invariant state) {part : Fin size}
    {value : Record B size} {head : UInt64} {written : Fin size → Bool}
    (hproducer : state.producer = .writing value head written) :
    Invariant { state with
      storage := writeSlot state.storage head part (value part)
      producer := .writing value head fun other => written other || other == part } := by
  have hwriting := h.writing value head written hproducer
  have hslot : slot capacity head = Fin.ofNat capacity state.pushed.length := by
    rw [hwriting.1]
    exact slot_eq capacity state.head h.head
  refine { h with
    stored := ?_
    loadedHead := by simp
    writing := ?_ }
  · intro position record hposition hrecord
    have hlt : position < state.pushed.length := (List.getElem?_eq_some_iff.1 hrecord).1
    -- the slot written is that of the next value, not of one still to be popped
    have hother : Fin.ofNat capacity position ≠ slot capacity head := by
      rw [hslot]
      intro hsame
      have hlap : state.pushed.length < position + capacity :=
        Nat.lt_of_lt_of_le hwriting.2.1 (Nat.add_le_add_right hposition capacity)
      exact mod_ne_of_lt_lap hlt hlap (congrArg Fin.val hsame)
    rw [← h.stored position record hposition hrecord]
    exact writeSlot_other state.storage part (value part) hother
  · intro _ _ _ hnext
    cases hnext
    refine ⟨hwriting.1, hwriting.2.1, fun other hother => ?_⟩
    dsimp only
    rw [writeSlot_slot]
    by_cases hsame : other = part
    · rw [if_pos hsame, hsame]
    · have hbefore : written other = true := by simpa [hsame] using hother
      rw [if_neg hsame]
      exact hwriting.2.2 other hbefore

theorem Invariant.storeHead {state : State B capacity size} (h : Invariant state)
    {value : Record B size} {head : UInt64} {written : Fin size → Bool}
    (hproducer : state.producer = .writing value head written)
    (hall : ∀ part, written part = true)
    (hcount : state.pushed.length + 1 < UInt64.size) :
    Invariant { state with
      head := head + 1
      producer := .idle (some true)
      pushed := state.pushed ++ [value] } := by
  have hwriting := h.writing value head written hproducer
  have hhead : head.toNat = state.pushed.length := hwriting.1 ▸ h.head
  refine { h with
    head := ?_
    popped := ?_
    bounded := ?_
    stored := ?_
    loadedHead := by simp
    writing := by simp
    reading := ?_ }
  · rw [List.length_append, List.length_singleton, UInt64.toNat_add, hhead]
    exact Nat.mod_eq_of_lt hcount
  · exact h.popped.trans (List.prefix_append _ _)
  · rw [List.length_append, List.length_singleton]
    exact hwriting.2.1
  · intro position record hposition hrecord
    rw [List.getElem?_append] at hrecord
    split at hrecord
    · exact h.stored position record hposition hrecord
    · rename_i hlast
      have hposition : position = state.pushed.length := by
        have hone := (List.getElem?_eq_some_iff.1 hrecord).1
        simp at hone
        omega
      have hvalue : value = record := by simpa [hposition] using hrecord
      rw [hposition, ← slot_eq capacity head hhead, ← hvalue]
      funext part
      exact hwriting.2.2 part (hall part)
  · intro tail read hconsumer
    obtain ⟨htail, record, hrecord, hread⟩ := h.reading tail read hconsumer
    exact ⟨htail, record, by rw [List.getElem?_append_left (List.getElem?_eq_some_iff.1 hrecord).1,
      hrecord], hread⟩

theorem Invariant.readPart {state : State B capacity size} (h : Invariant state) {part : Fin size}
    {tail : UInt64} {value : Fin size → Option B}
    (hconsumer : state.consumer = .reading tail value) :
    Invariant { state with
      consumer := .reading tail fun other =>
        if other = part then some (state.storage (slot capacity tail) part) else value other } := by
  obtain ⟨htail, record, hrecord, hread⟩ := h.reading tail value hconsumer
  refine { h with
    loadedTail := by simp
    reading := ?_ }
  intro _ _ hnext
  cases hnext
  refine ⟨htail, record, hrecord, fun other found hfound => ?_⟩
  dsimp only at hfound
  by_cases hsame : other = part
  · have hslot : slot capacity tail = Fin.ofNat capacity state.popped.length := by
      rw [htail]
      exact slot_eq capacity state.tail h.tail
    have hstored := h.stored state.popped.length record (Nat.le_refl _) hrecord
    rw [if_pos hsame, hslot, hstored] at hfound
    rw [hsame]
    exact Option.some.inj hfound
  · rw [if_neg hsame] at hfound
    exact hread other found hfound

theorem Invariant.storeTail {state : State B capacity size} (h : Invariant state) {tail : UInt64}
    {value : Fin size → Option B} (hconsumer : state.consumer = .reading tail value)
    (hall : ∀ part, (value part).isSome = true) (hcount : state.pushed.length < UInt64.size) :
    Invariant { state with
      tail := tail + 1
      consumer := .idle (some true)
      popped := state.popped ++ [fun part => (value part).get (hall part)] } := by
  obtain ⟨htail, record, hrecord, hread⟩ := h.reading tail value hconsumer
  have hlt : state.popped.length < state.pushed.length := (List.getElem?_eq_some_iff.1 hrecord).1
  have hvalue : record = fun part => (value part).get (hall part) := by
    funext part
    exact hread part _ (Option.some_get (hall part)).symm
  refine { h with
    tail := ?_
    popped := ?_
    bounded := ?_
    stored := ?_
    writing := ?_
    loadedTail := by simp
    reading := by simp }
  · rw [List.length_append, List.length_singleton, UInt64.toNat_add, htail, h.tail]
    exact Nat.mod_eq_of_lt (Nat.lt_of_le_of_lt hlt hcount)
  · rw [hvalue] at hrecord
    exact concat_prefix h.popped hrecord
  · have hbounded := h.bounded
    rw [List.length_append, List.length_singleton]
    dsimp only
    omega
  · intro position found hposition hfound
    rw [List.length_append, List.length_singleton] at hposition
    exact h.stored position found (by omega) hfound
  · intro pushing head written hproducer
    obtain ⟨hhead, hroom, hwritten⟩ := h.writing pushing head written hproducer
    refine ⟨hhead, ?_, hwritten⟩
    rw [List.length_append, List.length_singleton]
    dsimp only
    omega

theorem Invariant.step {state next : State B capacity size} {action : Action B size}
    (h : Invariant state) (hstep : Stepped state action next)
    (hcount : next.pushed.length < UInt64.size) : Invariant next := by
  cases hstep with
  | callPush value last hproducer =>
    exact { h with loadedHead := by simp, writing := by simp }
  | pushLoadHead value hproducer =>
    exact { h with
      loadedHead := by
        intro _ _ hnext
        cases hnext
        rfl
      writing := by simp }
  | pushFull value head hproducer hfull =>
    exact { h with loadedHead := by simp, writing := by simp }
  | pushBegins value head hproducer hroom =>
    have hhead := h.loadedHead value head hproducer
    rw [hhead, toNat_sub_eq h] at hroom
    refine { h with
      loadedHead := by simp
      writing := ?_ }
    intro _ _ _ hnext
    cases hnext
    refine ⟨hhead, ?_, by simp⟩
    dsimp only
    omega
  | writePart part value head written hproducer => exact h.writePart hproducer
  | storeHead value head written hproducer hall =>
    rw [List.length_append, List.length_singleton] at hcount
    exact h.storeHead hproducer hall hcount
  | callPop last hconsumer =>
    exact { h with loadedTail := by simp, reading := by simp }
  | popLoadTail hconsumer =>
    exact { h with
      loadedTail := by
        intro _ hnext
        cases hnext
        rfl
      reading := by simp }
  | popEmpty tail hconsumer hempty =>
    exact { h with loadedTail := by simp, reading := by simp }
  | popBegins tail hconsumer hfilled =>
    have htail := h.loadedTail tail hconsumer
    have hlt : state.popped.length < state.pushed.length := by
      have hle := h.popped.length_le
      rw [htail, ne_eq, ← UInt64.toNat_inj, h.tail, h.head] at hfilled
      omega
    refine { h with
      loadedTail := by simp
      reading := ?_ }
    intro _ _ hnext
    cases hnext
    exact ⟨htail, state.pushed[state.popped.length], List.getElem?_eq_getElem hlt, by simp⟩
  | readPart part tail value hconsumer => exact h.readPart hconsumer
  | storeTail tail value hconsumer hall => exact h.storeTail hconsumer hall hcount

theorem Stepped.length_pushed {state next : State B capacity size} {action : Action B size}
    (h : Stepped state action next) : state.pushed.length ≤ next.pushed.length := by
  cases h with
  | storeHead => simp
  | _ => exact Nat.le_refl _

theorem length_pushed_run {state reached : State B capacity size} {actions : List (Action B size)}
    (h : run state actions = some reached) : state.pushed.length ≤ reached.pushed.length := by
  induction actions generalizing state with
  | nil =>
    cases h
    exact Nat.le_refl _
  | cons action rest ih =>
    obtain ⟨next, hstep, hrest⟩ := Option.bind_eq_some_iff.1 h
    exact Nat.le_trans (stepped_of_step hstep).length_pushed (ih hrest)

/-- Every interleaving keeps the invariant. -/
theorem Invariant.run {state reached : State B capacity size} {actions : List (Action B size)}
    (h : Invariant state) (hrun : run state actions = some reached)
    (hcount : reached.pushed.length < UInt64.size) : Invariant reached := by
  induction actions generalizing state with
  | nil =>
    cases hrun
    exact h
  | cons action rest ih =>
    obtain ⟨next, hstep, hrest⟩ := Option.bind_eq_some_iff.1 hrun
    have hnext := Nat.lt_of_le_of_lt (length_pushed_run hrest) hcount
    exact ih (h.step (stepped_of_step hstep) hnext) hrest

theorem Invariant.slots_ne {state : State B capacity size} (h : Invariant state)
    {value : Record B size} {head tail : UInt64} {written : Fin size → Bool}
    {read : Fin size → Option B} (hproducer : state.producer = .writing value head written)
    (hconsumer : state.consumer = .reading tail read) : slot capacity head ≠ slot capacity tail := by
  have hwriting := h.writing value head written hproducer
  obtain ⟨htail, record, hrecord, -⟩ := h.reading tail read hconsumer
  have hlt : state.popped.length < state.pushed.length := (List.getElem?_eq_some_iff.1 hrecord).1
  rw [hwriting.1, htail, slot_eq capacity state.head h.head, slot_eq capacity state.tail h.tail]
  intro hsame
  exact mod_ne_of_lt_lap hlt hwriting.2.1 (congrArg Fin.val hsame).symm

/-- In every interleaving of one producer with one consumer: the values popped
are a prefix of the values pushed; no slot is read while it is written; the
counters are at most the capacity apart; and a push is refused only when, at its
load of the tail, that many values were pushed and not yet popped. -/
theorem queue_correct (storage : Fin capacity → Record B size) (actions : List (Action B size))
    {state : State B capacity size} (hrun : run { storage } actions = some state)
    (hcount : state.pushed.length < UInt64.size) :
    state.popped <+: state.pushed ∧
    (∀ value head written tail read, state.producer = .writing value head written →
      state.consumer = .reading tail read → slot capacity head ≠ slot capacity tail) ∧
    (state.tail ≤ state.head ∧ (state.head - state.tail).toNat ≤ capacity) ∧
    ∀ next, step state .pushLoadTail = some next → next.producer = .idle (some false) →
      state.pushed.length = state.popped.length + capacity := by
  have hinvariant := (invariant_initial storage).run hrun hcount
  have hdistance := toNat_sub_eq hinvariant
  have hbounded := hinvariant.bounded
  have hle := hinvariant.popped.length_le
  refine ⟨hinvariant.popped, ?_, ⟨?_, by omega⟩, ?_⟩
  · intro value head written tail read hproducer hconsumer
    exact hinvariant.slots_ne hproducer hconsumer
  · rw [UInt64.le_iff_toNat_le, hinvariant.head, hinvariant.tail]
    exact hle
  · intro next hstep hrefused
    cases stepped_of_step hstep with
    | pushFull value head hproducer hfull =>
      rw [hinvariant.loadedHead value head hproducer, hdistance] at hfull
      omega
    | pushBegins => cases hrefused

def secondPush : List (Action UInt8 2) :=
  [.callPush fun _ => 7, .pushLoadHead, .pushLoadTail, .writePart 1, .writePart 0, .storeHead,
    .callPop, .callPush fun _ => 9, .popLoadTail, .pushLoadHead, .popLoadHead, .readPart 0,
    .pushLoadTail, .readPart 1, .storeTail]

def oneRecord : State UInt8 1 2 := { storage := fun _ _ => 0 }

theorem queue_correct_secondPush :
    ∃ state, run oneRecord secondPush = some state ∧ state.popped.length = 1 ∧
      state.popped <+: state.pushed := by
  have hrun : run oneRecord secondPush =
      some ((run oneRecord secondPush).get (by decide)) := (Option.some_get _).symm
  exact ⟨_, hrun, by decide, (queue_correct _ secondPush hrun (by decide)).1⟩

end BoundedSpscQueue

end BmwRemote.CanCore
