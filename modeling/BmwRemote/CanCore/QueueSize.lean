import BmwRemote.CanCore.BoundedSpscQueue
import Mathlib.Data.Nat.ModEq
import Mathlib.Logic.Function.Basic

/-! `size` loads `head_`, then `tail_`. Any thread may call it, and the queue's own
threads go on between the two loads: the consumer may overtake the head that was
loaded. -/
namespace BmwRemote.CanCore.BoundedSpscQueue

universe u v

variable {B : Type u} {capacity size : Nat}

/-- The two counters alone, whose turns past 2^64 do no harm. -/
structure Counters (state : State B capacity size) : Prop where
  head : state.head = UInt64.ofNat state.pushed.length
  tail : state.tail = UInt64.ofNat state.popped.length
  ordered : state.popped.length ≤ state.pushed.length
  bounded : state.pushed.length ≤ state.popped.length + capacity
  loadedHead : ∀ value head, state.producer = .loadedHead value head → head = state.head
  writing : ∀ value head written, state.producer = .writing value head written →
    head = state.head ∧ state.pushed.length < state.popped.length + capacity
  loadedTail : ∀ tail, state.consumer = .loadedTail tail → tail = state.tail
  reading : ∀ tail value, state.consumer = .reading tail value →
    tail = state.tail ∧ state.popped.length < state.pushed.length

theorem counters_initial (storage : Fin capacity → Record B size) :
    Counters { storage } := by
  constructor <;> simp

theorem ofNat_succ (count : Nat) : UInt64.ofNat count + 1 = UInt64.ofNat (count + 1) :=
  (UInt64.ofNat_add count 1).symm

theorem toNat_ofNat_sub {ahead behind : Nat} (hordered : behind ≤ ahead)
    (hclose : ahead - behind < UInt64.size) :
    (UInt64.ofNat ahead - UInt64.ofNat behind).toNat = ahead - behind := by
  rw [UInt64.toNat_sub, UInt64.toNat_ofNat', UInt64.toNat_ofNat']
  have hsize : UInt64.size = 2 ^ 64 := rfl
  omega

theorem Counters.storeHead {state : State B capacity size} (h : Counters state)
    {value : Record B size} {head : UInt64} {written : Fin size → Bool}
    (hproducer : state.producer = .writing value head written) :
    Counters { state with
      head := head + 1
      producer := .idle (some true)
      pushed := state.pushed ++ [value] } := by
  obtain ⟨hhead, hroom⟩ := h.writing value head written hproducer
  refine { h with
    head := ?_
    ordered := ?_
    bounded := ?_
    loadedHead := by simp
    writing := by simp
    reading := ?_ }
  · rw [List.length_append, List.length_singleton, hhead, h.head]
    exact ofNat_succ _
  · rw [List.length_append]
    exact Nat.le_add_right_of_le h.ordered
  · rw [List.length_append, List.length_singleton]
    exact hroom
  · intro tail read hconsumer
    rw [List.length_append]
    exact ⟨(h.reading tail read hconsumer).1,
      Nat.lt_add_right _ (h.reading tail read hconsumer).2⟩

theorem Counters.storeTail {state : State B capacity size} (h : Counters state) {tail : UInt64}
    {read : Fin size → Option B} (hconsumer : state.consumer = .reading tail read)
    (value : Record B size) :
    Counters { state with
      tail := tail + 1
      consumer := .idle (some true)
      popped := state.popped ++ [value] } := by
  obtain ⟨htail, hlt⟩ := h.reading tail read hconsumer
  refine { h with
    tail := ?_
    ordered := ?_
    bounded := ?_
    writing := ?_
    loadedTail := by simp
    reading := by simp }
  · rw [List.length_append, List.length_singleton, htail, h.tail]
    exact ofNat_succ _
  · rw [List.length_append, List.length_singleton]
    exact hlt
  · rw [List.length_append, Nat.add_right_comm]
    exact Nat.le_add_right_of_le h.bounded
  · intro pushing head written hproducer
    obtain ⟨hhead, hroom⟩ := h.writing pushing head written hproducer
    rw [List.length_append, Nat.add_right_comm]
    exact ⟨hhead, Nat.lt_add_right _ hroom⟩

theorem Counters.step [NeZero capacity] {state next : State B capacity size}
    {action : Action B size} (h : Counters state) (hcapacity : capacity < UInt64.size)
    (hstep : Stepped state action next) : Counters next := by
  have hordered := h.ordered
  have hbounded := h.bounded
  cases hstep with
  | callPush value last hproducer =>
    exact { h with loadedHead := by simp, writing := by simp }
  | pushLoadHead value hproducer =>
    exact { h with
      loadedHead := by
        intro _ _ hnext
        cases hnext
        rfl
      writing := by simp }
  | pushFull value head hproducer hfull =>
    exact { h with loadedHead := by simp, writing := by simp }
  | pushBegins value head hproducer hroom =>
    have hhead := h.loadedHead value head hproducer
    rw [hhead, h.head, h.tail, toNat_ofNat_sub hordered (by omega)] at hroom
    refine { h with
      loadedHead := by simp
      writing := ?_ }
    intro _ _ _ hnext
    cases hnext
    refine ⟨hhead, ?_⟩
    dsimp only
    omega
  | writePart part value head written hproducer =>
    refine { h with
      loadedHead := by simp
      writing := ?_ }
    intro _ _ _ hnext
    cases hnext
    exact h.writing value head written hproducer
  | storeHead value head written hproducer => exact h.storeHead hproducer
  | callPop last hconsumer =>
    exact { h with loadedTail := by simp, reading := by simp }
  | popLoadTail hconsumer =>
    exact { h with
      loadedTail := by
        intro _ hnext
        cases hnext
        rfl
      reading := by simp }
  | popEmpty tail hconsumer hempty =>
    exact { h with loadedTail := by simp, reading := by simp }
  | popBegins tail hconsumer hfilled =>
    have htail := h.loadedTail tail hconsumer
    have hlt : state.popped.length < state.pushed.length := by
      refine Nat.lt_of_le_of_ne hordered fun hsame => hfilled ?_
      rw [htail, h.tail, h.head, hsame]
    refine { h with
      loadedTail := by simp
      reading := ?_ }
    intro _ _ hnext
    cases hnext
    exact ⟨htail, hlt⟩
  | readPart part tail value hconsumer =>
    refine { h with
      loadedTail := by simp
      reading := ?_ }
    intro _ _ hnext
    cases hnext
    exact h.reading tail value hconsumer
  | storeTail tail value hconsumer => exact h.storeTail hconsumer _

/-- Where a thread is in `size`. With the head it loaded stands how many records had
been pushed by then. -/
inductive Reader where
  | idle
  | loadedHead (head : UInt64) (pushed : Nat)

/-- A value that `size` returned, with the records pushed when it loaded `head_` and
those popped when it loaded `tail_`. -/
structure SizeReading where
  value : Nat
  pushed : Nat
  popped : Nat
  deriving DecidableEq

/-- The queue among threads `T`, its own two threads included, any of which may
ask for the size. -/
structure Shared (T : Type v) (B : Type u) (capacity size : Nat) where
  queue : State B capacity size
  readers : T → Reader := fun _ => .idle
  returned : List SizeReading := []

inductive Event (T : Type v) (B : Type u) (size : Nat) where
  | queue (action : Action B size)
  | sizeLoadHead (thread : T)
  | sizeLoadTail (thread : T)

def sizeOf (bits : Nat) (head tail : UInt64) : Nat := (head - tail).toNat % 2 ^ bits

def queuedFrames (size : Nat) : Nat := size % 2 ^ 16

theorem sizeOf_lt (bits : Nat) (head tail : UInt64) : sizeOf bits head tail < 2 ^ bits :=
  Nat.mod_lt _ (Nat.two_pow_pos bits)

theorem sizeOf_modEq {bits : Nat} (hbits : bits ≤ 64) (pushed popped : Nat) :
    sizeOf bits (UInt64.ofNat pushed) (UInt64.ofNat popped) + popped ≡ pushed [MOD 2 ^ bits] := by
  have hturn : 2 ^ bits ∣ 2 ^ 64 := Nat.pow_dvd_pow 2 hbits
  have hwide : (UInt64.ofNat pushed - UInt64.ofNat popped).toNat + popped ≡ pushed [MOD 2 ^ 64] := by
    rw [UInt64.toNat_sub, UInt64.toNat_ofNat', UInt64.toNat_ofNat']
    unfold Nat.ModEq
    omega
  calc sizeOf bits (UInt64.ofNat pushed) (UInt64.ofNat popped) + popped
      ≡ (UInt64.ofNat pushed - UInt64.ofNat popped).toNat + popped [MOD 2 ^ bits] :=
        (Nat.mod_modEq _ _).add_right popped
    _ ≡ pushed [MOD 2 ^ bits] := hwide.of_dvd hturn

/-- The difference of two counters is a size exactly when the one loaded first has not
been overtaken, up to whole turns of the result's type. -/
theorem sizeOf_le_iff {bits pushed popped : Nat} (hbits : bits ≤ 64)
    (hcapacity : capacity < 2 ^ bits) (hbounded : pushed ≤ popped + capacity) :
    sizeOf bits (UInt64.ofNat pushed) (UInt64.ofNat popped) ≤ capacity ↔
      ∃ turns, popped ≤ pushed + turns * 2 ^ bits ∧
        pushed + turns * 2 ^ bits ≤ popped + capacity := by
  have hmod := sizeOf_modEq hbits pushed popped
  have hlt := sizeOf_lt bits (UInt64.ofNat pushed) (UInt64.ofNat popped)
  generalize sizeOf bits (UInt64.ofNat pushed) (UInt64.ofNat popped) = value at hmod hlt
  constructor
  · intro hvalue
    -- the consumer is never so far behind that the difference could be a turn short
    have hle : pushed ≤ value + popped := by
      by_contra hbehind
      have hturn := (Nat.modEq_iff_dvd' (by omega)).1 hmod
      have hbig := Nat.le_of_dvd (by omega) hturn
      omega
    obtain ⟨turns, hturns⟩ := (Nat.modEq_iff_dvd' hle).1 hmod.symm
    rw [Nat.mul_comm] at hturns
    exact ⟨turns, by omega, by omega⟩
  · rintro ⟨turns, hlow, hhigh⟩
    have hsame : value + popped ≡ (pushed + turns * 2 ^ bits - popped) + popped [MOD 2 ^ bits] := by
      rw [Nat.sub_add_cancel hlow]
      exact hmod.trans (Nat.ModEq.symm (by simp [Nat.ModEq]))
    have hvalue := Nat.ModEq.eq_of_lt_of_lt (hsame.add_right_cancel' popped) hlt (by omega)
    omega

variable {T : Type v}

/-- Every head a thread still holds was that of the records counted with it, and every
returned value is the difference of two such counters. -/
structure SharedInvariant (bits : Nat) (state : Shared T B capacity size) : Prop where
  counters : Counters state.queue
  loaded : ∀ thread head pushed, state.readers thread = .loadedHead head pushed →
    head = UInt64.ofNat pushed ∧ pushed ≤ state.queue.pushed.length
  returned : ∀ reading ∈ state.returned,
    reading.value = sizeOf bits (UInt64.ofNat reading.pushed) (UInt64.ofNat reading.popped) ∧
      reading.pushed ≤ reading.popped + capacity

theorem sharedInvariant_initial (bits : Nat) (storage : Fin capacity → Record B size) :
    SharedInvariant bits { queue := { storage }, readers := fun _ : T => .idle } where
  counters := counters_initial storage
  loaded := by simp
  returned := by simp

variable [NeZero capacity] [DecidableEq T]

def stepShared (bits : Nat) (state : Shared T B capacity size) :
    Event T B size → Option (Shared T B capacity size)
  | .queue action => (step state.queue action).map fun queue => { state with queue }
  | .sizeLoadHead thread =>
      match state.readers thread with
      | .idle => some { state with
          readers := Function.update state.readers thread
            (.loadedHead state.queue.head state.queue.pushed.length) }
      | _ => none
  | .sizeLoadTail thread =>
      match state.readers thread with
      | .loadedHead head pushed => some { state with
          readers := Function.update state.readers thread .idle
          returned := state.returned ++
            [⟨sizeOf bits head state.queue.tail, pushed, state.queue.popped.length⟩] }
      | _ => none

def runShared (bits : Nat) :
    Shared T B capacity size → List (Event T B size) → Option (Shared T B capacity size)
  | state, [] => some state
  | state, event :: rest => (stepShared bits state event).bind fun next => runShared bits next rest

theorem SharedInvariant.step {bits : Nat} {state next : Shared T B capacity size}
    {event : Event T B size} (h : SharedInvariant bits state) (hcapacity : capacity < UInt64.size)
    (hstep : stepShared bits state event = some next) : SharedInvariant bits next := by
  cases event with
  | queue action =>
    obtain ⟨queue, hqueue, rfl⟩ := Option.map_eq_some_iff.1 hstep
    have hstepped := stepped_of_step hqueue
    refine { h with
      counters := h.counters.step hcapacity hstepped
      loaded := ?_ }
    intro thread head pushed hthread
    obtain ⟨hhead, hle⟩ := h.loaded thread head pushed hthread
    exact ⟨hhead, Nat.le_trans hle hstepped.length_pushed⟩
  | sizeLoadHead thread =>
    simp only [stepShared] at hstep
    split at hstep
    · cases hstep
      refine { h with loaded := ?_ }
      intro other head pushed hother
      dsimp only at hother
      by_cases hsame : other = thread
      · rw [hsame, Function.update_self] at hother
        cases hother
        exact ⟨h.counters.head, Nat.le_refl _⟩
      · rw [Function.update_of_ne hsame] at hother
        exact h.loaded other head pushed hother
    · cases hstep
  | sizeLoadTail thread =>
    simp only [stepShared] at hstep
    split at hstep
    · rename_i head pushed hthread
      cases hstep
      obtain ⟨hhead, hle⟩ := h.loaded thread head pushed hthread
      refine { h with
        loaded := ?_
        returned := ?_ }
      · intro other earlier count hother
        dsimp only at hother
        by_cases hsame : other = thread
        · rw [hsame, Function.update_self] at hother
          cases hother
        · rw [Function.update_of_ne hsame] at hother
          exact h.loaded other earlier count hother
      · intro reading hreading
        rcases List.mem_append.1 hreading with hbefore | hnew
        · exact h.returned reading hbefore
        · obtain rfl := List.mem_singleton.1 hnew
          refine ⟨?_, Nat.le_trans hle h.counters.bounded⟩
          rw [hhead, h.counters.tail]
    · cases hstep

theorem SharedInvariant.run {bits : Nat} {state reached : Shared T B capacity size}
    {events : List (Event T B size)} (h : SharedInvariant bits state)
    (hcapacity : capacity < UInt64.size) (hrun : runShared bits state events = some reached) :
    SharedInvariant bits reached := by
  induction events generalizing state with
  | nil =>
    cases hrun
    exact h
  | cons event rest ih =>
    obtain ⟨next, hstep, hrest⟩ := Option.bind_eq_some_iff.1 hrun
    exact ih (h.step hcapacity hstep) hrest

/-- Over every interleaving, `size` returns at most the capacity, and so does the
statistic made of it, exactly when the tail it loads has not passed the head it had
loaded: no more records have been popped by then than had been pushed (unless the pops
are ahead by whole turns of `std::size_t`, less at most the capacity). -/
theorem size_sane_iff {bits : Nat} (hbits : bits ≤ 64) (hcapacity : capacity < 2 ^ bits)
    (storage : Fin capacity → Record B size) (events : List (Event T B size))
    {state : Shared T B capacity size}
    (hrun : runShared bits { queue := { storage } } events = some state) :
    ∀ reading ∈ state.returned,
      (reading.value ≤ capacity ∧ queuedFrames reading.value ≤ capacity) ↔
        ∃ turns, reading.popped ≤ reading.pushed + turns * 2 ^ bits ∧
          reading.pushed + turns * 2 ^ bits ≤ reading.popped + capacity := by
  have hsize : capacity < UInt64.size :=
    Nat.lt_of_lt_of_le hcapacity (Nat.pow_le_pow_right (by decide) hbits)
  have hinvariant := (sharedInvariant_initial bits storage).run hsize hrun
  intro reading hreading
  obtain ⟨hvalue, hbounded⟩ := hinvariant.returned reading hreading
  rw [← sizeOf_le_iff hbits hcapacity hbounded, ← hvalue]
  exact ⟨fun h => h.1, fun h => ⟨h, Nat.le_trans (Nat.mod_le _ _) h⟩⟩

/-- A third thread loads the head of an empty queue; one record is pushed and popped
before it loads the tail. -/
def overtaken : List (Event Unit UInt8 1) :=
  [.sizeLoadHead ()] ++
    [.callPush fun _ => 7, .pushLoadHead, .pushLoadTail, .writePart 0, .storeHead, .callPop,
      .popLoadTail, .popLoadHead, .readPart 0, .storeTail].map .queue ++
    [.sizeLoadTail ()]

def receiverQueue : Shared Unit UInt8 128 1 := { queue := { storage := fun _ _ => 0 } }

theorem size_overtaken :
    (runShared 32 receiverQueue overtaken).map (fun state =>
      state.returned.map fun reading => (reading.value, queuedFrames reading.value)) =
      some [(4294967295, 65535)] := by
  decide

theorem size_sane_iff_overtaken :
    ∃ state, runShared 32 receiverQueue overtaken = some state ∧
      ∀ reading ∈ state.returned,
        (reading.value ≤ 128 ∧ queuedFrames reading.value ≤ 128) ↔
          ∃ turns, reading.popped ≤ reading.pushed + turns * 2 ^ 32 ∧
            reading.pushed + turns * 2 ^ 32 ≤ reading.popped + 128 := by
  have hrun : runShared 32 receiverQueue overtaken =
      some ((runShared 32 receiverQueue overtaken).get (by decide)) := (Option.some_get _).symm
  exact ⟨_, hrun, size_sane_iff (by decide) (by decide) _ overtaken hrun⟩

end BmwRemote.CanCore.BoundedSpscQueue
