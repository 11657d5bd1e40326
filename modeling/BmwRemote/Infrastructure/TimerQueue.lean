import BmwRemote.Infrastructure.TimerDiscipline

/-! The surroundings of a runtime: a queue of events, one deadline and a clock. The
deadline queues its event when it passes, and nothing withdraws a queued event. Events
carry no identity in the source; here each one of a timer remembers which arming it
belongs to, for the statements only. -/
namespace BmwRemote.Infrastructure.Runtime

open BmwRemote.Domain BmwRemote.Application BmwRemote.Lib

universe u

structure Deadline where
  arming : Nat
  dueMs : Nat
  deriving DecidableEq

/-- The timer behind its port, with the number of times it was armed. -/
structure SessionTimer where
  armings : Nat := 0
  deadline : Option Deadline := none
  deriving DecidableEq

/-- Arming replaces the deadline and cancelling clears it. A call that is refused does
nothing, or does it nevertheless. -/
def SessionTimer.after (nowMs : Nat) (obeysRefused : Bool) (timer : SessionTimer)
    (entry : PortCall × Bool) : SessionTimer :=
  if !entry.2 && !obeysRefused then timer
  else
    match entry.1 with
    | .arm durationMs => ⟨timer.armings + 1, some ⟨timer.armings + 1, nowMs + durationMs.toNat⟩⟩
    | .cancel => { timer with deadline := none }
    | _ => timer

structure QueuedEvent where
  event : Event
  arming : Option Nat := none
  deriving DecidableEq

structure Surroundings (W : Type u) where
  runtime : Runtime
  world : W
  nowMs : Nat := 0
  timer : SessionTimer := {}
  queue : List QueuedEvent := []

/-- What can happen next. An event that is not of the timer is queued, time passes, the
deadline is noticed, or the head of the queue is dispatched. -/
inductive Move where
  | enqueue (event : Event)
  | wait (durationMs : Nat)
  | expire
  | dispatch (vehicle : VehicleState) (timestampMs : UInt32) (obeysRefused : Bool)

namespace Surroundings

variable {W : Type u}

def enqueue (surroundings : Surroundings W) (event : Event) : Surroundings W :=
  if event.type = .timerElapsed then surroundings
  else { surroundings with queue := surroundings.queue ++ [{ event }] }

/-- A deadline that has not passed stays. -/
def expire (surroundings : Surroundings W) : Surroundings W :=
  match surroundings.timer.deadline with
  | none => surroundings
  | some deadline =>
    if surroundings.nowMs < deadline.dueMs then surroundings
    else { surroundings with
      timer := { surroundings.timer with deadline := none }
      queue := surroundings.queue ++ [⟨⟨.timerElapsed, .none⟩, some deadline.arming⟩] }

def dispatch (ports : Ports W) (surroundings : Surroundings W) (vehicle : VehicleState)
    (timestampMs : UInt32) (obeysRefused : Bool) : List (PortCall × Bool) × Surroundings W :=
  match surroundings.queue with
  | [] => ([], surroundings)
  | head :: rest =>
    let (_, runtime, world, entries) := Runtime.dispatch ports.traced surroundings.runtime
      ⟨head.event, vehicle, timestampMs⟩ (surroundings.world, [])
    (entries, { surroundings with
      runtime := runtime
      world := world
      timer := entries.foldl (SessionTimer.after surroundings.nowMs obeysRefused)
        surroundings.timer
      queue := rest })

def machine (ports : Ports W) : Machine (Surroundings W) Move (List (PortCall × Bool)) :=
  fun surroundings move =>
    match move with
    | .enqueue event => ([], surroundings.enqueue event)
    | .wait durationMs => ([], { surroundings with nowMs := surroundings.nowMs + durationMs })
    | .expire => ([], surroundings.expire)
    | .dispatch vehicle timestampMs obeysRefused =>
      surroundings.dispatch ports vehicle timestampMs obeysRefused

def new (config : ControllerConfig) (journal : Option DiagnosticJournal) (world : W) :
    Surroundings W where
  runtime := ⟨Controller.new config, journal⟩
  world := world

end Surroundings

/-! What the calls of one dispatch do to the timer. -/

section Timer

variable {nowMs : Nat} {obeysRefused : Bool} {timer : SessionTimer}

theorem SessionTimer.after_of_not_isTimerCall {entry : PortCall × Bool}
    (h : isTimerCall entry.1 = false) : timer.after nowMs obeysRefused entry = timer := by
  unfold after
  rcases entry with ⟨call, answer⟩
  split
  · rfl
  · cases call <;> first | rfl | cases h

theorem foldl_timerEntries (entries : List (PortCall × Bool)) :
    (timerEntries entries).foldl (SessionTimer.after nowMs obeysRefused) timer =
      entries.foldl (SessionTimer.after nowMs obeysRefused) timer := by
  rw [timerEntries, List.foldl_filter]
  congr 1
  funext timer entry
  cases htimer : isTimerCall entry.1 with
  | true => rfl
  | false => exact (SessionTimer.after_of_not_isTimerCall htimer).symm

theorem SessionTimer.armings_after (entry : PortCall × Bool) :
    timer.armings ≤ (timer.after nowMs obeysRefused entry).armings ∧
      (armedDuration entry.1 = none →
        (timer.after nowMs obeysRefused entry).armings = timer.armings) := by
  unfold after
  rcases entry with ⟨call, answer⟩
  split
  · exact ⟨Nat.le_refl _, fun _ => rfl⟩
  · cases call with
    | arm durationMs => exact ⟨Nat.le_succ _, by intro hnone; cases hnone⟩
    | _ => exact ⟨Nat.le_refl _, fun _ => rfl⟩

theorem armings_foldl (entries : List (PortCall × Bool)) :
    timer.armings ≤ (entries.foldl (SessionTimer.after nowMs obeysRefused) timer).armings := by
  induction entries generalizing timer with
  | nil => exact Nat.le_refl _
  | cons entry rest ih => exact Nat.le_trans (timer.armings_after entry).1 ih

def SessionTimer.Numbered (timer : SessionTimer) : Prop :=
  ∀ deadline ∈ timer.deadline, deadline.arming ≤ timer.armings

theorem SessionTimer.Numbered.foldl (h : timer.Numbered) (entries : List (PortCall × Bool)) :
    (entries.foldl (SessionTimer.after nowMs obeysRefused) timer).Numbered := by
  induction entries generalizing timer with
  | nil => exact h
  | cons entry rest ih =>
    apply ih
    unfold after
    rcases entry with ⟨call, answer⟩
    split
    · exact h
    · cases call with
      | arm durationMs =>
        rintro deadline ⟨⟩
        exact Nat.le_refl _
      | cancel => exact nofun
      | _ => exact h

theorem armings_foldl_of_unarmed {entries : List (PortCall × Bool)}
    (h : armedDurations entries = []) :
    (entries.foldl (SessionTimer.after nowMs obeysRefused) timer).armings = timer.armings := by
  induction entries generalizing timer with
  | nil => rfl
  | cons entry rest ih =>
    unfold armedDurations at h
    rw [List.filterMap_cons] at h
    cases harmed : armedDuration entry.1 with
    | none =>
      rw [harmed] at h
      rw [List.foldl_cons, ih h]
      exact (timer.armings_after entry).2 harmed
    | some durationMs =>
      rw [harmed] at h
      cases h

theorem foldl_armed {entries earlier : List (PortCall × Bool)} {durationMs : UInt32}
    (htimer : timerEntries entries = earlier ++ [(.arm durationMs, true)])
    (harmed : armedDurations entries = [durationMs]) :
    entries.foldl (SessionTimer.after nowMs obeysRefused) timer =
      ⟨timer.armings + 1, some ⟨timer.armings + 1, nowMs + durationMs.toNat⟩⟩ := by
  rw [← armedDurations_timerEntries, htimer, armedDurations_append] at harmed
  have hearlier : armedDurations earlier = [] := by
    have hlength := congrArg List.length harmed
    rw [List.length_append] at hlength
    exact List.length_eq_zero_iff.1 (Nat.add_right_cancel hlength)
  have harmings :
      (earlier.foldl (SessionTimer.after nowMs obeysRefused) timer).armings = timer.armings :=
    armings_foldl_of_unarmed hearlier
  rw [← foldl_timerEntries, htimer, List.foldl_append, List.foldl_cons, List.foldl_nil, ← harmings]
  rfl

end Timer

end BmwRemote.Infrastructure.Runtime
