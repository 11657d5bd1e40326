import BmwRemote.Host.SandboxService
import BmwRemote.Infrastructure.TimerDiscipline

/-! The time of the sandbox. The only command that can take it back is `timer`, in a session
whose stop has gone past its deadline because the watchdog was suspended too often. -/
namespace BmwRemote.Host

open BmwRemote.Domain BmwRemote.Application BmwRemote.Infrastructure BmwRemote.Lib

/-- What a decision does to the timer: nothing, and the state is kept or needs none; a
cancellation on the way to rest; or the timer of the new state. -/
inductive TimerMoved (controller : Controller) (event : Event) (observedMs : UInt32)
    (before : Panel) (state : ControllerState) (after : Panel) : Prop where
  | kept (htimer : after.timer = before.timer)
      (hstarter : after.starterEngagedAtMs = before.starterEngagedAtMs)
      (hstate : state = controller.state ∨ state = .idle ∧ controller.state = .driverControl)
  | cancelled (htimer : after.timer = {})
      (hrest : Runtime.sessionTimeout controller.config state = none)
  | armed (durationMs : UInt32) (harmed : after.timer.armed = true)
      (hchanged : after.timer.changed = true) (hduration : after.timer.duration = durationMs)
      (htimeout : Runtime.sessionTimeout controller.config state = some durationMs)
      (hstate : state ≠ controller.state)
      (hstarter : state = .cranking → after.starterEngagedAtMs = observedMs)
      (hstart : state = .authorizing → event.type = .remoteStartRequested)
      (hstop : state = .stopping → keepsIgnition controller.state = true)

theorem handled_timer {controller : Controller} {event : Event} {vehicle : VehicleState}
    {state : ControllerState} {fault : FaultCode} {actions : List Action}
    (h : Controller.Handled controller event vehicle state fault actions) (decision : Decision)
    (observedMs : UInt32) (before : Panel) :
    TimerMoved controller event observedMs before state
      ((actions.map (Runtime.callOf decision)).foldl (Panel.after observedMs) before) := by
  cases h with
  | silent | ignored | alreadyStopped | stopIgnoredInFault | startDisabled | profileRejected
  | resetRejected => exact .kept rfl rfl (.inl rfl)
  | driveEnded hstate => exact .kept rfl rfl (.inr ⟨rfl, hstate⟩)
  | startRejected | completeDriverTakeover | completeStop | reset | enterFault =>
    exact .cancelled rfl rfl
  | startAccepted hstate htype =>
    exact .armed _ rfl rfl rfl rfl (by simp [hstate]) nofun (fun _ => htype) nofun
  | beginPreparing hstate | beginRunning hstate | beginAwaitingTakeover hstate =>
    exact .armed _ rfl rfl rfl rfl (by simp [hstate]) nofun nofun nofun
  | beginCranking hstate =>
    exact .armed _ rfl rfl rfl rfl (by simp [hstate]) (fun _ => rfl) nofun nofun
  | beginStopping hstate =>
    refine .armed _ rfl rfl rfl rfl ?_ nofun nofun (fun _ => ?_)
    · rcases hstate with hstate | hstate <;> simp [hstate]
    · rcases hstate with hstate | hstate <;> simp [hstate, keepsIgnition]

namespace SandboxSession

def Fits (session : SandboxSession) : Prop :=
  ∀ sum ∈ session.timekeeping.sums, sum.1.toNat + sum.2.toNat < 2 ^ 32

instance (session : SandboxSession) : Decidable (Fits session) :=
  List.decidableBAll _ _

structure Deadlines (session : SandboxSession) : Prop where
  settled : session.timer.armed = true → session.timer.changed = false
  timed : session.timer.armed = true →
    Runtime.sessionTimeout session.runtime.controller.config session.state ≠ none
  due : session.timer.armed = true → session.state ≠ .stopping →
    session.nowMs ≤ session.timer.due
  cranking : session.state = .cranking →
    session.supervisor.starterEngagedAtMs ≤ session.nowMs ∧
      session.timer.due.toNat = session.supervisor.starterEngagedAtMs.toNat + 5000

/-- The two durations that a session counts on. -/
def Timeouts (config : ControllerConfig) : Prop :=
  config.maximumCrankTimeMs = 5000 ∧ config.stopConfirmationTimeoutMs = 3000

theorem deadlines_of_unarmed {session : SandboxSession} (hunarmed : session.timer.armed = false)
    (hstate : session.state ≠ .cranking) : Deadlines session := by
  refine ⟨?_, ?_, ?_, fun hcranking => absurd hcranking hstate⟩
  all_goals
    intro harmed
    cases hunarmed.symm.trans harmed

section Dispatch

variable {session : SandboxSession} {event : Event}

theorem sums_dispatch (event : Event) (session : SandboxSession) :
    (session.dispatch event).timekeeping.sums = session.timekeeping.sums ++
      settling session.nowMs (Runtime.dispatch (supervisedPorts sandboxPorts) session.runtime
        ⟨event, session.vehicle, session.nowMs⟩ session.supervised).2.2.2.timer := rfl

theorem state_dispatch (event : Event) (session : SandboxSession) :
    (session.dispatch event).state = (Runtime.dispatch (supervisedPorts sandboxPorts)
      session.runtime ⟨event, session.vehicle, session.nowMs⟩ session.supervised).2.1.state := rfl

theorem nowMs_dispatch (event : Event) (session : SandboxSession) :
    (session.dispatch event).nowMs = session.nowMs := rfl

theorem Fits.of_dispatch (h : Fits (session.dispatch event)) : Fits session :=
  fun sum hmem => h sum (List.mem_append_left _ hmem)

inductive Dispatched (session : SandboxSession) (event : Event) (after : SandboxSession) : Prop
  | moved (panel : Panel)
      (hmoved : TimerMoved session.runtime.controller event session.supervisor.lastObservedMs
        (Host.panel session.supervised) after.state panel)
      (htimer : after.timer = panel.timer.settle session.nowMs)
      (hstarter : after.supervisor.starterEngagedAtMs = panel.starterEngagedAtMs)
      (hfault : after.supervisor.fault = session.supervisor.fault)
      (hsums : after.timekeeping.sums =
        session.timekeeping.sums ++ settling session.nowMs panel.timer)
  | refused (hstate : after.state = .fault) (hfault : after.supervisor.fault ≠ .none)
      (htimer : after.timer = {}) (hsums : after.timekeeping.sums = session.timekeeping.sums)

theorem dispatched (event : Event) (session : SandboxSession) :
    Dispatched session event (session.dispatch event) := by
  let result := Runtime.dispatch (supervisedPorts sandboxPorts) session.runtime
    ⟨event, session.vehicle, session.nowMs⟩ session.supervised
  have htimer : (session.dispatch event).timer = result.2.2.2.timer.settle session.nowMs := rfl
  rcases dispatch_outcome session.runtime ⟨event, session.vehicle, session.nowMs⟩
    session.supervised with ⟨hcontroller, hfault, hpanel⟩ | ⟨-, hstate, hfault, hcancelled⟩
  · rcases session.runtime.controller.handle_cases event session.vehicle with
      ⟨state, fault, actions, hcase, hafter, hactions⟩
    have hcalls : Runtime.callsOf (session.runtime.controller.handle event session.vehicle).1 =
        actions.map (Runtime.callOf _) := congrArg (List.map (Runtime.callOf _)) hactions
    have hstate : (session.dispatch event).state = state := by
      rw [state_dispatch, Runtime.state, hcontroller, hafter]
    have hmoved := handled_timer hcase
      (session.runtime.controller.handle event session.vehicle).1
      session.supervisor.lastObservedMs (Host.panel session.supervised)
    rw [← hcalls, ← hstate] at hmoved
    refine .moved _ hmoved ?_ ?_ hfault ?_
    · rw [htimer]
      exact congrArg (fun shown : Panel => shown.timer.settle session.nowMs) hpanel
    · exact congrArg (·.starterEngagedAtMs) hpanel
    · rw [sums_dispatch]
      exact congrArg (fun shown : Panel => _ ++ settling session.nowMs shown.timer) hpanel
  · refine .refused hstate hfault ?_ ?_
    · rw [htimer]
      exact congrArg (SandboxTimer.settle session.nowMs) hcancelled
    · rw [sums_dispatch, hcancelled]
      exact List.append_nil _

theorem settle_eq_self {timer : SandboxTimer} (h : timer.armed = true → timer.changed = false)
    (nowMs : UInt32) : timer.settle nowMs = timer := by
  unfold SandboxTimer.settle
  rw [if_neg]
  rw [Bool.and_eq_true, not_and, Bool.not_eq_true]
  exact h

theorem due_settle {timer : SandboxTimer} {nowMs : UInt32} (harmed : timer.armed = true)
    (hchanged : timer.changed = true) :
    timer.settle nowMs = { timer with due := nowMs + timer.duration, changed := false } ∧
      (nowMs, timer.duration) ∈ settling nowMs timer := by
  unfold SandboxTimer.settle settling
  rw [harmed, hchanged]
  exact ⟨rfl, List.mem_singleton_self _⟩

theorem config_dispatch (event : Event) (session : SandboxSession) :
    (session.dispatch event).runtime.controller.config =
      session.runtime.controller.config := by
  rcases dispatch_outcome session.runtime ⟨event, session.vehicle, session.nowMs⟩
    session.supervised with ⟨hcontroller, -⟩ | ⟨hconfig, -⟩
  · exact (congrArg (·.config) hcontroller).trans
      (session.runtime.controller.handleEvent_config event session.vehicle)
  · exact hconfig

theorem Deadlines.dispatch (h : Deadlines session)
    (htimeouts : Timeouts session.runtime.controller.config)
    (hobserved : session.supervisor.lastObservedMs = session.nowMs) (event : Event)
    (hfits : Fits (session.dispatch event)) : Deadlines (session.dispatch event) := by
  have hconfig := config_dispatch event session
  have hnow := nowMs_dispatch event session
  rcases dispatched event session with ⟨panel, hmoved, htimer, hstarter, -, hsums⟩ |
    ⟨hstate, -, htimer, -⟩
  · cases hmoved with
    | kept hkept hengaged hstate =>
      have hsame : (session.dispatch event).timer = session.timer := by
        rw [htimer, hkept]
        exact settle_eq_self h.settled session.nowMs
      have hstays : session.timer.armed = true →
          (session.dispatch event).state = session.state := by
        intro harmed
        rcases hstate with hstate | ⟨-, hdriving⟩
        · exact hstate
        · have htimed := h.timed harmed
          unfold state Runtime.state at htimed
          rw [hdriving] at htimed
          exact absurd rfl htimed
      refine ⟨?_, ?_, ?_, fun hcranking => ?_⟩
      · rw [hsame]
        exact h.settled
      · rw [hsame, hconfig]
        intro harmed
        rw [hstays harmed]
        exact h.timed harmed
      · rw [hsame, hnow]
        intro harmed
        rw [hstays harmed]
        exact h.due harmed
      · have hbefore : session.state = .cranking := by
          rcases hstate with hstate | ⟨hidle, -⟩
          · exact hstate.symm.trans hcranking
          · cases hidle.symm.trans hcranking
        rw [hsame, hnow, hstarter, hengaged]
        exact h.cranking hbefore
    | cancelled hcancelled hrest =>
      refine deadlines_of_unarmed ?_ fun hcranking => ?_
      · rw [htimer, hcancelled]
        rfl
      · rw [hcranking] at hrest
        cases hrest
    | armed durationMs harmed hchanged hduration htimeout hstate hengaged =>
      rcases @due_settle _ session.nowMs harmed hchanged with ⟨hsettled, hmem⟩
      have hfit := hfits _ (hsums ▸ List.mem_append_right _ hmem)
      have hdue : (session.nowMs + durationMs).toNat = session.nowMs.toNat + durationMs.toNat := by
        rw [← hduration]
        exact toNat_add_of_fits hfit
      rw [← htimer, hduration] at hsettled
      refine ⟨fun _ => ?_, fun _ => ?_, fun _ _ => ?_, fun hcranking => ?_⟩
      · rw [hsettled]
      · rw [hconfig, htimeout]
        exact nofun
      · rw [hsettled, hnow, UInt32.le_iff_toNat_le, hdue]
        exact Nat.le_add_right _ _
      · have hcrank : durationMs = 5000 := by
          rw [hcranking] at htimeout
          exact (Option.some.inj htimeout).symm.trans htimeouts.1
        rw [hsettled, hnow, hstarter, hengaged hcranking, hobserved]
        refine ⟨UInt32.le_refl _, ?_⟩
        change (session.nowMs + durationMs).toNat = _
        rw [hdue, hcrank]
        rfl
  · refine deadlines_of_unarmed ?_ ?_
    · rw [htimer]
    · rw [hstate]
      decide

/-- A dispatch that ends in `Stopping` keeps the deadline there, or sets it from a state
with the ignition on. -/
theorem stopping_dispatch (h : Deadlines session)
    (htimeouts : Timeouts session.runtime.controller.config)
    (hfits : Fits (session.dispatch event)) (hstopping : (session.dispatch event).state = .stopping) :
    (session.state = .stopping ∧ (session.dispatch event).timer = session.timer) ∨
      (keepsIgnition session.state = true ∧ (session.dispatch event).timer.armed = true ∧
        (session.dispatch event).timer.due.toNat = session.nowMs.toNat + 3000) := by
  rcases dispatched event session with ⟨panel, hmoved, htimer, -, -, hsums⟩ |
    ⟨hstate, -⟩
  · cases hmoved with
    | kept hkept _ hstate =>
      have hsame : (session.dispatch event).timer = session.timer := by
        rw [htimer, hkept]
        exact settle_eq_self h.settled session.nowMs
      rcases hstate with hstate | ⟨hidle, -⟩
      · exact .inl ⟨hstate.symm.trans hstopping, hsame⟩
      · cases hidle.symm.trans hstopping
    | cancelled _ hrest =>
      rw [hstopping] at hrest
      cases hrest
    | armed durationMs harmed hchanged hduration htimeout _ _ _ hstop =>
      rcases @due_settle _ session.nowMs harmed hchanged with ⟨hsettled, hmem⟩
      have hdue := toNat_add_of_fits (hfits _ (hsums ▸ List.mem_append_right _ hmem))
      have hstopTime : durationMs = 3000 := by
        rw [hstopping] at htimeout
        exact (Option.some.inj htimeout).symm.trans htimeouts.2
      rw [← htimer] at hsettled
      refine .inr ⟨hstop hstopping, ?_, ?_⟩
      · rw [hsettled]
        exact harmed
      · rw [hsettled]
        change (session.nowMs + panel.timer.duration).toNat = _
        rw [hdue, hduration, hstopTime]
        rfl
  · cases hstate.symm.trans hstopping

theorem handled_dispatch (event : Event) (session : SandboxSession) :
    (session.dispatch event).state = .fault ∨ ∃ fault actions,
      Controller.Handled session.runtime.controller event session.vehicle
        (session.dispatch event).state fault actions := by
  rcases dispatch_outcome session.runtime ⟨event, session.vehicle, session.nowMs⟩
    session.supervised with ⟨hcontroller, -⟩ | ⟨-, hstate, -⟩
  · rw [state_dispatch, Runtime.state, hcontroller]
    exact .inr ⟨_, _, session.runtime.controller.handle_handled event session.vehicle⟩
  · exact .inl hstate

theorem authorizing_dispatch (hauthorizing : (session.dispatch event).state = .authorizing) :
    event.type = .remoteStartRequested ∨
      session.state = .authorizing ∧ event.type ≠ .vehicleStateUpdated := by
  rcases handled_dispatch event session with hfault | ⟨fault, actions, hhandled⟩
  · cases hfault.symm.trans hauthorizing
  generalize (session.dispatch event).state = after at hhandled hauthorizing
  cases hhandled with
  | startAccepted _ htype => exact .inl htype
  | silent hsilent =>
    refine .inr ⟨hauthorizing, ?_⟩
    cases hsilent <;> simp_all
  | ignored hignored =>
    refine .inr ⟨hauthorizing, ?_⟩
    rcases hignored with ⟨htype, -⟩ | ⟨htype, -⟩ | ⟨htype, -⟩ | ⟨htype, -⟩ <;> simp [htype]
  | alreadyStopped hstate | stopIgnoredInFault hstate | startDisabled hstate
  | profileRejected hstate | resetRejected hstate => cases hstate.symm.trans hauthorizing
  | _ => cases hauthorizing

theorem stopping_elapsed (hstopping : session.state = .stopping) :
    (session.dispatch { type := .timerElapsed }).state = .fault := by
  rcases handled_dispatch { type := .timerElapsed } session with hfault | ⟨fault, actions, hhandled⟩
  · exact hfault
  have hbefore : session.runtime.controller.state = .stopping := hstopping
  generalize (session.dispatch { type := .timerElapsed }).state = after at hhandled ⊢
  cases hhandled with
  | enterFault => rfl
  | silent hsilent => cases hsilent <;> simp_all
  | ignored hignored => simp at hignored
  | completeStop hcause => simp at hcause
  | beginStopping hstate => rcases hstate with hstate | hstate <;> cases hstate.symm.trans hbefore
  | alreadyStopped hstate | stopIgnoredInFault hstate | startDisabled hstate
  | profileRejected hstate | resetRejected hstate | startAccepted hstate | startRejected hstate
  | beginPreparing hstate | beginCranking hstate | beginRunning hstate
  | beginAwaitingTakeover hstate | completeDriverTakeover hstate | driveEnded hstate
  | reset hstate => cases hstate.symm.trans hbefore

theorem faulted_dispatch (hbefore : session.state ≠ .fault)
    (hfault : (session.dispatch event).state = .fault) : (session.dispatch event).timer = {} ∧
      (session.dispatch event).timekeeping.sums = session.timekeeping.sums := by
  rcases dispatched event session with ⟨panel, hmoved, htimer, -, -, hsums⟩ |
    ⟨-, -, htimer, hsums⟩
  · rw [hfault] at hmoved
    cases hmoved with
    | kept _ _ hstate =>
      rcases hstate with hstate | ⟨hidle, -⟩
      · exact absurd hstate.symm hbefore
      · cases hidle
    | cancelled hcancelled =>
      rw [htimer, hsums, hcancelled]
      exact ⟨rfl, List.append_nil _⟩
    | armed _ _ _ _ htimeout => cases htimeout
  · exact ⟨htimer, hsums⟩

end Dispatch

end SandboxSession

end BmwRemote.Host
