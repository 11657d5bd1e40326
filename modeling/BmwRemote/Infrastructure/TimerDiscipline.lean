import BmwRemote.Infrastructure.Runtime

/-! The session timer. Every timed state is entered with its own timer armed and
left with that timer cancelled or replaced; the states of a session come in one
order, so no run of events arms a timer twice. -/
namespace BmwRemote.Infrastructure.Runtime

open BmwRemote.Domain BmwRemote.Application BmwRemote.Lib

universe u

def sessionTimeout (config : ControllerConfig) : ControllerState → Option UInt32
  | .authorizing => some config.authorizationTimeoutMs
  | .preparing => some config.preparationDelayMs
  | .cranking => some config.maximumCrankTimeMs
  | .running => some config.maximumRemoteRunTimeMs
  | .awaitingTakeover => some config.driverTakeoverTimeoutMs
  | .stopping => some config.stopConfirmationTimeoutMs
  | .idle | .driverControl | .fault => none

def sessionTimeouts (config : ControllerConfig) : List UInt32 :=
  [config.authorizationTimeoutMs, config.preparationDelayMs, config.maximumCrankTimeMs,
    config.maximumRemoteRunTimeMs, config.driverTakeoverTimeoutMs,
    config.stopConfirmationTimeoutMs]

/-- How many timers of a session a state has behind it, its own included. -/
def sessionStage : ControllerState → Nat
  | .idle | .driverControl | .fault => 0
  | .authorizing => 1
  | .preparing => 2
  | .cranking => 3
  | .running => 4
  | .awaitingTakeover => 5
  | .stopping => 6

def isTimerCall : PortCall → Bool
  | .arm _ | .cancel => true
  | _ => false

def armedDuration : PortCall → Option UInt32
  | .arm durationMs => some durationMs
  | _ => none

def timerEntries (log : List (PortCall × Bool)) : List (PortCall × Bool) :=
  log.filter fun entry => isTimerCall entry.1

def armedDurations (log : List (PortCall × Bool)) : List UInt32 :=
  log.filterMap fun entry => armedDuration entry.1

@[simp] theorem timerEntries_append (left right : List (PortCall × Bool)) :
    timerEntries (left ++ right) = timerEntries left ++ timerEntries right :=
  List.filter_append ..

@[simp] theorem armedDurations_append (left right : List (PortCall × Bool)) :
    armedDurations (left ++ right) = armedDurations left ++ armedDurations right :=
  List.filterMap_append ..

theorem timerEntries_accepted (calls : List PortCall) :
    timerEntries (calls.map fun call => (call, true)) =
      (calls.filter isTimerCall).map fun call => (call, true) := by
  unfold timerEntries
  rw [List.filter_map]
  rfl

theorem armedDurations_timerEntries (log : List (PortCall × Bool)) :
    armedDurations (timerEntries log) = armedDurations log := by
  unfold armedDurations timerEntries
  induction log with
  | nil => rfl
  | cons entry rest ih =>
    rw [List.filter_cons, List.filterMap_cons, ← ih]
    cases entry with
    | mk call answer => cases call <;> rfl

def Resting (state : ControllerState) : Prop :=
  state = .idle ∨ state = .driverControl ∨ state = .fault

theorem resting_iff (state : ControllerState) : Resting state ↔ sessionStage state = 0 := by
  cases state <;> simp [Resting, sessionStage]

theorem resting_iff_sessionTimeout (config : ControllerConfig) (state : ControllerState) :
    Resting state ↔ sessionTimeout config state = none := by
  cases state <;> simp [Resting, sessionTimeout]

theorem take_sessionStage {config : ControllerConfig} {state : ControllerState}
    {durationMs : UInt32} (h : sessionTimeout config state = some durationMs) :
    (sessionTimeouts config).take (sessionStage state) =
      (sessionTimeouts config).take (sessionStage state - 1) ++ [durationMs] := by
  cases state with
  | idle | driverControl | fault => cases h
  | _ =>
    cases h
    rfl

/-- What a decision asks of the timer: nothing, and the timed state is kept; a
cancellation on the way to rest; or the timer of a later state of the session. -/
inductive TimerPlan (config : ControllerConfig) (before after : ControllerState)
    (calls : List PortCall) : Prop where
  | kept (hcalls : calls.filter isTimerCall = [])
      (hstate : after = before ∨ before = .driverControl ∧ after = .idle)
  | cancel (hcalls : calls.filter isTimerCall = [.cancel]) (hrest : sessionStage after = 0)
  | arm (earlier : List PortCall) (durationMs : UInt32)
      (hcalls : calls.filter isTimerCall = earlier ++ [.arm durationMs])
      (hearlier : earlier = [] ∨ earlier = [.cancel])
      (htimeout : sessionTimeout config after = some durationMs)
      (hlater : sessionStage before < sessionStage after)

theorem timerPlan_handled {controller : Controller} {event : Event} {vehicle : VehicleState}
    {state : ControllerState} {fault : FaultCode} {actions : List Action}
    (h : Controller.Handled controller event vehicle state fault actions) (decision : Decision) :
    TimerPlan controller.config controller.state state (actions.map (callOf decision)) := by
  cases h with
  | silent | ignored | alreadyStopped | stopIgnoredInFault | startDisabled | profileRejected
  | resetRejected => exact .kept rfl (.inl rfl)
  | driveEnded hstate => exact .kept rfl (.inr ⟨hstate, rfl⟩)
  | startRejected | completeDriverTakeover | completeStop | reset | enterFault =>
    exact .cancel rfl rfl
  | startAccepted hstate =>
    exact .arm [] _ rfl (.inl rfl) rfl (by simp [hstate, sessionStage])
  | beginStopping hstate =>
    apply TimerPlan.arm [.cancel] _ rfl (.inr rfl) rfl
    rcases hstate with hstate | hstate <;> simp [hstate, sessionStage]
  | _ hstate => exact .arm [.cancel] _ rfl (.inr rfl) rfl (by simp [hstate, sessionStage])

/-- No timed state outlives its own timer. -/
theorem state_ne_of_timerElapsed {controller : Controller} {event : Event}
    {vehicle : VehicleState} {state : ControllerState} {fault : FaultCode} {actions : List Action}
    (h : Controller.Handled controller event vehicle state fault actions)
    (htype : event.type = .timerElapsed)
    (htimed : sessionStage controller.state ≠ 0) : state ≠ controller.state := by
  intro hsame
  cases h with
  | silent hsilent =>
    cases hsilent with
    | resting hstate => rcases hstate with hstate | hstate <;> simp [hstate, sessionStage] at htimed
    | driving hstate => simp [hstate, sessionStage] at htimed
    | _ _ hupdate => simp [htype] at hupdate
  | ignored hevent => simp [htype] at hevent
  | enterFault => simp [← hsame, sessionStage] at htimed
  | completeStop | driveEnded | startRejected | reset => simp [← hsame, sessionStage] at htimed
  | beginCranking hstate => simp [hstate] at hsame
  | beginStopping hstate => simp [← hsame] at hstate
  | _ _ hevent => simp [htype] at hevent

inductive TimerStep (config : ControllerConfig) (before after : ControllerState)
    (entries : List (PortCall × Bool)) : Prop where
  | kept (htimer : timerEntries entries = [])
      (hstate : after = before ∨ before = .driverControl ∧ after = .idle)
  | cancelled (earlier : List (PortCall × Bool)) (answer : Bool)
      (htimer : timerEntries entries = earlier ++ [(.cancel, answer)])
      (harmed : armedDurations entries = [] ∨ ∃ stage durationMs,
        armedDurations entries = [durationMs] ∧ sessionTimeout config stage = some durationMs ∧
          sessionStage before < sessionStage stage)
      (hrest : sessionStage after = 0)
  | armed (earlier : List (PortCall × Bool)) (durationMs : UInt32)
      (htimer : timerEntries entries = earlier ++ [(.arm durationMs, true)])
      (harmed : armedDurations entries = [durationMs])
      (htimeout : sessionTimeout config after = some durationMs)
      (hlater : sessionStage before < sessionStage after)

theorem timerStep_accepted {config : ControllerConfig} {before after : ControllerState}
    {calls : List PortCall} (h : TimerPlan config before after calls) :
    TimerStep config before after (calls.map fun call => (call, true)) := by
  have htimer := timerEntries_accepted calls
  have harmed := armedDurations_timerEntries (calls.map fun call => (call, true))
  cases h with
  | kept hcalls hstate =>
    rw [hcalls] at htimer
    exact .kept htimer hstate
  | cancel hcalls hrest =>
    rw [hcalls] at htimer
    rw [htimer] at harmed
    exact .cancelled [] true htimer (.inl harmed.symm) hrest
  | arm earlier durationMs hcalls hearlier htimeout hlater =>
    rw [hcalls, List.map_append] at htimer
    rw [htimer] at harmed
    apply TimerStep.armed _ durationMs htimer _ htimeout hlater
    rw [← harmed]
    cases hearlier with
    | inl hnone => rw [hnone]; rfl
    | inr hcancel => rw [hcancel]; rfl

theorem armedDurations_refused {calls done rest : List PortCall} {refused : PortCall}
    (h : calls = done ++ refused :: rest) :
    (armedDurations (done.map (fun call => (call, true)) ++ [(refused, false)])).Sublist
      (armedDurations (calls.map fun call => (call, true))) := by
  rw [h, List.map_append, List.map_cons, armedDurations_append, armedDurations_append]
  apply List.Sublist.append_left
  unfold armedDurations
  cases harm : armedDuration refused with
  | none => simp [harm]
  | some durationMs => simp [harm]

/-- A dispatch arms at most one timer, that of a later state. -/
theorem TimerStep.armed_at_most_once {config : ControllerConfig} {before after : ControllerState}
    {entries : List (PortCall × Bool)} (h : TimerStep config before after entries) :
    armedDurations entries = [] ∨ ∃ stage durationMs, armedDurations entries = [durationMs] ∧
      sessionTimeout config stage = some durationMs ∧
      sessionStage before < sessionStage stage := by
  cases h with
  | kept htimer =>
    rw [← armedDurations_timerEntries, htimer]
    exact .inl rfl
  | cancelled _ _ _ harmed => exact harmed
  | armed _ durationMs _ harmed htimeout hlater =>
    exact .inr ⟨after, durationMs, harmed, htimeout, hlater⟩

theorem timerEntries_safing {decision : Decision} {answers : List Bool}
    (h : answers.length = (safingCalls decision).length) :
    ∃ answer, timerEntries ((safingCalls decision).zip answers) = [(.cancel, answer)] := by
  cases answers with
  | nil => cases h
  | cons answer rest =>
    refine ⟨answer, ?_⟩
    have hsilent : ∀ call ∈ (safingCalls decision).tail, isTimerCall call = false := by
      rw [safingCalls, List.tail_cons, List.forall_mem_cons, List.forall_mem_cons,
        List.forall_mem_singleton]
      exact ⟨rfl, rfl, rfl⟩
    have hrest : timerEntries ((safingCalls decision).tail.zip rest) = [] := by
      apply List.filter_eq_nil_iff.2
      intro entry hmem
      simp [hsilent entry.1 (List.of_mem_zip hmem).1]
    exact congrArg ((PortCall.cancel, answer) :: ·) hrest

theorem timerStep_refused {config : ControllerConfig} {before after : ControllerState}
    {calls done rest : List PortCall} {refused : PortCall} {decision : Decision}
    {answers : List Bool} (h : TimerPlan config before after calls)
    (hcalls : calls = done ++ refused :: rest)
    (hlength : answers.length = (safingCalls decision).length) :
    TimerStep config before .fault (done.map (fun call => (call, true)) ++ [(refused, false)] ++
      (safingCalls decision).zip answers) := by
  rcases timerEntries_safing hlength with ⟨answer, hsafing⟩
  have hsilent := armedDurations_timerEntries ((safingCalls decision).zip answers)
  rw [hsafing] at hsilent
  apply TimerStep.cancelled _ answer ((timerEntries_append _ _).trans (by rw [hsafing])) _ rfl
  rw [armedDurations_append, ← hsilent]
  have hmade := armedDurations_refused hcalls
  rw [show armedDurations [(PortCall.cancel, answer)] = [] from rfl, List.append_nil]
  rcases (timerStep_accepted h).armed_at_most_once with hnone | ⟨stage, durationMs, hone, htimeout,
    hlater⟩
  · rw [hnone] at hmade
    exact .inl (List.sublist_nil.1 hmade)
  · rw [hone] at hmade
    rcases List.sublist_cons_iff.1 hmade with hnil | ⟨front, hfront, hnil⟩
    · exact .inl (List.sublist_nil.1 hnil)
    · rw [List.sublist_nil.1 hnil] at hfront
      exact .inr ⟨stage, durationMs, hfront, htimeout, hlater⟩

theorem timerStep_dispatch (ports : Ports W) (runtime : Runtime) (input : Input)
    (world : W × List (PortCall × Bool)) :
    ∃ entries, (dispatch ports.traced runtime input world).2.2.2 = world.2 ++ entries ∧
      (dispatch ports.traced runtime input world).2.1.controller.config =
        runtime.controller.config ∧
      TimerStep runtime.controller.config runtime.state
        (dispatch ports.traced runtime input world).2.1.state entries := by
  rcases runtime.controller.handle_cases input.event input.vehicle with
    ⟨state, fault, actions, hcase, hafter, hactions⟩
  have hplan := timerPlan_handled hcase (runtime.controller.handle input.event input.vehicle).1
  rw [← hactions, ← callsOf] at hplan
  unfold Runtime.state
  rcases dispatch_traced ports runtime input world with ⟨hlog, -, hcontroller⟩ |
    ⟨done, refused, rest, answers, hcalls, hlog, hlength, hcontroller, -, -⟩
  · refine ⟨_, hlog, ?_, ?_⟩
    · rw [hcontroller, hafter]
    · rw [hcontroller, hafter]
      exact timerStep_accepted hplan
  · rw [List.append_assoc, List.append_assoc, ← List.append_assoc (List.map _ done)] at hlog
    refine ⟨_, hlog, ?_, ?_⟩
    · rw [hcontroller]
    · rw [hcontroller]
      exact timerStep_refused hplan hcalls hlength

/-- What the last timer call of a record says about the state reached. -/
structure Disciplined (config : ControllerConfig) (state : ControllerState)
    (log : List (PortCall × Bool)) : Prop where
  timed : ∀ durationMs, sessionTimeout config state = some durationMs →
    (timerEntries log).getLast? = some (.arm durationMs, true)
  resting : Resting state → ∀ last, (timerEntries log).getLast? = some last → last.1 = .cancel

theorem Disciplined.step {config : ControllerConfig} {before after : ControllerState}
    {log entries : List (PortCall × Bool)} (h : Disciplined config before log)
    (hstep : TimerStep config before after entries) : Disciplined config after (log ++ entries) := by
  have htimer := timerEntries_append log entries
  cases hstep with
  | kept hnone hstate =>
    rw [hnone, List.append_nil] at htimer
    cases hstate with
    | inl hsame =>
      rw [hsame]
      exact ⟨fun durationMs => htimer ▸ h.timed durationMs, htimer ▸ h.resting⟩
    | inr hended =>
      rw [hended.2]
      refine ⟨nofun, fun _ => ?_⟩
      rw [htimer]
      exact h.resting (.inr (.inl hended.1))
  | cancelled earlier answer hcancel _ hrest =>
    rw [hcancel, ← List.append_assoc] at htimer
    have hresting := (resting_iff after).2 hrest
    constructor
    · intro durationMs htimeout
      rw [(resting_iff_sessionTimeout config after).1 hresting] at htimeout
      cases htimeout
    · intro _ last hlast
      rw [htimer, List.getLast?_concat] at hlast
      cases hlast
      rfl
  | armed earlier durationMs harm _ htimeout _ =>
    rw [harm, ← List.append_assoc] at htimer
    constructor
    · intro expected hexpected
      cases htimeout.symm.trans hexpected
      rw [htimer, List.getLast?_concat]
    · intro hresting
      rw [(resting_iff_sessionTimeout config after).1 hresting] at htimeout
      cases htimeout

theorem sublist_step {config : ControllerConfig} {before after : ControllerState}
    {armed : List UInt32} {entries : List (PortCall × Bool)}
    (h : armed.Sublist ((sessionTimeouts config).take (sessionStage before)))
    (hstep : TimerStep config before after entries) :
    (armed ++ armedDurations entries).Sublist (sessionTimeouts config) ∧
      (¬ Resting after → (armed ++ armedDurations entries).Sublist
        ((sessionTimeouts config).take (sessionStage after))) := by
  -- arming a later stage extends the list by that stage's timer
  have hextend : ∀ stage durationMs, sessionTimeout config stage = some durationMs →
      sessionStage before < sessionStage stage →
      (armed ++ [durationMs]).Sublist ((sessionTimeouts config).take (sessionStage stage)) := by
    intro stage durationMs htimeout hlater
    rw [take_sessionStage htimeout]
    apply List.Sublist.append_right
    exact h.trans (List.take_sublist_take_left (by omega))
  constructor
  · rcases hstep.armed_at_most_once with hnone | ⟨stage, durationMs, hone, htimeout, hlater⟩
    · rw [hnone, List.append_nil]
      exact h.trans (List.take_sublist _ _)
    · rw [hone]
      exact (hextend stage durationMs htimeout hlater).trans (List.take_sublist _ _)
  · intro hactive
    cases hstep with
    | kept hnone hstate =>
      rw [← armedDurations_timerEntries, hnone]
      rcases hstate with hsame | ⟨-, hidle⟩
      · rw [hsame]
        simpa [armedDurations] using h
      · exact absurd (.inl hidle) hactive
    | cancelled _ _ _ _ hrest => exact absurd ((resting_iff after).2 hrest) hactive
    | armed _ durationMs _ harmed htimeout hlater =>
      rw [harmed]
      exact hextend after durationMs htimeout hlater

section Runs

variable (ports : Ports W) (config : ControllerConfig)

theorem disciplined_run (journal : Option DiagnosticJournal) (start : W) (inputs : List Input) :
    let reached := (machine ports.traced).final (⟨Controller.new config, journal⟩, start, []) inputs
    reached.1.controller.config = config ∧ Disciplined config reached.1.state reached.2.2 := by
  apply (machine ports.traced).invariant_induction
    (fun state => state.1.controller.config = config ∧ Disciplined config state.1.state state.2.2)
  · exact ⟨rfl, nofun, fun _ _ hlast => by simp [timerEntries] at hlast⟩
  · intro state h input
    rcases timerStep_dispatch ports state.1 input state.2 with ⟨entries, hlog, hconfig, hstep⟩
    rw [h.1] at hstep hconfig
    refine ⟨hconfig, ?_⟩
    have hnext := h.2.step hstep
    rw [← hlog] at hnext
    exact hnext

theorem armed_session (start : Runtime × W × List (PortCall × Bool))
    (hconfig : start.1.controller.config = config) (session : List Input)
    (hbetween : ∀ front back, session = front ++ back → front ≠ [] → back ≠ [] →
      ¬ Resting ((machine ports.traced).final start front).1.state) :
    let reached := (machine ports.traced).final start session
    ∃ entries, reached.2.2 = start.2.2 ++ entries ∧ reached.1.controller.config = config ∧
      (armedDurations entries).Sublist (sessionTimeouts config) ∧
      (session = [] ∨ ¬ Resting reached.1.state → (armedDurations entries).Sublist
        ((sessionTimeouts config).take (sessionStage reached.1.state))) := by
  induction session using List.reverseRecOn with
  | nil => exact ⟨[], by simp, hconfig, List.nil_sublist _, fun _ => List.nil_sublist _⟩
  | append_singleton session input ih =>
    have hfront : session = [] ∨
        ¬ Resting ((machine ports.traced).final start session).1.state := by
      by_cases hnone : session = []
      · exact .inl hnone
      · exact .inr (hbetween session [input] rfl hnone (by simp))
    rcases ih (fun front back hsplit hfront hback =>
      hbetween front (back ++ [input]) (by rw [hsplit, List.append_assoc]) hfront (by simp)) with
      ⟨entries, hlog, hreached, -, hstages⟩
    rcases timerStep_dispatch ports ((machine ports.traced).final start session).1 input
      ((machine ports.traced).final start session).2 with ⟨added, hadded, hafter, hstep⟩
    rw [hreached] at hstep hafter
    have hsub := sublist_step (hstages hfront) hstep
    rw [← armedDurations_append] at hsub
    rw [Machine.final_concat]
    refine ⟨entries ++ added, ?_, hafter, hsub.1, ?_⟩
    · rw [← List.append_assoc, ← hlog]
      exact hadded
    · intro hactive
      apply hsub.2
      cases hactive with
      | inl hnone => simp at hnone
      | inr hactive => exact hactive

theorem state_ne_of_dispatch_timerElapsed (runtime : Runtime) (input : Input)
    (world : W × List (PortCall × Bool)) (htype : input.event.type = .timerElapsed)
    (htimed : ¬ Resting runtime.state) :
    (dispatch ports.traced runtime input world).2.1.state ≠ runtime.state := by
  rcases dispatch_traced ports runtime input world with ⟨-, -, hcontroller⟩ |
    ⟨_, refused, _, _, -, -, -, hcontroller, -, -⟩
  · rcases runtime.controller.handle_cases input.event input.vehicle with
      ⟨state, fault, actions, hcase, hafter, -⟩
    unfold Runtime.state
    rw [hcontroller, hafter]
    exact state_ne_of_timerElapsed hcase htype (mt (resting_iff _).2 htimed)
  · intro hsame
    rw [← hsame] at htimed
    exact htimed (.inr (.inr (congrArg (·.state) hcontroller)))

/-- After every dispatch of every run the last timer call matches the state; the
timers armed from any point up to the next visit of a resting state are those of
one session, in order; and an elapsed timer ends the state it was armed for. -/
theorem timer_discipline (journal : Option DiagnosticJournal) (start : W) (inputs : List Input) :
    let run := (machine ports.traced).final (⟨Controller.new config, journal⟩, start, [])
    (∀ durationMs, sessionTimeout config (run inputs).1.state = some durationMs →
      (timerEntries (run inputs).2.2).getLast? = some (.arm durationMs, true)) ∧
    (Resting (run inputs).1.state → ∀ last,
      (timerEntries (run inputs).2.2).getLast? = some last → last.1 = .cancel) ∧
    (∀ earlier session, inputs = earlier ++ session →
      (∀ front back, session = front ++ back → front ≠ [] → back ≠ [] →
        ¬ Resting (run (earlier ++ front)).1.state) →
      ∃ entries, (run inputs).2.2 = (run earlier).2.2 ++ entries ∧
        (armedDurations entries).Sublist (sessionTimeouts config)) ∧
    ∀ input, input.event.type = .timerElapsed → ¬ Resting (run inputs).1.state →
      (dispatch ports.traced (run inputs).1 input (run inputs).2).2.1.state ≠
        (run inputs).1.state := by
  intro run
  have hrun := disciplined_run ports config journal start
  refine ⟨(hrun inputs).2.timed, (hrun inputs).2.resting, ?_, ?_⟩
  · intro earlier session hinputs hbetween
    rcases armed_session ports config (run earlier) (hrun earlier).1 session
      (fun front back hsplit hfront hback => by
        have hactive := hbetween front back hsplit hfront hback
        rw [show run (earlier ++ front) = (machine ports.traced).final (run earlier) front from
          Machine.final_append ..] at hactive
        exact hactive) with ⟨entries, hlog, -, hsub, -⟩
    refine ⟨entries, ?_, hsub⟩
    rw [hinputs, show run (earlier ++ session) =
      (machine ports.traced).final (run earlier) session from Machine.final_append ..]
    exact hlog
  · intro input htype htimed
    exact state_ne_of_dispatch_timerElapsed ports (run inputs).1 input (run inputs).2 htype htimed

end Runs

end BmwRemote.Infrastructure.Runtime
