import BmwRemote.Application.SignalDowngrade
import BmwRemote.Infrastructure.TimerQueue

/-! Timer events that outlive their timer. Nothing tells the controller which timer an
event is of, so an event that was queued before its state was left ends the next one.
Every other timer event comes after the whole time of the state that it ends. -/
namespace BmwRemote.Infrastructure.Runtime

open BmwRemote.Domain BmwRemote.Application BmwRemote.Lib

universe u

variable {W : Type u}

abbrev Turn (W : Type u) := Step (Surroundings W) Move (List (PortCall × Bool))

def Executes (actuatorCall : ActuatorCall) (turn : Turn W) : Prop :=
  ∃ answer, (.actuator actuatorCall, answer) ∈ turn.output

instance (actuatorCall : ActuatorCall) (turn : Turn W) : Decidable (Executes actuatorCall turn) :=
  decidable_of_iff (∃ entry ∈ turn.output, entry.1 = .actuator actuatorCall)
    ⟨fun ⟨⟨_, answer⟩, hmem, hcall⟩ => ⟨answer, hcall ▸ hmem⟩,
      fun ⟨_, hmem⟩ => ⟨_, hmem, rfl⟩⟩

def Enters (turn : Turn W) : Prop := turn.before.runtime.state ≠ turn.after.runtime.state

/-- A timed state since it was entered: its timer is the last one armed, and an event in
the queue is of that timer, the time of the state being over, or was there before. -/
structure Timed (surroundings : Surroundings W) (entry : Turn W) (since : List (Turn W))
    (durationMs : UInt32) : Prop where
  entered : entry.after.runtime.state = surroundings.runtime.state
  kept : ∀ turn ∈ since, turn.before.runtime.state = surroundings.runtime.state
  armed : entry.before.timer.armings < surroundings.timer.armings
  deadline : ∀ deadline ∈ surroundings.timer.deadline,
    deadline.arming = surroundings.timer.armings ∧
      deadline.dueMs = entry.before.nowMs + durationMs.toNat
  queued : ∀ queued ∈ surroundings.queue, ∀ arming ∈ queued.arming,
    (entry.before.timer.armings < arming ∧
      entry.before.nowMs + durationMs.toNat ≤ surroundings.nowMs) ∨
    (arming ≤ entry.before.timer.armings ∧ queued ∈ entry.after.queue)

/-- What holds of the surroundings after every run. -/
structure Orderly (config : ControllerConfig) (surroundings : Surroundings W)
    (past : List (Turn W)) : Prop where
  config_eq : surroundings.runtime.controller.config = config
  numbered : surroundings.timer.Numbered
  queued : ∀ queued ∈ surroundings.queue, (∀ arming ∈ queued.arming,
    arming ≤ surroundings.timer.armings) ∧
      (queued.event.type = .timerElapsed → queued.arming.isSome = true)
  timed : ∀ durationMs, sessionTimeout config surroundings.runtime.state = some durationMs →
    ∃ entry since, Since Enters past entry since ∧ Timed surroundings entry since durationMs

theorem orderly_new (config : ControllerConfig) (journal : Option DiagnosticJournal) (world : W) :
    Orderly config (Surroundings.new config journal world) [] :=
  ⟨rfl, nofun, nofun, nofun⟩

/-! Turns that leave the state and arm no timer. -/

structure Quiet (before after : Surroundings W) : Prop where
  config : after.runtime.controller.config = before.runtime.controller.config
  state : after.runtime.state = before.runtime.state
  now : before.nowMs ≤ after.nowMs
  armings : after.timer.armings = before.timer.armings
  deadline : ∀ deadline ∈ after.timer.deadline, deadline ∈ before.timer.deadline
  queue : ∀ queued ∈ after.queue, queued ∈ before.queue ∨
    (queued.arming = none ∧ queued.event.type ≠ .timerElapsed) ∨
    ∃ deadline ∈ before.timer.deadline, queued.arming = some deadline.arming ∧
      deadline.dueMs ≤ after.nowMs

theorem Quiet.refl (surroundings : Surroundings W) : Quiet surroundings surroundings :=
  ⟨rfl, rfl, Nat.le_refl _, rfl, fun _ h => h, fun _ h => .inl h⟩

theorem Timed.quiet {before after : Surroundings W} {entry : Turn W} {since : List (Turn W)}
    {durationMs : UInt32} (h : Timed before entry since durationMs) (hquiet : Quiet before after)
    {turn : Turn W} (hturn : turn.before = before) :
    Timed after entry (since ++ [turn]) durationMs := by
  constructor
  · rw [h.entered, hquiet.state]
  · intro next hmem
    rw [List.mem_append, List.mem_singleton] at hmem
    rw [hquiet.state]
    rcases hmem with hmem | rfl
    · exact h.kept next hmem
    · rw [hturn]
  · rw [hquiet.armings]
    exact h.armed
  · intro deadline hmem
    rw [hquiet.armings]
    exact h.deadline deadline (hquiet.deadline deadline hmem)
  · intro queued hmem arming harming
    have hnow := hquiet.now
    rcases hquiet.queue queued hmem with hold | ⟨hnone, -⟩ | ⟨deadline, hdeadline, hsome, hdue⟩
    · rcases h.queued queued hold arming harming with ⟨hnew, hover⟩ | hstale
      · exact .inl ⟨hnew, Nat.le_trans hover hnow⟩
      · exact .inr hstale
    · rw [hnone] at harming
      cases harming
    · rw [hsome, Option.mem_some_iff] at harming
      obtain ⟨hcurrent, htime⟩ := h.deadline deadline hdeadline
      rw [← harming, hcurrent]
      exact .inl ⟨h.armed, htime ▸ hdue⟩

theorem Orderly.quiet {config : ControllerConfig} {before after : Surroundings W}
    {past : List (Turn W)} (h : Orderly config before past) (hquiet : Quiet before after)
    {turn : Turn W} (hbefore : turn.before = before) (hafter : turn.after = after) :
    Orderly config after (past ++ [turn]) := by
  constructor
  · rw [hquiet.config, h.config_eq]
  · intro deadline hmem
    rw [hquiet.armings]
    exact h.numbered deadline (hquiet.deadline deadline hmem)
  · intro queued hmem
    rw [hquiet.armings]
    rcases hquiet.queue queued hmem with hold | ⟨hnone, htype⟩ | ⟨deadline, hdeadline, hsome, -⟩
    · exact h.queued queued hold
    · rw [hnone]
      exact ⟨nofun, fun helapsed => absurd helapsed htype⟩
    · rw [hsome]
      refine ⟨fun arming harming => ?_, fun _ => rfl⟩
      rw [← Option.mem_some_iff.1 harming]
      exact h.numbered deadline hdeadline
  · intro durationMs htimeout
    rw [hquiet.state] at htimeout
    obtain ⟨entry, since, hsince, htimed⟩ := h.timed durationMs htimeout
    have hstays : ¬ Enters turn := by
      unfold Enters
      rw [hbefore, hafter, hquiet.state]
      exact not_not_intro rfl
    exact ⟨entry, since ++ [turn], hsince.concat hstays, htimed.quiet hquiet hbefore⟩

theorem quiet_enqueue (surroundings : Surroundings W) (event : Event) :
    Quiet surroundings (surroundings.enqueue event) := by
  unfold Surroundings.enqueue
  split
  · exact Quiet.refl surroundings
  · rename_i htype
    refine ⟨rfl, rfl, Nat.le_refl _, rfl, fun _ h => h, fun queued hmem => ?_⟩
    rw [List.mem_append, List.mem_singleton] at hmem
    rcases hmem with hmem | rfl
    · exact .inl hmem
    · exact .inr (.inl ⟨rfl, htype⟩)

theorem quiet_expire (surroundings : Surroundings W) :
    Quiet surroundings surroundings.expire := by
  unfold Surroundings.expire
  split
  · exact Quiet.refl surroundings
  · rename_i deadline hdeadline
    split
    · exact Quiet.refl surroundings
    · rename_i hdue
      refine ⟨rfl, rfl, Nat.le_refl _, rfl, nofun, fun queued hmem => ?_⟩
      rw [List.mem_append, List.mem_singleton] at hmem
      rcases hmem with hmem | rfl
      · exact .inl hmem
      · exact .inr (.inr ⟨deadline, hdeadline, rfl, Nat.not_lt.1 hdue⟩)

/-! Dispatches. -/

section Dispatch

variable {ports : Ports W} {config : ControllerConfig} {surroundings : Surroundings W}
  {past : List (Turn W)} {vehicle : VehicleState} {timestampMs : UInt32} {obeysRefused : Bool}

theorem dispatch_cons (ports : Ports W) (vehicle : VehicleState) (timestampMs : UInt32)
    (obeysRefused : Bool) {head : QueuedEvent} {rest : List QueuedEvent}
    (hqueue : surroundings.queue = head :: rest) :
    surroundings.dispatch ports vehicle timestampMs obeysRefused =
      let result := Runtime.dispatch ports.traced surroundings.runtime
        ⟨head.event, vehicle, timestampMs⟩ (surroundings.world, [])
      (result.2.2.2, { surroundings with
        runtime := result.2.1
        world := result.2.2.1
        timer := result.2.2.2.foldl (SessionTimer.after surroundings.nowMs obeysRefused)
          surroundings.timer
        queue := rest }) := by
  unfold Surroundings.dispatch
  rw [hqueue]

/-- Everything a dispatch from a queue can do to its surroundings. -/
theorem surroundings_dispatch (ports : Ports W) (vehicle : VehicleState) (timestampMs : UInt32)
    (obeysRefused : Bool) {head : QueuedEvent} {rest : List QueuedEvent}
    (hqueue : surroundings.queue = head :: rest) :
    let result := surroundings.dispatch ports vehicle timestampMs obeysRefused
    result.2.queue = rest ∧ result.2.nowMs = surroundings.nowMs ∧
      result.2.timer = result.1.foldl (SessionTimer.after surroundings.nowMs obeysRefused)
        surroundings.timer ∧
      result.2.runtime.controller.config = surroundings.runtime.controller.config ∧
      TimerStep surroundings.runtime.controller.config surroundings.runtime.state
        result.2.runtime.state result.1 := by
  rw [dispatch_cons ports vehicle timestampMs obeysRefused hqueue]
  obtain ⟨entries, hlog, hconfig, hstep⟩ := timerStep_dispatch ports surroundings.runtime
    ⟨head.event, vehicle, timestampMs⟩ (surroundings.world, [])
  rw [List.nil_append] at hlog
  subst hlog
  exact ⟨rfl, rfl, rfl, hconfig, hstep⟩

theorem sessionTimeout_of_stage {state : ControllerState} (h : sessionStage state = 0) :
    sessionTimeout config state = none :=
  (resting_iff_sessionTimeout config state).1 ((resting_iff state).2 h)

theorem Orderly.dispatched (h : Orderly config surroundings past) {head : QueuedEvent}
    {rest : List QueuedEvent} (hqueue : surroundings.queue = head :: rest)
    (htimed : ∀ durationMs, sessionTimeout config
      (surroundings.dispatch ports vehicle timestampMs obeysRefused).2.runtime.state =
        some durationMs →
      ∃ entry since, Since Enters (past ++ [(Surroundings.machine ports).stepOf surroundings
        (.dispatch vehicle timestampMs obeysRefused)]) entry since ∧
        Timed (surroundings.dispatch ports vehicle timestampMs obeysRefused).2 entry since
          durationMs) :
    Orderly config (surroundings.dispatch ports vehicle timestampMs obeysRefused).2
      (past ++ [(Surroundings.machine ports).stepOf surroundings
        (.dispatch vehicle timestampMs obeysRefused)]) := by
  obtain ⟨hrest, -, htimer, hconfig, -⟩ := surroundings_dispatch ports vehicle
    timestampMs obeysRefused hqueue
  refine ⟨hconfig.trans h.config_eq, ?_, ?_, htimed⟩
  · rw [htimer]
    exact h.numbered.foldl _
  · intro queued hmem
    rw [hrest] at hmem
    obtain ⟨hnumber, hown⟩ := h.queued queued (hqueue ▸ List.mem_cons_of_mem head hmem)
    refine ⟨fun arming harming => ?_, hown⟩
    rw [htimer]
    exact Nat.le_trans (hnumber arming harming) (armings_foldl _)

theorem Orderly.dispatch (h : Orderly config surroundings past) (ports : Ports W)
    (vehicle : VehicleState) (timestampMs : UInt32) (obeysRefused : Bool) :
    Orderly config (surroundings.dispatch ports vehicle timestampMs obeysRefused).2
      (past ++ [(Surroundings.machine ports).stepOf surroundings
        (.dispatch vehicle timestampMs obeysRefused)]) := by
  cases hqueue : surroundings.queue with
  | nil =>
    have hsame : surroundings.dispatch ports vehicle timestampMs obeysRefused =
        ([], surroundings) := by
      unfold Surroundings.dispatch
      rw [hqueue]
    have hquiet : Quiet surroundings
        (surroundings.dispatch ports vehicle timestampMs obeysRefused).2 := by
      rw [hsame]
      exact Quiet.refl surroundings
    exact h.quiet hquiet rfl rfl
  | cons head rest =>
    obtain ⟨hrest, hnow, htimer, hconfig, hstep⟩ := surroundings_dispatch ports vehicle
      timestampMs obeysRefused hqueue
    rw [h.config_eq] at hstep
    cases hstep with
    | kept hnone hstate =>
      rw [← foldl_timerEntries, hnone, List.foldl_nil] at htimer
      rcases hstate with hsame | ⟨-, hidle⟩
      · have hquiet : Quiet surroundings
            (surroundings.dispatch ports vehicle timestampMs obeysRefused).2 := by
          refine ⟨hconfig, hsame, Nat.le_of_eq hnow.symm, congrArg _ htimer, ?_, ?_⟩
          · rw [htimer]
            exact fun _ hmem => hmem
          · intro queued hmem
            rw [hrest] at hmem
            exact .inl (hqueue ▸ List.mem_cons_of_mem head hmem)
        exact h.quiet hquiet rfl rfl
      · apply h.dispatched hqueue
        intro durationMs htimeout
        rw [hidle] at htimeout
        cases htimeout
    | cancelled _ _ _ _ hstage =>
      apply h.dispatched hqueue
      intro durationMs htimeout
      rw [sessionTimeout_of_stage hstage] at htimeout
      cases htimeout
    | armed earlier durationMs hlast harmed htimeout hlater =>
      rw [foldl_armed hlast harmed] at htimer
      apply h.dispatched hqueue
      intro other hother
      rw [htimeout] at hother
      cases hother
      refine ⟨(Surroundings.machine ports).stepOf surroundings
        (.dispatch vehicle timestampMs obeysRefused), [], .here ?_, ⟨rfl, by simp, ?_, ?_, ?_⟩⟩
      · intro hsame
        have hstage := congrArg sessionStage hsame
        change sessionStage surroundings.runtime.state = sessionStage
          (surroundings.dispatch ports vehicle timestampMs obeysRefused).2.runtime.state at hstage
        omega
      · rw [htimer]
        exact Nat.lt_succ_self _
      · rw [htimer]
        rintro deadline ⟨⟩
        exact ⟨rfl, rfl⟩
      · intro queued hmem arming harming
        rw [hrest] at hmem
        have hnumber := (h.queued queued (hqueue ▸ List.mem_cons_of_mem head hmem)).1
        exact .inr ⟨hnumber arming harming, hrest ▸ hmem⟩

end Dispatch

theorem Orderly.step {config : ControllerConfig} {surroundings : Surroundings W}
    {past : List (Turn W)} (h : Orderly config surroundings past) (ports : Ports W)
    (move : Move) :
    Orderly config (Surroundings.machine ports surroundings move).2
      (past ++ [(Surroundings.machine ports).stepOf surroundings move]) := by
  cases move with
  | enqueue event => exact h.quiet (quiet_enqueue surroundings event) rfl rfl
  | wait durationMs =>
    have hquiet : Quiet surroundings
        { surroundings with nowMs := surroundings.nowMs + durationMs } :=
      ⟨rfl, rfl, Nat.le_add_right _ _, rfl, fun _ h => h, fun _ h => .inl h⟩
    exact h.quiet hquiet rfl rfl
  | expire => exact h.quiet (quiet_expire surroundings) rfl rfl
  | dispatch vehicle timestampMs obeysRefused =>
    exact h.dispatch ports vehicle timestampMs obeysRefused

/-! What a turn executes. -/

section Execution

variable {ports : Ports W} {surroundings : Surroundings W} {move : Move}

theorem call_of_executes {actuatorCall : ActuatorCall}
    (henergises : actuatorCall = .enableIgnition ∨ actuatorCall = .engageStarter)
    (h : Executes actuatorCall ((Surroundings.machine ports).stepOf surroundings move)) :
    ∃ vehicle timestampMs obeysRefused head rest,
      move = .dispatch vehicle timestampMs obeysRefused ∧ surroundings.queue = head :: rest ∧
      .actuator actuatorCall ∈
        callsOf (surroundings.runtime.controller.handle head.event vehicle).1 := by
  obtain ⟨answer, hmem⟩ := h
  cases move with
  | enqueue | wait | expire => cases hmem
  | dispatch vehicle timestampMs obeysRefused =>
    change _ ∈ (surroundings.dispatch ports vehicle timestampMs obeysRefused).1 at hmem
    cases hqueue : surroundings.queue with
    | nil =>
      unfold Surroundings.dispatch at hmem
      rw [hqueue] at hmem
      cases hmem
    | cons head rest =>
      rw [dispatch_cons ports vehicle timestampMs obeysRefused hqueue] at hmem
      dsimp only at hmem
      refine ⟨vehicle, timestampMs, obeysRefused, head, rest, rfl, rfl, ?_⟩
      rcases dispatch_traced ports surroundings.runtime ⟨head.event, vehicle, timestampMs⟩
        (surroundings.world, []) with ⟨hlog, -⟩ | ⟨done, refused, others, answers, hcalls, hlog, -⟩
      · rw [List.nil_append] at hlog
        rw [hlog] at hmem
        obtain ⟨call, hcall, heq⟩ := List.mem_map.1 hmem
        cases heq
        exact hcall
      · rw [List.nil_append] at hlog
        rw [hlog] at hmem
        simp only [List.mem_append, List.mem_map, List.mem_singleton] at hmem
        rw [hcalls]
        rcases hmem with (⟨call, hcall, heq⟩ | heq) | hsafing
        · cases heq
          exact List.mem_append_left _ hcall
        · cases heq
          simp
        · have hsafe := (List.of_mem_zip hsafing).1
          rcases henergises with rfl | rfl <;> simp [safingCalls] at hsafe

theorem contains_of_mem_callsOf {decision : Decision} {actuatorCall : ActuatorCall}
    (type : ActionType) (htype : ∀ action, callOf decision action = .actuator actuatorCall →
      action.type = type) (h : .actuator actuatorCall ∈ callsOf decision) :
    decision.contains type = true := by
  obtain ⟨action, hmem, hcall⟩ := List.mem_map.1 h
  rw [Decision.contains, List.any_eq_true]
  exact ⟨action, hmem, by simpa using htype action hcall⟩

theorem ignition_of_executes
    (h : Executes .enableIgnition ((Surroundings.machine ports).stepOf surroundings move)) :
    surroundings.runtime.state = .authorizing := by
  obtain ⟨vehicle, _, _, head, _, -, -, hmem⟩ := call_of_executes (.inl rfl) h
  have hcontains := contains_of_mem_callsOf (ActionType.enableIgnition) (by
    rintro ⟨type, durationMs⟩ hcall
    cases type <;> first | rfl | cases hcall) hmem
  exact ((Controller.contains_enableIgnition_iff _ _ _).1 hcontains).1

theorem starter_of_executes
    (h : Executes .engageStarter ((Surroundings.machine ports).stepOf surroundings move)) :
    surroundings.runtime.state = .preparing ∧
      ∃ vehicle timestampMs obeysRefused head rest,
        move = .dispatch vehicle timestampMs obeysRefused ∧ surroundings.queue = head :: rest ∧
        head.event.type = .timerElapsed := by
  obtain ⟨vehicle, timestampMs, obeysRefused, head, rest, hmove, hqueue, hmem⟩ :=
    call_of_executes (.inr rfl) h
  have hcontains := contains_of_mem_callsOf (ActionType.engageStarter) (by
    rintro ⟨type, durationMs⟩ hcall
    cases type <;> first | rfl | cases hcall) hmem
  obtain ⟨hstate, htype, -⟩ := (Controller.contains_engageStarter_iff _ _ _).1 hcontains
  exact ⟨hstate, vehicle, timestampMs, obeysRefused, head, rest, hmove, hqueue, htype⟩

theorem enables_of_handled {controller : Controller} {event : Event} {vehicle : VehicleState}
    {state : ControllerState} {fault : FaultCode} {actions : List Action}
    (h : Controller.Handled controller event vehicle state fault actions)
    (hstate : state = .preparing) (hleft : controller.state ≠ .preparing) :
    ⟨.enableIgnition, 0⟩ ∈ actions := by
  cases h with
  | beginPreparing => simp
  | silent | ignored | alreadyStopped | stopIgnoredInFault | startDisabled | profileRejected
  | resetRejected => exact absurd hstate hleft
  | _ => cases hstate

theorem silent_at_rest {controller : Controller} {event : Event} {vehicle : VehicleState}
    {state : ControllerState} {fault : FaultCode} {actions : List Action}
    (h : Controller.Handled controller event vehicle state fault actions)
    (htype : event.type = .timerElapsed) (hrest : Resting controller.state) :
    state = controller.state ∧ actions = [] := by
  unfold Resting at hrest
  cases h with
  | silent => exact ⟨rfl, rfl⟩
  | enterFault _ cause => cases cause <;> simp_all
  | beginStopping hstate => rcases hstate with hstate | hstate <;> simp [hstate] at hrest
  | _ => simp_all

theorem executes_of_enters_preparing
    (henters : Enters ((Surroundings.machine ports).stepOf surroundings move))
    (hpreparing :
      ((Surroundings.machine ports).stepOf surroundings move).after.runtime.state = .preparing) :
    Executes .enableIgnition ((Surroundings.machine ports).stepOf surroundings move) := by
  unfold Enters at henters
  rw [hpreparing] at henters
  cases move with
  | enqueue event => exact absurd ((quiet_enqueue surroundings event).state ▸ hpreparing) henters
  | wait => exact absurd hpreparing henters
  | expire => exact absurd ((quiet_expire surroundings).state ▸ hpreparing) henters
  | dispatch vehicle timestampMs obeysRefused =>
    cases hqueue : surroundings.queue with
    | nil =>
      have hsame : surroundings.dispatch ports vehicle timestampMs obeysRefused =
          ([], surroundings) := by
        unfold Surroundings.dispatch
        rw [hqueue]
      exact absurd (congrArg (·.2.runtime.state) hsame ▸ hpreparing) henters
    | cons head rest =>
      have hcons := dispatch_cons ports vehicle timestampMs obeysRefused hqueue
      have hafter : (dispatch ports.traced surroundings.runtime
          ⟨head.event, vehicle, timestampMs⟩ (surroundings.world, [])).2.1.state = .preparing :=
        (congrArg (·.2.runtime.state) hcons).symm.trans hpreparing
      unfold Executes
      change ∃ answer,
        _ ∈ (surroundings.dispatch ports vehicle timestampMs obeysRefused).1
      rw [hcons]
      rcases dispatch_traced ports surroundings.runtime ⟨head.event, vehicle, timestampMs⟩
        (surroundings.world, []) with ⟨hlog, -, hcontroller⟩ |
          ⟨done, refused, others, answers, -, -, -, hcontroller, -⟩
      · rcases surroundings.runtime.controller.handle_cases head.event vehicle with
          ⟨state, fault, actions, hcase, hstate, hactions⟩
        unfold Runtime.state at hafter
        rw [hcontroller, hstate] at hafter
        have hignition := enables_of_handled hcase hafter henters
        refine ⟨true, ?_⟩
        dsimp only
        rw [hlog, callsOf, hactions]
        exact List.mem_map_of_mem (List.mem_map_of_mem hignition)
      · unfold Runtime.state at hafter
        rw [hcontroller] at hafter
        cases hafter

end Execution

theorem timed_of_leaves {ports : Ports W} (config : ControllerConfig)
    {surroundings : Surroundings W} {vehicle : VehicleState} {timestampMs : UInt32}
    {obeysRefused : Bool} {head : QueuedEvent} {rest : List QueuedEvent}
    (hqueue : surroundings.queue = head :: rest) (htype : head.event.type = .timerElapsed)
    (hleaves : Enters ((Surroundings.machine ports).stepOf surroundings
      (.dispatch vehicle timestampMs obeysRefused))) :
    ∃ durationMs, sessionTimeout config surroundings.runtime.state = some durationMs := by
  by_contra hnone
  have hresting : Resting surroundings.runtime.state := by
    rw [resting_iff_sessionTimeout config]
    exact Option.eq_none_iff_forall_ne_some.2 fun durationMs h => hnone ⟨durationMs, h⟩
  apply hleaves
  change surroundings.runtime.state =
    (surroundings.dispatch ports vehicle timestampMs obeysRefused).2.runtime.state
  rw [dispatch_cons ports vehicle timestampMs obeysRefused hqueue]
  rcases surroundings.runtime.controller.handle_cases head.event vehicle with
    ⟨state, fault, actions, hcase, hafter, hactions⟩
  obtain ⟨hsame, hsilent⟩ := silent_at_rest hcase htype hresting
  rcases dispatch_traced ports surroundings.runtime ⟨head.event, vehicle, timestampMs⟩
    (surroundings.world, []) with ⟨-, -, hcontroller⟩ | ⟨done, refused, others, answers, hcalls, -⟩
  · exact hsame.symm.trans (congrArg (·.state) (hcontroller.trans hafter)).symm
  · rw [callsOf, hactions, hsilent] at hcalls
    simp at hcalls

/-! The law. -/

def Dispatches (queued : QueuedEvent) (turn : Turn W) : Prop :=
  (∃ vehicle timestampMs obeysRefused, turn.input = .dispatch vehicle timestampMs obeysRefused) ∧
    turn.before.queue.head? = some queued

/-- The starter is engaged when the preparation since the ignition is over, and a timer
event ends a state that armed its timer; both unless the event is excused, given the turn
that switched the ignition on or entered the state. -/
structure TimersInTime (config : ControllerConfig) (excused : Turn W → QueuedEvent → Prop)
    (turns : List (Turn W)) : Prop where
  cranking : ∀ past turn future, turns = past ++ turn :: future → Executes .engageStarter turn →
    ∃ ignition since, Since (Executes .enableIgnition) past ignition since ∧
      (ignition.before.nowMs + config.preparationDelayMs.toNat ≤ turn.before.nowMs ∨
        ∃ queued, Dispatches queued turn ∧ excused ignition queued)
  leaving : ∀ past turn future queued, turns = past ++ turn :: future → Dispatches queued turn →
    queued.event.type = .timerElapsed → Enters turn →
    ∃ entry since, Since Enters past entry since ∧
      ((∃ arming ∈ queued.arming, entry.before.timer.armings < arming) ∨ excused entry queued)

/-- The event is of a timer armed before the turn, and it was in the queue behind it. -/
def Stale (turn : Turn W) (queued : QueuedEvent) : Prop :=
  (∃ arming ∈ queued.arming, arming ≤ turn.before.timer.armings) ∧ queued ∈ turn.after.queue

section Runs

variable (ports : Ports W) (config : ControllerConfig) (journal : Option DiagnosticJournal)
  (start : W) (moves : List Move)

theorem orderly_at {past future : List (Turn W)} {turn : Turn W}
    (hrun : (Surroundings.machine ports).transcript (.new config journal start) moves =
      past ++ turn :: future) :
    Orderly config turn.before past ∧
      turn = (Surroundings.machine ports).stepOf turn.before turn.input ∧
      ∀ earlier ∈ past,
        earlier = (Surroundings.machine ports).stepOf earlier.before earlier.input := by
  obtain ⟨horderly, hturn⟩ := (Surroundings.machine ports).history_at (Orderly config)
    (orderly_new config journal start) (fun _ _ h move => h.step ports move) hrun
  refine ⟨horderly, hturn, fun earlier hmem => ?_⟩
  apply (Surroundings.machine ports).eq_stepOf_of_mem
  rw [hrun]
  exact List.mem_append_left _ hmem

/-- An event of the timer that is dispatched in a timed state is of that state's timer,
and its time is over, or it was queued before the state was entered. -/
theorem timed_dispatch {past : List (Turn W)} {turn : Turn W} {queued : QueuedEvent}
    {durationMs : UInt32} (h : Orderly config turn.before past)
    (hdispatch : Dispatches queued turn) (htype : queued.event.type = .timerElapsed)
    (htimeout : sessionTimeout config turn.before.runtime.state = some durationMs) :
    ∃ entry since, Since Enters past entry since ∧ Timed turn.before entry since durationMs ∧
      (((∃ arming ∈ queued.arming, entry.before.timer.armings < arming) ∧
          entry.before.nowMs + durationMs.toNat ≤ turn.before.nowMs) ∨ Stale entry queued) := by
  obtain ⟨entry, since, hsince, htimed⟩ := h.timed durationMs htimeout
  have hmem : queued ∈ turn.before.queue := List.mem_of_head? hdispatch.2
  obtain ⟨arming, harming⟩ := Option.isSome_iff_exists.1 ((h.queued queued hmem).2 htype)
  refine ⟨entry, since, hsince, htimed, ?_⟩
  rcases htimed.queued queued hmem arming harming with ⟨hnew, hover⟩ | ⟨hold, hthere⟩
  · exact .inl ⟨⟨arming, harming, hnew⟩, hover⟩
  · exact .inr ⟨⟨arming, harming, hold⟩, hthere⟩

/-- In every run the timers keep their times, as far as no event is stale. -/
theorem timers_in_time_unless_stale :
    TimersInTime config Stale
      ((Surroundings.machine ports).transcript (.new config journal start) moves) := by
  constructor
  case cranking =>
    intro past turn future hrun hstarter
    obtain ⟨horderly, hturn, hpast⟩ := orderly_at ports config journal start moves hrun
    rw [hturn] at hstarter
    obtain ⟨hpreparing, vehicle, timestampMs, obeysRefused, head, rest, hmove, hqueue, htype⟩ :=
      starter_of_executes hstarter
    have hdispatch : Dispatches head turn :=
      ⟨⟨vehicle, timestampMs, obeysRefused, hmove⟩, by rw [hqueue, List.head?_cons]⟩
    have htimeout : sessionTimeout config turn.before.runtime.state =
        some config.preparationDelayMs := by
      rw [hpreparing]
      rfl
    obtain ⟨entry, since, ⟨⟨earlier, rfl⟩, henters, -⟩, htimed, hripe⟩ :=
      timed_dispatch config horderly hdispatch htype htimeout
    have hentry := hpast entry (by simp)
    have hignition : Executes .enableIgnition entry := by
      rw [hentry] at henters ⊢
      apply executes_of_enters_preparing henters
      rw [← hentry, htimed.entered, hpreparing]
    refine ⟨entry, since, ⟨⟨earlier, rfl⟩, hignition, ?_⟩, ?_⟩
    · intro next hmem hagain
      rw [hpast next (by simp [hmem])] at hagain
      have hauthorizing := ignition_of_executes hagain
      rw [htimed.kept next hmem, hpreparing] at hauthorizing
      cases hauthorizing
    · exact hripe.imp (fun h => h.2) fun hstale => ⟨head, hdispatch, hstale⟩
  case leaving =>
    intro past turn future queued hrun hdispatch htype hleaves
    obtain ⟨horderly, hturn, -⟩ := orderly_at ports config journal start moves hrun
    obtain ⟨⟨vehicle, timestampMs, obeysRefused, hmove⟩, hhead⟩ := hdispatch
    obtain ⟨rest, hqueue⟩ : ∃ rest, turn.before.queue = queued :: rest :=
      ⟨_, (List.cons_head?_tail hhead).symm⟩
    rw [hturn, hmove] at hleaves
    obtain ⟨durationMs, htimeout⟩ := timed_of_leaves config hqueue htype hleaves
    obtain ⟨entry, since, hsince, -, hripe⟩ := timed_dispatch config horderly
      ⟨⟨vehicle, timestampMs, obeysRefused, hmove⟩, hhead⟩ htype htimeout
    exact ⟨entry, since, hsince, hripe.imp (fun h => h.1) fun hstale => hstale⟩

end Runs

def obedientPorts : Ports Unit where
  vehicleGateway := ⟨fun world => (true, world)⟩
  actuators := .ofDevice fun _ world => (true, world)
  timer := ⟨fun _ world => (true, world), fun world => (true, world)⟩
  notifications := ⟨fun _ world => world⟩

def overtakenTimeout : List Move :=
  [.enqueue ⟨.remoteStartRequested, .none⟩, .dispatch Controller.parkedVehicle 0 false,
    .wait 2000, .enqueue ⟨.vehicleStateUpdated, .none⟩, .expire,
    .dispatch Controller.parkedVehicle 2000 false]

/-- The timeout of the authorisation ends the preparation, in the same millisecond in
which the ignition was switched on. -/
theorem stale_timeout_cranks :
    ¬ TimersInTime Controller.qualifiedConfig (fun _ _ => False)
      ((Surroundings.machine obedientPorts).transcript
        (.new Controller.qualifiedConfig none ()) (overtakenTimeout ++
          [.dispatch Controller.parkedVehicle 2000 false])) := by
  intro h
  rw [Machine.transcript_concat] at h
  obtain ⟨ignition, since, ⟨⟨earlier, hpast⟩, hignition, -⟩, htime⟩ :=
    h.cranking _ _ [] rfl (by decide)
  have hall : ∀ turn ∈ (Surroundings.machine obedientPorts).transcript
      (.new Controller.qualifiedConfig none ()) overtakenTimeout,
      Executes .enableIgnition turn → turn.before.nowMs = 2000 := by
    decide
  have hignited := hall ignition (by rw [hpast]; simp) hignition
  rcases htime with htime | ⟨_, _, hexcused⟩
  · rw [hignited] at htime
    revert htime
    decide
  · exact hexcused

end BmwRemote.Infrastructure.Runtime
