import BmwRemote.Infrastructure.SupervisorStep

/-! What must have happened in a run of the supervisor before its driver is
asked to engage the starter. -/
namespace BmwRemote.Infrastructure.ActuatorSafetySupervisor

open BmwRemote.Lib

universe u

variable {W : Type u}

abbrev Call (W : Type u) := Step (Supervised W) Request Answer

def HeartbeatAccepted (call : Call W) : Prop :=
  ∃ nowMs, call.input = .heartbeat nowMs ∧ call.output = .accepted true

def ResetSucceeded (call : Call W) : Prop :=
  ∃ nowMs feedback, call.input = .resetFault nowMs feedback ∧ call.output = .accepted true

def Polled (call : Call W) : Prop :=
  ∃ nowMs permitted feedback, call.input = .poll nowMs permitted feedback

def PollAccepted (call : Call W) (permitted : Bool) (feedback : ActuatorFeedback) : Prop :=
  ∃ nowMs status, call.input = .poll nowMs permitted feedback ∧ call.output = .polled status ∧
    status.fault = .none

def IgnitionAccepted (call : Call W) : Prop :=
  call.input = .actuator .enableIgnition ∧ call.output = .accepted true

/-- An accepted poll that saw the outputs as they were commanded, the ignition
being on. Without a starter command at the ignition it also saw the starter off. -/
def Confirms (ignition poll : Call W) : Prop :=
  ∃ permitted feedback, PollAccepted poll permitted feedback ∧ feedback.available = true ∧
    feedback.ignitionActive = true ∧
    feedback.starterActive = poll.before.1.starterCommanded ∧
    (ignition.before.1.starterCommanded = false → feedback.starterActive = false)

def Beaten (supervisor : ActuatorSafetySupervisor) (past : List (Call W)) : Prop :=
  ∃ heartbeat since,
    Since (fun call => HeartbeatAccepted call ∨ ResetSucceeded call) past heartbeat since ∧
      heartbeat.input = .heartbeat supervisor.lastHeartbeatMs

def Permitted (past : List (Call W)) : Prop :=
  ∃ poll since feedback, Since (fun call => Polled call ∨ ResetSucceeded call) past poll since ∧
    PollAccepted poll true feedback

def Confirmed (past : List (Call W)) : Prop :=
  ∃ ignition since, Since IgnitionAccepted past ignition since ∧
    ∃ poll ∈ since, Confirms ignition poll

def Awaiting (supervisor : ActuatorSafetySupervisor) (past : List (Call W)) : Prop :=
  ∃ ignition since, Since IgnitionAccepted past ignition since ∧
    (ignition.before.1.starterCommanded = false → supervisor.starterCommanded = false)

/-- What the fields of a supervisor without fault say about its past. -/
structure Evidence (supervisor : ActuatorSafetySupervisor) (past : List (Call W)) : Prop where
  heartbeat : supervisor.heartbeatInitialized = true → Beaten supervisor past
  permission : supervisor.hardwareStartPermitted = true → Permitted past
  ignition : supervisor.config.requireFeedback = true → supervisor.ignitionCommanded = true →
    if supervisor.ignitionFeedbackConfirmed then Confirmed past else Awaiting supervisor past

variable {supervisor after : ActuatorSafetySupervisor} {past : List (Call W)} {call : Call W}

theorem Beaten.concat (h : Beaten supervisor past) (hbeat : ¬ HeartbeatAccepted call)
    (hreset : ¬ ResetSucceeded call) (htime : after.lastHeartbeatMs = supervisor.lastHeartbeatMs) :
    Beaten after (past ++ [call]) := by
  rcases h with ⟨heartbeat, since, hsince, hinput⟩
  have hnext : ¬ (HeartbeatAccepted call ∨ ResetSucceeded call) := by
    rw [not_or]
    exact ⟨hbeat, hreset⟩
  exact ⟨heartbeat, since ++ [call], hsince.concat hnext, by rw [hinput, htime]⟩

theorem Permitted.concat (h : Permitted past) (hpoll : ¬ Polled call)
    (hreset : ¬ ResetSucceeded call) : Permitted (past ++ [call]) := by
  rcases h with ⟨poll, since, feedback, hsince, haccepted⟩
  have hnext : ¬ (Polled call ∨ ResetSucceeded call) := by
    rw [not_or]
    exact ⟨hpoll, hreset⟩
  exact ⟨poll, since ++ [call], feedback, hsince.concat hnext, haccepted⟩

theorem Confirmed.concat (h : Confirmed past) (hignition : ¬ IgnitionAccepted call) :
    Confirmed (past ++ [call]) := by
  rcases h with ⟨ignition, since, hsince, poll, hmem, hconfirms⟩
  exact ⟨ignition, since ++ [call], hsince.concat hignition, poll,
    List.mem_append_left [call] hmem, hconfirms⟩

theorem Awaiting.concat (h : Awaiting supervisor past) (hignition : ¬ IgnitionAccepted call)
    (hstarter : supervisor.starterCommanded = false → after.starterCommanded = false) :
    Awaiting after (past ++ [call]) := by
  rcases h with ⟨ignition, since, hsince, hoff⟩
  exact ⟨ignition, since ++ [call], hsince.concat hignition, fun h => hstarter (hoff h)⟩

theorem Awaiting.confirmed (h : Awaiting supervisor past) {feedback : ActuatorFeedback}
    {permitted : Bool} (hpoll : PollAccepted call permitted feedback)
    (hbefore : call.before.1 = supervisor) (havailable : feedback.available = true)
    (hignition : feedback.ignitionActive = true)
    (hstarter : feedback.starterActive = supervisor.starterCommanded) :
    Confirmed (past ++ [call]) := by
  rcases h with ⟨ignition, since, hsince, hoff⟩
  have hnext : ¬ IgnitionAccepted call := by
    rcases hpoll with ⟨nowMs, status, hinput, -, -⟩
    simp [IgnitionAccepted, hinput]
  refine ⟨ignition, since ++ [call], hsince.concat hnext, call, by simp, permitted, feedback,
    hpoll, havailable, hignition, ?_, fun hnot => ?_⟩
  · rw [hstarter, hbefore]
  · rw [hstarter]
    exact hoff hnot

theorem Evidence.actuator (h : Evidence supervisor past) {command : ActuatorCall}
    (hinput : call.input = .actuator command)
    (hignition : after.config.requireFeedback = true → after.ignitionCommanded = true →
      if after.ignitionFeedbackConfirmed then Confirmed (past ++ [call])
      else Awaiting after (past ++ [call]))
    (hheartbeat : after.heartbeatInitialized = supervisor.heartbeatInitialized)
    (htime : after.lastHeartbeatMs = supervisor.lastHeartbeatMs)
    (hpermitted : after.hardwareStartPermitted = supervisor.hardwareStartPermitted) :
    Evidence after (past ++ [call]) := by
  have hreset : ¬ ResetSucceeded call := by simp [ResetSucceeded, hinput]
  refine ⟨fun hinitialized => ?_, fun hstart => ?_, hignition⟩
  · have hbeat : ¬ HeartbeatAccepted call := by simp [HeartbeatAccepted, hinput]
    exact (h.heartbeat (hheartbeat ▸ hinitialized)).concat hbeat hreset htime
  · have hpoll : ¬ Polled call := by simp [Polled, hinput]
    exact (h.permission (hpermitted ▸ hstart)).concat hpoll hreset

theorem Evidence.ignition_concat (h : Evidence supervisor past) (hcall : ¬ IgnitionAccepted call)
    (hstarter : supervisor.config.requireFeedback = true →
      supervisor.ignitionFeedbackConfirmed = false → supervisor.starterCommanded = false →
      after.starterCommanded = false)
    (hrequired : after.config.requireFeedback = true) (hignition : after.ignitionCommanded = true)
    (hconfig : after.config = supervisor.config)
    (hcommanded : after.ignitionCommanded = supervisor.ignitionCommanded)
    (hconfirmed : after.ignitionFeedbackConfirmed = supervisor.ignitionFeedbackConfirmed) :
    if after.ignitionFeedbackConfirmed then Confirmed (past ++ [call])
      else Awaiting after (past ++ [call]) := by
  rw [hconfig] at hrequired
  rw [hcommanded] at hignition
  have hevidence := h.ignition hrequired hignition
  rw [hconfirmed]
  split
  · rename_i hyes
    rw [if_pos hyes] at hevidence
    exact hevidence.concat hcall
  · rename_i hno
    rw [if_neg hno] at hevidence
    exact hevidence.concat hcall (hstarter hrequired (by simpa using hno))

theorem Evidence.step (h : supervisor.fault = .none → Evidence supervisor past)
    (hbefore : call.before.1 = supervisor) {request : Request} {answer : Answer}
    (hinput : call.input = request) (houtput : call.output = answer)
    (hstep : Stepped supervisor request answer after) (hfault : after.fault = .none) :
    Evidence after (past ++ [call]) := by
  cases hstep with
  | heartbeat nowMs hnone =>
    have hignition : ¬ IgnitionAccepted call := by simp [IgnitionAccepted, hinput]
    refine ⟨fun _ => ?_, fun hstart => ?_, fun hrequired hcommanded => ?_⟩
    · exact ⟨call, [], Since.here (.inl ⟨nowMs, hinput, houtput⟩), hinput⟩
    · exact ((h hnone).permission hstart).concat (by simp [Polled, hinput])
        (by simp [ResetSucceeded, hinput])
    · exact (h hnone).ignition_concat hignition (fun _ _ hoff => hoff) hrequired hcommanded
        rfl rfl rfl
  | polled nowMs permitted feedback hnone =>
    have hignition : ¬ IgnitionAccepted call := by simp [IgnitionAccepted, hinput]
    refine ⟨fun hinitialized => ?_, fun hstart => ?_, fun hrequired hcommanded => ?_⟩
    · exact ((h hnone).heartbeat hinitialized).concat (by simp [HeartbeatAccepted, hinput])
        (by simp [ResetSucceeded, hinput]) rfl
    · cases (show permitted = true from hstart)
      exact ⟨call, [], feedback, Since.here (.inl ⟨nowMs, true, feedback, hinput⟩), nowMs, _,
        hinput, houtput, hnone⟩
    · exact (h hnone).ignition_concat hignition (fun _ _ hoff => hoff) hrequired hcommanded
        rfl rfl rfl
  | confirmed nowMs permitted feedback hnone havailable hagrees =>
    have hpoll : PollAccepted call permitted feedback := ⟨nowMs, _, hinput, houtput, hnone⟩
    refine ⟨fun hinitialized => ?_, fun hstart => ?_, fun hrequired hignition => ?_⟩
    · exact ((h hnone).heartbeat hinitialized).concat (by simp [HeartbeatAccepted, hinput])
        (by simp [ResetSucceeded, hinput]) rfl
    · cases (show permitted = true from hstart)
      exact ⟨call, [], feedback, Since.here (.inl ⟨nowMs, true, feedback, hinput⟩), hpoll⟩
    · have hcommanded : supervisor.ignitionCommanded = true := hignition
      have hevidence := (h hnone).ignition hrequired hcommanded
      simp only [agreesWith, hcommanded, Bool.and_eq_true, beq_iff_eq] at hagrees
      change if supervisor.ignitionCommanded = true then _ else _
      rw [if_pos hcommanded]
      by_cases hconfirmed : supervisor.ignitionFeedbackConfirmed = true
      · rw [if_pos hconfirmed] at hevidence
        exact hevidence.concat (by simp [IgnitionAccepted, hinput])
      · rw [if_neg hconfirmed] at hevidence
        exact hevidence.confirmed hpoll hbefore havailable hagrees.1 hagrees.2
  | reset => exact ⟨nofun, nofun, fun _ => nofun⟩
  | ignitionEnabled henergizable =>
    refine (h henergizable.fault).actuator hinput (fun hrequired _ => ?_) rfl rfl rfl
    have hnot : supervisor.ignitionEnabled.ignitionFeedbackConfirmed ≠ true := by
      simpa [ActuatorSafetySupervisor.ignitionEnabled] using hrequired
    rw [if_neg hnot]
    refine ⟨call, [], Since.here ⟨hinput, houtput⟩, fun hoff => ?_⟩
    rw [hbefore] at hoff
    exact hoff
  | starterEngaged henergizable hignition hconfirmed =>
    refine (h henergizable.fault).actuator hinput (fun hrequired hignited => ?_) rfl rfl rfl
    refine (h henergizable.fault).ignition_concat (by simp [IgnitionAccepted, hinput]) ?_ hrequired
      hignited rfl rfl rfl
    intro hrequired hnot
    rw [hconfirmed hrequired] at hnot
    cases hnot
  | starterDisengaged =>
    refine (h hfault).actuator hinput (fun hrequired hignited => ?_) rfl rfl rfl
    exact (h hfault).ignition_concat (by simp [IgnitionAccepted, hinput]) (fun _ _ _ => rfl)
      hrequired hignited rfl rfl rfl
  | remoteControlReleased => exact (h hfault).actuator hinput (fun _ => nofun) rfl rfl rfl
  | secured => exact (h hfault).actuator hinput (fun _ => nofun) rfl rfl rfl
  | faulted _ _ _ _ hfaulted => exact absurd hfault hfaulted

structure Recorded (config : ActuatorSafetyConfig) (state : Supervised W)
    (past : List (Call W)) : Prop where
  sound : state.1.Sound
  config_eq : state.1.config = config
  evidence : state.1.fault = .none → Evidence state.1 past

theorem construct_recorded (driver : ActuatorPort W) (config : ActuatorSafetyConfig) (world : W) :
    Recorded config (construct driver config world) [] := by
  refine ⟨construct_sound driver config world, ?_, fun _ => ?_⟩
  all_goals
    unfold construct safeDownstream
    dsimp only
    split
  · rfl
  · split <;> rfl
  · exact ⟨nofun, nofun, fun _ => nofun⟩
  · split
    · exact ⟨nofun, nofun, fun _ => nofun⟩
    · exact ⟨nofun, nofun, fun _ => nofun⟩

theorem recorded_step (driver : ActuatorPort W) (config : ActuatorSafetyConfig)
    (state : Supervised W) (past : List (Call W)) (h : Recorded config state past)
    (request : Request) :
    Recorded config (machine driver state request).2
      (past ++ [(machine driver).stepOf state request]) := by
  have hstep := perform_stepped driver request state h.sound
  refine ⟨hstep.sound h.sound, hstep.config.trans h.config_eq, ?_⟩
  exact Evidence.step h.evidence rfl rfl rfl hstep

/-! The driver, with a record of its calls. -/

abbrev DriverLog (W : Type u) := W × List (ActuatorCall × Bool)

def Quiet (before after : DriverLog W) : Prop :=
  ∃ calls, after.2 = before.2 ++ calls ∧ ∀ entry ∈ calls, entry.1 ≠ .engageStarter

theorem Quiet.refl (world : DriverLog W) : Quiet world world := ⟨[], by simp, by simp⟩

theorem Quiet.trans {first second third : DriverLog W} (h : Quiet first second)
    (h' : Quiet second third) : Quiet first third := by
  rcases h with ⟨calls, hcalls, hquiet⟩
  rcases h' with ⟨calls', hcalls', hquiet'⟩
  refine ⟨calls ++ calls', by rw [hcalls', hcalls, List.append_assoc], fun entry hmem => ?_⟩
  rcases List.mem_append.1 hmem with h | h
  · exact hquiet entry h
  · exact hquiet' entry h

def energising : List ActuatorCall := [.enableIgnition, .engageStarter, .releaseRemoteControl]

def Unenergised (before after : DriverLog W) : Prop :=
  ∃ calls, after.2 = before.2 ++ calls ∧ ∀ entry ∈ calls, entry.1 ∉ energising

theorem Unenergised.refl (world : DriverLog W) : Unenergised world world :=
  ⟨[], by simp, by simp⟩

theorem Unenergised.trans {first second third : DriverLog W} (h : Unenergised first second)
    (h' : Unenergised second third) : Unenergised first third := by
  obtain ⟨calls, hcalls, hnone⟩ := h
  obtain ⟨calls', hcalls', hnone'⟩ := h'
  refine ⟨calls ++ calls', by simp [hcalls, hcalls'], fun entry hmem => ?_⟩
  exact (List.mem_append.1 hmem).elim (hnone entry) (hnone' entry)

theorem Unenergised.quiet {before after : DriverLog W} (h : Unenergised before after) :
    Quiet before after := by
  obtain ⟨calls, hcalls, hnone⟩ := h
  refine ⟨calls, hcalls, fun entry hmem hengage => hnone entry hmem ?_⟩
  simp [energising, hengage]

theorem unenergised_perform (driver : ActuatorPort W) (world : DriverLog W) {call : ActuatorCall}
    (h : call ∉ energising) : Unenergised world (driver.perform.traced call world).2 :=
  ⟨[(call, (driver.perform call world.1).1)], rfl, by simpa using h⟩

theorem unenergised_safeDownstream (driver : ActuatorPort W) (state : Supervised (DriverLog W)) :
    Unenergised state.2 (safeDownstream driver.traced state).2.2 :=
  (unenergised_perform driver state.2 (by decide)).trans
    (unenergised_perform driver _ (by decide))

theorem unenergised_trip (driver : ActuatorPort W) (fault : ActuatorSupervisorFault)
    (state : Supervised (DriverLog W)) :
    Unenergised state.2 (trip driver.traced fault state).2 :=
  unenergised_safeDownstream driver (_, state.2)

theorem unenergised_observeClock (driver : ActuatorPort W) (nowMs : UInt32)
    (state : Supervised (DriverLog W)) :
    Unenergised state.2 (observeClock driver.traced nowMs state).2.2 := by
  rcases observeClock_cases driver.traced nowMs state with h | h
  · rw [h]
    exact unenergised_trip driver _ state
  · rw [h]
    exact .refl _

theorem unenergised_heartbeat (driver : ActuatorPort W) (nowMs : UInt32)
    (state : Supervised (DriverLog W)) :
    Unenergised state.2 (heartbeat driver.traced nowMs state).2.2 := by
  apply (unenergised_observeClock driver nowMs state).trans
  unfold heartbeat
  dsimp only
  split
  · exact .refl _
  split
  · exact .refl _
  split
  · exact unenergised_trip driver _ _
  · exact .refl _

theorem unenergised_poll (driver : ActuatorPort W) (nowMs : UInt32) (permitted : Bool)
    (feedback : ActuatorFeedback) (state : Supervised (DriverLog W)) :
    Unenergised state.2 (poll driver.traced nowMs permitted feedback state).2.2 := by
  apply (unenergised_observeClock driver nowMs state).trans
  unfold poll
  dsimp only
  split
  · exact .refl _
  split
  · exact .refl _
  split
  · rename_i fault _
    exact unenergised_trip driver fault (_, _)
  · exact .refl _

theorem unenergised_resetFault (driver : ActuatorPort W) (nowMs : UInt32)
    (feedback : ActuatorFeedback) (state : Supervised (DriverLog W)) :
    Unenergised state.2 (resetFault driver.traced nowMs feedback state).2.2 := by
  apply (unenergised_observeClock driver nowMs state).trans
  unfold resetFault
  dsimp only
  repeat' split
  all_goals first
    | exact .refl _
    | exact unenergised_safeDownstream driver (_, _)

theorem unenergised_disengageStarter (driver : ActuatorPort W) (state : Supervised (DriverLog W)) :
    Unenergised state.2 (disengageStarter driver.traced state).2.2 := by
  have hdriver : Unenergised state.2 (driver.perform.traced .disengageStarter state.2).2 :=
    unenergised_perform driver state.2 (by decide)
  apply hdriver.trans
  unfold disengageStarter
  dsimp only
  split
  · exact unenergised_trip driver _ (_, _)
  · exact .refl _

theorem unenergised_secureOutputs (driver : ActuatorPort W) (state : Supervised (DriverLog W)) :
    Unenergised state.2 (secureOutputs driver.traced state).2.2 := by
  apply (unenergised_safeDownstream driver state).trans
  unfold secureOutputs
  dsimp only
  split
  · exact .refl _
  · exact .refl _

theorem unenergised_construct (driver : ActuatorPort W) (config : ActuatorSafetyConfig)
    (world : DriverLog W) : Unenergised world (construct driver.traced config world).2 := by
  unfold construct
  dsimp only
  split
  · exact unenergised_safeDownstream driver (_, world)
  split
  · exact unenergised_safeDownstream driver (_, world)
  · exact unenergised_safeDownstream driver (_, world)

theorem unenergised_canEnergize (driver : ActuatorPort W) (state : Supervised (DriverLog W)) :
    Unenergised state.2 (canEnergize driver.traced state).2.2 := by
  rcases canEnergize_eq driver.traced state with ⟨hguard, -⟩ | ⟨hguard, -⟩ | ⟨fault, -, hguard⟩
  · rw [hguard]
    exact .refl _
  · rw [hguard]
    exact .refl _
  · rw [hguard]
    exact unenergised_trip driver fault state

theorem quiet_perform (driver : ActuatorPort W) (world : DriverLog W) (call : ActuatorCall)
    (h : call ≠ .engageStarter) :
    Quiet world (driver.perform.traced call world).2 :=
  ⟨[(call, (driver.perform call world.1).1)], rfl, by simpa using h⟩

theorem quiet_enableIgnition (driver : ActuatorPort W) (state : Supervised (DriverLog W)) :
    Quiet state.2 (enableIgnition driver.traced state).2.2 := by
  apply (unenergised_canEnergize driver state).quiet.trans
  unfold enableIgnition
  dsimp only
  split
  · exact Quiet.refl _
  apply (quiet_perform driver _ .enableIgnition (by decide)).trans
  split
  · exact (unenergised_trip driver _ (_, _)).quiet
  · exact Quiet.refl _

theorem quiet_releaseRemoteControl (driver : ActuatorPort W) (state : Supervised (DriverLog W)) :
    Quiet state.2 (releaseRemoteControl driver.traced state).2.2 := by
  apply (unenergised_canEnergize driver state).quiet.trans
  unfold releaseRemoteControl
  dsimp only
  split
  · exact Quiet.refl _
  split
  · exact (unenergised_trip driver _ (_, _)).quiet
  apply (quiet_perform driver _ .releaseRemoteControl (by decide)).trans
  split
  · exact (unenergised_trip driver _ (_, _)).quiet
  · exact Quiet.refl _

/-- The conditions under which `engageStarter` calls the driver. -/
structure Engageable (supervisor : ActuatorSafetySupervisor) : Prop
    extends Energizable supervisor where
  ignition : supervisor.ignitionCommanded = true
  starter : supervisor.starterCommanded = false
  confirmed : supervisor.config.requireFeedback = true →
    supervisor.ignitionFeedbackConfirmed = true

theorem engageStarter_quiet_or (driver : ActuatorPort W) (state : Supervised (DriverLog W))
    (hsound : state.1.Sound) :
    Quiet state.2 (engageStarter driver.traced state).2.2 ∨ state.1.Engageable := by
  rcases canEnergize_cases driver.traced state hsound with ⟨h, henergizable⟩ | ⟨hrefused, -⟩
  · by_cases hsequence : (state.1.starterCommanded || !state.1.ignitionCommanded ||
        (state.1.config.requireFeedback && !state.1.ignitionFeedbackConfirmed)) = true
    · left
      unfold engageStarter
      simp only [h, hsequence, Bool.not_true, Bool.false_eq_true, ↓reduceIte]
      exact (unenergised_trip driver _ (_, _)).quiet
    · right
      simp only [Bool.or_eq_true, Bool.and_eq_true, not_or, not_and, Bool.not_eq_true,
        Bool.not_eq_false'] at hsequence
      exact ⟨henergizable, hsequence.1.2, hsequence.1.1, hsequence.2⟩
  · left
    unfold engageStarter
    simp only [hrefused, Bool.not_false, ↓reduceIte]
    exact (unenergised_canEnergize driver state).quiet

theorem perform_quiet_or (driver : ActuatorPort W) (request : Request)
    (state : Supervised (DriverLog W)) (hsound : state.1.Sound) :
    Quiet state.2 (perform driver.traced request state).2.2 ∨
      request = .actuator .engageStarter ∧ state.1.Engageable := by
  cases request with
  | heartbeat nowMs => exact .inl (unenergised_heartbeat driver nowMs state).quiet
  | poll nowMs permitted feedback =>
    exact .inl (unenergised_poll driver nowMs permitted feedback state).quiet
  | resetFault nowMs feedback =>
    exact .inl (unenergised_resetFault driver nowMs feedback state).quiet
  | actuator call =>
    cases call with
    | enableIgnition => exact .inl (quiet_enableIgnition driver state)
    | engageStarter => exact (engageStarter_quiet_or driver state hsound).imp_right fun h => ⟨rfl, h⟩
    | disengageStarter => exact .inl (unenergised_disengageStarter driver state).quiet
    | releaseRemoteControl => exact .inl (quiet_releaseRemoteControl driver state)
    | secureOutputs => exact .inl (unenergised_secureOutputs driver state).quiet

def driverCalls (call : Call (DriverLog W)) : List (ActuatorCall × Bool) :=
  call.after.2.2.drop call.before.2.2.length

theorem Quiet.notMem_driverCalls {call : Call (DriverLog W)}
    (h : Quiet call.before.2 call.after.2) (answer : Bool) :
    (.engageStarter, answer) ∉ driverCalls call := by
  rcases h with ⟨calls, hcalls, hquiet⟩
  unfold driverCalls
  rw [hcalls, List.drop_left]
  exact fun hmem => hquiet _ hmem rfl

/-- In every state of every run, commanded outputs belong to an initialised
supervisor without fault and the starter to a commanded ignition. The driver is
asked to engage the starter only in a state that may engage it, after an accepted
heartbeat, a permitting poll and, where feedback is required, a confirmation. -/
theorem engages_only_with_evidence (driver : ActuatorPort W) (config : ActuatorSafetyConfig)
    (world : W) (requests : List Request) :
    let start := construct driver.traced config (world, [])
    let reached := ((machine driver.traced).final start requests).1
    (reached.ignitionCommanded = true ∨ reached.starterCommanded = true →
      reached.initialized = true ∧ reached.fault = .none) ∧
    (reached.starterCommanded = true → reached.ignitionCommanded = true) ∧
    (∀ answer, (.engageStarter, answer) ∉ start.2.2) ∧
    ∀ past call future answer,
      (machine driver.traced).transcript start requests = past ++ call :: future →
      (.engageStarter, answer) ∈ driverCalls call →
      call.input = .actuator .engageStarter ∧
        call.before.1.fault = .none ∧ call.before.1.ignitionCommanded = true ∧
        call.before.1.starterCommanded = false ∧
        Beaten call.before.1 past ∧ Permitted past ∧
        call.before.1.lastObservedMs - call.before.1.lastHeartbeatMs ≤ config.watchdogTimeoutMs ∧
        (config.requireFeedback = true → Confirmed past) := by
  intro start reached
  have hstart : Recorded config start [] := construct_recorded driver.traced config (world, [])
  have hreached := (machine driver.traced).history_induction (Recorded config) hstart
    (recorded_step driver.traced config) requests
  have hstarter := hreached.sound.starter
  refine ⟨fun hcommanded => ?_, hstarter, ?_, ?_⟩
  · have hnone := hreached.sound.ignition (hcommanded.elim id hstarter)
    exact ⟨hreached.sound.ready hnone, hnone⟩
  · intro answer hmem
    rcases (unenergised_construct driver config (world, [])).quiet with ⟨calls, hcalls, hquiet⟩
    exact hquiet _ (hcalls ▸ hmem) rfl
  · intro past call future answer hrun hmem
    rcases (machine driver.traced).history_at (Recorded config) hstart
      (recorded_step driver.traced config) hrun with ⟨hbefore, hcall⟩
    rcases perform_quiet_or driver call.input call.before hbefore.sound with hquiet |
      ⟨hinput, hengageable⟩
    · have hafter : call.after = (perform driver.traced call.input call.before).2 :=
        congrArg (·.after) hcall
      rw [← hafter] at hquiet
      exact absurd hmem (hquiet.notMem_driverCalls answer)
    · have hevidence := hbefore.evidence hengageable.fault
      refine ⟨hinput, hengageable.fault, hengageable.ignition, hengageable.starter,
        hevidence.heartbeat hengageable.heartbeat, hevidence.permission hengageable.permitted,
        ?_, fun hrequired => ?_⟩
      · rw [← hbefore.config_eq]
        exact hengageable.watchdog
      · rw [← hbefore.config_eq] at hrequired
        have hconfirmed := hevidence.ignition hrequired hengageable.ignition
        rwa [if_pos (hengageable.confirmed hrequired)] at hconfirmed

def ignitionConfirmed : List Request :=
  [.heartbeat 0, .poll 0 true {}, .actuator .enableIgnition,
    .poll 200 true { available := true, ignitionActive := true }, .heartbeat 300]

theorem engages_only_with_evidence_ignitionConfirmed :
    Confirmed ((machine willingDriver.traced).transcript
      (construct willingDriver.traced {} ((), [])) ignitionConfirmed) :=
  ((engages_only_with_evidence willingDriver {} ()
    (ignitionConfirmed ++ [.actuator .engageStarter])).2.2.2 _ _ [] true
    ((machine willingDriver.traced).transcript_concat _ ignitionConfirmed
      (.actuator .engageStarter)) (by decide)).2.2.2.2.2.2.2 rfl

end BmwRemote.Infrastructure.ActuatorSafetySupervisor
