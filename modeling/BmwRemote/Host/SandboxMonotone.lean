import BmwRemote.Host.SandboxClock

/-! The times that a sandbox shows never go back, unless a `timer` command comes after too many
`watchdog` commands in `Stopping`. -/
namespace BmwRemote.Host.SandboxSession

open BmwRemote.Domain BmwRemote.Application BmwRemote.Infrastructure BmwRemote.Lib

/-- What a command does to the time and to the services, whatever else it does. -/
structure Timed (session after : SandboxSession) (nowMs : UInt32)
    (services : List (UInt32 × UInt32)) : Prop where
  now : after.nowMs = nowMs
  services : after.timekeeping.services = session.timekeeping.services ++ services
  fits : Fits after → Fits session

section Timed

variable {session : SandboxSession}

theorem timed_of_same {after : SandboxSession} (hnow : after.nowMs = session.nowMs)
    (hsame : after.timekeeping = session.timekeeping) :
    Timed session after session.nowMs [] := by
  refine ⟨hnow, ?_, fun hfits sum hmem => hfits sum ?_⟩
  · rw [hsame, List.append_nil]
  · rw [hsame]
    exact hmem

theorem timed_evaluateTelemetry (session : SandboxSession) :
    Timed session session.evaluateTelemetry session.nowMs [] := timed_of_same rfl rfl

theorem Timed.refl (session : SandboxSession) : Timed session session session.nowMs [] :=
  timed_of_same rfl rfl

theorem Timed.trans {middle after : SandboxSession} {middleMs nowMs : UInt32}
    {earlier later : List (UInt32 × UInt32)} (h : Timed session middle middleMs earlier)
    (hnext : Timed middle after nowMs later) : Timed session after nowMs (earlier ++ later) := by
  refine ⟨hnext.now, ?_, h.fits ∘ hnext.fits⟩
  rw [hnext.services, h.services, List.append_assoc]

theorem Timed.untimed {middle after : SandboxSession} {nowMs : UInt32}
    {services : List (UInt32 × UInt32)} (h : Timed session middle nowMs services)
    (hnext : Timed middle after middle.nowMs []) : Timed session after nowMs services := by
  have hboth := h.trans hnext
  rw [List.append_nil, h.now] at hboth
  exact hboth

theorem timed_dispatch (event : Event) (session : SandboxSession) :
    Timed session (session.dispatch event) session.nowMs [] :=
  ⟨rfl, (List.append_nil _).symm, Fits.of_dispatch⟩

theorem timed_propagate (session : SandboxSession) :
    Timed session session.propagateSupervisorFault session.nowMs [] := by
  unfold propagateSupervisorFault
  split
  · exact .refl session
  · exact timed_dispatch _ session

theorem timed_dispatchUnlessFault (event : Event) (session : SandboxSession) :
    Timed session (session.dispatchUnlessFault event) session.nowMs [] := by
  unfold dispatchUnlessFault
  split
  · exact timed_dispatch event session
  · exact .refl session

theorem timed_of_frame {after : SandboxSession} (hframe : after.frame = session.frame) :
    Timed session after session.nowMs [] := by
  have hnow : after.nowMs = session.nowMs := congrArg Frame.nowMs hframe
  have htimekeeping : after.timekeeping = session.timekeeping :=
    congrArg Frame.timekeeping hframe
  refine ⟨hnow, ?_, fun hfits => ?_⟩
  · rw [htimekeeping, List.append_nil]
  · unfold Fits at hfits
    rw [htimekeeping] at hfits
    exact hfits

theorem timed_serviceSupervisor (targetMs : UInt32) (session : SandboxSession) :
    Timed session (session.serviceSupervisor targetMs) session.nowMs
      [(targetMs, session.lastSupervisorServiceMs)] := by
  have hnoted : Timed session (session.noting targetMs) session.nowMs
      [(targetMs, session.lastSupervisorServiceMs)] := ⟨rfl, rfl, id⟩
  exact hnoted.untimed (timed_of_frame (frame_serviceTo targetMs))

theorem timed_answer (event : Event) (session : SandboxSession) :
    Timed session (session.propagateSupervisorFault.dispatchUnlessFault event) session.nowMs [] :=
  (timed_propagate session).untimed (timed_dispatchUnlessFault event _)

theorem timed_request (type : EventType) (feedAuthorizationState : Bool)
    (session : SandboxSession) :
    Timed session (session.request type feedAuthorizationState) session.nowMs
      [(session.nowMs, session.lastSupervisorServiceMs)] := by
  have hanswered := (timed_serviceSupervisor session.nowMs session).untimed
    (timed_answer { type } _)
  unfold request
  dsimp only
  split
  · exact hanswered.untimed (timed_dispatch _ _)
  · exact hanswered

theorem timed_applyVehicle (candidate : VehicleState) (session : SandboxSession) :
    Timed session (session.applyVehicle candidate) session.nowMs
      [(session.nowMs, session.lastSupervisorServiceMs)] := by
  have hseen : Timed session (session.seeing candidate) session.nowMs [] := timed_of_same rfl rfl
  have hserviced := hseen.trans (timed_serviceSupervisor session.nowMs (session.seeing candidate))
  have hanswered := hserviced.untimed (timed_answer { type := .vehicleStateUpdated } _)
  exact hanswered.untimed (timed_evaluateTelemetry _)

theorem timed_elapse (session : SandboxSession) :
    Timed session session.elapse session.timer.due
      [(session.timer.due, session.lastSupervisorServiceMs)] := by
  have hserviced := timed_serviceSupervisor session.timer.due session
  have hadvanced : Timed session session.advanced session.timer.due
      [(session.timer.due, session.lastSupervisorServiceMs)] :=
    ⟨rfl, hserviced.services, hserviced.fits⟩
  exact hadvanced.untimed (timed_answer { type := .timerElapsed } _)

theorem timed_reset (session : SandboxSession) :
    Timed session session.reset.2 session.nowMs [] := by
  rcases reset_cases session with ⟨-, hreset⟩ | ⟨-, hreset⟩ | ⟨-, -, hreset⟩
  · rw [hreset]
    exact timed_dispatch { type := .resetRequested } session
  · rw [hreset]
    exact timed_of_same rfl rfl
  · rw [hreset]
    have hserviced : Timed session (session.resetting.serviced session.nowMs) session.nowMs [] :=
      timed_of_same rfl rfl
    exact hserviced.untimed (timed_dispatch { type := .resetRequested } _)

theorem timed_watchdog (session : SandboxSession) :
    Timed session session.watchdog session.suspended.nowMs [] := by
  rcases @frame_suspended session with ⟨-, -, -, hservices, hsums⟩
  have hpolled : Timed session (session.suspended.polled session.suspended.nowMs)
      session.suspended.nowMs [] := by
    refine ⟨rfl, hservices.trans (List.append_nil _).symm, fun hfits sum hmem => ?_⟩
    apply hfits sum
    rw [hsums]
    exact List.mem_append_left _ hmem
  exact hpolled.untimed (timed_propagate _)

theorem timed_interlock (enabled : Bool) (session : SandboxSession) :
    Timed session (session.interlock enabled) session.nowMs [] := by
  have hserviced : Timed session ((session.permitting enabled).serviced session.nowMs)
      session.nowMs [] := timed_of_same rfl rfl
  exact hserviced.untimed (timed_propagate _)

theorem timed_execute (session : SandboxSession) (line : Text) :
    ∃ nowMs services, Timed session (session.execute line).2 nowMs services := by
  have hanswered := answered_execute session line
  generalize session.execute line = result at hanswered ⊢
  cases hanswered with
  | refused | reported => exact ⟨_, _, .refl session⟩
  | restarted requireHood => exact ⟨0, [], rfl, (List.append_nil _).symm, id⟩
  | requested type feedAuthorizationState =>
    exact ⟨_, _, timed_request type feedAuthorizationState session⟩
  | elapsed => exact ⟨_, _, timed_elapse session⟩
  | reset => exact ⟨_, _, timed_reset session⟩
  | suspended => exact ⟨_, _, timed_watchdog session⟩
  | interlocked enabled => exact ⟨_, _, timed_interlock enabled session⟩
  | updated candidate => exact ⟨_, _, timed_applyVehicle candidate session⟩
  | requesting => exact ⟨_, _, timed_of_same rfl rfl⟩

end Timed

/-! Services. -/

/-- A service from `lastMs` on to `targetMs` counts down a true distance: whenever its loop is
checked, after so many turns, the last service is so many periods later and not past the
target. -/
def CountsDown (targetMs lastMs : UInt32) : Prop :=
  ∀ turns : Nat, (∀ earlier < turns, supervisorServicePeriodMs <
    targetMs - (lastMs + UInt32.ofNat earlier * supervisorServicePeriodMs)) →
    lastMs.toNat + turns * supervisorServicePeriodMs.toNat ≤ targetMs.toNat

theorem countsDown_of_le {targetMs lastMs : UInt32} (h : lastMs ≤ targetMs) :
    CountsDown targetMs lastMs := by
  have htarget := targetMs.toNat_lt
  intro turns
  induction turns with
  | zero =>
    intro _
    have hle := UInt32.le_iff_toNat_le.1 h
    omega
  | succ turns ih =>
    intro hchecks
    have hbefore := ih fun earlier hlt => hchecks earlier (Nat.lt_succ_of_lt hlt)
    have hcheck := UInt32.lt_iff_toNat_lt.1 (hchecks turns (Nat.lt_succ_self turns))
    rw [supervisorServicePeriodMs_toNat] at hbefore hcheck ⊢
    have hlast : (lastMs + UInt32.ofNat turns * supervisorServicePeriodMs).toNat =
        lastMs.toNat + turns * 250 := by
      rw [UInt32.toNat_add, UInt32.toNat_mul, UInt32.toNat_ofNat', supervisorServicePeriodMs_toNat]
      omega
    have hle : lastMs + UInt32.ofNat turns * supervisorServicePeriodMs ≤ targetMs := by
      rw [UInt32.le_iff_toNat_le, hlast]
      exact hbefore
    have hleft := UInt32.toNat_sub_of_le _ _ hle
    rw [hleft, hlast] at hcheck
    rw [Nat.succ_mul, ← Nat.add_assoc, Nat.add_comm _ 250]
    exact Nat.le_of_lt (Nat.add_lt_of_lt_sub hcheck)

/-! Lines. -/

section Lines

variable {session : SandboxSession} {line : Text}

theorem execute_timer (hline : Says line "timer") (harmed : session.timer.armed = true) :
    session.execute line = session.elapse.success := by
  unfold execute
  rw [show Text.words (trim line) = [Text.ascii "timer"] from hline]
  dsimp only
  rw [if_neg (by decide), if_neg (by decide), if_neg (by decide), if_neg (by decide),
    if_neg (by decide), if_pos rfl, if_neg (by decide), harmed]
  rfl

theorem execute_watchdog (hline : Says line "watchdog") :
    session.execute line = session.watchdog.success := by
  unfold execute
  rw [show Text.words (trim line) = [Text.ascii "watchdog"] from hline]
  dsimp only
  rw [if_neg (by decide), if_neg (by decide), if_neg (by decide), if_neg (by decide),
    if_neg (by decide), if_neg (by decide), if_neg (by decide), if_pos rfl, if_neg (by decide)]

theorem not_renews_timer (hline : Says line "timer") : ¬ Renews line := by
  unfold Renews
  rw [show Text.words (trim line) = [Text.ascii "timer"] from hline]
  decide

theorem snapshot_execute (session : SandboxSession) (line : Text) :
    (session.execute line).1.snapshot = (session.execute line).2.snapshot := by
  have hanswered := answered_execute session line
  generalize session.execute line = result at hanswered ⊢
  cases hanswered with
  | reset =>
    rcases reset_cases session with ⟨-, hreset⟩ | ⟨-, hreset⟩ | ⟨-, -, hreset⟩
    all_goals
      rw [hreset]
      rfl
  | _ => rfl

end Lines

/-! Stops. -/

def stoppingWatchdogs (past : List (Step SandboxSession Text SandboxResult)) : Nat :=
  (past.reverse.takeWhile fun call => call.before.state == .stopping).countP
    fun call => Says call.input "watchdog"

def recount (session : SandboxSession) (line : Text) (watchdogs : Nat) : Nat :=
  if session.state = .stopping then watchdogs + if Says line "watchdog" then 1 else 0 else 0

theorem stoppingWatchdogs_concat (past : List (Step SandboxSession Text SandboxResult))
    (session : SandboxSession) (line : Text) :
    stoppingWatchdogs (past ++ [machine.stepOf session line]) =
      recount session line (stoppingWatchdogs past) := by
  unfold stoppingWatchdogs recount
  rw [List.reverse_append, List.reverse_singleton, List.singleton_append, List.takeWhile_cons]
  by_cases hstopping : session.state = .stopping
  · by_cases hline : Says line "watchdog" <;> simp [hstopping, hline]
  · simp [hstopping]

/-- In `Stopping` the deadline is the three seconds after the entry, and the time went on by
the watchdog's delay for each `watchdog` command. -/
def StopTimed (session : SandboxSession) (watchdogs : Nat) : Prop :=
  session.state = .stopping → session.timer.armed = true ∧
    session.nowMs.toNat + 3000 = session.timer.due.toNat + 501 * watchdogs

section Stops

variable {session after : SandboxSession} {line : Text} {watchdogs : Nat}

theorem StopTimed.step (h : StopTimed session watchdogs) (hstops : Stops session after)
    (htime : session.state = .stopping → after.state = .stopping → after.nowMs.toNat =
      session.nowMs.toNat + 501 * if Says line "watchdog" then 1 else 0) :
    StopTimed after (recount session line watchdogs) := by
  intro hstopping
  unfold recount
  rcases hstops hstopping with ⟨hbefore, htimer⟩ | ⟨hkeeps, harmed, hdue⟩
  · rcases h hbefore with ⟨harmed, hdue⟩
    rw [if_pos hbefore, htimer, htime hbefore hstopping]
    refine ⟨harmed, ?_⟩
    omega
  · have hbefore : session.state ≠ .stopping := by
      intro hstopping
      rw [hstopping] at hkeeps
      cases hkeeps
    rw [if_neg hbefore]
    exact ⟨harmed, hdue.symm⟩

theorem StopTimed.due_iff (h : StopTimed session watchdogs) (hstopping : session.state = .stopping) :
    session.nowMs ≤ session.timer.due ↔ watchdogs ≤ 5 := by
  have hdue := (h hstopping).2
  rw [UInt32.le_iff_toNat_le]
  omega

theorem elapse_of_stopping (hstopping : session.state = .stopping) :
    session.elapse.state = .fault ∧
      session.elapse.timekeeping.sums = session.timekeeping.sums := by
  have hframe : (session.serviceSupervisor session.timer.due).frame =
      (session.noting session.timer.due).frame := frame_serviceTo session.timer.due
  have hruntime : session.advanced.runtime = session.runtime := congrArg Frame.runtime hframe
  have hadvanced : session.advanced.state = .stopping :=
    (congrArg Runtime.state hruntime).trans hstopping
  have hsums : session.advanced.timekeeping.sums = session.timekeeping.sums :=
    congrArg (·.timekeeping.sums) hframe
  unfold elapse dispatchUnlessFault
  rcases @propagate_cases session.advanced with hsame | ⟨hfault, -, hkept⟩
  · have hfaulted := stopping_elapsed hadvanced
    have hnot : session.advanced.state ≠ .fault := by
      rw [hadvanced]
      decide
    rw [hsame, if_pos hnot]
    exact ⟨hfaulted, (faulted_dispatch hnot hfaulted).2.trans hsums⟩
  · rw [if_neg (not_not.2 hfault)]
    exact ⟨hfault, hkept.trans hsums⟩

end Stops

/-! Runs. -/

/-- The log of a run in which no command but `new` shows an earlier time than the session
showed before, and in which every service of the supervisor counts down. -/
def OnTime (past : List (Step SandboxSession Text SandboxResult)) (session : SandboxSession) :
    Prop :=
  (∀ call ∈ past, ¬ Renews call.input →
    call.before.snapshot.timeMs ≤ call.output.snapshot.timeMs) ∧
  ∀ service ∈ session.timekeeping.services,
    service.2 ≤ service.1 ∧ CountsDown service.1 service.2

def StopsInTime (past : List (Step SandboxSession Text SandboxResult)) : Prop :=
  ∀ earlier call later, past = earlier ++ call :: later → Says call.input "timer" →
    call.before.state = .stopping → stoppingWatchdogs earlier ≤ 5

structure Steady (session : SandboxSession) (watchdogs : Nat) : Prop where
  punctual : Punctual session
  stop : StopTimed session watchdogs

structure Ticked (session : SandboxSession) (line : Text)
    (result : SandboxResult × SandboxSession) (watchdogs : Nat) : Prop where
  steady : Steady result.2 (recount session line watchdogs)
  time : ¬ Renews line → session.nowMs ≤ result.2.nowMs
  services : ∃ services, result.2.timekeeping.services =
    session.timekeeping.services ++ services ∧ ∀ service ∈ services, service.2 ≤ service.1

section Runs

variable {session : SandboxSession} {line : Text} {watchdogs : Nat}

theorem Steady.untimed (h : Steady session watchdogs) {result : SandboxResult × SandboxSession}
    (hquiet : ¬ Says line "watchdog") {services : List (UInt32 × UInt32)}
    (hpunctual : Punctual result.2 ∧ Stops session result.2)
    (htimed : Timed session result.2 session.nowMs services)
    (hservices : ∀ service ∈ services, service.2 ≤ service.1) :
    Ticked session line result watchdogs := by
  refine ⟨⟨hpunctual.1, h.stop.step hpunctual.2 fun _ _ => ?_⟩, fun _ => ?_,
    services, htimed.services, hservices⟩
  · rw [htimed.now, if_neg hquiet]
    rfl
  · rw [htimed.now]
    exact UInt32.le_refl _

theorem Steady.watchdog (h : Steady session watchdogs) (hline : Says line "watchdog")
    (hfits : Fits session.watchdog) : Ticked session line session.watchdog.success watchdogs := by
  have hnow := h.punctual.nowMs_watchdog hfits
  rcases punctual_watchdog h.punctual hfits with ⟨hpunctual, hstops⟩
  refine ⟨⟨hpunctual, h.stop.step hstops fun _ _ => ?_⟩, fun _ => ?_,
    [], (timed_watchdog session).services, nofun⟩
  · rw [if_pos hline]
    exact hnow
  · rw [UInt32.le_iff_toNat_le]
    exact hnow ▸ Nat.le_add_right _ _

theorem Steady.elapse (h : Steady session watchdogs) (harmed : session.timer.armed = true)
    (hinTime : session.state = .stopping → watchdogs ≤ 5) (hfits : Fits session.elapse) :
    Ticked session line session.elapse.success watchdogs := by
  have hdue : session.nowMs ≤ session.timer.due := by
    by_cases hstopping : session.state = .stopping
    · exact (h.stop.due_iff hstopping).2 (hinTime hstopping)
    · exact h.punctual.deadlines.due harmed hstopping
  have htimed := timed_elapse session
  rcases punctual_elapse h.punctual harmed hdue hfits with ⟨hpunctual, hstops⟩
  refine ⟨⟨hpunctual, h.stop.step hstops fun hbefore hafter => ?_⟩, fun _ => ?_,
    _, htimed.services, fun service hmem => ?_⟩
  · cases (elapse_of_stopping hbefore).1.symm.trans hafter
  · exact htimed.now ▸ hdue
  · rw [List.mem_singleton.1 hmem]
    exact h.punctual.serviced ▸ hdue

theorem ticked_execute (h : Steady session watchdogs)
    (hinTime : Says line "timer" → session.state = .stopping → watchdogs ≤ 5)
    (hfits : Fits (session.execute line).2) :
    Ticked session line (session.execute line) watchdogs := by
  by_cases hwatchdog : Says line "watchdog"
  · rw [execute_watchdog hwatchdog] at hfits ⊢
    exact h.watchdog hwatchdog hfits
  have hnow : session.lastSupervisorServiceMs = session.nowMs := h.punctual.serviced
  have hself : ∀ service ∈ [(session.nowMs, session.lastSupervisorServiceMs)],
      service.2 ≤ service.1 := by
    intro service hmem
    rw [List.mem_singleton.1 hmem, hnow]
    exact UInt32.le_refl _
  have hanswered := answered_execute session line
  generalize session.execute line = result at hanswered hfits ⊢
  cases hanswered with
  | refused | reported =>
    exact h.untimed hwatchdog ⟨h.punctual, fun hstopping => .inl ⟨hstopping, rfl⟩⟩ (.refl session)
      nofun
  | restarted requireHood hline =>
    have hidle : (session.restart requireHood).state = .idle := rfl
    refine ⟨⟨punctual_restart requireHood, fun hstopping => ?_⟩, absurd hline,
      [], (List.append_nil _).symm, nofun⟩
    cases hidle.symm.trans hstopping
  | requested type feedAuthorizationState htype =>
    exact h.untimed hwatchdog (punctual_request h.punctual htype hfits)
      (timed_request type feedAuthorizationState session) hself
  | elapsed hline harmed => exact h.elapse harmed (hinTime hline) hfits
  | reset =>
    exact h.untimed hwatchdog (punctual_reset h.punctual hfits) (timed_reset session) nofun
  | suspended hline => exact absurd hline hwatchdog
  | interlocked enabled =>
    exact h.untimed hwatchdog (punctual_interlock h.punctual enabled hfits)
      (timed_interlock enabled session) nofun
  | updated candidate =>
    exact h.untimed hwatchdog (punctual_applyVehicle h.punctual candidate hfits)
      (timed_applyVehicle candidate session) hself
  | requesting features =>
    exact h.untimed hwatchdog ⟨punctual_requesting h.punctual features,
      fun hstopping => .inl ⟨hstopping, rfl⟩⟩ ⟨rfl, (List.append_nil _).symm, id⟩ nofun

theorem late_timer (h : Steady session watchdogs) (hline : Says line "timer")
    (hstopping : session.state = .stopping) (hlate : 5 < watchdogs) :
    (session.execute line).1.snapshot.timeMs < session.nowMs := by
  have hdue : ¬ session.nowMs ≤ session.timer.due := fun hle =>
    Nat.not_le.2 hlate ((h.stop.due_iff hstopping).1 hle)
  rw [snapshot_execute, execute_timer hline (h.stop hstopping).1]
  have hafter : session.elapse.nowMs = session.timer.due := (timed_elapse session).now
  exact (congrArg (· < session.nowMs) hafter).mpr (UInt32.not_le.1 hdue)

end Runs

/-! The whole run. -/

theorem stopsInTime_concat (past : List (Step SandboxSession Text SandboxResult))
    (call : Step SandboxSession Text SandboxResult) :
    StopsInTime (past ++ [call]) ↔ StopsInTime past ∧ (Says call.input "timer" →
      call.before.state = .stopping → stoppingWatchdogs past ≤ 5) := by
  constructor
  · intro h
    refine ⟨fun earlier chosen later hpast => ?_, h past call [] rfl⟩
    refine h earlier chosen (later ++ [call]) ?_
    rw [hpast, List.append_assoc, List.cons_append]
  · rintro ⟨hpast, hlast⟩ earlier chosen later hcut
    rcases List.eq_nil_or_concat later with rfl | ⟨later, last, rfl⟩
    · rcases List.append_inj' hcut rfl with ⟨rfl, hcall⟩
      cases hcall
      exact hlast
    · have hbefore : past = earlier ++ chosen :: later := by
        rw [List.concat_eq_append, ← List.cons_append, ← List.append_assoc] at hcut
        exact (List.append_inj' hcut rfl).1
      exact hpast earlier chosen later hbefore

theorem OnTime.init {past : List (Step SandboxSession Text SandboxResult)}
    {session : SandboxSession} {line : Text}
    (h : OnTime (past ++ [machine.stepOf session line]) (session.execute line).2) :
    OnTime past session := by
  rcases timed_execute session line with ⟨nowMs, services, htimed⟩
  refine ⟨fun call hmem => h.1 call (List.mem_append_left _ hmem), fun service hmem => ?_⟩
  apply h.2 service
  rw [htimed.services]
  exact List.mem_append_left _ hmem

theorem OnTime.concat {past : List (Step SandboxSession Text SandboxResult)}
    {session : SandboxSession} {line : Text} {watchdogs : Nat} (h : OnTime past session)
    (hticked : Ticked session line (session.execute line) watchdogs) :
    OnTime (past ++ [machine.stepOf session line]) (session.execute line).2 := by
  refine ⟨fun call hmem hline => ?_, fun service hmem => ?_⟩
  · rcases List.mem_append.1 hmem with hearlier | hlast
    · exact h.1 call hearlier hline
    · rw [List.mem_singleton.1 hlast] at hline ⊢
      have hshown : (session.execute line).1.snapshot.timeMs = (session.execute line).2.nowMs :=
        congrArg SandboxSnapshot.timeMs (snapshot_execute session line)
      exact hshown ▸ hticked.time hline
  · rcases hticked.services with ⟨services, hservices, hordered⟩
    rw [hservices] at hmem
    rcases List.mem_append.1 hmem with hearlier | hlast
    · exact h.2 service hearlier
    · exact ⟨hordered service hlast, countsDown_of_le (hordered service hlast)⟩

/-- A run whose stop timers are all in time is steady; the first one that is not takes the
time back. -/
theorem onTime_steady (lines : List Text) :
    let past := machine.transcript new lines
    let session := machine.final new lines
    Fits session → (OnTime past session ↔ StopsInTime past) ∧
      (StopsInTime past → Steady session (stoppingWatchdogs past)) := by
  refine machine.history_induction (fun session past => Fits session →
    (OnTime past session ↔ StopsInTime past) ∧
      (StopsInTime past → Steady session (stoppingWatchdogs past))) ?_ ?_ lines
  · intro _
    have hinTime : StopsInTime [] := by
      intro earlier call later hcut
      simp at hcut
    have hidle : new.state = .idle := rfl
    have hnone : new.timekeeping.services = [] := rfl
    have honTime : OnTime [] new := by
      refine ⟨fun call hmem => absurd hmem List.not_mem_nil, fun service hmem => ?_⟩
      rw [hnone] at hmem
      exact absurd hmem List.not_mem_nil
    refine ⟨iff_of_true honTime hinTime, fun _ => ⟨@punctual_restart new true, ?_⟩⟩
    intro hstopping
    cases hidle.symm.trans hstopping
  · intro session past ih line hfits
    rcases timed_execute session line with ⟨nowMs, services, htimed⟩
    rcases ih (htimed.fits hfits) with ⟨hiff, hsteady⟩
    rw [stopsInTime_concat, stoppingWatchdogs_concat]
    by_cases hpast : StopsInTime past
    · by_cases hinTime : Says line "timer" → session.state = .stopping →
          stoppingWatchdogs past ≤ 5
      · have hticked := ticked_execute (hsteady hpast) hinTime hfits
        exact ⟨iff_of_true ((hiff.2 hpast).concat hticked) ⟨hpast, hinTime⟩,
          fun _ => hticked.steady⟩
      · refine ⟨iff_of_false (fun honTime => ?_) fun h => hinTime h.2,
          fun h => absurd h.2 hinTime⟩
        simp only [Classical.not_imp, Nat.not_le] at hinTime
        rcases hinTime with ⟨hline, hstopping, hlate⟩
        have hback := late_timer (hsteady hpast) hline hstopping hlate
        have hon := honTime.1 _ (List.mem_append_right _ (List.mem_singleton_self _))
          (not_renews_timer hline)
        exact UInt32.not_le.2 hback hon
    · exact ⟨iff_of_false (fun honTime => hpast (hiff.1 honTime.init)) fun h => hpast h.1,
        fun h => absurd h.1 hpast⟩

/-- As long as no sum of times overflows, the session time never goes back and every service
of the supervisor counts down a true distance exactly if every `timer` command in `Stopping`
comes after at most five `watchdog` commands there. -/
theorem sandbox_time_iff (lines : List Text) (hfits : Fits (machine.final new lines)) :
    let past := machine.transcript new lines
    let session := machine.final new lines
    ((∀ call ∈ past, ¬ Renews call.input →
        call.before.snapshot.timeMs ≤ call.output.snapshot.timeMs) ∧
      ∀ service ∈ session.timekeeping.services,
        service.2 ≤ service.1 ∧ CountsDown service.1 service.2) ↔
    ∀ earlier call later, past = earlier ++ call :: later → Says call.input "timer" →
      call.before.state = .stopping → stoppingWatchdogs earlier ≤ 5 :=
  (onTime_steady lines hfits).1

/-- A start and its first timer. -/
theorem sandbox_time_start :
    let lines := [Text.ascii "start", Text.ascii "timer"]
    let past := machine.transcript new lines
    let session := machine.final new lines
    Fits session ∧
    (∀ call ∈ past, ¬ Renews call.input →
        call.before.snapshot.timeMs ≤ call.output.snapshot.timeMs) ∧
      ∀ service ∈ session.timekeeping.services,
        service.2 ≤ service.1 ∧ CountsDown service.1 service.2 := by
  intro lines past session
  have hfits : Fits session := by decide
  have hnever : ∀ call ∈ past, call.before.state ≠ .stopping := by decide
  refine ⟨hfits, (sandbox_time_iff lines hfits).2 fun earlier call later hcut _ hstopping => ?_⟩
  refine absurd hstopping (hnever call ?_)
  rw [show past = earlier ++ call :: later from hcut]
  exact List.mem_append_right _ (List.mem_cons_self ..)

theorem execute_stop_timer {session : SandboxSession} {line : Text} (hline : Says line "timer")
    (hstopping : session.state = .stopping) (harmed : session.timer.armed = true)
    (hfits : Fits session) :
    Fits (session.execute line).2 ∧
      (session.execute line).1.snapshot.timeMs = session.timer.due ∧
      (session.timer.due, session.lastSupervisorServiceMs) ∈
        (session.execute line).2.timekeeping.services := by
  have htimed := timed_elapse session
  rw [execute_timer hline harmed]
  refine ⟨?_, htimed.now, ?_⟩
  · have hsums : session.elapse.timekeeping.sums = session.timekeeping.sums :=
      (elapse_of_stopping hstopping).2
    intro sum hmem
    exact hfits sum (hsums ▸ hmem)
  · have hservices := htimed.services
    exact hservices ▸ List.mem_append_right _ (List.mem_singleton_self _)

def lateStop : List Text :=
  ["start", "timer", "vehicle rpm=800", "stop", "watchdog", "watchdog", "watchdog", "watchdog",
    "watchdog", "watchdog"].map Text.ascii

/-- After the late stop `timer` takes the session from 4506 ms back to 4500 ms, and services
the supervisor towards a target behind its last service, though no sum overflows. -/
theorem sandbox_time_goes_back :
    let lines := lateStop ++ [Text.ascii "timer"]
    let session := machine.final new lines
    Fits session ∧ (machine.final new lateStop).snapshot.timeMs = 4506 ∧
      session.snapshot.timeMs = 4500 ∧ (4500, 4506) ∈ session.timekeeping.services ∧
      ¬ ((∀ call ∈ machine.transcript new lines, ¬ Renews call.input →
          call.before.snapshot.timeMs ≤ call.output.snapshot.timeMs) ∧
        ∀ service ∈ session.timekeeping.services,
          service.2 ≤ service.1 ∧ CountsDown service.1 service.2) := by
  have hbefore : (machine.final new lateStop).state = .stopping ∧
      (machine.final new lateStop).timer.armed = true ∧
      (machine.final new lateStop).timer.due = 4500 ∧
      (machine.final new lateStop).snapshot.timeMs = 4506 ∧
      (machine.final new lateStop).lastSupervisorServiceMs = 4506 := by decide +kernel
  have hfits : Fits (machine.final new lateStop) := by decide +kernel
  have hline : Says (Text.ascii "timer") "timer" := by decide
  intro lines session
  have hsession : session = ((machine.final new lateStop).execute (Text.ascii "timer")).2 :=
    machine.final_concat new lateStop (Text.ascii "timer")
  rcases hbefore with ⟨hstopping, harmed, hdue, hnow, hlast⟩
  rcases execute_stop_timer hline hstopping harmed hfits with ⟨hafter, hshown, hmember⟩
  rw [snapshot_execute, ← hsession, hdue] at hshown
  rw [← hsession, hdue, hlast] at hmember
  rw [← hsession] at hafter
  exact ⟨hafter, hnow, hshown, hmember, fun h => absurd (h.2 _ hmember).1 (by decide)⟩

end BmwRemote.Host.SandboxSession
