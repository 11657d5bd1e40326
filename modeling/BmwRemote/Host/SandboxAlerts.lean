import BmwRemote.Application.TelemetryHistory
import BmwRemote.Host.SandboxMonotone

/-! The alerts in the answers of a session: which lines have the telemetry evaluated, and
what the others show of the last evaluation. -/
namespace BmwRemote.Host

open BmwRemote.Domain BmwRemote.Application BmwRemote.Infrastructure BmwRemote.Simulation
  BmwRemote.Lib

namespace SandboxSession

/-- What an accepted line has the telemetry evaluated with. -/
inductive Evaluation where
  | vehicle (candidate : VehicleState)
  | renewal (requireHood : Bool)
  | request (features : FeatureRequests)

def parseFeature (features : FeatureRequests) : List Text → Option FeatureRequests
  | [code, value] =>
      (parseOnOff value).bind fun enabled =>
        (findFeatureByCode code).bind fun feature => features.setEnabled feature.id enabled
  | _ => none

def evaluation (session : SandboxSession) (line : Text) : Option Evaluation :=
  match Text.words (trim line) with
  | [] => none
  | verb :: arguments =>
    if verb = Text.ascii "new" then (parseHoodMode arguments).map .renewal
    else if verb = Text.ascii "vehicle" then
      match arguments.foldlM vehicleToken session.vehicle with
      | .error _ => none
      | .ok candidate => if arguments = [] then none else some (.vehicle candidate)
    else if verb = Text.ascii "feature" then
      (parseFeature session.settings.features arguments).map .request
    else none

structure Telemetry where
  vehicle : VehicleState
  settings : UserSettings
  monitor : TelemetryMonitor
  report : TelemetryReport

def telemetry (session : SandboxSession) : Telemetry :=
  ⟨session.vehicle, session.settings, session.telemetryMonitor, session.telemetryReport⟩

section Telemetry

variable {session : SandboxSession}

@[simp] theorem telemetry_dispatch (event : Event) :
    (session.dispatch event).telemetry = session.telemetry := rfl

@[simp] theorem telemetry_serviced (atMs : UInt32) :
    (session.serviced atMs).telemetry = session.telemetry := rfl

@[simp] theorem telemetry_polled (atMs : UInt32) :
    (session.polled atMs).telemetry = session.telemetry := rfl

theorem telemetry_serviceFrom (targetMs : UInt32) (turns : Nat) :
    (serviceFrom targetMs turns session).telemetry = session.telemetry := by
  induction turns generalizing session with
  | zero => rfl
  | succ turns ih =>
    unfold serviceFrom
    dsimp only
    split
    · split
      · rfl
      · exact ih
    · rfl

@[simp] theorem telemetry_serviceSupervisor (targetMs : UInt32) :
    (session.serviceSupervisor targetMs).telemetry = session.telemetry :=
  telemetry_serviceFrom targetMs _

@[simp] theorem telemetry_propagate :
    session.propagateSupervisorFault.telemetry = session.telemetry := by
  unfold propagateSupervisorFault
  split <;> rfl

@[simp] theorem telemetry_dispatchUnlessFault (event : Event) :
    (session.dispatchUnlessFault event).telemetry = session.telemetry := by
  unfold dispatchUnlessFault
  split <;> rfl

theorem telemetry_request (type : EventType) (feedAuthorizationState : Bool) :
    (session.request type feedAuthorizationState).telemetry = session.telemetry := by
  simp only [request]
  split <;> simp

theorem telemetry_elapse : session.elapse.telemetry = session.telemetry := by
  have hadvanced : session.advanced.telemetry = session.telemetry :=
    telemetry_serviceSupervisor session.timer.due
  simp only [elapse, telemetry_dispatchUnlessFault, telemetry_propagate, hadvanced]

theorem telemetry_reset : session.reset.2.telemetry = session.telemetry := by
  unfold reset
  split
  · rfl
  · dsimp only
    split <;> rfl

theorem telemetry_watchdog : session.watchdog.telemetry = session.telemetry := by
  have hsuspended : session.suspended.telemetry = session.telemetry := by
    simp only [telemetry, suspended]
  rw [watchdog, telemetry_propagate, telemetry_polled, hsuspended]

theorem telemetry_interlock (enabled : Bool) :
    (session.interlock enabled).telemetry = session.telemetry := by
  have hpermitting : (session.permitting enabled).telemetry = session.telemetry := rfl
  rw [interlock, telemetry_propagate, telemetry_serviced, hpermitting]

theorem telemetry_applyVehicle (candidate : VehicleState) :
    (session.applyVehicle candidate).telemetry =
      ⟨candidate, session.settings, (session.telemetryMonitor.evaluate candidate).2,
        (session.telemetryMonitor.evaluate candidate).1⟩ := by
  unfold applyVehicle
  generalize hdispatched : dispatchUnlessFault _ _ = dispatched
  have hseen : dispatched.telemetry = (session.seeing candidate).telemetry := by
    rw [← hdispatched, telemetry_dispatchUnlessFault, telemetry_propagate,
      telemetry_serviceSupervisor]
  obtain ⟨hvehicle, hsettings, hmonitor, -⟩ := Telemetry.mk.inj hseen
  simp only [telemetry, evaluateTelemetry, hvehicle, hsettings, hmonitor]
  rfl

end Telemetry

def Telemeters (session : SandboxSession) : Option Evaluation → SandboxSession → Prop
  | none, after => after.telemetry = session.telemetry
  | some (.vehicle candidate), after => after = session.applyVehicle candidate
  | some (.renewal requireHood), after => after = session.restart requireHood
  | some (.request features), after =>
      after = (session.requesting features).rebuildTelemetryMonitor

section Lines

variable (session : SandboxSession)

theorem telemeters_dispatchWithoutArguments (arguments : List Text) (type : EventType)
    (feedAuthorizationState : Bool) :
    session.Telemeters none
      (session.dispatchWithoutArguments arguments type feedAuthorizationState).2 := by
  unfold dispatchWithoutArguments
  split
  · rfl
  · exact telemetry_request type feedAuthorizationState

theorem telemeters_updateVehicle (tokens : List Text) :
    session.Telemeters
      (match tokens.foldlM vehicleToken session.vehicle with
        | .error _ => none
        | .ok candidate => if tokens = [] then none else some (.vehicle candidate))
      (session.updateVehicle tokens).2 := by
  unfold updateVehicle
  cases tokens.foldlM vehicleToken session.vehicle with
  | error error => rfl
  | ok candidate =>
    dsimp only
    split <;> rfl

theorem telemeters_updateFeature (arguments : List Text) :
    session.Telemeters ((parseFeature session.settings.features arguments).map .request)
      (session.updateFeature arguments).2 := by
  match arguments with
  | [] | [_] | _ :: _ :: _ :: _ => rfl
  | [code, value] =>
    unfold updateFeature parseFeature
    cases henabled : parseOnOff value with
    | none => simp [henabled, Telemeters, failure]
    | some enabled =>
      cases hfeature : findFeatureByCode code with
      | none => simp [hfeature, henabled, Telemeters, failure]
      | some feature =>
        cases hfeatures : session.settings.features.setEnabled feature.id enabled <;>
          simp [hfeature, henabled, hfeatures, Telemeters, failure, success]

theorem Telemeters.ite {condition : Prop} [Decidable condition]
    {yes no : SandboxResult × SandboxSession} (hyes : session.Telemeters none yes.2)
    (hno : session.Telemeters none no.2) :
    session.Telemeters none (if condition then yes else no).2 := by
  split
  · exact hyes
  · exact hno

theorem telemeters_execute (line : Text) :
    session.Telemeters (session.evaluation line) (session.execute line).2 := by
  unfold evaluation execute
  cases Text.words (trim line) with
  | nil => rfl
  | cons verb arguments =>
    dsimp only
    by_cases hnew : verb = Text.ascii "new"
    · subst hnew
      rw [if_pos rfl, if_neg (by decide), if_pos rfl]
      cases parseHoodMode arguments <;> rfl
    by_cases hvehicle : verb = Text.ascii "vehicle"
    · subst hvehicle
      rw [if_neg hnew, if_pos rfl]
      iterate 9 rw [if_neg (by decide)]
      rw [if_pos rfl]
      exact session.telemeters_updateVehicle arguments
    by_cases hfeature : verb = Text.ascii "feature"
    · subst hfeature
      rw [if_neg hnew, if_neg hvehicle, if_pos rfl]
      iterate 10 rw [if_neg (by decide)]
      rw [if_pos rfl]
      exact session.telemeters_updateFeature arguments
    rw [if_neg hnew, if_neg hvehicle, if_neg hfeature, if_neg hnew, if_neg hvehicle,
      if_neg hfeature]
    refine .ite session (.ite session rfl rfl) (.ite session ?start (.ite session ?stop
      (.ite session ?takeover (.ite session ?timer (.ite session ?reset
        (.ite session ?watchdog (.ite session ?interlock rfl)))))))
    case start => exact session.telemeters_dispatchWithoutArguments arguments _ _
    case stop => exact session.telemeters_dispatchWithoutArguments arguments _ _
    case takeover => exact session.telemeters_dispatchWithoutArguments arguments _ _
    case timer => exact .ite session rfl (.ite session rfl telemetry_elapse)
    case reset => exact .ite session rfl telemetry_reset
    case watchdog => exact .ite session rfl telemetry_watchdog
    case interlock =>
      split
      · rfl
      · exact telemetry_interlock _

end Lines

/-! The monitor of a session. -/

def freshMonitor (settings : UserSettings) : TelemetryMonitor :=
  let telemetry := (makeUserConfiguration settings (some syntheticVehicleProfile)).telemetry
  { config := { telemetry with
      runtime := { telemetry.runtime with
        target := .simulation
        implementedFeatures := implementedFeatures
        availableCapabilities := FeatureCapability.vehicleStateRead
        vehicleSignalsQualified := true } } }

theorem telemetry_rebuild (session : SandboxSession) :
    session.rebuildTelemetryMonitor.telemetry =
      ⟨session.vehicle, session.settings,
        ((freshMonitor session.settings).evaluate session.vehicle).2,
        ((freshMonitor session.settings).evaluate session.vehicle).1⟩ := rfl

/-- The settings that a session can have. -/
structure Settled (settings : UserSettings) : Prop where
  untouched : ∃ requireHood, settings = { settingsFor requireHood with
    features := settings.features }
  valid : settings.features.valid = true

theorem valid_settings {settings : UserSettings} (h : Settled settings) :
    (validateUserSettings settings).valid = true := by
  obtain ⟨⟨requireHood, hsettings⟩, hvalid⟩ := h
  rw [hsettings]
  unfold validateUserSettings
  simp only [valid_addIf]
  cases requireHood <;> simp [hvalid] <;> decide

def featureOf : TelemetryCondition → FeatureId
  | .coldEngine => .coldEngineGuard
  | .dpf => .dpfRegenerationIndicator
  | .transmission => .transmissionOverheatAlert

def sandboxContext : FeatureRuntimeContext where
  target := .simulation
  implementedFeatures := implementedFeatures
  availableCapabilities := FeatureCapability.vehicleStateRead
  vehicleSignalsQualified := true

theorem effective_resolveFeature (features : FeatureRequests) (condition : TelemetryCondition) :
    (resolveFeature features (featureOf condition) sandboxContext).effective =
      features.enabled (featureOf condition) := by
  unfold resolveFeature
  cases features.enabled (featureOf condition) <;> cases condition <;> rfl

theorem monitored_iff {settings : UserSettings} (h : Settled settings) {monitor : TelemetryMonitor}
    (hconfig : monitor.config = (freshMonitor settings).config) (condition : TelemetryCondition) :
    monitor.monitored (condition.feature monitor.config) =
      settings.features.enabled (featureOf condition) := by
  have hvalid := valid_settings h
  obtain ⟨⟨requireHood, hsettings⟩, hfeatures⟩ := h
  have hwatched : (freshMonitor settings).config =
      { requestedFeatures := settings.features, runtime := sandboxContext } := by
    unfold freshMonitor makeUserConfiguration
    dsimp only
    rw [if_neg (by rw [hvalid]; decide), hsettings]
    cases requireHood <;> rfl
  have hlimits : validTelemetryMonitorConfig (freshMonitor settings).config = true := by
    rw [hwatched]
    simp [validTelemetryMonitorConfig, hfeatures]
    decide
  rw [TelemetryMonitor.monitored, hconfig, hlimits, hwatched, Bool.true_and,
    ← effective_resolveFeature]
  cases condition <;> rfl

structure Reported (telemetry : Telemetry) : Prop where
  settled : Settled telemetry.settings
  evaluated : ∃ prior : TelemetryMonitor,
    prior.config = (freshMonitor telemetry.settings).config ∧
      prior.evaluate telemetry.vehicle = (telemetry.report, telemetry.monitor)

theorem reported_rebuild {session : SandboxSession} (h : Settled session.settings) :
    Reported session.rebuildTelemetryMonitor.telemetry where
  settled := h
  evaluated := ⟨freshMonitor session.settings, rfl, rfl⟩

theorem settled_settingsFor (requireHood : Bool) : Settled (settingsFor requireHood) :=
  ⟨⟨requireHood, rfl⟩, by cases requireHood <;> decide⟩

theorem reported_restarted (requireHood : Bool) : Reported (restarted requireHood).telemetry :=
  reported_rebuild (settled_settingsFor requireHood)

theorem Reported.config {telemetry : Telemetry} (h : Reported telemetry) :
    telemetry.monitor.config = (freshMonitor telemetry.settings).config := by
  obtain ⟨prior, hprior, hevaluated⟩ := h.evaluated
  rw [← hprior, show telemetry.monitor = (prior.evaluate telemetry.vehicle).2 by rw [hevaluated]]
  rfl

theorem Reported.applyVehicle {session : SandboxSession} (h : Reported session.telemetry)
    (candidate : VehicleState) : Reported (session.applyVehicle candidate).telemetry := by
  rw [telemetry_applyVehicle]
  exact ⟨h.settled, session.telemetryMonitor, h.config, rfl⟩

theorem Settled.requesting {session : SandboxSession} (h : Settled session.settings)
    {features : FeatureRequests} (hvalid : features.valid = true) :
    Settled (session.requesting features).settings := by
  obtain ⟨⟨requireHood, hsettings⟩, -⟩ := h
  refine ⟨⟨requireHood, ?_⟩, hvalid⟩
  simp only [SandboxSession.requesting]
  rw [hsettings]

theorem valid_parseFeature {features after : FeatureRequests} {arguments : List Text}
    (hvalid : features.valid = true) (h : parseFeature features arguments = some after) :
    after.valid = true := by
  unfold parseFeature at h
  split at h
  · obtain ⟨enabled, -, h⟩ := Option.bind_eq_some_iff.mp h
    obtain ⟨feature, -, h⟩ := Option.bind_eq_some_iff.mp h
    exact FeatureRequests.valid_setEnabled hvalid h
  · cases h

theorem valid_of_request {session : SandboxSession} {line : Text} {features : FeatureRequests}
    (hvalid : session.settings.features.valid = true)
    (h : session.evaluation line = some (.request features)) : features.valid = true := by
  unfold evaluation at h
  split at h
  · cases h
  split at h
  · simp at h
  split at h
  · split at h
    · cases h
    · split at h <;> cases h
  split at h
  · obtain ⟨after, hafter, heq⟩ := Option.map_eq_some_iff.mp h
    cases heq
    exact valid_parseFeature hvalid hafter
  · cases h

theorem Reported.execute {session : SandboxSession} (h : Reported session.telemetry)
    (line : Text) : Reported (session.execute line).2.telemetry := by
  have htelemeters := session.telemeters_execute line
  cases hevaluation : session.evaluation line with
  | none =>
    rw [hevaluation] at htelemeters
    rw [show (session.execute line).2.telemetry = session.telemetry from htelemeters]
    exact h
  | some evaluation =>
    rw [hevaluation] at htelemeters
    cases evaluation with
    | vehicle candidate =>
      rw [show (session.execute line).2 = session.applyVehicle candidate from htelemeters]
      exact h.applyVehicle candidate
    | renewal requireHood =>
      rw [show (session.execute line).2 = session.restart requireHood from htelemeters]
      exact reported_restarted requireHood
    | request features =>
      rw [show (session.execute line).2 = (session.requesting features).rebuildTelemetryMonitor
        from htelemeters]
      exact reported_rebuild (h.settled.requesting (valid_of_request h.settled.valid hevaluation))

/-- The alerts of an answer are the changes that its line has made. -/
def AlertsOfLine (call : Step SandboxSession Text SandboxResult) : Prop :=
  call.output.snapshot.telemetry.alerts.toList =
    TelemetryCondition.changes (·.stateIn call.before.telemetryReport)
      (·.stateIn call.output.snapshot.telemetry)

/-- No alert waits when a line has nothing evaluated, and no condition is active whose
feature a new monitor is asked for. -/
def NothingPending (call : Step SandboxSession Text SandboxResult) : Prop :=
  match call.before.evaluation call.input with
  | none => call.before.telemetryReport.alerts.toList = []
  | some (.request features) => ∀ condition : TelemetryCondition,
      condition.stateIn call.before.telemetryReport = .active →
        features.enabled (featureOf condition) = false
  | some _ => True

theorem Reported.previous {telemetry : Telemetry} (h : Reported telemetry)
    (condition : TelemetryCondition) :
    condition.previous telemetry.monitor = condition.stateIn telemetry.report := by
  obtain ⟨prior, -, hevaluated⟩ := h.evaluated
  have := condition.stateIn_evaluate prior telemetry.vehicle
  rw [hevaluated] at this
  exact this.symm

theorem Reported.observed {telemetry : Telemetry} (h : Reported telemetry)
    {condition : TelemetryCondition} (hactive : condition.stateIn telemetry.report = .active) :
    condition.observed telemetry.vehicle = true := by
  obtain ⟨prior, -, hevaluated⟩ := h.evaluated
  have hprevious : condition.previous (prior.evaluate telemetry.vehicle).2 = .active := by
    rw [← condition.stateIn_evaluate, hevaluated]
    exact hactive
  exact condition.observed_of (.inl hprevious)

theorem unseen_iff {settings : UserSettings} (h : Settled settings)
    {condition : TelemetryCondition} {vehicle : VehicleState}
    (hobserved : condition.observed vehicle = true) :
    (condition.stateIn ((freshMonitor settings).evaluate vehicle).1 ≠ .active ∧
        condition.stateIn ((freshMonitor settings).evaluate vehicle).1 ≠ .normal) ↔
      settings.features.enabled (featureOf condition) = false := by
  have hmonitored := monitored_iff h rfl condition
  rw [condition.stateIn_evaluate]
  constructor
  · rintro ⟨hactive, hnormal⟩
    rw [← hmonitored]
    apply Bool.eq_false_iff.mpr
    intro hwatched
    rcases condition.previous_of_observed hwatched hobserved with hafter | hafter
    · exact hactive hafter
    · exact hnormal hafter
  · intro hdisabled
    rw [← hmonitored] at hdisabled
    rw [condition.previous_evaluate, if_pos hdisabled]
    exact TelemetryCondition.inactive_ne _

theorem changes_restarted (before : TelemetryCondition → TelemetryConditionState)
    (requireHood : Bool) :
    TelemetryCondition.changes before (·.stateIn (restarted requireHood).telemetryReport) = [] := by
  have hdisabled (condition : TelemetryCondition) :
      condition.stateIn (restarted requireHood).telemetryReport = .disabled := by
    cases requireHood <;> cases condition <;> rfl
  have hunseen (condition : TelemetryCondition) (state : TelemetryConditionState) :
      condition.transition state .disabled = [] :=
    condition.transition_unobserved (by decide) (by decide)
  simp only [TelemetryCondition.changes, hdisabled, hunseen, List.append_nil]

theorem alertsOfLine_iff {session : SandboxSession} (h : Reported session.telemetry)
    (line : Text) :
    AlertsOfLine (machine.stepOf session line) ↔ NothingPending (machine.stepOf session line) := by
  have htelemeters := session.telemeters_execute line
  unfold AlertsOfLine NothingPending
  rw [machine.stepOf_before, machine.stepOf_input, machine.stepOf_output]
  rw [show (machine session line).1.snapshot = (session.execute line).2.snapshot from
    snapshot_execute session line]
  change (session.execute line).2.telemetry.report.alerts.toList =
    TelemetryCondition.changes (·.stateIn session.telemetryReport)
      (·.stateIn (session.execute line).2.telemetry.report) ↔ _
  cases hevaluation : session.evaluation line with
  | none =>
    rw [hevaluation] at htelemeters
    rw [show (session.execute line).2.telemetry = session.telemetry from htelemeters]
    exact iff_of_eq (congrArg _ (TelemetryCondition.changes_self _))
  | some evaluation =>
    rw [hevaluation] at htelemeters
    cases evaluation with
    | vehicle candidate =>
      rw [show (session.execute line).2 = session.applyVehicle candidate from htelemeters,
        telemetry_applyVehicle]
      refine iff_of_true ?_ trivial
      rw [TelemetryCondition.changes_evaluate]
      congr 1
      funext condition
      exact h.previous condition
    | renewal requireHood =>
      rw [show (session.execute line).2 = session.restart requireHood from htelemeters]
      refine iff_of_true ?_ trivial
      rw [show (session.restart requireHood).telemetry = (restarted requireHood).telemetry from rfl]
      refine Eq.trans ?_ (changes_restarted _ requireHood).symm
      exact (TelemetryCondition.changes_evaluate _ _).trans (changes_restarted _ requireHood)
    | request features =>
      have hsettled := h.settled.requesting (valid_of_request h.settled.valid hevaluation)
      rw [show (session.execute line).2 = (session.requesting features).rebuildTelemetryMonitor
        from htelemeters, telemetry_rebuild, TelemetryCondition.changes_evaluate,
        TelemetryCondition.changes_eq_iff]
      refine forall_congr' fun condition => ?_
      rw [show condition.previous (freshMonitor (session.requesting features).settings) = .disabled
        by cases condition <;> rfl, TelemetryCondition.transition_disabled_iff]
      refine forall_congr' fun hactive => ?_
      exact unseen_iff hsettled (h.observed hactive)

/-- Over any sequence of lines: all answers tell the changes of their own line, if and only
if nothing is ever pending. -/
theorem alerts_of_last_line_iff (lines : List Text) :
    (∀ call ∈ machine.transcript new lines, AlertsOfLine call) ↔
      ∀ call ∈ machine.transcript new lines, NothingPending call := by
  refine forall₂_congr fun call hmem => ?_
  obtain ⟨past, future, hsplit⟩ := List.append_of_mem hmem
  obtain ⟨hreported, hcall⟩ := machine.history_at (fun session _ => Reported session.telemetry)
    (reported_restarted true) (fun _ _ h line => h.execute line) hsplit
  rw [hcall]
  exact alertsOfLine_iff hreported call.input

/-- The alert of a line is shown again by the next one. -/
def repeatedAlert : List Text :=
  [Text.ascii "feature dpf_regeneration_indicator on", Text.ascii "vehicle dpf=on",
    Text.ascii "status"]

theorem alert_repeated :
    ∃ call ∈ machine.transcript new repeatedAlert, ¬ AlertsOfLine call := by
  refine ⟨(machine.transcript new repeatedAlert).getLast (by decide), List.getLast_mem _, ?_⟩
  unfold AlertsOfLine
  decide

end SandboxSession

end BmwRemote.Host
