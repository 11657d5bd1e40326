import BmwRemote.Application.UserConfiguration
import Mathlib.Data.List.Forall2

/-! Signals that a profile has not verified cannot influence a remote start. The
readiness check requires every signal that the controller reads, so two runs
that agree on the verified signals are the same run. -/
namespace BmwRemote.Application

open BmwRemote.Domain BmwRemote.Lib

/-- Two snapshots give one signal the same value and the same quality. -/
def SameReading (left right : VehicleState) : VehicleSignal → Prop
  | .batteryMillivolts => left.batteryMillivolts = right.batteryMillivolts
  | .engineRpm => left.engineRpm = right.engineRpm
  | .coolantTemperatureC => left.coolantTemperatureC = right.coolantTemperatureC
  | .engineOilTemperatureC => left.engineOilTemperatureC = right.engineOilTemperatureC
  | .transmissionOilTemperatureC =>
      left.transmissionOilTemperatureC = right.transmissionOilTemperatureC
  | .dpfRegenerationActive => left.dpfRegenerationActive = right.dpfRegenerationActive
  | .hoodClosed => left.hoodClosed = right.hoodClosed
  | .doorsClosed => left.doorsClosed = right.doorsClosed
  | .trunkClosed => left.trunkClosed = right.trunkClosed
  | .brakePressed => left.brakePressed = right.brakePressed
  | .parkingBrakeApplied => left.parkingBrakeApplied = right.parkingBrakeApplied
  | .transmission => left.transmission = right.transmission
  | .gear => left.gear = right.gear
  | .criticalFaultPresent => left.criticalFaultPresent = right.criticalFaultPresent

def AgreeOnVerified (profile : VehicleProfile) (left right : VehicleState) : Prop :=
  ∀ signal, profile.support signal = .verified → SameReading left right signal

/-! What readiness guarantees. -/

theorem not_ready_add (assessment : ProfileReadinessAssessment) (reason : ProfileReadinessReason) :
    (assessment.add reason).ready = false := by
  have hmask : reason.mask ≠ 0 := by cases reason <;> decide
  simp [ProfileReadinessAssessment.ready, ProfileReadinessAssessment.add, hmask]

theorem ready_ite_add (condition : Prop) [Decidable condition]
    (first rest : ProfileReadinessAssessment) (reason : ProfileReadinessReason) :
    (if condition then first.add reason else rest).ready = true ↔
      ¬ condition ∧ rest.ready = true := by
  by_cases h : condition <;> simp [h, not_ready_add]

theorem ready_assessSignal (profile : VehicleProfile) (assessment : ProfileReadinessAssessment)
    (signal : VehicleSignal) :
    (assessSignal profile assessment signal).ready = true ↔
      assessment.ready = true ∧ profile.support signal = .verified := by
  unfold assessSignal
  split <;> simp_all [not_ready_add]

theorem ready_foldl_assessSignal (profile : VehicleProfile) (signals : List VehicleSignal)
    (assessment : ProfileReadinessAssessment) :
    (signals.foldl (assessSignal profile) assessment).ready = true ↔
      assessment.ready = true ∧ ∀ signal ∈ signals, profile.support signal = .verified := by
  induction signals generalizing assessment with
  | nil => simp
  | cons signal rest ih =>
    rw [List.foldl_cons, ih, ready_assessSignal]
    simp [and_assoc]

def requiredSignals (requireVehicleSecured requireHoodClosed : Bool) : List VehicleSignal :=
  coreRequiredSignals ++ (if requireHoodClosed then [.hoodClosed] else []) ++
    if requireVehicleSecured then [.doorsClosed, .trunkClosed] else []

theorem support_of_ready {profile : VehicleProfile} {policy : ProfileReadinessPolicy}
    {requireHoodClosed : Bool}
    (h : (assessProfileReadiness profile policy requireHoodClosed).ready = true) :
    ∀ signal ∈ requiredSignals policy.requireVehicleSecured requireHoodClosed,
      profile.support signal = .verified := by
  have hsignals : ((requiredSignals policy.requireVehicleSecured requireHoodClosed).foldl
      (assessSignal profile) {}).ready = true := by
    unfold assessProfileReadiness at h
    simp only [ready_ite_add] at h
    have hready := h.2.2.2.2
    unfold requiredSignals
    rw [List.foldl_append, List.foldl_append]
    by_cases hhood : requireHoodClosed = true <;>
      by_cases hsecured : policy.requireVehicleSecured = true <;>
      simpa [hhood, hsecured] using hready
  exact ((ready_foldl_assessSignal profile _ _).1 hsignals).2

/-- Every signal a controller under this configuration reads. -/
structure SameInputs (config : ControllerConfig) (left right : VehicleState) : Prop where
  core : ∀ signal ∈ coreRequiredSignals, SameReading left right signal
  doors : left.doorsClosed = right.doorsClosed
  trunk : left.trunkClosed = right.trunkClosed
  hood : config.safety.requireHoodClosed = true → left.hoodClosed = right.hoodClosed

theorem sameInputs_of_ready {config : ControllerConfig} {profile : VehicleProfile}
    (hprofile : config.vehicleProfile = some profile)
    (hsecured : config.profilePolicy.requireVehicleSecured = true)
    (hready : (Controller.new config).profileReadiness.ready = true)
    {left right : VehicleState} (h : AgreeOnVerified profile left right) :
    SameInputs config left right := by
  unfold Controller.profileReadiness Controller.new assessRemoteStartReadiness at hready
  dsimp only at hready
  rw [hprofile] at hready
  have hrequired : ∀ signal ∈ requiredSignals config.profilePolicy.requireVehicleSecured
      config.safety.requireHoodClosed, SameReading left right signal :=
    fun signal hmem => h signal (support_of_ready hready signal hmem)
  rw [hsecured] at hrequired
  constructor
  · intro signal hmem
    apply hrequired
    simp [requiredSignals, hmem]
  · exact hrequired .doorsClosed (by simp [requiredSignals])
  · exact hrequired .trunkClosed (by simp [requiredSignals])
  · intro hhood
    exact hrequired .hoodClosed (by simp [requiredSignals, hhood])

namespace SameInputs

variable {config : ControllerConfig} {left right : VehicleState}

theorem engineRpm (h : SameInputs config left right) : left.engineRpm = right.engineRpm :=
  h.core .engineRpm (by decide)

theorem criticalFaultPresent (h : SameInputs config left right) :
    left.criticalFaultPresent = right.criticalFaultPresent :=
  h.core .criticalFaultPresent (by decide)

theorem assessCommon (h : SameInputs config left right)
    (requireDoorsClosed requireTrunkClosed prohibitBrake : Bool) :
    (⟨config.safety⟩ : SafetyPolicy).assessCommon left requireDoorsClosed requireTrunkClosed
        prohibitBrake =
      (⟨config.safety⟩ : SafetyPolicy).assessCommon right requireDoorsClosed requireTrunkClosed
        prohibitBrake := by
  have hbattery : left.batteryMillivolts = right.batteryMillivolts :=
    h.core .batteryMillivolts (by decide)
  have hbrake : left.brakePressed = right.brakePressed := h.core .brakePressed (by decide)
  have hparking : left.parkingBrakeApplied = right.parkingBrakeApplied :=
    h.core .parkingBrakeApplied (by decide)
  have htransmission : left.transmission = right.transmission := h.core .transmission (by decide)
  have hgear : left.gear = right.gear := h.core .gear (by decide)
  unfold SafetyPolicy.assessCommon SafetyPolicy.transmissionIsSafe
  rw [hbattery, hbrake, hparking, htransmission, hgear, h.criticalFaultPresent, h.doors, h.trunk]
  by_cases hhood : config.safety.requireHoodClosed = true
  · rw [h.hood hhood]
  · simp [hhood]

theorem assessStart (h : SameInputs config left right) :
    (⟨config.safety⟩ : SafetyPolicy).assessStart left =
      (⟨config.safety⟩ : SafetyPolicy).assessStart right := by
  unfold SafetyPolicy.assessStart
  dsimp only
  rw [h.assessCommon, h.engineRpm]

theorem assessCranking (h : SameInputs config left right) :
    (⟨config.safety⟩ : SafetyPolicy).assessCranking left =
      (⟨config.safety⟩ : SafetyPolicy).assessCranking right := by
  unfold SafetyPolicy.assessCranking
  dsimp only
  rw [h.assessCommon, h.engineRpm]

theorem assessRemoteRun (h : SameInputs config left right) :
    (⟨config.safety⟩ : SafetyPolicy).assessRemoteRun left =
      (⟨config.safety⟩ : SafetyPolicy).assessRemoteRun right := by
  unfold SafetyPolicy.assessRemoteRun
  dsimp only
  rw [h.assessCommon, h.engineRpm]

theorem assessDriverTakeover (h : SameInputs config left right) :
    (⟨config.safety⟩ : SafetyPolicy).assessDriverTakeover left =
      (⟨config.safety⟩ : SafetyPolicy).assessDriverTakeover right := by
  unfold SafetyPolicy.assessDriverTakeover
  dsimp only
  rw [h.assessCommon, h.engineRpm]

end SameInputs

namespace Controller

/-- One call answers two snapshots that agree on what is read in the same way. -/
theorem handle_congr {controller : Controller} {left right : VehicleState}
    (h : SameInputs controller.config left right) (event : Event) :
    controller.handle event left = controller.handle event right := by
  have hengine : controller.engineIsRunning left = controller.engineIsRunning right := by
    unfold engineIsRunning
    rw [h.engineRpm]
  have hentry : driverEntryDetected left = driverEntryDetected right := by
    unfold driverEntryDetected
    rw [h.doors]
  unfold handle handleEvent handleVehicleUpdate handleTimer handleDriverTakeover handleReset
    safetyPolicy
  rw [h.assessStart, h.assessCranking, h.assessRemoteRun, h.assessDriverTakeover, hengine, hentry,
    h.engineRpm, h.criticalFaultPresent]

theorem runs_agree (steps : List (Event × VehicleState × VehicleState)) (controller : Controller)
    (h : ∀ step ∈ steps, SameInputs controller.config step.2.1 step.2.2) :
    List.Forall₂ (fun left right => left.output = right.output ∧ left.after = right.after)
      (machine.transcript controller (steps.map fun step => (step.1, step.2.1)))
      (machine.transcript controller (steps.map fun step => (step.1, step.2.2))) := by
  induction steps generalizing controller with
  | nil => exact .nil
  | cons step rest ih =>
    have hstep := handle_congr (h step List.mem_cons_self) step.1
    have hconfig : (controller.handle step.1 step.2.1).2.config = controller.config :=
      controller.handleEvent_config step.1 step.2.1
    have hrest := ih (controller.handle step.1 step.2.1).2 (by
      intro next hmem
      rw [hconfig]
      exact h next (List.mem_cons_of_mem step hmem))
    apply List.Forall₂.cons
    · exact ⟨congrArg Prod.fst hstep, congrArg Prod.snd hstep⟩
    · change List.Forall₂ _ _ (machine.transcript (controller.handle step.1 step.2.2).2 _)
      rw [← hstep]
      exact hrest

/-- Two runs over the same events, on snapshots that agree wherever the profile
is verified: when the profile is ready they take the same states and emit the
start actions in the same calls, and otherwise neither ever emits one. -/
theorem unverified_signals_noninterference (settings : UserSettings) (profile : VehicleProfile)
    (steps : List (Event × VehicleState × VehicleState))
    (hagree : ∀ step ∈ steps, AgreeOnVerified profile step.2.1 step.2.2) :
    let config := (makeUserConfiguration settings (some profile)).controller
    let left := machine.transcript (new config) (steps.map fun step => (step.1, step.2.1))
    let right := machine.transcript (new config) (steps.map fun step => (step.1, step.2.2))
    ((new config).profileReadiness.ready = true →
      List.Forall₂ (fun left right => left.after.state = right.after.state ∧
        ∀ type ∈ [ActionType.enableIgnition, .engageStarter, .releaseRemoteControl],
          left.output.contains type = right.output.contains type) left right) ∧
    ((new config).profileReadiness.ready = false → ∀ call ∈ left ++ right,
      ∀ type ∈ [ActionType.enableIgnition, .engageStarter, .releaseRemoteControl],
        call.output.contains type = false) := by
  intro config left right
  have hprofile := makeUserConfiguration_vehicleProfile settings (some profile)
  have hsecured := (makeUserConfiguration_secured settings (some profile)).1
  constructor
  · intro hready
    have hruns := runs_agree steps (new config) fun step hmem =>
      sameInputs_of_ready hprofile (by rw [hsecured]) hready (hagree step hmem)
    apply hruns.imp
    intro first second hsame
    rw [hsame.1, hsame.2]
    exact ⟨rfl, fun _ _ => rfl⟩
  · intro hready call hmem type htype
    have hdriving : type ∈ drivingActions := by
      simp only [List.mem_cons, List.not_mem_nil, or_false] at htype
      rcases htype with rfl | rfl | rfl <;> decide
    rw [List.mem_append] at hmem
    cases hmem with
    | inl hleft => exact (inhibited_run (.inr hready) _).1 call hleft type hdriving
    | inr hright => exact (inhibited_run (.inr hready) _).1 call hright type hdriving

/-- A start on a profile that never verified the coolant temperature, once with
the sensor silent and once with an absurd reading. -/
def startReadings : List (Event × VehicleState × VehicleState) :=
  [EventType.remoteStartRequested, .vehicleStateUpdated, .timerElapsed].map fun type =>
    (⟨type, .none⟩, parkedVehicle, { parkedVehicle with coolantTemperatureC := .ofFresh (-200) })

def coolantUnverified : VehicleProfile where
  transmission := .automatic
  qualification := .vehicleQualified
  hoodInterlockSource := .vehicleSignal
  signals := (Vector.replicate vehicleSignalCount .verified).set
    (signalIndex .coolantTemperatureC) .candidate

theorem unverified_signals_noninterference_coolant :
    List.Forall₂ (fun left right => left.after.state = right.after.state ∧
        ∀ type ∈ [ActionType.enableIgnition, .engageStarter, .releaseRemoteControl],
          left.output.contains type = right.output.contains type)
      (machine.transcript (new (makeUserConfiguration {} (some coolantUnverified)).controller)
        (startReadings.map fun step => (step.1, step.2.1)))
      (machine.transcript (new (makeUserConfiguration {} (some coolantUnverified)).controller)
        (startReadings.map fun step => (step.1, step.2.2))) := by
  apply (unverified_signals_noninterference {} coolantUnverified startReadings ?_).1
  · decide
  · intro step hmem signal hsupport
    simp only [startReadings, List.map_cons, List.map_nil, List.mem_cons, List.not_mem_nil,
      or_false] at hmem
    rcases hmem with rfl | rfl | rfl <;> cases signal <;> first | rfl | cases hsupport

end Controller

end BmwRemote.Application
