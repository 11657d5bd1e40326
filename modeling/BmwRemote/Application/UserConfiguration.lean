import BmwRemote.Application.FaultLatch
import BmwRemote.Application.LockCommandGate
import BmwRemote.Application.UserSettings

/-! The configuration of the application that user settings stand for. Settings
that break a limit give the default configuration with the remote start off. -/
namespace BmwRemote.Application

open BmwRemote.Domain BmwRemote.Lib

inductive FeatureExecutionTarget where
  | simulation
  | vehicle
  deriving DecidableEq, Repr

structure FeatureRuntimeContext where
  target : FeatureExecutionTarget := .vehicle
  implementedFeatures : UInt64 := 0
  availableCapabilities : UInt32 := 0
  vehicleSignalsQualified : Bool := false
  comfortWritesQualified : Bool := false
  criticalControlsQualified : Bool := false
  deriving DecidableEq, Repr

structure TelemetryMonitorConfig where
  requestedFeatures : FeatureRequests := {}
  runtime : FeatureRuntimeContext := {}
  coldEngineMaximumRpm : UInt16 := 2200
  engineWarmTemperatureC : Int16 := 75
  transmissionOverheatTemperatureC : Int16 := 110
  temperatureHysteresisC : UInt8 := 5
  deriving DecidableEq, Repr

structure UserConfiguration where
  validation : UserSettingsValidation := {}
  controller : ControllerConfig := {}
  lockSequence : LockSequenceConfig := {}
  telemetry : TelemetryMonitorConfig := {}

def makeUserConfiguration (settings : UserSettings) (vehicleProfile : Option VehicleProfile) :
    UserConfiguration :=
  let validation := validateUserSettings settings
  if validation.valid = false then
    { validation
      controller := { vehicleProfile, remoteStartEnabled := false } }
  else
    { validation
      controller :=
        { vehicleProfile
          remoteStartEnabled := settings.remoteStartEnabled
          driverEntryMode := settings.driverEntryMode
          safety := { requireHoodClosed := settings.hoodMonitoring == .required }
          maximumRemoteRunTimeMs := settings.maximumRemoteRunTimeMs
          driverTakeoverTimeoutMs := settings.driverTakeoverTimeoutMs }
      lockSequence :=
        { requiredPresses := settings.lockPressCount
          minimumGapMs := settings.lockMinimumGapMs
          maximumGapMs := settings.lockMaximumGapMs
          maximumSequenceMs := settings.lockMaximumSequenceMs }
      telemetry :=
        { requestedFeatures := settings.features
          coldEngineMaximumRpm := settings.coldEngineMaximumRpm
          engineWarmTemperatureC := settings.engineWarmTemperatureC.toInt16
          transmissionOverheatTemperatureC := settings.transmissionOverheatTemperatureC.toInt16
          temperatureHysteresisC := settings.temperatureAlertHysteresisC.toUInt8 } }

section MakeUserConfiguration

variable (settings : UserSettings) (vehicleProfile : Option VehicleProfile)

theorem makeUserConfiguration_vehicleProfile :
    (makeUserConfiguration settings vehicleProfile).controller.vehicleProfile =
      vehicleProfile := by
  unfold makeUserConfiguration
  dsimp only
  split <;> rfl

theorem makeUserConfiguration_secured :
    (makeUserConfiguration settings vehicleProfile).controller.profilePolicy = {} ∧
      (makeUserConfiguration settings vehicleProfile).controller.safety.requireVehicleSecured =
        true := by
  unfold makeUserConfiguration
  dsimp only
  split <;> exact ⟨rfl, rfl⟩

theorem makeUserConfiguration_remoteStartEnabled :
    (makeUserConfiguration settings vehicleProfile).controller.remoteStartEnabled =
      ((validateUserSettings settings).valid && settings.remoteStartEnabled) := by
  unfold makeUserConfiguration
  dsimp only
  split
  · rename_i hinvalid
    rw [hinvalid, Bool.false_and]
  · rename_i hvalid
    have hvalid : (validateUserSettings settings).valid = true := by simpa using hvalid
    rw [hvalid, Bool.true_and]

theorem makeUserConfiguration_times (hvalid : (validateUserSettings settings).valid = true) :
    (makeUserConfiguration settings vehicleProfile).controller.maximumRemoteRunTimeMs =
        settings.maximumRemoteRunTimeMs ∧
      (makeUserConfiguration settings vehicleProfile).controller.driverTakeoverTimeoutMs =
        settings.driverTakeoverTimeoutMs := by
  unfold makeUserConfiguration
  simp [hvalid]

end MakeUserConfiguration

namespace Controller

/-- A controller that accepts no start request. -/
def Inhibited (controller : Controller) : Prop :=
  controller.config.remoteStartEnabled = false ∨ controller.profileReadiness.ready = false

theorem Inhibited.handle {controller : Controller} (h : Inhibited controller) (event : Event)
    (vehicle : VehicleState) : Inhibited (controller.handle event vehicle).2 := by
  rcases controller.handle_cases event vehicle with ⟨state, fault, actions, -, hafter, -⟩
  rw [hafter]
  exact h

theorem inhibited_state {controller : Controller} (h : Inhibited controller)
    (hrest : controller.state = .idle ∨ controller.state = .fault) (event : Event)
    (vehicle : VehicleState) :
    (controller.handle event vehicle).2.state = .idle ∨
      (controller.handle event vehicle).2.state = .fault ∧
        (controller.state = .idle → event.type = .infrastructureFailure) := by
  rcases controller.handle_cases event vehicle with ⟨state, fault, actions, hcase, hafter, -⟩
  rw [hafter]
  have hsame : controller.state = .idle ∨
      controller.state = .fault ∧ (controller.state = .idle → event.type = .infrastructureFailure) :=
    hrest.imp_right fun hfault => ⟨hfault, by simp [hfault]⟩
  cases hcase with
  | silent | ignored | alreadyStopped | stopIgnoredInFault | startDisabled | profileRejected
  | resetRejected => exact hsame
  | startRejected | completeStop | driveEnded | reset => exact .inl rfl
  | startAccepted _ _ henabled hready => simp [Inhibited, henabled, hready] at h
  | enterFault code cause =>
    refine .inr ⟨rfl, fun hidle => ?_⟩
    cases cause with
    | infrastructure htype => exact htype
    | _ hstate => simp [hidle] at hstate
  | beginStopping hstate => rcases hrest with hrest | hrest <;> simp [hrest] at hstate
  | _ hstate => rcases hrest with hrest | hrest <;> simp [hrest] at hstate

theorem inhibited_drives_nothing {controller : Controller} (h : Inhibited controller)
    (hrest : controller.state = .idle ∨ controller.state = .fault) (event : Event)
    (vehicle : VehicleState) {type : ActionType} (htype : type ∈ drivingActions) :
    (controller.handle event vehicle).1.contains type = false := by
  by_contra hcontains
  rcases drives_of_contains htype (eq_true_of_ne_false hcontains) with ⟨-, henabled, hready⟩ | hactive
  · simp [Inhibited, henabled, hready] at h
  · rcases hrest with hrest | hrest <;> simp [hrest] at hactive

/-- No run of an inhibited controller drives the vehicle, and without
infrastructure failures it never leaves `Idle`. -/
theorem inhibited_run {config : ControllerConfig} (h : Inhibited (new config))
    (inputs : List (Event × VehicleState)) :
    (∀ call ∈ machine.transcript (new config) inputs, ∀ type ∈ drivingActions,
      call.output.contains type = false) ∧
    ((∀ input ∈ inputs, input.1.type ≠ .infrastructureFailure) →
      (machine.final (new config) inputs).state = .idle) := by
  have hrun := @Machine.history_induction _ _ _ machine
    (fun controller past => Inhibited controller ∧
      (controller.state = .idle ∨ controller.state = .fault) ∧
      (∀ call ∈ past, ∀ type ∈ drivingActions, call.output.contains type = false) ∧
      ((∀ call ∈ past, call.input.1.type ≠ .infrastructureFailure) → controller.state = .idle))
    (new config) ⟨h, .inl rfl, by simp, fun _ => rfl⟩
    (by
      intro controller past hpast input
      rcases hpast with ⟨hinhibited, hrest, hdrives, hidle⟩
      have hstate := inhibited_state hinhibited hrest input.1 input.2
      refine ⟨hinhibited.handle input.1 input.2, hstate.imp_right And.left, ?_, ?_⟩
      · intro call hmem type htype
        rw [List.mem_append, List.mem_singleton] at hmem
        cases hmem with
        | inl hearlier => exact hdrives call hearlier type htype
        | inr hlast =>
          rw [hlast]
          exact inhibited_drives_nothing hinhibited hrest input.1 input.2 htype
      · intro hnone
        cases hstate with
        | inl hstays => exact hstays
        | inr hfault =>
          have hfailure := hfault.2
            (hidle fun call hmem => hnone call (List.mem_append_left _ hmem))
          exact absurd hfailure (hnone _ (List.mem_append_right _ (List.mem_singleton_self _))))
    inputs
  refine ⟨hrun.2.2.1, fun hnone => hrun.2.2.2 fun call hmem => ?_⟩
  apply hnone
  rw [← machine.map_input_transcript (new config) inputs]
  exact List.mem_map_of_mem hmem

end Controller

end BmwRemote.Application
