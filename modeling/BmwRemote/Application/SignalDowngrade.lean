import BmwRemote.Application.UnverifiedSignals

/-! Losing a signal never helps: whatever the controller does on a snapshot in which
some signals are stale or unavailable, it also does on the snapshot in which they are
fresh, as far as driving the vehicle and returning to rest are concerned. -/
namespace BmwRemote.Application

open BmwRemote.Domain

/-- The first snapshot is the second one with some signals not fresh any more; what
such a signal shows, and what a signal shows that was not fresh before, is arbitrary. -/
def Downgraded (weaker vehicle : VehicleState) : Prop :=
  ∀ signal, weaker.quality signal = .fresh → SameReading weaker vehicle signal

/-! What an approval says about the signals. -/

theorem approved_addIf (assessment : SafetyAssessment) (condition : Bool) (reason : SafetyReason) :
    (assessment.addIf condition reason).approved = true ↔
      assessment.approved = true ∧ condition = false := by
  have hmask : reason.mask ≠ 0 := by cases reason <;> decide
  cases condition with
  | false => simp [SafetyAssessment.addIf]
  | true => simp [SafetyAssessment.addIf, SafetyAssessment.approved, SafetyAssessment.add, hmask]

theorem approved_requireFresh {T : Type} (assessment : SafetyAssessment) (signal : Observed T) :
    (requireFresh assessment signal).approved = true ↔
      assessment.approved = true ∧ signal.quality = .fresh := by
  rw [requireFresh, approved_addIf, Bool.not_eq_false', Observed.isFresh_iff]

theorem approved_ite_requireFresh {T : Type} (required : Bool) (assessment : SafetyAssessment)
    (signal : Observed T) :
    (if required then requireFresh assessment signal else assessment).approved = true ↔
      assessment.approved = true ∧ (required = true → signal.quality = .fresh) := by
  cases required with
  | false => simp
  | true => simp [approved_requireFresh]

/-- The signals that every assessment needs, each behind its own requirement. -/
structure ShowsCommon (policy : SafetyPolicy) (vehicle : VehicleState)
    (requireDoorsClosed requireTrunkClosed prohibitBrake : Bool) : Prop where
  battery : vehicle.batteryMillivolts.quality = .fresh
  parkingBrake : vehicle.parkingBrakeApplied.quality = .fresh
  transmission : vehicle.transmission.quality = .fresh
  gear : vehicle.gear.quality = .fresh
  criticalFault : vehicle.criticalFaultPresent.quality = .fresh
  brake : prohibitBrake = true → vehicle.brakePressed.quality = .fresh
  hood : policy.config.requireHoodClosed = true → vehicle.hoodClosed.quality = .fresh
  doors : requireDoorsClosed = true → vehicle.doorsClosed.quality = .fresh
  trunk : requireTrunkClosed = true → vehicle.trunkClosed.quality = .fresh

theorem ite_requireFresh_congr {T : Type} {required : Bool} {left right : Observed T}
    (h : required = true → left = right) (assessment : SafetyAssessment) :
    (if required then requireFresh assessment left else assessment) =
      if required then requireFresh assessment right else assessment := by
  cases required with
  | false => rfl
  | true => rw [h rfl]

theorem guarded_congr {T : Type} {required : Bool} {left right : Observed T}
    (h : required = true → left = right) (test : T → Bool) :
    (required && left.isFresh && test left.value) =
      (required && right.isFresh && test right.value) := by
  cases required with
  | false => rfl
  | true => rw [h rfl]

section Assessments

variable {policy : SafetyPolicy} {weaker vehicle : VehicleState}

theorem showsCommon_of_approved {requireDoorsClosed requireTrunkClosed prohibitBrake : Bool}
    (h : (policy.assessCommon vehicle requireDoorsClosed requireTrunkClosed prohibitBrake).approved =
      true) :
    ShowsCommon policy vehicle requireDoorsClosed requireTrunkClosed prohibitBrake := by
  unfold SafetyPolicy.assessCommon at h
  simp only [approved_addIf, approved_ite_requireFresh, approved_requireFresh] at h
  constructor
  all_goals first | simp only [h] | (intro hrequired; simp only [h, hrequired])

theorem Downgraded.assessCommon (h : Downgraded weaker vehicle)
    {requireDoorsClosed requireTrunkClosed prohibitBrake : Bool}
    (happroved : (policy.assessCommon weaker requireDoorsClosed requireTrunkClosed
      prohibitBrake).approved = true) :
    policy.assessCommon vehicle requireDoorsClosed requireTrunkClosed prohibitBrake =
      policy.assessCommon weaker requireDoorsClosed requireTrunkClosed prohibitBrake := by
  have hshows := showsCommon_of_approved happroved
  have hbattery : weaker.batteryMillivolts = vehicle.batteryMillivolts :=
    h .batteryMillivolts hshows.battery
  have hparking : weaker.parkingBrakeApplied = vehicle.parkingBrakeApplied :=
    h .parkingBrakeApplied hshows.parkingBrake
  have htransmission : weaker.transmission = vehicle.transmission :=
    h .transmission hshows.transmission
  have hgear : weaker.gear = vehicle.gear := h .gear hshows.gear
  have hcritical : weaker.criticalFaultPresent = vehicle.criticalFaultPresent :=
    h .criticalFaultPresent hshows.criticalFault
  have hbrake : prohibitBrake = true → weaker.brakePressed = vehicle.brakePressed :=
    fun hrequired => h .brakePressed (hshows.brake hrequired)
  have hhood : policy.config.requireHoodClosed = true → weaker.hoodClosed = vehicle.hoodClosed :=
    fun hrequired => h .hoodClosed (hshows.hood hrequired)
  have hdoors : requireDoorsClosed = true → weaker.doorsClosed = vehicle.doorsClosed :=
    fun hrequired => h .doorsClosed (hshows.doors hrequired)
  have htrunk : requireTrunkClosed = true → weaker.trunkClosed = vehicle.trunkClosed :=
    fun hrequired => h .trunkClosed (hshows.trunk hrequired)
  have hpressed : (prohibitBrake && weaker.brakePressed.isFresh && weaker.brakePressed.value) =
      (prohibitBrake && vehicle.brakePressed.isFresh && vehicle.brakePressed.value) :=
    guarded_congr hbrake fun pressed => pressed
  unfold SafetyPolicy.assessCommon SafetyPolicy.transmissionIsSafe
  rw [hbattery, hparking, htransmission, hgear, hcritical]
  dsimp only
  rw [ite_requireFresh_congr hbrake, ite_requireFresh_congr hhood, ite_requireFresh_congr hdoors,
    ite_requireFresh_congr htrunk, guarded_congr hhood (!·), guarded_congr hdoors (!·),
    guarded_congr htrunk (!·), hpressed]

/-- Every assessment refuses a snapshot that hides the engine speed. -/
theorem Downgraded.engineRpm (h : Downgraded weaker vehicle) {assessment : SafetyAssessment}
    (happroved : (requireFresh assessment weaker.engineRpm).approved = true) :
    vehicle.engineRpm = weaker.engineRpm := by
  have hfresh : weaker.engineRpm.quality = .fresh := ((approved_requireFresh _ _).1 happroved).2
  exact (h .engineRpm hfresh).symm

theorem Downgraded.assessStart (h : Downgraded weaker vehicle)
    (happroved : (policy.assessStart weaker).approved = true) :
    (policy.assessStart vehicle).approved = true := by
  have hrpm := ((approved_addIf _ _ _).1 happroved).1
  have hcommon := ((approved_requireFresh _ _).1 hrpm).1
  unfold SafetyPolicy.assessStart at happroved ⊢
  dsimp only at happroved ⊢
  rw [h.assessCommon hcommon, h.engineRpm hrpm]
  exact happroved

theorem Downgraded.assessCranking (h : Downgraded weaker vehicle)
    (happroved : (policy.assessCranking weaker).approved = true) :
    (policy.assessCranking vehicle).approved = true := by
  have hcommon := ((approved_requireFresh _ _).1 happroved).1
  unfold SafetyPolicy.assessCranking at happroved ⊢
  dsimp only at happroved ⊢
  rw [h.assessCommon hcommon, h.engineRpm happroved]
  exact happroved

theorem Downgraded.assessRemoteRun (h : Downgraded weaker vehicle)
    (happroved : (policy.assessRemoteRun weaker).approved = true) :
    (policy.assessRemoteRun vehicle).approved = true := by
  have hrpm := ((approved_addIf _ _ _).1 happroved).1
  have hcommon := ((approved_requireFresh _ _).1 hrpm).1
  unfold SafetyPolicy.assessRemoteRun at happroved ⊢
  dsimp only at happroved ⊢
  rw [h.assessCommon hcommon, h.engineRpm hrpm]
  exact happroved

theorem Downgraded.assessDriverTakeover (h : Downgraded weaker vehicle)
    (happroved : (policy.assessDriverTakeover weaker).approved = true) :
    (policy.assessDriverTakeover vehicle).approved = true := by
  have hrpm := ((approved_addIf _ _ _).1 happroved).1
  have hcommon := ((approved_requireFresh _ _).1 hrpm).1
  unfold SafetyPolicy.assessDriverTakeover at happroved ⊢
  dsimp only at happroved ⊢
  rw [h.assessCommon hcommon, h.engineRpm hrpm]
  exact happroved

end Assessments

namespace Controller

/-! The calls that drive the vehicle and the calls that return to rest, each by its guard. -/

section Guards

variable (controller : Controller) (event : Event) (vehicle : VehicleState)

theorem contains_enableIgnition_iff :
    (controller.handle event vehicle).1.contains .enableIgnition = true ↔
      controller.state = .authorizing ∧ event.type = .vehicleStateUpdated ∧
        (controller.safetyPolicy.assessStart vehicle).approved = true := by
  rcases controller.handle_cases event vehicle with ⟨state, fault, actions, hcase, hafter, hactions⟩
  rw [controller.contains_eq event vehicle hactions]
  constructor
  · intro hany
    cases hcase with
    | beginPreparing hstate htype happroved => exact ⟨hstate, htype, happroved⟩
    | _ => simp at hany
  · rintro ⟨hstate, htype, happroved⟩
    cases hcase with
    | beginPreparing => rfl
    | silent hsilent => cases hsilent <;> simp_all
    | enterFault code cause => cases cause <;> simp_all
    | _ => simp_all

theorem contains_engageStarter_iff :
    (controller.handle event vehicle).1.contains .engageStarter = true ↔
      controller.state = .preparing ∧ event.type = .timerElapsed ∧
        (controller.safetyPolicy.assessStart vehicle).approved = true := by
  rcases controller.handle_cases event vehicle with ⟨state, fault, actions, hcase, hafter, hactions⟩
  rw [controller.contains_eq event vehicle hactions]
  constructor
  · intro hany
    cases hcase with
    | beginCranking hstate htype happroved => exact ⟨hstate, htype, happroved⟩
    | _ => simp at hany
  · rintro ⟨hstate, htype, happroved⟩
    cases hcase with
    | beginCranking => rfl
    | silent hsilent => cases hsilent <;> simp_all
    | enterFault code cause => cases cause <;> simp_all
    | _ => simp_all

theorem contains_releaseRemoteControl_iff :
    (controller.handle event vehicle).1.contains .releaseRemoteControl = true ↔
      controller.state = .awaitingTakeover ∧ event.type = .driverTakeoverConfirmed ∧
        (controller.safetyPolicy.assessDriverTakeover vehicle).approved = true := by
  rcases controller.handle_cases event vehicle with ⟨state, fault, actions, hcase, hafter, hactions⟩
  rw [controller.contains_eq event vehicle hactions]
  constructor
  · intro hany
    cases hcase with
    | completeDriverTakeover hstate htype happroved => exact ⟨hstate, htype, happroved⟩
    | _ => simp at hany
  · rintro ⟨hstate, htype, happroved⟩
    cases hcase with
    | completeDriverTakeover => rfl
    | silent hsilent => cases hsilent <;> simp_all
    | beginStopping _ cause => cases cause <;> simp_all
    | enterFault code cause => cases cause <;> simp_all
    | _ => simp_all

theorem leaves_fault_iff (hstate : controller.state = .fault) :
    (controller.handle event vehicle).2.state = .idle ↔
      event.type = .resetRequested ∧ controller.engineStopped vehicle = true ∧
        (vehicle.criticalFaultPresent.isFresh && !vehicle.criticalFaultPresent.value) = true := by
  rcases controller.handle_cases event vehicle with ⟨state, fault, actions, hcase, hafter, hactions⟩
  rw [hafter]
  constructor
  · intro hidle
    change state = .idle at hidle
    cases hcase with
    | reset _ htype hengine hcritical => exact ⟨htype, hengine, hcritical⟩
    | _ => simp_all
  · rintro ⟨htype, hengine, hcritical⟩
    cases hcase with
    | reset => rfl
    | silent hsilent => cases hsilent <;> simp_all
    | enterFault code cause => cases cause <;> simp_all
    | _ => simp_all

theorem leaves_stop_iff (hstate : controller.state = .stopping ∨ controller.state = .driverControl) :
    (controller.handle event vehicle).2.state = .idle ↔
      event.type = .vehicleStateUpdated ∧ controller.engineStopped vehicle = true := by
  rcases controller.handle_cases event vehicle with ⟨state, fault, actions, hcase, hafter, hactions⟩
  rw [hafter]
  constructor
  · intro hidle
    change state = .idle at hidle
    cases hstate with
    | inl hstopping => cases hcase <;> simp_all
    | inr hdriving => cases hcase <;> simp_all
  · rintro ⟨htype, hengine⟩
    cases hcase with
    | driveEnded => rfl
    | completeStop => rfl
    | silent hsilent => cases hstate <;> cases hsilent <;> simp_all
    | enterFault code cause => cases cause <;> simp_all
    | beginStopping _ cause => cases cause <;> simp_all
    | _ => simp_all

end Guards

theorem engineStopped_of_downgraded {controller : Controller} {weaker vehicle : VehicleState}
    (h : Downgraded weaker vehicle) (hstopped : controller.engineStopped weaker = true) :
    controller.engineStopped vehicle = true := by
  have hfresh := (Bool.and_eq_true_iff.1 hstopped).1
  have hrpm : weaker.engineRpm = vehicle.engineRpm :=
    h .engineRpm ((Observed.isFresh_iff _).1 hfresh)
  unfold engineStopped engineIsRunning at hstopped ⊢
  rw [← hrpm]
  exact hstopped

theorem noCriticalFault_of_downgraded {weaker vehicle : VehicleState}
    (h : Downgraded weaker vehicle)
    (hcritical :
      (weaker.criticalFaultPresent.isFresh && !weaker.criticalFaultPresent.value) = true) :
    (vehicle.criticalFaultPresent.isFresh && !vehicle.criticalFaultPresent.value) = true := by
  have hfresh := (Bool.and_eq_true_iff.1 hcritical).1
  have hsame : weaker.criticalFaultPresent = vehicle.criticalFaultPresent :=
    h .criticalFaultPresent ((Observed.isFresh_iff _).1 hfresh)
  rw [← hsame]
  exact hcritical

/-- What an assessment approves on the weaker snapshot it approves on the other, and a
call that drives the vehicle or returns to rest on the weaker one does so on the other. -/
theorem fail_closed (controller : Controller) (event : Event) {weaker vehicle : VehicleState}
    (h : Downgraded weaker vehicle) :
    (∀ policy : SafetyPolicy, ∀ assess ∈ [policy.assessStart, policy.assessCranking,
        policy.assessRemoteRun, policy.assessDriverTakeover],
      (assess weaker).approved = true → (assess vehicle).approved = true) ∧
    (∀ type ∈ [ActionType.enableIgnition, .engageStarter, .releaseRemoteControl],
      (controller.handle event weaker).1.contains type = true →
        (controller.handle event vehicle).1.contains type = true) ∧
    (controller.state ∈ [ControllerState.fault, .stopping, .driverControl] →
      (controller.handle event weaker).2.state = .idle →
        (controller.handle event vehicle).2.state = .idle) := by
  refine ⟨?assessments, ?driving, ?returning⟩
  case assessments =>
    intro policy assess hmem
    simp only [List.mem_cons, List.not_mem_nil, or_false] at hmem
    rcases hmem with rfl | rfl | rfl | rfl
    · exact h.assessStart
    · exact h.assessCranking
    · exact h.assessRemoteRun
    · exact h.assessDriverTakeover
  case driving =>
    intro type hmem
    simp only [List.mem_cons, List.not_mem_nil, or_false] at hmem
    rcases hmem with rfl | rfl | rfl
    · rw [contains_enableIgnition_iff, contains_enableIgnition_iff]
      exact fun ⟨hstate, htype, happroved⟩ => ⟨hstate, htype, h.assessStart happroved⟩
    · rw [contains_engageStarter_iff, contains_engageStarter_iff]
      exact fun ⟨hstate, htype, happroved⟩ => ⟨hstate, htype, h.assessStart happroved⟩
    · rw [contains_releaseRemoteControl_iff, contains_releaseRemoteControl_iff]
      exact fun ⟨hstate, htype, happroved⟩ => ⟨hstate, htype, h.assessDriverTakeover happroved⟩
  case returning =>
    intro hmem
    simp only [List.mem_cons, List.not_mem_nil, or_false] at hmem
    cases hmem with
    | inl hfault =>
      rw [leaves_fault_iff _ _ _ hfault, leaves_fault_iff _ _ _ hfault]
      exact fun ⟨htype, hengine, hcritical⟩ => ⟨htype, engineStopped_of_downgraded h hengine,
        noCriticalFault_of_downgraded h hcritical⟩
    | inr hstate =>
      rw [leaves_stop_iff _ _ _ hstate, leaves_stop_iff _ _ _ hstate]
      exact fun ⟨htype, hengine⟩ => ⟨htype, engineStopped_of_downgraded h hengine⟩

def coolantLost : VehicleState :=
  { parkedVehicle with coolantTemperatureC := ⟨-200, .stale⟩ }

theorem coolantLost_downgraded : Downgraded coolantLost parkedVehicle := by
  intro signal hfresh
  cases signal <;> first | rfl | cases hfresh

theorem fail_closed_coolantLost :
    ((⟨qualifiedConfig, .preparing, .none⟩ : Controller).handle ⟨.timerElapsed, .none⟩
      parkedVehicle).1.contains .engageStarter = true :=
  (fail_closed ⟨qualifiedConfig, .preparing, .none⟩ ⟨.timerElapsed, .none⟩
    coolantLost_downgraded).2.1 .engageStarter (by decide) (by decide)

end Controller

end BmwRemote.Application
