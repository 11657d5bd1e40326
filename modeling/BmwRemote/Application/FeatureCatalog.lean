import BmwRemote.Application.UserConfiguration
import BmwRemote.Lib.Text

/-! The catalogue of optional features: which ones a user asked for, and whether the
place they run in can honour the request. -/
namespace BmwRemote.Application

open BmwRemote.Lib

inductive FeatureId where
  | coldEngineGuard
  | dpfRegenerationIndicator
  | transmissionOverheatAlert
  | count
  deriving DecidableEq, Repr

def FeatureId.index : FeatureId → UInt64
  | .coldEngineGuard => 0
  | .dpfRegenerationIndicator => 1
  | .transmissionOverheatAlert => 2
  | .count => 3

inductive FeatureControlClass where
  | informational
  | externalOutput
  | comfortVehicleWrite
  | safetyCriticalVehicleControl
  deriving DecidableEq, Repr

inductive FeatureReleaseTier where
  | v1ReadOnly
  | futureComfort
  | benchOnly
  deriving DecidableEq, Repr

def FeatureCapability.vehicleStateRead : UInt32 := (1 : UInt32) <<< 0

structure FeatureDescriptor where
  id : FeatureId
  code : Text
  controlClass : FeatureControlClass
  releaseTier : FeatureReleaseTier
  requiredCapabilities : UInt32
  anyCapability : UInt32
  requiresQualifiedVehicleSignals : Bool

namespace FeatureRequests

def bit (id : FeatureId) : UInt64 := (1 : UInt64) <<< id.index

def enabled (features : FeatureRequests) (id : FeatureId) : Bool :=
  decide (id.index < featureCount) && (features.mask &&& bit id) != 0

/-- No request is set for an identifier outside the catalogue. -/
def setEnabled (features : FeatureRequests) (id : FeatureId) (enabledValue : Bool) :
    Option FeatureRequests :=
  if id.index ≥ featureCount then none
  else some ⟨if enabledValue then features.mask ||| bit id else features.mask &&& ~~~bit id⟩

end FeatureRequests

def featureCatalog : List FeatureDescriptor :=
  [⟨.coldEngineGuard, Text.ascii "cold_engine_guard", .informational, .v1ReadOnly,
      FeatureCapability.vehicleStateRead, 0, true⟩,
    ⟨.dpfRegenerationIndicator, Text.ascii "dpf_regeneration_indicator", .informational,
      .v1ReadOnly, FeatureCapability.vehicleStateRead, 0, true⟩,
    ⟨.transmissionOverheatAlert, Text.ascii "transmission_overheat_alert", .informational,
      .v1ReadOnly, FeatureCapability.vehicleStateRead, 0, true⟩]

def findFeature (id : FeatureId) : Option FeatureDescriptor := featureCatalog[id.index.toNat]?

def findFeatureByCode (code : Text) : Option FeatureDescriptor :=
  featureCatalog.find? fun descriptor => code == descriptor.code

inductive FeatureResolutionStatus where
  | disabledByUser
  | notImplemented
  | missingCapabilities
  | signalsUnqualified
  | comfortWritesUnqualified
  | criticalControlBlocked
  | simulated
  | available
  deriving DecidableEq, Repr

structure FeatureResolution where
  status : FeatureResolutionStatus := .disabledByUser
  missingCapabilities : UInt32 := 0
  deriving DecidableEq, Repr

def FeatureResolution.effective (resolution : FeatureResolution) : Bool :=
  resolution.status == .simulated || resolution.status == .available

/-- The capabilities that a descriptor asks for and the context lacks. -/
def FeatureDescriptor.missing (descriptor : FeatureDescriptor) (available : UInt32) : UInt32 :=
  let missing := descriptor.requiredCapabilities &&& ~~~available
  if descriptor.anyCapability != 0 && (descriptor.anyCapability &&& available) == 0 then
    missing ||| descriptor.anyCapability
  else missing

def resolveFeature (requests : FeatureRequests) (id : FeatureId)
    (context : FeatureRuntimeContext) : FeatureResolution :=
  match findFeature id with
  | none => ⟨.disabledByUser, 0⟩
  | some descriptor =>
    let missing := descriptor.missing context.availableCapabilities
    if !requests.enabled id then ⟨.disabledByUser, 0⟩
    else if context.implementedFeatures &&& FeatureRequests.bit id = 0 then ⟨.notImplemented, 0⟩
    else if descriptor.releaseTier = .benchOnly ∧ context.target = .vehicle then
      ⟨.criticalControlBlocked, 0⟩
    else if missing ≠ 0 then ⟨.missingCapabilities, missing⟩
    else if descriptor.requiresQualifiedVehicleSignals && !context.vehicleSignalsQualified then
      ⟨.signalsUnqualified, 0⟩
    else if descriptor.controlClass = .comfortVehicleWrite ∧
        context.comfortWritesQualified = false then
      ⟨.comfortWritesUnqualified, 0⟩
    else if descriptor.controlClass = .safetyCriticalVehicleControl ∧
        context.criticalControlsQualified = false then
      ⟨.criticalControlBlocked, 0⟩
    else ⟨if context.target = .simulation then .simulated else .available, 0⟩

theorem findFeature_of_mem {descriptor : FeatureDescriptor} (h : descriptor ∈ featureCatalog) :
    findFeatureByCode descriptor.code = some descriptor ∧
      findFeature descriptor.id = some descriptor := by
  unfold featureCatalog at h
  simp only [List.mem_cons, List.not_mem_nil, or_false] at h
  rcases h with rfl | rfl | rfl <;> exact ⟨rfl, rfl⟩

namespace FeatureRequests

variable {features after other : FeatureRequests} {id : FeatureId} {enabledValue : Bool}

theorem exists_setEnabled (h : id ≠ .count) (features : FeatureRequests) (enabledValue : Bool) :
    ∃ after, features.setEnabled id enabledValue = some after := by
  cases id with
  | count => exact absurd rfl h
  | _ => exact ⟨_, rfl⟩

theorem or_and_mask (word other mask : UInt64) :
    (word ||| other) &&& mask = (word &&& mask) ||| (other &&& mask) := by
  apply UInt64.toBitVec_inj.mp
  simp [BitVec.and_or_distrib_right]

theorem valid_setEnabled (hvalid : features.valid = true)
    (h : features.setEnabled id enabledValue = some after) : after.valid = true := by
  unfold setEnabled at h
  split at h
  · cases h
  rename_i hindex
  obtain rfl := Option.some.inj h
  have hbit : bit id &&& ~~~validMask = 0 := by
    cases id with
    | count => exact absurd (by decide) hindex
    | _ => decide
  simp only [valid, beq_iff_eq] at hvalid ⊢
  cases enabledValue with
  | true =>
    rw [if_pos rfl, or_and_mask, hvalid, hbit]
    rfl
  | false =>
    rw [if_neg (by decide), UInt64.and_assoc, UInt64.and_comm (~~~bit id), ← UInt64.and_assoc,
      hvalid]
    simp

theorem bit_ne_zero (id : FeatureId) : bit id ≠ 0 := by cases id <;> decide

theorem bit_and_bit (id asked : FeatureId) :
    bit id &&& bit asked = if asked = id then bit asked else 0 := by
  cases id <;> cases asked <;> decide

theorem not_bit_and_bit (id asked : FeatureId) :
    ~~~bit id &&& bit asked = if asked = id then 0 else bit asked := by
  cases id <;> cases asked <;> decide

theorem enabled_setEnabled (h : features.setEnabled id enabledValue = some after)
    (asked : FeatureId) :
    after.enabled asked = if asked = id then enabledValue else features.enabled asked := by
  unfold setEnabled at h
  split at h
  · cases h
  rename_i hindex
  obtain rfl := Option.some.inj h
  unfold enabled
  cases enabledValue with
  | true =>
    rw [if_pos rfl, or_and_mask, bit_and_bit]
    split
    · rename_i heq
      rw [heq]
      simpa [bit_ne_zero] using hindex
    · rw [UInt64.or_zero]
  | false =>
    rw [if_neg (by decide), UInt64.and_assoc, not_bit_and_bit]
    split
    · simp
    · rfl

theorem toNat_mask_lt (h : features.valid = true) : features.mask.toNat < 8 := by
  have hsplit (word mask : UInt64) : word = (word &&& mask) ||| (word &&& ~~~mask) := by
    apply UInt64.toBitVec_inj.mp
    rw [UInt64.toBitVec_or, UInt64.toBitVec_and, UInt64.toBitVec_and, UInt64.toBitVec_not,
      ← BitVec.and_or_distrib_left, BitVec.or_not_self, BitVec.and_allOnes]
  rw [valid, beq_iff_eq] at h
  rw [hsplit features.mask validMask, h, UInt64.or_zero, UInt64.toNat_and]
  exact Nat.lt_succ_of_le Nat.and_le_right

theorem eq_of_enabled (hfeatures : features.valid = true) (hother : other.valid = true)
    (h : ∀ id ≠ .count, features.enabled id = other.enabled id) : features = other := by
  have hmask (requests : FeatureRequests) (hvalid : requests.valid = true) :
      ∃ mask < 8, requests = ⟨UInt64.ofNat mask⟩ :=
    ⟨requests.mask.toNat, toNat_mask_lt hvalid, by rw [UInt64.ofNat_toNat]⟩
  have hdistinct : ∀ mask < 8, ∀ other < 8,
      (⟨UInt64.ofNat mask⟩ : FeatureRequests).enabled .coldEngineGuard =
        (⟨UInt64.ofNat other⟩ : FeatureRequests).enabled .coldEngineGuard →
      (⟨UInt64.ofNat mask⟩ : FeatureRequests).enabled .dpfRegenerationIndicator =
        (⟨UInt64.ofNat other⟩ : FeatureRequests).enabled .dpfRegenerationIndicator →
      (⟨UInt64.ofNat mask⟩ : FeatureRequests).enabled .transmissionOverheatAlert =
        (⟨UInt64.ofNat other⟩ : FeatureRequests).enabled .transmissionOverheatAlert →
      mask = other := by
    decide
  obtain ⟨mask, hlt, rfl⟩ := hmask _ hfeatures
  obtain ⟨otherMask, hotherLt, rfl⟩ := hmask _ hother
  rw [hdistinct mask hlt otherMask hotherLt (h _ (by decide)) (h _ (by decide))
    (h _ (by decide))]

end FeatureRequests

end BmwRemote.Application
