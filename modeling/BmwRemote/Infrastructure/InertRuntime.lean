import BmwRemote.Application.UnverifiedSignals
import BmwRemote.Domain.ReferenceProfiles
import BmwRemote.Infrastructure.Runtime

/-! A runtime on a profile that is not ready. It makes no call that drives the car, and of a
registry without a verified profile every runtime is one, whatever is selected and set. -/
namespace BmwRemote.Infrastructure

open BmwRemote.Domain BmwRemote.Application BmwRemote.Lib

universe u

variable {W : Type u}

def PortCall.Drives : PortCall → Prop
  | .actuator call => call = .enableIgnition ∨ call = .engageStarter ∨ call = .releaseRemoteControl
  | .arm _ => True
  | _ => False

namespace Runtime

theorem type_of_drives {decision : Decision} {action : Action}
    (h : (callOf decision action).Drives) : action.type ∈ Controller.drivingActions := by
  unfold callOf at h
  cases htype : action.type <;> simp [htype, PortCall.Drives] at h <;>
    simp [Controller.drivingActions]

theorem not_drives_of_safing {decision : Decision} {call : PortCall}
    (h : call ∈ safingCalls decision) : ¬ call.Drives := by
  simp only [safingCalls, List.mem_cons, List.not_mem_nil, or_false] at h
  rcases h with rfl | rfl | rfl | rfl <;> simp [PortCall.Drives]

theorem not_drives_of_inhibited {controller : Controller} (h : controller.Inhibited)
    (hrest : controller.state = .idle ∨ controller.state = .fault) (event : Event)
    (vehicle : VehicleState) {call : PortCall}
    (hcall : call ∈ callsOf (controller.handle event vehicle).1) : ¬ call.Drives := by
  intro hdrives
  unfold callsOf at hcall
  rw [List.mem_map] at hcall
  obtain ⟨action, hmem, rfl⟩ := hcall
  have hnone := Controller.inhibited_drives_nothing h hrest event vehicle (type_of_drives hdrives)
  have hcontains : (controller.handle event vehicle).1.contains action.type = true := by
    unfold Decision.contains
    rw [List.any_eq_true]
    exact ⟨action, hmem, beq_self_eq_true _⟩
  rw [hnone] at hcontains
  cases hcontains

/-- The controller rests, and the ports have seen no call that drives the car. -/
structure Inert (runtime : Runtime) (calls : List (PortCall × Bool)) : Prop where
  inhibited : runtime.controller.Inhibited
  rests : runtime.state = .idle ∨ runtime.state = .fault
  drivesNothing : ∀ entry ∈ calls, ¬ entry.1.Drives

theorem inert_dispatch (ports : Ports W) {runtime : Runtime} {world : W × List (PortCall × Bool)}
    (h : runtime.Inert world.2) (input : Input) :
    (dispatch ports.traced runtime input world).2.1.Inert
      (dispatch ports.traced runtime input world).2.2.2 := by
  have hcalls : ∀ call ∈ callsOf (runtime.controller.handle input.event input.vehicle).1,
      ¬ call.Drives := fun call =>
    not_drives_of_inhibited h.inhibited h.rests input.event input.vehicle
  rcases dispatch_traced ports runtime input world with ⟨hlog, -, hcontroller⟩ |
    ⟨done, refused, rest, answers, hsplit, hlog, -, hcontroller, -⟩
  · constructor
    · rw [hcontroller]
      exact h.inhibited.handle input.event input.vehicle
    · unfold state
      rw [hcontroller]
      exact (Controller.inhibited_state h.inhibited h.rests input.event input.vehicle).imp_right
        And.left
    · intro entry hentry
      rw [hlog, List.mem_append, List.mem_map] at hentry
      rcases hentry with hbefore | ⟨call, hmem, rfl⟩
      · exact h.drivesNothing entry hbefore
      · exact hcalls call hmem
  · constructor
    · rw [hcontroller]
      exact h.inhibited
    · unfold state
      rw [hcontroller]
      exact .inr rfl
    · intro entry hentry
      rw [hsplit] at hcalls
      simp only [hlog, List.append_assoc, List.mem_append, List.mem_map, List.mem_singleton]
        at hentry
      rcases hentry with hbefore | ⟨call, hmem, rfl⟩ | rfl | hsafing
      · exact h.drivesNothing entry hbefore
      · exact hcalls call (List.mem_append_left _ hmem)
      · exact hcalls refused (by simp)
      · exact not_drives_of_safing (List.of_mem_zip hsafing).1

/-- A runtime whose controller accepts no request stays inert. -/
theorem inert_run {config : ControllerConfig} (h : (Controller.new config).Inhibited)
    (ports : Ports W) (journal : Option DiagnosticJournal) (start : W) (inputs : List Input) :
    let reached := (machine ports.traced).final (⟨Controller.new config, journal⟩, start, []) inputs
    reached.1.Inert reached.2.2 :=
  (machine ports.traced).invariant_induction (fun state => state.1.Inert state.2.2)
    ⟨h, .inl rfl, by simp⟩ (fun _ hstate input => inert_dispatch ports hstate input) inputs

end Runtime

/-! The shipped profile. -/

/-- Of each profile that can be selected, some signal that a start needs is not verified. -/
def Unverified (registry : VehicleProfileRegistry) : Prop :=
  ∀ id profile, registry.find id = some profile →
    ∃ signal ∈ coreRequiredSignals, profile.support signal ≠ .verified

theorem registry_unverified : Unverified Profiles.registry := by
  intro id profile hfound
  obtain ⟨profiles, hprofiles, -, hmem⟩ := VehicleProfileRegistry.mem_of_find hfound
  cases hprofiles
  rw [List.mem_singleton, RegisteredProfile.mk.injEq] at hmem
  rw [hmem.2]
  exact ⟨.engineRpm, by decide, by decide⟩

theorem Unverified.not_ready {registry : VehicleProfileRegistry} (h : Unverified registry)
    (id : Option String) (policy : ProfileReadinessPolicy) (requireHoodClosed : Bool) :
    (assessRemoteStartReadiness (registry.find id) policy requireHoodClosed).ready = false := by
  cases hfound : registry.find id with
  | none => rfl
  | some profile =>
    obtain ⟨signal, hcore, hunverified⟩ := h id profile hfound
    by_contra hready
    rw [Bool.not_eq_false] at hready
    apply hunverified
    apply support_of_ready hready
    exact List.mem_append_left _ (List.mem_append_left _ hcore)

/-- Whatever vehicle is selected and whatever the user sets: on the shipped profiles, and on
any others that are not verified, a runtime rests, and none of its ports is ever asked to
drive the car. -/
theorem unverified_profiles_are_inert :
    Unverified Profiles.registry ∧
      ∀ registry : VehicleProfileRegistry, Unverified registry →
        ∀ (id : Option String) (settings : UserSettings) (ports : Ports W)
          (journal : Option DiagnosticJournal) (start : W) (inputs : List Runtime.Input),
          let config := (makeUserConfiguration settings (registry.find id)).controller
          let reached := (Runtime.machine ports.traced).final
            (⟨Controller.new config, journal⟩, start, []) inputs
          (reached.1.state = .idle ∨ reached.1.state = .fault) ∧
            ∀ entry ∈ reached.2.2, ¬ entry.1.Drives := by
  refine ⟨registry_unverified, ?_⟩
  intro registry hunverified id settings ports journal start inputs config reached
  have hinhibited : (Controller.new config).Inhibited := by
    right
    have hprofile : config.vehicleProfile = registry.find id :=
      makeUserConfiguration_vehicleProfile settings (registry.find id)
    have hnone := hunverified.not_ready id config.profilePolicy config.safety.requireHoodClosed
    rw [← hprofile] at hnone
    exact hnone
  have hinert := Runtime.inert_run hinhibited ports journal start inputs
  exact ⟨hinert.rests, hinert.drivesNothing⟩

end BmwRemote.Infrastructure
