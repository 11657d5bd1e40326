import BmwRemote.Domain.Vehicle

/-! The registry of vehicle profiles, and the one profile that is shipped. -/
namespace BmwRemote.Domain

structure RegisteredProfile where
  id : Option String
  profile : VehicleProfile

structure VehicleProfileRegistry where
  profiles : Option (List RegisteredProfile)

namespace VehicleProfileRegistry

def find (registry : VehicleProfileRegistry) (id : Option String) : Option VehicleProfile :=
  match id, registry.profiles with
  | some id, some profiles =>
      (profiles.find? fun registered => registered.id == some id).map RegisteredProfile.profile
  | _, _ => none

theorem mem_of_find {registry : VehicleProfileRegistry} {id : Option String}
    {profile : VehicleProfile} (h : registry.find id = some profile) :
    ∃ profiles, registry.profiles = some profiles ∧ id.isSome ∧
      (⟨id, profile⟩ : RegisteredProfile) ∈ profiles := by
  unfold find at h
  split at h
  · rename_i id profiles hprofiles
    rw [Option.map_eq_some_iff] at h
    obtain ⟨registered, hfound, rfl⟩ := h
    have hid : registered.id = some id := by simpa using List.find?_some hfound
    refine ⟨profiles, hprofiles, rfl, ?_⟩
    rw [← hid]
    exact List.mem_of_find?_eq_some hfound
  · cases h

end VehicleProfileRegistry

namespace Profiles

/-- Every signal is a candidate but the hood, which the car does not have. -/
def referenceSignals : Vector SignalSupport vehicleSignalCount :=
  #v[.candidate, .candidate, .candidate, .candidate, .candidate, .candidate, .unavailable,
    .candidate, .candidate, .candidate, .candidate, .candidate, .candidate, .candidate]

def e90_2009_n47d20c_automatic : VehicleProfile where
  transmission := .automatic
  qualification := .discovery
  hoodInterlockSource := .notAvailable
  signals := referenceSignals

def registry : VehicleProfileRegistry where
  profiles := some [⟨some "bmw-e90-2009-n47d20c-automatic", e90_2009_n47d20c_automatic⟩]

end Profiles

end BmwRemote.Domain
