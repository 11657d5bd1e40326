import BmwRemote.Infrastructure.SettingsEndpoint
import BmwRemote.Lib.Refinement

/-! Two stores that a service cannot tell apart. What the settings protocol makes
of a request depends on the answers of its store alone, so stores that answer
alike serve every byte stream alike. -/
namespace BmwRemote.Infrastructure

open BmwRemote.Application BmwRemote.Lib SettingsProtocolCodec

variable {V W : Type} {related : V → W → Prop}

/-- Related worlds load and save alike. -/
structure UserSettingsStore.Simulates (related : V → W → Prop) (left : UserSettingsStore V)
    (right : UserSettingsStore W) : Prop where
  load : ∀ world other, related world other → Alike related (left.load world) (right.load other)
  save : ∀ settings world other, related world other →
    Alike related (left.save settings world) (right.save settings other)

def SettingsTransportPort.Simulates (related : V → W → Prop) (left : SettingsTransportPort V)
    (right : SettingsTransportPort W) : Prop :=
  ∀ bytes world other, related world other →
    Alike related (left.send bytes world) (right.send bytes other)

namespace SettingsProtocolService

variable {left : SettingsProtocolService V} {right : SettingsProtocolService W}
  {world : V} {other : W}

theorem handle_alike (hstore : left.store.Simulates related right.store)
    (hidentity : left.identity = right.identity) (hrelated : related world other)
    (request : SettingsProtocolFrame) (access : SettingsProtocolAccess) :
    Alike related (left.handle request access world) (right.handle request access other) := by
  obtain ⟨hload, hsave⟩ := hstore
  obtain ⟨⟨load, save⟩, identity⟩ := left
  obtain ⟨⟨loadOther, saveOther⟩, identityOther⟩ := right
  cases hidentity
  dsimp only at hload hsave
  unfold handle
  cases responseType request.type with
  | none => exact .same _ hrelated
  | some responseType =>
  dsimp only
  by_cases hform : request.status ≠ .ok ∨ payloadSizeValid request = false
  · rw [if_pos hform, if_pos hform]
    exact .same _ hrelated
  rw [if_neg hform, if_neg hform]
  by_cases hauthorized : access.authorized = false
  · rw [if_pos hauthorized, if_pos hauthorized]
    exact .same _ hrelated
  rw [if_neg hauthorized, if_neg hauthorized]
  by_cases hidentify : request.type = .identifyRequest
  · rw [if_pos hidentify, if_pos hidentify]
    exact .same _ hrelated
  rw [if_neg hidentify, if_neg hidentify]
  by_cases hread : request.type = .readRequest
  · rw [if_pos hread, if_pos hread]
    obtain ⟨loaded, state, next, hleft, hright, hnext⟩ := (hload world other hrelated).eq_same
    rw [hleft, hright]
    dsimp only
    cases loaded.bind encodeUserSettingsPayload with
    | none => exact .same _ hnext
    | some payload => exact .same _ hnext
  rw [if_neg hread, if_neg hread]
  by_cases hbusy : access.controllerState ≠ .idle
  · rw [if_pos hbusy, if_pos hbusy]
    exact .same _ hrelated
  rw [if_neg hbusy, if_neg hbusy]
  cases decodeUserSettingsPayload request.payload request.payloadSize.toNat with
  | none => exact .same _ hrelated
  | some settings =>
    obtain ⟨saved, state, next, hleft, hright, hnext⟩ :=
      (hsave settings world other hrelated).eq_same
    dsimp only
    rw [hleft, hright]
    cases saved with
    | false => exact .same _ hnext
    | true => exact .same _ hnext

inductive Handled (service : SettingsProtocolService V) (request : SettingsProtocolFrame)
    (access : SettingsProtocolAccess) (world : V) : SettingsProtocolFrame × V → Prop where
  | untouched (response : SettingsProtocolFrame)
      (h : ∀ settings, ¬ Authorises request access settings) :
      Handled service request access world (response, world)
  | loaded (response : SettingsProtocolFrame) (htype : request.type = .readRequest) :
      Handled service request access world (response, (service.store.load world).2)
  | saved (settings : UserSettings) (hrequest : Authorises request access settings)
      (response : SettingsProtocolFrame)
      (h : response.status = .ok ↔ (service.store.save settings world).1 = true) :
      Handled service request access world (response, (service.store.save settings world).2)

theorem handled (service : SettingsProtocolService V) (request : SettingsProtocolFrame)
    (access : SettingsProtocolAccess) (world : V) :
    Handled service request access world (service.handle request access world) := by
  unfold handle
  cases hsupported : responseType request.type with
  | none =>
    refine .untouched _ fun settings hrequest => ?_
    rw [hrequest.type] at hsupported
    cases hsupported
  | some responseType =>
  dsimp only
  by_cases hform : request.status ≠ .ok ∨ payloadSizeValid request = false
  · rw [if_pos hform]
    refine .untouched _ fun settings hrequest => ?_
    simp [payloadSizeValid, hrequest.status, hrequest.type, hrequest.payloadSize] at hform
  rw [if_neg hform]
  by_cases hauthorized : access.authorized = false
  · rw [if_pos hauthorized]
    exact .untouched _ fun settings hrequest => by simp [hrequest.authorized] at hauthorized
  rw [if_neg hauthorized]
  by_cases hidentify : request.type = .identifyRequest
  · rw [if_pos hidentify]
    refine .untouched _ fun settings hrequest => ?_
    rw [hrequest.type] at hidentify
    cases hidentify
  rw [if_neg hidentify]
  by_cases hread : request.type = .readRequest
  · rw [if_pos hread]
    split
    · exact .loaded _ hread
    · exact .loaded _ hread
  rw [if_neg hread]
  by_cases hbusy : access.controllerState ≠ .idle
  · rw [if_pos hbusy]
    exact .untouched _ fun settings hrequest => hbusy hrequest.idle
  rw [if_neg hbusy]
  have hwrite : request.type = .writeRequest := by
    unfold SettingsProtocolService.responseType at hsupported
    by_contra hother
    simp [hread, hidentify, hother] at hsupported
  have hsize : request.payloadSize.toNat = userSettingsPayloadSize := by
    simpa [payloadSizeValid, hwrite] using (not_or.1 hform).2
  rw [hsize]
  cases hdecode : decodeUserSettingsPayload request.payload userSettingsPayloadSize with
  | none =>
    refine .untouched _ fun settings hrequest => ?_
    rw [hrequest.payload] at hdecode
    cases hdecode
  | some settings =>
    have hrequest : Authorises request access settings :=
      ⟨hwrite, Decidable.not_not.1 (not_or.1 hform).1, hsize, hdecode, by simpa using hauthorized,
        Decidable.not_not.1 hbusy⟩
    dsimp only
    split
    · rename_i hsaved
      exact .saved settings hrequest _ ⟨fun _ => hsaved, fun _ => rfl⟩
    · rename_i hsaved
      refine .saved settings hrequest _ ⟨fun hok => ?_, fun hsaved' => absurd hsaved' hsaved⟩
      cases hok

end SettingsProtocolService

namespace SettingsProtocolEndpoint

variable {left : SettingsProtocolEndpoint V} {right : SettingsProtocolEndpoint W}

structure Simulates (related : V → W → Prop) (left : SettingsProtocolEndpoint V)
    (right : SettingsProtocolEndpoint W) : Prop where
  store : left.service.store.Simulates related right.service.store
  identity : left.service.identity = right.service.identity
  transport : left.transport.Simulates related right.transport

theorem handleStreamEvent_alike (h : left.Simulates related right) (world : V) (other : W)
    (hrelated : related world other) (event : SettingsStreamEvent)
    (access : SettingsProtocolAccess) :
    Alike related (left.handleStreamEvent event access world)
      (right.handleStreamEvent event access other) := by
  obtain ⟨hstore, hidentity, hsend⟩ := h
  obtain ⟨service, ⟨send⟩⟩ := left
  obtain ⟨serviceOther, ⟨sendOther⟩⟩ := right
  dsimp only at hstore hidentity hsend
  unfold handleStreamEvent
  cases event.type with
  | none => exact .same _ hrelated
  | timedOut => exact .same _ hrelated
  | frameRejected => exact .same _ hrelated
  | frameReady =>
    obtain ⟨response, state, next, hleft, hright, hnext⟩ :=
      (SettingsProtocolService.handle_alike hstore hidentity hrelated event.frame access).eq_same
    dsimp only
    rw [hleft, hright]
    dsimp only
    cases encode response with
    | none => exact .same _ hnext
    | some encoded =>
      obtain ⟨sent, final, finalOther, hleft, hright, hfinal⟩ :=
        (hsend encoded state next hnext).eq_same
      dsimp only at hleft hright ⊢
      rw [hleft, hright]
      exact .same _ hfinal

end SettingsProtocolEndpoint

end BmwRemote.Infrastructure
