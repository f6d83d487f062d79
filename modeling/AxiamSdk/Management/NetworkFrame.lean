import AxiamSdk.Management.Parts
import AxiamSdk.Management.Sending

/-! # What the network section is apart from

* `run_sameNetwork`: steps of other sections leave the network of a tenant as it is, and the keys resolved
  for it.
* `find?_updateAt`, `find?_append_of_not`: finding an object after a write of another one. -/

namespace AxiamSdk.Manifest
open PyLib
set_option autoImplicit false

/-! ## Steps of other sections -/

/-- A step of the network section. -/
def Step.isNetwork : Step → Bool
  | .replaceNetworkPolicy .. | .createNetworkSegment .. | .replaceNetworkSegment ..
  | .createNetworkProfile .. | .replaceNetworkProfile .. => true
  | _ => false

def Call.isNetwork : Call → Bool
  | .replacePolicy .. | .createSegment .. | .replaceSegment .. | .createProfile .. | .replaceProfile .. => true
  | _ => false

def Record.isNetwork : Record → Bool
  | .segment .. | .segmentVersion .. => true
  | _ => false

theorem request_isNetwork {r : Resolved} {step : Step} {call : Call} {record : Record}
    (h : request r step = .ok (some (call, record))) (hstep : step.isNetwork = false) :
    call.isNetwork = false ∧ record.isNetwork = false := by
  cases step with
  | noop | rebindRole => cases h
  | replaceNetworkPolicy | createNetworkSegment | replaceNetworkSegment | createNetworkProfile
  | replaceNetworkProfile => cases hstep
  | createResource | createPermission | createRole | createGroup | createUser | createServiceAccount =>
    cases h
    exact ⟨rfl, rfl⟩
  | updateResource | createScope | updatePermission | updateRole | updateGroup | updateUser
  | updateServiceAccount =>
    obtain ⟨_, -, h⟩ := bind_ok h
    cases h
    exact ⟨rfl, rfl⟩
  | addGroupMember =>
    obtain ⟨_, -, h⟩ := bind_ok h
    obtain ⟨_, -, h⟩ := bind_ok h
    cases h
    exact ⟨rfl, rfl⟩
  | grantPermission | assignRole =>
    obtain ⟨_, -, h⟩ := bind_ok h
    obtain ⟨_, -, h⟩ := bind_ok h
    obtain ⟨_, -, h⟩ := bind_ok h
    cases h
    exact ⟨rfl, rfl⟩

/-- Two tenants with one network. -/
structure SameNetwork (t u : TenantData) : Prop where
  policy : u.networkPolicy = t.networkPolicy
  segments : u.networkSegments = t.networkSegments
  profiles : u.networkProfiles = t.networkProfiles

/-- Two states with one network and the same keys resolved for it. -/
structure SameState (x y : ApplyState) : Prop where
  network : SameNetwork x.1 y.1
  ids : y.2.networkSegments = x.2.networkSegments
  versions : y.2.networkSegmentVersions = x.2.networkSegmentVersions

theorem part_of_isNetwork {step : Step} (h : step.isNetwork = false) : step.part ≠ some .network := by
  cases step with
  | replaceNetworkPolicy | createNetworkSegment | replaceNetworkSegment | createNetworkProfile
  | replaceNetworkProfile => cases h
  | _ => simp [Step.part]

theorem sameState_of_view {x y : ApplyState} (h : view .network y = view .network x) : SameState x y := by
  obtain ⟨htenant, hkeys⟩ := Prod.mk.inj h
  obtain ⟨hpolicy, hrest⟩ := Prod.mk.inj htenant
  obtain ⟨hsegments, hprofiles⟩ := Prod.mk.inj hrest
  obtain ⟨hids, hversions⟩ := Prod.mk.inj hkeys
  exact ⟨⟨hpolicy, hsegments, hprofiles⟩, hids, hversions⟩

/-! ## The other sections of a plan -/

theorem isNetwork_ite {c : Prop} [Decidable c] {p : Planned} {target : Target} {key : PyStr}
    (h : p.2.isNetwork = false) : (if c then p else noChange target key).2.isNetwork = false := by
  split
  · exact h
  · rfl

theorem planResource_isNetwork (key : PyStr) (spec : ResourceSpec) (found : Option Resource) :
    (planResource key spec found).2.isNetwork = false := by
  cases found with
  | none => rfl
  | some e => exact isNetwork_ite rfl

theorem planRoleBinding_isNetwork (kind : SubjectKind) (subject : PyStr) (id : Option PyStr)
    (b : RoleBinding) (r : Resolved) (bindings : List RoleAssignment) (target : Target) :
    (planRoleBinding kind subject id b r bindings target).2.isNetwork = false := by
  unfold planRoleBinding
  dsimp only
  split
  · rfl
  · split
    · rfl
    · rfl

theorem planServiceAccount_isNetwork {snapshot : Snapshot} {spec : ServiceAccountSpec} {p : Planned}
    (h : p ∈ planServiceAccount snapshot spec) : p.2.isNetwork = false := by
  unfold planServiceAccount at h
  split at h
  · split at h
    · rw [List.mem_singleton] at h
      rw [h]
      rfl
    · rw [List.mem_singleton] at h
      rw [h]
      rfl
  · rw [List.mem_singleton] at h
    rw [h]
    rfl
  · cases h

theorem coreSteps_isNetwork (m : ManagementManifest) (snapshot : Snapshot) (r : Resolved) :
    ∀ p ∈ coreSteps m snapshot r, p.2.isNetwork = false := by
  intro p hp
  simp only [coreSteps, List.mem_append, List.mem_map, List.mem_flatMap] at hp
  obtain (((((((((⟨s, -, rfl⟩ | ⟨s, -, rfl⟩) | ⟨s, -, rfl⟩) | ⟨s, -, g, -, rfl⟩) | ⟨s, -, rfl⟩)
    | ⟨s, -, b, -, rfl⟩) | ⟨s, -, rfl⟩) | ⟨s, -, b, -, rfl⟩) | ⟨s, -, h⟩) | ⟨s, -, b, -, rfl⟩)
    | ⟨s, -, g, -, rfl⟩ := hp
  · cases matchScope snapshot r.resources s.1 s.2 with
    | none => rfl
    | some e => rfl
  · cases matchPermission snapshot s with
    | none => rfl
    | some e => exact isNetwork_ite rfl
  · cases matchRole snapshot s with
    | none => rfl
    | some e => exact isNetwork_ite rfl
  · unfold planGrant
    dsimp only
    split
    · rfl
    · rfl
  · cases matchGroup snapshot s with
    | none => rfl
    | some e => exact isNetwork_ite rfl
  · exact planRoleBinding_isNetwork ..
  · cases matchUser snapshot s with
    | none => rfl
    | some e => exact isNetwork_ite rfl
  · exact planRoleBinding_isNetwork ..
  · exact planServiceAccount_isNetwork h
  · exact planRoleBinding_isNetwork ..
  · unfold planGroupMember
    dsimp only
    split
    · rfl
    · rfl

theorem otherSteps_isNetwork (m : ManagementManifest) (snapshot : Snapshot) (r : Resolved)
    (specs : List ResourceSpec) (found : ResourceSpec → Option Resource) :
    ∀ p ∈ specs.map (fun spec => planResource spec.key spec (found spec)) ++ coreSteps m snapshot r,
      p.2.isNetwork = false := by
  intro p hp
  rw [List.mem_append] at hp
  obtain hp | hp := hp
  · obtain ⟨spec, -, rfl⟩ := List.mem_map.1 hp
    exact planResource_isNetwork ..
  · exact coreSteps_isNetwork m snapshot r p hp

/-- **Steps of other sections** leave the network as it is. -/
theorem run_sameNetwork {serve : Server TenantData} (hserve : Exact serve) {steps : List Planned}
    (hsteps : ∀ p ∈ steps, p.2.isNetwork = false) {x y : ApplyState} (h : Run (Moves serve) x steps y) :
    SameState x y :=
  sameState_of_view (run_frame hserve (fun p hp => part_of_isNetwork (hsteps p hp)) h)

/-! ## Finding an object -/

section Find
variable {α : Type} {p : α → Bool} {id : α → PyStr} {i : PyStr} {f : α → α}

/-- A write that does not change what is looked for finds the same object, written or not. -/
theorem find?_updateAt (l : List α) (hp : ∀ e, id e = i → p (f e) = p e) :
    (updateAt id i f l).find? p = (l.find? p).map (fun e => if id e = i then f e else e) := by
  have hcomp : (p ∘ fun e => if id e = i then f e else e) = p := by
    funext e
    rw [Function.comp_apply]
    split
    · next hid => exact hp e hid
    · rfl
  rw [updateAt, List.find?_map, hcomp]

theorem map_updateAt {β : Type} (g : α → β) (l : List α) (hg : ∀ e, g (f e) = g e) :
    (updateAt id i f l).map g = l.map g := by
  rw [updateAt, List.map_map]
  apply List.map_congr_left
  intro e _
  rw [Function.comp_apply]
  split
  · exact hg e
  · rfl

theorem find?_append_of_not (l : List α) {e : α} (he : p e = false) : (l ++ [e]).find? p = l.find? p := by
  rw [List.find?_append, List.find?_singleton, he]
  simp

theorem find?_append_of_none {l : List α} {e : α} (hl : l.find? p = none) (he : p e = true) :
    (l ++ [e]).find? p = some e := by
  rw [List.find?_append, hl, List.find?_singleton, he]
  rfl

end Find

end AxiamSdk.Manifest
