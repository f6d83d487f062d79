import AxiamSdk.Management.NetworkSegments

/-! # The policy and the profiles of a network section

* `policy_step`: what the policy's planned step makes of the policy.
* `profile_step`: what a profile's planned step makes of the profile, and of no other.
* `ProfileDone`: the profile holds what its spec states and keeps what it does not. -/

namespace AxiamSdk.Manifest
open PyLib
set_option autoImplicit false

/-! ## The policy -/

/-- What stays as it is while the policy is written. -/
structure PolicyStage (x₀ x : ApplyState) : Prop where
  segments : x.1.networkSegments = x₀.1.networkSegments
  profiles : x.1.networkProfiles = x₀.1.networkProfiles
  resolved : x.2 = x₀.2

/-- The policy that a spec states. -/
def PolicyDone (policy : NetworkPolicySpec) (read : Option NetworkPolicy) : Prop :=
  read.any (fun p => p.sessionTimeoutMaxSecs = policy.sessionTimeoutMaxSecs) = true

section Policy
variable {serve : Server TenantData} {x₀ x y : ApplyState} {policy : NetworkPolicySpec}

theorem policy_step (hserve : Exact serve) (hx : PolicyStage x₀ x)
    (h : Moves serve x (planNetworkPolicy x.1.networkPolicy policy) y) :
    PolicyStage x₀ y ∧ SendsCurrent x (planNetworkPolicy x.1.networkPolicy policy) ∧
      PolicyDone policy y.1.networkPolicy := by
  revert h
  unfold planNetworkPolicy
  split
  · next hsame =>
    intro h
    obtain rfl := moves_noop h rfl
    exact ⟨hx, sendsCurrent_noop rfl, hsame⟩
  · intro h
    obtain ⟨hsends, c, -, hstate, hresolved⟩ := hserve.sends h rfl rfl
    refine ⟨⟨?_, ?_, ?_⟩, hsends, ?_⟩
    · rw [hstate]
      exact hx.segments
    · rw [hstate]
      exact hx.profiles
    · rw [hresolved]
      exact hx.resolved
    · rw [hstate]
      simp [perform, PolicyDone]

/-- **The policy**, where the manifest has one. -/
theorem policy_run (hserve : Exact serve) (policy : Option NetworkPolicySpec) {read : Option NetworkPolicy}
    (hread : policy.isSome → read = x.1.networkPolicy) :
    (∀ y, Run (Moves serve) x (policy.toList.map (planNetworkPolicy read)) y →
      PolicyStage x y ∧ (∀ p, policy = some p → PolicyDone p y.1.networkPolicy) ∧
      (policy = none → y.1.networkPolicy = x.1.networkPolicy)) ∧
    Run.Always (Moves serve) x (policy.toList.map (planNetworkPolicy read)) SendsCurrent := by
  have hstage : PolicyStage x x := ⟨rfl, rfl, rfl⟩
  have hstart : ∀ p ∈ policy.toList, x.1.networkPolicy = read := fun p hp =>
    (hread (Option.isSome_of_mem (Option.mem_toList.1 hp))).symm
  have hnodup : (policy.toList.map fun _ => ()).Nodup := by cases policy <;> simp
  have hstep : ∀ u p v, p ∈ policy.toList → PolicyStage x u → u.1.networkPolicy = read →
      Moves serve u (planNetworkPolicy read p) v →
      PolicyStage x v ∧ SendsCurrent u (planNetworkPolicy read p) ∧ PolicyDone p v.1.networkPolicy ∧
        ∀ k : Unit, k ≠ () → v.1.networkPolicy = u.1.networkPolicy := by
    intro u p v _ hu hview hmove
    rw [← hview] at hmove ⊢
    obtain ⟨hv, hsends, hdone⟩ := policy_step hserve hu hmove
    exact ⟨hv, hsends, hdone, fun k hk => absurd rfl hk⟩
  obtain ⟨hrun, halways⟩ := Run.targets (fun (_ : Unit) u => u.1.networkPolicy) (fun _ => ()) (fun _ => read)
    PolicyDone hstep hstage hstart hnodup
  refine ⟨fun y h => ?_, halways⟩
  obtain ⟨hy, hdone, hrest⟩ := hrun y h
  exact ⟨hy, fun p hp => hdone p (by simp [hp]), fun hnone => hrest () (by simp [hnone])⟩

end Policy

/-! ## The profiles -/

/-- The tenant's profile of a segment. -/
def profileOf (t : TenantData) (i : PyStr) : Option NetworkReplyProfile :=
  t.networkProfiles.find? (fun p => p.segmentId = i)

/-- What a spec does not state is kept. -/
structure ProfileKept (p : NetworkProfileSpec) (e e' : NetworkReplyProfile) : Prop where
  segmentId : e'.segmentId = e.segmentId
  dictionary : e'.dictionary = e.dictionary
  terminationAction : p.terminationAction = .unset → e'.terminationAction = e.terminationAction
  idleTimeoutSecs : p.idleTimeoutSecs = .unset → e'.idleTimeoutSecs = e.idleTimeoutSecs
  filterId : p.filterId = .unset → e'.filterId = e.filterId
  serviceType : p.serviceType = .unset → e'.serviceType = e.serviceType

/-- The profile holds what its spec states and keeps what it does not. -/
structure ProfileDone (p : NetworkProfileSpec) (before : Option NetworkReplyProfile)
    (e' : NetworkReplyProfile) : Prop where
  holds : profileDiffers p e' = false
  kept : ∀ e, before = some e → ProfileKept p e e'

theorem ProfileKept.refl (p : NetworkProfileSpec) (e : NetworkReplyProfile) : ProfileKept p e e :=
  ⟨rfl, rfl, fun _ => rfl, fun _ => rfl, fun _ => rfl, fun _ => rfl⟩

/-- The decision of `planProfile`, given the profile that exists. -/
def planFound (spec : NetworkProfileSpec) : Option NetworkReplyProfile → Except ComputeError Planned
  | none => .ok (⟨.create, .networkProfile, spec.segment⟩,
      .createNetworkProfile spec.segment (profileInput spec none))
  | some read =>
    if profileDiffers spec read then
      match unknownCarried spec read with
      | some field => .error (.validation field)
      | none => .ok (⟨.update, .networkProfile, spec.segment⟩,
          .replaceNetworkProfile spec.segment read.version (profileInput spec (some read)))
    else .ok (noChange .networkProfile spec.segment)

theorem planProfile_eq (snapshot : Snapshot) (segments : Dict PyStr PyStr) (spec : NetworkProfileSpec) :
    planProfile snapshot segments spec = planFound spec ((segments.get? spec.segment).bind
      (fun id => snapshot.networkProfiles.find? (fun p => p.segmentId = id))) := by
  unfold planProfile
  dsimp only
  cases (segments.get? spec.segment).bind
      (fun id => snapshot.networkProfiles.find? (fun p => p.segmentId = id)) with
  | none => rfl
  | some read => rfl

/-- What a written profile holds: a spec never states that there is no termination action. -/
theorem input_holds (p : NetworkProfileSpec) (hp : p.terminationAction ≠ .stated none)
    (read : Option NetworkReplyProfile) (c : Choices) (i : PyStr) (v : ℤ) :
    profileDiffers p ((profileInput p read).profile c i v) = false := by
  obtain ⟨segment, secs, termination, idle, filterId, serviceType⟩ := p
  cases termination with
  | unset =>
    cases idle <;> cases filterId <;> cases serviceType <;>
      simp [profileDiffers, profileInput, ProfileInput.profile, Stated.differs, Stated.or]
  | stated termination =>
    cases termination with
    | none => exact absurd rfl hp
    | some termination =>
      cases idle <;> cases filterId <;> cases serviceType <;>
        simp [profileDiffers, profileInput, ProfileInput.profile, Stated.differs, Stated.or]

theorem input_kept (p : NetworkProfileSpec) (e : NetworkReplyProfile) (c : Choices) (v : ℤ) :
    ProfileKept p e ((profileInput p (some e)).profile c e.segmentId v) where
  segmentId := rfl
  dictionary := rfl
  terminationAction h := by simp [ProfileInput.profile, profileInput, h, Stated.or]
  idleTimeoutSecs h := by simp [ProfileInput.profile, profileInput, h, Stated.or]
  filterId h := by simp [ProfileInput.profile, profileInput, h, Stated.or]
  serviceType h := by simp [ProfileInput.profile, profileInput, h, Stated.or]

/-- What stays as it is while the profiles are written. -/
structure ProfileStage (x₀ x : ApplyState) : Prop where
  policy : x.1.networkPolicy = x₀.1.networkPolicy
  segments : x.1.networkSegments = x₀.1.networkSegments
  resolved : x.2 = x₀.2

section Profile
variable {serve : Server TenantData} {x₀ x y : ApplyState} {spec : NetworkProfileSpec} {i : PyStr} {v : ℤ}

theorem profileOf_create {e : NetworkReplyProfile} (hnone : profileOf x.1 e.segmentId = none)
    (hprofiles : y.1.networkProfiles = x.1.networkProfiles ++ [e]) :
    profileOf y.1 e.segmentId = some e ∧ ∀ k, k ≠ e.segmentId → profileOf y.1 k = profileOf x.1 k := by
  constructor
  · rw [profileOf, hprofiles]
    exact find?_append_of_none hnone (by simp)
  · intro k hk
    rw [profileOf, hprofiles]
    exact find?_append_of_not _ (by simpa using Ne.symm hk)

theorem profileOf_replace {e : NetworkReplyProfile} (hfound : profileOf x.1 i = some e)
    {f : NetworkReplyProfile → NetworkReplyProfile} (hf : ∀ e, (f e).segmentId = i)
    (hprofiles : y.1.networkProfiles = updateAt NetworkReplyProfile.segmentId i f x.1.networkProfiles) :
    profileOf y.1 i = some (f e) ∧ ∀ k, k ≠ i → profileOf y.1 k = profileOf x.1 k := by
  have hmap : ∀ k, profileOf y.1 k = (profileOf x.1 k).map (fun e' => if e'.segmentId = i then f e' else e') := by
    intro k
    rw [profileOf, hprofiles]
    exact find?_updateAt _ fun e' he' => by rw [hf e', he']
  constructor
  · have hid : e.segmentId = i := by simpa using List.find?_some hfound
    rw [hmap, hfound, Option.map_some, if_pos hid]
  · intro k hk
    rw [hmap]
    cases hfind : profileOf x.1 k with
    | none => rfl
    | some e' =>
      have hid : e'.segmentId = k := by simpa using List.find?_some hfind
      rw [Option.map_some, if_neg (by rw [hid]; exact hk)]

theorem profile_create (hserve : Exact serve) (hspec : spec.terminationAction ≠ .stated none)
    (hx : ProfileStage x₀ x) (hid : x.2.networkSegments.get? spec.segment = some i)
    (hversion : x.2.networkSegmentVersions.get? spec.segment = some v)
    (hcurrent : x.1.segmentVersion i = some v) (hnone : profileOf x.1 i = none) {p : Planned}
    (hp : p.2 = .createNetworkProfile spec.segment (profileInput spec none)) (h : Moves serve x p y) :
    ProfileStage x₀ y ∧ SendsCurrent x p ∧
      (∃ e', profileOf y.1 i = some e' ∧ ProfileDone spec none e') ∧
      ∀ k, k ≠ i → profileOf y.1 k = profileOf x.1 k := by
  have hrequest : request x.2 p.2 = .ok (some (.createProfile (profileInput spec none) i v, .nothing)) := by
    rw [hp, request, lookup, hid, lookup, hversion]
    rfl
  obtain ⟨hsends, c, -, hstate, hresolved⟩ := hserve.sends h hrequest hcurrent
  obtain ⟨hself, hother⟩ := profileOf_create (x := x) (y := y) (e := (profileInput spec none).profile c i 1)
    hnone (by rw [hstate]; rfl)
  refine ⟨⟨?_, ?_, ?_⟩, hsends, ⟨_, hself, input_holds spec hspec none c i 1, fun _ h => absurd h.symm (Option.some_ne_none _)⟩, hother⟩
  · rw [hstate]
    exact hx.policy
  · rw [hstate]
    exact hx.segments
  · rw [hresolved]
    exact hx.resolved

theorem profile_replace (hserve : Exact serve) (hspec : spec.terminationAction ≠ .stated none)
    (hx : ProfileStage x₀ x) (hid : x.2.networkSegments.get? spec.segment = some i)
    (hversion : x.2.networkSegmentVersions.get? spec.segment = some v)
    (hcurrent : x.1.segmentVersion i = some v) {e : NetworkReplyProfile}
    (hfound : profileOf x.1 i = some e) {p : Planned}
    (hp : p.2 = .replaceNetworkProfile spec.segment e.version (profileInput spec (some e)))
    (h : Moves serve x p y) :
    ProfileStage x₀ y ∧ SendsCurrent x p ∧
      (∃ e', profileOf y.1 i = some e' ∧ ProfileDone spec (some e) e') ∧
      ∀ k, k ≠ i → profileOf y.1 k = profileOf x.1 k := by
  have hown : e.segmentId = i := by simpa using List.find?_some hfound
  have hprofile : x.1.profileVersion i = some e.version := by
    rw [TenantData.profileVersion, show x.1.networkProfiles.find? (fun p => p.segmentId = i) = some e from hfound]
    rfl
  have hrequest : request x.2 p.2 =
      .ok (some (.replaceProfile i (profileInput spec (some e)) v e.version, .nothing)) := by
    rw [hp, request, lookup, hid, lookup, hversion]
    rfl
  obtain ⟨hsends, c, -, hstate, hresolved⟩ := hserve.sends h hrequest ⟨hcurrent, hprofile⟩
  obtain ⟨hself, hother⟩ := profileOf_replace (x := x) (y := y)
    (f := fun e' => (profileInput spec (some e)).profile c i (e'.version + 1)) hfound (fun _ => rfl)
    (by rw [hstate]; rfl)
  refine ⟨⟨?_, ?_, ?_⟩, hsends, ⟨_, hself, input_holds spec hspec _ c i _, ?_⟩, hother⟩
  · rw [hstate]
    exact hx.policy
  · rw [hstate]
    exact hx.segments
  · rw [hresolved]
    exact hx.resolved
  · intro e' he'
    obtain rfl := Option.some.inj he'
    subst hown
    exact input_kept spec e c _

/-- **One profile**: its step makes of it what the spec states, sends current versions and leaves the
other profiles alone. -/
theorem profile_step (hserve : Exact serve) (hspec : spec.terminationAction ≠ .stated none)
    (hx : ProfileStage x₀ x) (hid : x.2.networkSegments.get? spec.segment = some i)
    (hversion : x.2.networkSegmentVersions.get? spec.segment = some v)
    (hcurrent : x.1.segmentVersion i = some v) {before : Option NetworkReplyProfile}
    (hbefore : profileOf x.1 i = before) {p : Planned} (hplan : planFound spec before = .ok p)
    (h : Moves serve x p y) :
    ProfileStage x₀ y ∧ SendsCurrent x p ∧
      (∃ e', profileOf y.1 i = some e' ∧ ProfileDone spec before e') ∧
      ∀ k, k ≠ i → profileOf y.1 k = profileOf x.1 k := by
  cases before with
  | none =>
    obtain rfl := Except.ok.inj hplan
    exact profile_create hserve hspec hx hid hversion hcurrent hbefore rfl h
  | some e =>
    unfold planFound at hplan
    dsimp only at hplan
    split at hplan
    · split at hplan
      · cases hplan
      · obtain rfl := Except.ok.inj hplan
        exact profile_replace hserve hspec hx hid hversion hcurrent hbefore rfl h
    · next hdiffers =>
      obtain rfl := Except.ok.inj hplan
      obtain rfl := moves_noop h rfl
      refine ⟨hx, sendsCurrent_noop rfl, ⟨e, hbefore, eq_false_of_ne_true hdiffers, ?_⟩, fun k _ => rfl⟩
      intro e' he'
      obtain rfl := Option.some.inj he'
      exact ProfileKept.refl spec e

/-- The id of the segment that a profile spec names. -/
def profileTarget (r : Resolved) (spec : NetworkProfileSpec) : PyStr :=
  (r.networkSegments.get? spec.segment).getD []

/-- The segment that the spec names is resolved, to its current version. -/
def SegmentResolved (x : ApplyState) (spec : NetworkProfileSpec) : Prop :=
  ∃ i v, x.2.networkSegments.get? spec.segment = some i ∧
    x.2.networkSegmentVersions.get? spec.segment = some v ∧ x.1.segmentVersion i = some v

/-- **All profiles**, one after the other. -/
theorem profiles_run (hserve : Exact serve) {specs : List NetworkProfileSpec}
    (hspecs : ∀ spec ∈ specs, spec.terminationAction ≠ .stated none ∧ SegmentResolved x spec)
    (hnodup : (specs.map (profileTarget x.2)).Nodup)
    (before : NetworkProfileSpec → Option NetworkReplyProfile)
    (hbefore : ∀ spec ∈ specs, profileOf x.1 (profileTarget x.2 spec) = before spec)
    (plan : NetworkProfileSpec → Planned)
    (hplan : ∀ spec ∈ specs, planFound spec (before spec) = .ok (plan spec)) :
    (∀ y, Run (Moves serve) x (specs.map plan) y →
      ProfileStage x y ∧
      (∀ spec ∈ specs, ∃ e', profileOf y.1 (profileTarget x.2 spec) = some e' ∧
        ProfileDone spec (before spec) e') ∧
      ∀ k, k ∉ specs.map (profileTarget x.2) → profileOf y.1 k = profileOf x.1 k) ∧
    Run.Always (Moves serve) x (specs.map plan) SendsCurrent := by
  have hx : ProfileStage x x := ⟨rfl, rfl, rfl⟩
  refine Run.targets (fun k x => profileOf x.1 k) (profileTarget x.2) before
    (fun spec found => ∃ e', found = some e' ∧ ProfileDone spec (before spec) e') ?_ hx hbefore hnodup
  intro u spec w hs hu hstart hmove
  obtain ⟨hspec, i, v, hid, hversion, hcurrent⟩ := hspecs spec hs
  have htarget : profileTarget x.2 spec = i := by rw [profileTarget, hid]; rfl
  rw [htarget] at hstart ⊢
  rw [← hu.resolved] at hid hversion
  have hcurrent' : u.1.segmentVersion i = some v := by
    rw [TenantData.segmentVersion, hu.segments]
    exact hcurrent
  exact profile_step hserve hspec hu hid hversion hcurrent' hstart (hplan spec hs) hmove

end Profile

end AxiamSdk.Manifest
