import AxiamSdk.Management.NetworkProfiles

/-! # Applying a network section

* `Carried`: what the manifest does not state is as it was before the apply.
* `network_converges`: after an apply the network section plans no change, what it does not state is
  carried, and every version that was sent was the tenant's.
* `not_network_converges`: not so for a manifest that states a value that the SDK does not send. -/

namespace AxiamSdk.Manifest
open PyLib
set_option autoImplicit false

/-! ## Further guarantees of a valid section -/

theorem profileSegments_of_valid {keys profiled : List PyStr} {ps : List NetworkProfileSpec}
    (h : validateProfiles keys profiled ps = []) :
    (ps.map NetworkProfileSpec.segment).Nodup ∧ ∀ p ∈ ps, p.segment ∉ profiled := by
  induction ps generalizing profiled with
  | nil => simp
  | cons p ps ih =>
    simp only [validateProfiles, List.append_eq_nil_iff] at h
    obtain ⟨⟨⟨-, hrepeated⟩, -⟩, hrest⟩ := h
    obtain ⟨hnodup, hfresh⟩ := ih hrest
    have hp : p.segment ∉ profiled := by
      intro hmem
      rw [if_pos hmem] at hrepeated
      cases hrepeated
    rw [List.map_cons, List.nodup_cons, List.forall_mem_cons]
    refine ⟨⟨fun hmem => ?_, hnodup⟩, hp, fun p' hp' hmem => hfresh p' hp' (List.mem_cons_of_mem _ hmem)⟩
    obtain ⟨p', hp', hsegment⟩ := List.mem_map.1 hmem
    exact hfresh p' hp' (hsegment ▸ List.mem_cons_self)

theorem termination_of_valid {keys profiled : List PyStr} {ps : List NetworkProfileSpec}
    (h : validateProfiles keys profiled ps = []) : ∀ p ∈ ps, p.terminationAction ≠ .stated none := by
  induction ps generalizing profiled with
  | nil => simp
  | cons p ps ih =>
    simp only [validateProfiles, List.append_eq_nil_iff] at h
    obtain ⟨⟨-, htermination⟩, hrest⟩ := h
    rw [List.forall_mem_cons]
    refine ⟨fun hnone => ?_, ih hrest⟩
    rw [if_pos hnone] at htermination
    cases htermination

theorem validateProfiles_of_valid {m : ManagementManifest} {n : NetworkSpec} (h : Valid m)
    (hn : m.network = some n) :
    validateProfiles (n.segments.map NetworkSegmentSpec.key) [] n.profiles = [] := by
  simp only [Valid, problems, List.append_eq_nil_iff] at h
  have hnetwork := h.1.2
  rw [hn] at hnetwork
  simp only [validateNetwork, List.append_eq_nil_iff] at hnetwork
  exact hnetwork.2

/-! ## What a plan reads -/

section Read
variable {m : ManagementManifest} {n : NetworkSpec} (hn : m.network = some n) (t : TenantData)
include hn

theorem read_policy (h : n.policy.isSome) : (t.read m).networkPolicy = t.networkPolicy := by
  obtain ⟨policy, hpolicy⟩ := Option.isSome_iff_exists.1 h
  simp [TenantData.read, hn, hpolicy]

theorem read_segment {s : NetworkSegmentSpec} (hs : s ∈ n.segments) :
    matchSegment (t.read m) s = segmentOf t s.identity := by
  have hne : n.segments ≠ [] := List.ne_nil_of_mem hs
  simp only [matchSegment, TenantData.read, hn, Option.map_some, Option.getD_some, if_neg hne]
  rfl

theorem read_profiles {p : NetworkProfileSpec} (hp : p ∈ n.profiles) :
    (t.read m).networkProfiles = t.networkProfiles := by
  have hne : n.profiles ≠ [] := List.ne_nil_of_mem hp
  simp only [TenantData.read, hn, Option.map_some, Option.getD_some, if_neg hne]

end Read

/-! ## The claim about an apply -/

/-- Segments told apart by site, kind and name, and one profile for each at most. -/
structure NetworkSound (t : TenantData) : Prop where
  identities : (t.networkSegments.map NetworkSegment.identity).Nodup
  profiles : (t.networkProfiles.map NetworkReplyProfile.segmentId).Nodup

/-- The profile spec names the segment of the profile. -/
def Names (n : NetworkSpec) (t : TenantData) (p : NetworkProfileSpec) (e : NetworkReplyProfile) : Prop :=
  ∃ s ∈ n.segments, s.key = p.segment ∧ ∃ seg, segmentOf t s.identity = some seg ∧ seg.id = e.segmentId

/-- Every segment and profile that existed is there, with all that the manifest does not state of it. -/
structure Carried (n : NetworkSpec) (t t' : TenantData) : Prop where
  policy : n.policy = none → t'.networkPolicy = t.networkPolicy
  segment : ∀ e ∈ t.networkSegments, ∃ e' ∈ t'.networkSegments, e'.id = e.id ∧ e'.identity = e.identity ∧
    (∀ s ∈ n.segments, s.identity = e.identity → SegmentKept s e e') ∧
    ((∀ s ∈ n.segments, s.identity ≠ e.identity) → e' = e)
  profile : ∀ e ∈ t.networkProfiles, ∃ e' ∈ t'.networkProfiles, e'.segmentId = e.segmentId ∧
    (∀ p ∈ n.profiles, Names n t p e → ProfileKept p e e') ∧
    ((∀ p ∈ n.profiles, ¬ Names n t p e) → e' = e)

/-- A second plan: its network steps are no changes, and it has no others when the manifest has no more
than a network section. -/
def PlansNoChange (m : ManagementManifest) (snapshot : Snapshot) : Prop :=
  ∃ core network r, compute m snapshot = .ok (core ++ network, r) ∧ networkSteps m snapshot = .ok network ∧
    (∀ p ∈ network, p.1.change = .noChange) ∧
    (hasCoreSpecs m = false → core = [] ∧ Planable m snapshot network r)

/-- **What an apply makes of the network**: it does not stop, a second plan changes nothing, what is not
stated is carried, and every version sent is the tenant's when it is sent. -/
structure NetworkConverges (serve : Server TenantData) (repr : PyStr → PyStr) (m : ManagementManifest)
    (n : NetworkSpec) (t : TenantData) (steps : List Planned) (r : Resolved) : Prop where
  finishes : (execute serve repr t r steps).stopped = false
  converged : PlansNoChange m ((execute serve repr t r steps).server.read m)
  carried : Carried n t (execute serve repr t r steps).server
  current : ∀ pre p post, steps = pre ++ p :: post →
    SendsCurrent ((execute serve repr t r pre).server, (execute serve repr t r pre).resolved) p

/-! ## Up to the profiles -/

section Apply
variable {serve : Server TenantData} {m : ManagementManifest} {n : NetworkSpec} {t : Tenant}
  {steps : List Planned} {r : Resolved} {x y : ApplyState}

/-- The policy's and the segments' part of a plan. -/
def segmentSteps (m : ManagementManifest) (n : NetworkSpec) (t : TenantData) : List Planned :=
  n.policy.toList.map (planNetworkPolicy (t.read m).networkPolicy) ++
    n.segments.map (fun s => planSegment s (matchSegment (t.read m) s))

/-- What holds when the segments are written. -/
structure AfterSegments (n : NetworkSpec) (t : TenantData) (x : ApplyState) : Prop where
  synced : Synced n x
  policyDone : ∀ p, n.policy = some p → PolicyDone p x.1.networkPolicy
  policyKept : n.policy = none → x.1.networkPolicy = t.networkPolicy
  profiles : x.1.networkProfiles = t.networkProfiles
  done : ∀ s ∈ n.segments, ∃ e', segmentOf x.1 s.identity = some e' ∧
    SegmentDone t.networkProfiles s (segmentOf t s.identity) e'
  rest : ∀ k, k ∉ n.segments.map NetworkSegmentSpec.identity → segmentOf x.1 k = segmentOf t k

theorem synced_start (hn : m.network = some n) (hr : Resolution m (t.read m) r)
    (hx : SameState (t.toTenantData, r) x) : Synced n x where
  ids := by
    rw [hx.network.segments]
    exact (List.nodup_cons.1 t.sound.networkSegments).2
  segment s hs := by
    have hsame : segmentOf x.1 s.identity = segmentOf t.toTenantData s.identity := by
      rw [segmentOf, hx.network.segments, segmentOf]
    rw [hx.ids, hsame, ← read_segment hn t.toTenantData hs]
    exact hr.segment n hn s hs
  version s hs := by
    have hsame : segmentOf x.1 s.identity = segmentOf t.toTenantData s.identity := by
      rw [segmentOf, hx.network.segments, segmentOf]
    rw [hx.versions, hsame, ← read_segment hn t.toTenantData hs]
    exact hr.segmentVersion n hn s hs

theorem Synced.congr (hx : Synced n x) (hsegments : y.1.networkSegments = x.1.networkSegments)
    (hresolved : y.2 = x.2) : Synced n y where
  ids := by
    rw [hsegments]
    exact hx.ids
  segment s hs := by
    rw [hresolved, segmentOf, hsegments]
    exact hx.segment s hs
  version s hs := by
    rw [hresolved, segmentOf, hsegments]
    exact hx.version s hs

theorem segments_written (hserve : Exact serve) (hn : m.network = some n) (hdeclared : NetworkDeclared n)
    (hr : Resolution m (t.read m) r) (hx : SameState (t.toTenantData, r) x) :
    (∀ y, Run (Moves serve) x (segmentSteps m n t.toTenantData) y → AfterSegments n t.toTenantData y) ∧
      Run.Always (Moves serve) x (segmentSteps m n t.toTenantData) SendsCurrent := by
  have hread : n.policy.isSome → (t.read m).networkPolicy = x.1.networkPolicy := fun h =>
    (read_policy hn t.toTenantData h).trans hx.network.policy.symm
  obtain ⟨hpolicy, hpolicySent⟩ := policy_run hserve n.policy hread
  have hstart : ∀ u, PolicyStage x u → SegmentStage n u.1.networkPolicy t.networkProfiles u := fun u hu =>
    ⟨(synced_start hn hr hx).congr hu.segments hu.resolved, rfl, hu.profiles.trans hx.network.profiles⟩
  have hsame : ∀ u, PolicyStage x u → ∀ k, segmentOf u.1 k = segmentOf t.toTenantData k := by
    intro u hu k
    rw [segmentOf, hu.segments, hx.network.segments, segmentOf]
  have hsegments := fun u hu => segments_run hserve hdeclared (hstart u hu) (matchSegment (t.read m))
    (fun s hs => by rw [read_segment hn t.toTenantData hs, hsame u hu])
  constructor
  · intro y h
    obtain ⟨u, hpolicyRun, hsegmentsRun⟩ := h.append_inv
    obtain ⟨hu, hdone, hkept⟩ := hpolicy u hpolicyRun
    obtain ⟨hy, hwritten, hrest⟩ := (hsegments u hu).1 y hsegmentsRun
    refine ⟨hy.synced, ?_, ?_, hy.profiles, ?_, ?_⟩
    · intro p hp
      rw [hy.policy]
      exact hdone p hp
    · intro hnone
      rw [hy.policy, hkept hnone]
      exact hx.network.policy
    · intro s hs
      obtain ⟨e', he', hs'⟩ := hwritten s hs
      rw [read_segment hn t.toTenantData hs] at hs'
      exact ⟨e', he', hs'⟩
    · intro k hk
      rw [hrest k hk, hsame u hu]
  · refine Run.Always.append hpolicySent ?_
    intro u hrun
    exact (hsegments u (hpolicy u hrun).1).2

/-! ## The profiles -/

/-- The segment of a profile spec, when the segments are written: its id is new, or that of the segment
that existed. -/
theorem AfterSegments.named (hdeclared : NetworkDeclared n) (hx : AfterSegments n t.toTenantData x)
    {p : NetworkProfileSpec} (hp : p ∈ n.profiles) : ∃ s ∈ n.segments, s.key = p.segment ∧
      ∃ e', segmentOf x.1 s.identity = some e' ∧ profileTarget x.2 p = e'.id ∧ SegmentResolved x p ∧
        SegmentDone t.networkProfiles s (segmentOf t.toTenantData s.identity) e' := by
  obtain ⟨s, hs, hkey⟩ := List.mem_map.1 (hdeclared.segment p hp)
  obtain ⟨e', he', hdone⟩ := hx.done s hs
  have hid : x.2.networkSegments.get? p.segment = some e'.id := by
    rw [← hkey, hx.synced.segment s hs, he']
    rfl
  have hversion : x.2.networkSegmentVersions.get? p.segment = some e'.version := by
    rw [← hkey, hx.synced.version s hs, he']
    rfl
  refine ⟨s, hs, hkey, e', he', ?_, ⟨e'.id, e'.version, hid, hversion, ?_⟩, hdone⟩
  · rw [profileTarget, hid]
    rfl
  · exact segmentVersion_of_mem hx.synced.ids (segmentOf_mem he')

theorem AfterSegments.targets_nodup (hdeclared : NetworkDeclared n) (hx : AfterSegments n t.toTenantData x)
    {specs : List NetworkProfileSpec} (hspecs : ∀ p ∈ specs, p ∈ n.profiles)
    (hnodup : (specs.map NetworkProfileSpec.segment).Nodup) :
    (specs.map (profileTarget x.2)).Nodup := by
  refine List.Nodup.map_on ?_ hnodup.of_map
  intro p hp q hq htarget
  obtain ⟨s, hs, hkey, e, he, hid, -⟩ := hx.named hdeclared (hspecs p hp)
  obtain ⟨s', hs', hkey', e', he', hid', -⟩ := hx.named hdeclared (hspecs q hq)
  rw [hid, hid'] at htarget
  have hsame := List.inj_on_of_nodup_map hx.synced.ids (segmentOf_mem he) (segmentOf_mem he') htarget
  have hidentity : s.identity = s'.identity := by
    rw [← segmentOf_identity he, hsame, segmentOf_identity he']
  have hspec := List.inj_on_of_nodup_map hdeclared.identities hs hs' hidentity
  refine List.inj_on_of_nodup_map hnodup hp hq ?_
  rw [← hkey, ← hkey', hspec]

/-- The profile that a plan finds for a spec. -/
def existingProfile (snapshot : Snapshot) (n : NetworkSpec) (p : NetworkProfileSpec) :
    Option NetworkReplyProfile :=
  ((resolveSegments snapshot n.segments).get? p.segment).bind
    (fun id => snapshot.networkProfiles.find? (fun e => e.segmentId = id))

theorem existingProfile_eq (hn : m.network = some n) (hdeclared : NetworkDeclared n) (t : TenantData)
    {p : NetworkProfileSpec} (hp : p ∈ n.profiles) {s : NetworkSegmentSpec} (hs : s ∈ n.segments)
    (hkey : s.key = p.segment) :
    existingProfile (t.read m) n p = (segmentOf t s.identity).bind (fun e => profileOf t e.id) := by
  have hget : (resolveSegments (t.read m) n.segments).get? p.segment =
      (segmentOf t s.identity).map NetworkSegment.id := by
    rw [← hkey, ← read_segment hn t hs]
    exact get?_resolveAll hdeclared.segmentKeys hs
  rw [existingProfile, hget, read_profiles hn t hp, Option.bind_map]
  rfl

/-- The profile of a spec is, when the segments are written, the one that was planned for. -/
theorem AfterSegments.profile (hn : m.network = some n) (hdeclared : NetworkDeclared n)
    (hx : AfterSegments n t.toTenantData x) {p : NetworkProfileSpec} (hp : p ∈ n.profiles) :
    profileOf x.1 (profileTarget x.2 p) = existingProfile (t.read m) n p := by
  obtain ⟨s, hs, hkey, e', he', hid, -, hdone⟩ := hx.named hdeclared hp
  rw [existingProfile_eq hn hdeclared t.toTenantData hp hs hkey, hid, profileOf, hx.profiles]
  cases hbefore : segmentOf t.toTenantData s.identity with
  | none =>
    rw [Option.bind_none, List.find?_eq_none]
    intro e he
    simpa using hdone.fresh hbefore e he
  | some e =>
    rw [(hdone.kept e hbefore).id]
    rfl

theorem collect_map {ε α β : Type} {f : α → Except ε β} {as : List α} {bs : List β} (d : β)
    (h : collect f as = .ok bs) : ∃ g, bs = as.map g ∧ ∀ a ∈ as, f a = .ok (g a) := by
  refine ⟨fun a => ((f a).toOption).getD d, ?_⟩
  induction as generalizing bs with
  | nil =>
    cases h
    exact ⟨rfl, by simp⟩
  | cons a as ih =>
    rw [collect] at h
    cases ha : f a with
    | error e =>
      rw [ha] at h
      cases h
    | ok b =>
      rw [ha] at h
      cases hrest : collect f as with
      | error e =>
        rw [hrest] at h
        cases h
      | ok bs' =>
        rw [hrest] at h
        obtain rfl := Except.ok.inj h
        obtain ⟨hbs, hall⟩ := ih hrest
        refine ⟨?_, List.forall_mem_cons.2 ⟨?_, hall⟩⟩
        · rw [List.map_cons, ← hbs, ha]
          rfl
        · change f a = .ok ((f a).toOption.getD d)
          rw [ha]
          rfl

theorem collect_ok {ε α β : Type} {f : α → Except ε β} {as : List α} {g : α → β}
    (h : ∀ a ∈ as, f a = .ok (g a)) : collect f as = .ok (as.map g) := by
  induction as with
  | nil => rfl
  | cons a as ih =>
    rw [List.forall_mem_cons] at h
    rw [collect, h.1, ih h.2]
    rfl

/-- What holds after an apply, given the state `x` in which its segments were written. -/
structure AfterProfiles (m : ManagementManifest) (n : NetworkSpec) (t : TenantData) (x y : ApplyState) : Prop where
  segments : AfterSegments n t x
  stage : ProfileStage x y
  done : ∀ p ∈ n.profiles, ∃ e', profileOf y.1 (profileTarget x.2 p) = some e' ∧
    ProfileDone p (existingProfile (t.read m) n p) e'
  rest : ∀ k, k ∉ n.profiles.map (profileTarget x.2) → profileOf y.1 k = profileOf x.1 k

theorem profiles_written (hserve : Exact serve) (hn : m.network = some n) (hvalid : Valid m)
    (hx : AfterSegments n t.toTenantData x) {specs : List NetworkProfileSpec} (hperm : specs.Perm n.profiles)
    {profiles : List Planned}
    (hplan : collect (planProfile (t.read m) (resolveSegments (t.read m) n.segments)) specs = .ok profiles) :
    (∀ y, Run (Moves serve) x profiles y → AfterProfiles m n t.toTenantData x y) ∧
      Run.Always (Moves serve) x profiles SendsCurrent := by
  have hdeclared := hvalid.wellFormed.network n hn
  have hmem : ∀ p ∈ specs, p ∈ n.profiles := fun p hp => hperm.mem_iff.1 hp
  have hprofiles := validateProfiles_of_valid hvalid hn
  have hnodup : (specs.map NetworkProfileSpec.segment).Nodup :=
    (hperm.map _).nodup_iff.2 (profileSegments_of_valid hprofiles).1
  obtain ⟨plan, rfl, hplans⟩ := collect_map (noChange .networkProfile []) hplan
  obtain ⟨hrun, halways⟩ := profiles_run hserve (x := x)
    (fun p hp => ⟨termination_of_valid hprofiles p (hmem p hp), by
      obtain ⟨s, -, -, e', -, -, hresolved, -⟩ := hx.named hdeclared (hmem p hp)
      exact hresolved⟩)
    (hx.targets_nodup hdeclared hmem hnodup) (existingProfile (t.read m) n)
    (fun p hp => hx.profile hn hdeclared (hmem p hp)) plan
    (fun p hp => (planProfile_eq (t.read m) _ p).symm.trans (hplans p hp))
  refine ⟨fun y h => ?_, halways⟩
  obtain ⟨hstage, hdone, hrest⟩ := hrun y h
  refine ⟨hx, hstage, fun p hp => hdone p (hperm.mem_iff.2 hp), fun k hk => hrest k ?_⟩
  rwa [(hperm.map (profileTarget x.2)).mem_iff]

/-! ## After the apply -/

theorem AfterProfiles.segmentOf_eq {t : TenantData} (h : AfterProfiles m n t x y) (k : PyStr × PyStr × PyStr) :
    segmentOf y.1 k = segmentOf x.1 k := by
  rw [segmentOf, h.stage.segments, segmentOf]

theorem AfterProfiles.replan (hn : m.network = some n) (hdeclared : NetworkDeclared n)
    (h : AfterProfiles m n t.toTenantData x y) {specs : List NetworkProfileSpec}
    (hspecs : orderedProfiles n = .ok specs) :
    ∃ network, networkSteps m (y.1.read m) = .ok network ∧
      ∀ p ∈ network, ∃ target key, p = noChange target key := by
  have hprofiles : collect (planProfile (y.1.read m) (resolveSegments (y.1.read m) n.segments)) specs
      = .ok (specs.map (fun p => noChange .networkProfile p.segment)) := by
    refine collect_ok ?_
    intro p hp
    have hp' : p ∈ n.profiles := (orderedProfiles_ok hspecs).1.mem_iff.1 hp
    obtain ⟨s, hs, hkey, e', he', hid, -⟩ := h.segments.named hdeclared hp'
    obtain ⟨e, he, hdone⟩ := h.done p hp'
    rw [hid] at he
    have hfound := existingProfile_eq hn hdeclared y.1 hp' hs hkey
    rw [h.segmentOf_eq, he', Option.bind_some, he] at hfound
    rw [planProfile_eq]
    change planFound p (existingProfile (y.1.read m) n p) = _
    rw [hfound, planFound, hdone.holds]
    rfl
  refine ⟨segmentSteps m n y.1 ++ specs.map (fun p => noChange .networkProfile p.segment), ?_, ?_⟩
  · rw [networkSteps, hn]
    dsimp only
    rw [planNetwork, hspecs]
    dsimp only
    rw [hprofiles]
    rfl
  · intro p hp
    rw [segmentSteps, List.mem_append, List.mem_append] at hp
    obtain (hp | hp) | hp := hp
    · obtain ⟨policy, hpolicy, rfl⟩ := List.mem_map.1 hp
      have hsome : n.policy = some policy := Option.mem_toList.1 hpolicy
      have hdone := h.segments.policyDone policy hsome
      rw [← h.stage.policy, ← read_policy hn y.1 (by rw [hsome]; rfl)] at hdone
      rw [PolicyDone] at hdone
      rw [planNetworkPolicy, if_pos hdone]
      exact ⟨_, _, rfl⟩
    · obtain ⟨s, hs, rfl⟩ := List.mem_map.1 hp
      obtain ⟨e', he', hdone⟩ := h.segments.done s hs
      rw [read_segment hn y.1 hs, h.segmentOf_eq, he', planSegment_some, hdone.holds]
      exact ⟨_, _, rfl⟩
    · obtain ⟨spec, -, rfl⟩ := List.mem_map.1 hp
      exact ⟨_, _, rfl⟩

/-! ## A second plan -/

theorem planResources_again {snapshot : Snapshot} {keys : List PyStr} {d : Dict PyStr PyStr}
    {result : List Planned × Dict PyStr PyStr} (h : planResources m snapshot d keys = .ok result)
    (snapshot' : Snapshot) (d' : Dict PyStr PyStr) :
    ∃ steps' e', planResources m snapshot' d' keys = .ok (steps', e') := by
  induction keys generalizing d d' result with
  | nil => exact ⟨_, _, rfl⟩
  | cons key keys ih =>
    rw [planResources] at h ⊢
    cases hspec : resourceSpec? m key with
    | none =>
      rw [hspec] at h
      cases h
    | some spec =>
      rw [hspec] at h
      dsimp only at h ⊢
      split at h
      · cases h
      · next steps resources hrest =>
        obtain ⟨steps', e', hrest'⟩ := ih hrest _
        rw [hrest']
        exact ⟨_, _, rfl⟩

theorem lists_of_no_core (h : hasCoreSpecs m = false) : m.resources = [] ∧ m.permissions = [] ∧ m.roles = [] ∧
    m.groups = [] ∧ m.users = [] ∧ m.serviceAccounts = [] := by
  simpa [hasCoreSpecs, and_assoc] using h

theorem coreSteps_of_no_core (h : hasCoreSpecs m = false) (snapshot : Snapshot) (r : Resolved) :
    coreSteps m snapshot r = [] := by
  obtain ⟨hresources, hpermissions, hroles, hgroups, husers, haccounts⟩ := lists_of_no_core h
  simp [coreSteps, scopeSpecs, hresources, hpermissions, hroles, hgroups, husers, haccounts]

theorem plansNoChange (hvalid : Valid m) {snapshot snapshot' : Snapshot}
    (hcompute : compute m snapshot = .ok (steps, r)) (hn : m.network = some n) {network : List Planned}
    (hnetwork : networkSteps m snapshot' = .ok network)
    (hall : ∀ p ∈ network, ∃ target key, p = noChange target key) : PlansNoChange m snapshot' := by
  have hnetwork' := hnetwork
  rw [networkSteps, hn] at hnetwork'
  rw [compute] at hcompute
  cases horder : topologicalOrder m with
  | error k =>
    rw [horder] at hcompute
    cases hcompute
  | ok order =>
    rw [horder] at hcompute
    dsimp only at hcompute
    cases hplan : planResources m snapshot .empty order with
    | error k =>
      rw [hplan] at hcompute
      cases hcompute
    | ok result =>
      obtain ⟨core, resources, hagain⟩ := planResources_again hplan snapshot' .empty
      have hsecond : compute m snapshot' = .ok (core ++ coreSteps m snapshot' (resolve m snapshot' resources)
          ++ network, resolve m snapshot' resources) := by
        rw [compute, horder]
        dsimp only
        rw [hagain]
        dsimp only
        rw [hn]
        dsimp only at hnetwork' ⊢
        rw [hnetwork']
        rfl
      refine ⟨_, network, _, hsecond, hnetwork, ?_, ?_⟩
      · intro p hp
        obtain ⟨target, key, rfl⟩ := hall p hp
        rfl
      · intro hcore
        obtain ⟨hresources, -, -, -, -, haccounts⟩ := lists_of_no_core hcore
        rw [coreSteps_of_no_core hcore, List.append_nil] at hsecond ⊢
        rw [topologicalOrder, hresources] at horder
        obtain rfl := Except.ok.inj horder
        obtain rfl := (Prod.mk.inj (Except.ok.inj hagain)).1
        refine ⟨rfl, hvalid, ?_, hsecond, ?_⟩
        · rw [ambiguousServiceAccounts, haccounts]
          rfl
        · refine List.filterMap_eq_nil_iff.2 fun p hp => ?_
          obtain ⟨target, key, rfl⟩ := hall p hp
          rfl


/-! ## What is kept -/

/-- The segment that a spec of the section names, before and after the apply. -/
theorem AfterProfiles.segment_kept (hsound : NetworkSound t.toTenantData)
    (h : AfterProfiles m n t.toTenantData x y) {e : NetworkSegment} (he : e ∈ t.networkSegments) :
    ∃ e' ∈ y.1.networkSegments, e'.id = e.id ∧ e'.identity = e.identity ∧
      (∀ s ∈ n.segments, s.identity = e.identity → SegmentKept s e e') ∧
      ((∀ s ∈ n.segments, s.identity ≠ e.identity) → e' = e) := by
  have hbefore : segmentOf t.toTenantData e.identity = some e := find?_key hsound.identities he
  by_cases hnamed : ∃ s ∈ n.segments, s.identity = e.identity
  · obtain ⟨s, hs, hidentity⟩ := hnamed
    obtain ⟨e', he', hdone⟩ := h.segments.done s hs
    have hkept := hdone.kept e (by rw [hidentity, hbefore])
    have hmem : e' ∈ y.1.networkSegments := by
      rw [h.stage.segments]
      exact segmentOf_mem he'
    refine ⟨e', hmem, hkept.id, hkept.identity, ?_, fun hnot => absurd hidentity (hnot s hs)⟩
    intro s' hs' hidentity'
    obtain ⟨e'', he'', hdone'⟩ := h.segments.done s' hs'
    rw [hidentity', ← hidentity, he'] at he''
    obtain rfl := Option.some.inj he''
    exact hdone'.kept e (by rw [hidentity', hbefore])
  · have hrest := h.segments.rest e.identity (by
      intro hmem
      obtain ⟨s, hs, hidentity⟩ := List.mem_map.1 hmem
      exact hnamed ⟨s, hs, hidentity⟩)
    rw [hbefore] at hrest
    have hmem : e ∈ y.1.networkSegments := by
      rw [h.stage.segments]
      exact segmentOf_mem hrest
    exact ⟨e, hmem, rfl, rfl, fun s hs hidentity => absurd ⟨s, hs, hidentity⟩ hnamed, fun _ => rfl⟩

/-- A profile spec whose segment has the id of a profile's names that profile's segment. -/
theorem AfterProfiles.names_of_target (hdeclared : NetworkDeclared n)
    (h : AfterProfiles m n t.toTenantData x y) {e : NetworkReplyProfile} (he : e ∈ t.networkProfiles)
    {p : NetworkProfileSpec} (hp : p ∈ n.profiles) (htarget : profileTarget x.2 p = e.segmentId) :
    Names n t.toTenantData p e := by
  obtain ⟨s, hs, hkey, e', -, hid, -, hdone⟩ := h.segments.named hdeclared hp
  rw [hid] at htarget
  cases hbefore : segmentOf t.toTenantData s.identity with
  | none => exact absurd htarget.symm (hdone.fresh hbefore e he)
  | some seg =>
    exact ⟨s, hs, hkey, seg, hbefore, (hdone.kept seg hbefore).id.symm.trans htarget⟩

theorem AfterProfiles.target_of_names (hn : m.network = some n) (hdeclared : NetworkDeclared n)
    (hsound : NetworkSound t.toTenantData) (h : AfterProfiles m n t.toTenantData x y)
    {e : NetworkReplyProfile} (he : e ∈ t.networkProfiles) {p : NetworkProfileSpec} (hp : p ∈ n.profiles)
    (hnames : Names n t.toTenantData p e) :
    profileTarget x.2 p = e.segmentId ∧ existingProfile (t.read m) n p = some e := by
  obtain ⟨s, hs, hkey, seg, hseg, hid⟩ := hnames
  have hexisting := existingProfile_eq hn hdeclared t.toTenantData hp hs hkey
  rw [hseg, Option.bind_some, hid] at hexisting
  have hbefore : profileOf t.toTenantData e.segmentId = some e := find?_key hsound.profiles he
  refine ⟨?_, hexisting.trans hbefore⟩
  obtain ⟨s', hs', hkey', e', -, htarget, -, hdone⟩ := h.segments.named hdeclared hp
  have hsame : s' = s := List.inj_on_of_nodup_map hdeclared.segmentKeys hs' hs (hkey'.trans hkey.symm)
  rw [hsame] at hdone
  rw [htarget, (hdone.kept seg hseg).id, hid]

theorem AfterProfiles.profile_kept (hn : m.network = some n) (hdeclared : NetworkDeclared n)
    (hsound : NetworkSound t.toTenantData) (h : AfterProfiles m n t.toTenantData x y)
    {e : NetworkReplyProfile} (he : e ∈ t.networkProfiles) :
    ∃ e' ∈ y.1.networkProfiles, e'.segmentId = e.segmentId ∧
      (∀ p ∈ n.profiles, Names n t.toTenantData p e → ProfileKept p e e') ∧
      ((∀ p ∈ n.profiles, ¬ Names n t.toTenantData p e) → e' = e) := by
  by_cases hnamed : ∃ p ∈ n.profiles, Names n t.toTenantData p e
  · obtain ⟨p, hp, hnames⟩ := hnamed
    obtain ⟨htarget, hexisting⟩ := h.target_of_names hn hdeclared hsound he hp hnames
    obtain ⟨e', he', hdone⟩ := h.done p hp
    have hkept := hdone.kept e hexisting
    refine ⟨e', List.mem_of_find?_eq_some he', hkept.segmentId, ?_, fun hnot => absurd hnames (hnot p hp)⟩
    intro p' hp' hnames'
    obtain ⟨htarget', hexisting'⟩ := h.target_of_names hn hdeclared hsound he hp' hnames'
    obtain ⟨e'', he'', hdone'⟩ := h.done p' hp'
    rw [htarget', ← htarget, he'] at he''
    obtain rfl := Option.some.inj he''
    exact hdone'.kept e hexisting'
  · have hrest := h.rest e.segmentId (by
      intro hmem
      obtain ⟨p, hp, htarget⟩ := List.mem_map.1 hmem
      exact hnamed ⟨p, hp, h.names_of_target hdeclared he hp htarget⟩)
    have hbefore : profileOf x.1 e.segmentId = some e := by
      rw [profileOf, h.segments.profiles]
      exact find?_key hsound.profiles he
    rw [hbefore] at hrest
    exact ⟨e, List.mem_of_find?_eq_some hrest, rfl, fun p hp hnames => absurd ⟨p, hp, hnames⟩ hnamed,
      fun _ => rfl⟩

/-! ## The whole apply -/

theorem core_sendsCurrent {p : Planned} (h : p.2.isNetwork = false) (x : ApplyState) : SendsCurrent x p := by
  intro call record hrequest
  have hcall := (request_isNetwork hrequest h).1
  cases call with
  | replacePolicy | createSegment | replaceSegment | createProfile | replaceProfile => cases hcall
  | _ => trivial

theorem plan_written (hserve : Exact serve) (hn : m.network = some n) (hvalid : Valid m)
    (hcompute : compute m (t.read m) = .ok (steps, r)) :
    (∀ y, Run (Moves serve) (t.toTenantData, r) steps y → ∃ x, AfterProfiles m n t.toTenantData x y) ∧
      Run.Always (Moves serve) (t.toTenantData, r) steps SendsCurrent := by
  obtain ⟨ordered, network, hsec⟩ := compute_ok hvalid.wellFormed hcompute
  have hnetwork := hsec.network_eq
  rw [networkSteps, hn] at hnetwork
  obtain ⟨specs, profiles, hspecs, hcollect, rfl⟩ := planNetwork_ok hnetwork
  have hdeclared := hvalid.wellFormed.network n hn
  have hothers := otherSteps_isNetwork m (t.read m) r ordered
    (fun spec => matchResource (t.read m) r.resources spec)
  have hsteps := hsec.steps_eq
  generalize ordered.map (fun spec => planResource spec.key spec (matchResource (t.read m) r.resources spec))
    ++ coreSteps m (t.read m) r = others at hothers hsteps
  rw [hsteps]
  have hsegments := fun u (hu : Run (Moves serve) (t.toTenantData, r) others u) =>
    segments_written hserve hn hdeclared hsec.resolution (run_sameNetwork hserve hothers hu)
  have hprofiles := fun u (hu : AfterSegments n t.toTenantData u) =>
    profiles_written hserve hn hvalid hu (orderedProfiles_ok hspecs).1 hcollect
  constructor
  · intro y h
    obtain ⟨u, hothersRun, h⟩ := h.append_inv
    obtain ⟨v, hsegmentsRun, hprofilesRun⟩ := h.append_inv
    have hv := (hsegments u hothersRun).1 v hsegmentsRun
    exact ⟨v, (hprofiles v hv).1 y hprofilesRun⟩
  · refine Run.Always.append ?_ fun u hu => Run.Always.append (hsegments u hu).2 fun v hv => ?_
    · intro pre p post u v hothersSteps _ _
      exact core_sendsCurrent (hothers p (by simp [hothersSteps])) u
    · exact (hprofiles v ((hsegments u hu).1 v hv)).2

theorem execute_before {repr : PyStr → PyStr} {t : TenantData} {pre post : List Planned}
    (h : (execute serve repr t r (pre ++ post)).stopped = false) :
    (execute serve repr t r pre).stopped = false := by
  cases hpre : (execute serve repr t r pre).stopped with
  | false => rfl
  | true =>
    rw [execute, List.foldl_append] at h
    rw [execute] at hpre
    rw [foldl_stopped hpre] at h
    cases h

theorem execute_moves {repr : PyStr → PyStr} {t : TenantData} {pre post : List Planned} {p : Planned}
    (h : (execute serve repr t r (pre ++ p :: post)).stopped = false) :
    ∃ y, Moves serve ((execute serve repr t r pre).server, (execute serve repr t r pre).resolved) p y := by
  have hsplit : pre ++ p :: post = (pre ++ [p]) ++ post := by simp
  rw [hsplit] at h
  have hstop := execute_before h
  rw [execute, List.foldl_append] at hstop
  have hlast : Run (Moves serve) ((execute serve repr t r pre).server, (execute serve repr t r pre).resolved) [p] _ :=
    foldl_run hstop
  exact ⟨_, hlast.single_inv⟩

theorem AfterProfiles.carried (hn : m.network = some n) (hdeclared : NetworkDeclared n)
    (hsound : NetworkSound t.toTenantData) (h : AfterProfiles m n t.toTenantData x y) :
    Carried n t.toTenantData y.1 where
  policy hnone := by
    rw [h.stage.policy]
    exact h.segments.policyKept hnone
  segment e he := h.segment_kept hsound he
  profile e he := h.profile_kept hn hdeclared hsound he

theorem plan_converged (hserve : Exact serve) (hn : m.network = some n) (hsound : NetworkSound t.toTenantData)
    (hvalid : Valid m) (hcompute : compute m (t.read m) = .ok (steps, r))
    (h : Run (Moves serve) (t.toTenantData, r) steps y) :
    PlansNoChange m (y.1.read m) ∧ Carried n t.toTenantData y.1 := by
  have hdeclared := hvalid.wellFormed.network n hn
  obtain ⟨x, hwritten⟩ := (plan_written hserve hn hvalid hcompute).1 y h
  obtain ⟨ordered, network, hsec⟩ := compute_ok hvalid.wellFormed hcompute
  have hnetwork := hsec.network_eq
  rw [networkSteps, hn] at hnetwork
  obtain ⟨specs, profiles, hspecs, -, -⟩ := planNetwork_ok hnetwork
  obtain ⟨again, hagain, hall⟩ := hwritten.replan hn hdeclared hspecs
  exact ⟨plansNoChange hvalid hcompute hn hagain hall, hwritten.carried hn hdeclared hsound⟩

/-- **The network section converges** and carries what it does not state, where the SDK sends every step. -/
theorem network_converges (hserve : Exact serve) (repr : PyStr → PyStr) (hn : m.network = some n)
    (hsound : NetworkSound t.toTenantData) (hplan : Planable m (t.read m) steps r)
    (hsendable : ∀ p ∈ steps, p.2.sendable = true) :
    NetworkConverges serve repr m n t.toTenantData steps r := by
  have hfinish := hserve.finishes repr hplan hsendable t.toTenantData
  obtain ⟨hvalid, -, hcompute, -⟩ := hplan
  obtain ⟨hconverged, hcarried⟩ := plan_converged hserve hn hsound hvalid hcompute (execute_run hfinish)
  refine ⟨hfinish, hconverged, hcarried, ?_⟩
  intro pre p post hsteps
  rw [hsteps] at hfinish
  obtain ⟨y, hmove⟩ := execute_moves hfinish
  exact (plan_written hserve hn hvalid hcompute).2 pre p post _ y hsteps
    (execute_run (execute_before hfinish)) hmove

end Apply

/-! ## A segment and its profile -/

/-- One segment of the kind, with a profile. -/
def oneSegment (kind : PyStr) : NetworkSpec where
  policy := some ⟨3600⟩
  segments := [⟨lit "lan", lit "hq", kind, lit "desks", 20, .stated none, .unset, .unset⟩]
  profiles := [⟨lit "lan", 600, .unset, .unset, .stated (some (lit "lan")), .unset⟩]

def ofNetwork (n : NetworkSpec) : ManagementManifest where
  resources := []
  permissions := []
  roles := []
  groups := []
  users := []
  serviceAccounts := []
  network := some n

/-- A tenant with that segment on another VLAN, and with an older profile for it. -/
def placed : Tenant where
  resources := []
  scopeTable := []
  permissions := []
  roles := []
  groups := []
  users := []
  serviceAccounts := []
  grantTable := []
  bindingTable := []
  memberTable := []
  networkPolicy := none
  networkSegments := [⟨lit "a", lit "hq", lit "access", lit "desks", 10, some 1, [lit "lan"], true, 4⟩]
  networkProfiles := [⟨lit "a", 900, lit "default", some 300, none, none, lit "v1", 7⟩]
  sound := ⟨by decide, by decide, by decide, by decide, by decide, by decide, by decide, by decide⟩

/-- What the server answers with where a body leaves a member out. -/
def defaults : Choices where
  id := []
  secret := []
  metadata := .obj []
  filterIds := []
  enabled := true
  terminationAction := lit "default"
  dictionary := lit "v1"

theorem access_converges : ∃ steps r, NetworkConverges (exactServer defaults) id (ofNetwork (oneSegment (lit "access")))
    (oneSegment (lit "access")) placed.toTenantData steps r := by
  have hplan : Planable (ofNetwork (oneSegment (lit "access")))
      (placed.read (ofNetwork (oneSegment (lit "access")))) _ _ := ⟨by decide, rfl, rfl, rfl⟩
  exact ⟨_, _, network_converges (exactServer_exact defaults) id rfl ⟨by decide, by decide⟩ hplan (by decide)⟩

/-- A segment of a kind that the SDK does not know is planned, and never sent. -/
theorem not_network_converges : ¬ ∀ (serve : Server TenantData) (repr : PyStr → PyStr) (m : ManagementManifest)
    (n : NetworkSpec) (t : Tenant) (steps : List Planned) (r : Resolved), Exact serve → m.network = some n →
    NetworkSound t.toTenantData → Planable m (t.read m) steps r →
    NetworkConverges serve repr m n t.toTenantData steps r := by
  intro h
  have hplan : Planable (ofNetwork (oneSegment (lit "lab"))) (placed.read (ofNetwork (oneSegment (lit "lab")))) _ _ :=
    ⟨by decide, rfl, rfl, rfl⟩
  have hfinish := (h _ id _ _ placed _ _ (exactServer_exact defaults) rfl ⟨by decide, by decide⟩ hplan).finishes
  cases hfinish

end AxiamSdk.Manifest
