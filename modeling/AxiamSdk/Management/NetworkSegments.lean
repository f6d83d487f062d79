import AxiamSdk.Management.NetworkFrame

/-! # The segments of a network section

* `Synced`: under every segment key stand the id and the version that the tenant holds.
* `segment_step`: what a segment's planned step makes of the segment, and of no other.
* `SegmentDone`: the segment holds what its spec states and keeps what it does not. -/

namespace AxiamSdk.Manifest
open PyLib
set_option autoImplicit false

/-! ## Current versions -/

/-- Every version that a call carries is the tenant's. -/
def Call.current (t : TenantData) : Call → Prop
  | .replacePolicy _ version => version = t.policyVersion
  | .replaceSegment id body => t.segmentVersion id = some body.version
  | .createProfile _ segmentId segmentVersion => t.segmentVersion segmentId = some segmentVersion
  | .replaceProfile segmentId _ segmentVersion version =>
    t.segmentVersion segmentId = some segmentVersion ∧ t.profileVersion segmentId = some version
  | _ => True

/-- What the step sends in a state carries current versions. -/
def SendsCurrent (x : ApplyState) (p : Planned) : Prop :=
  ∀ call record, request x.2 p.2 = .ok (some (call, record)) → call.current x.1

theorem sendsCurrent_noop {x : ApplyState} {p : Planned} (h : p.2.isNoop = true) : SendsCurrent x p := by
  intro call record hcall
  cases hp : p.2 with
  | noop key =>
    rw [hp] at hcall
    cases hcall
  | _ =>
    rw [hp] at h
    cases h

theorem Exact.sends {serve : Server TenantData} (hserve : Exact serve) {x y : ApplyState} {p : Planned}
    {call : Call} {record : Record} (h : Moves serve x p y)
    (hrequest : request x.2 p.2 = .ok (some (call, record))) (hcurrent : call.current x.1) :
    SendsCurrent x p ∧ ∃ c, c.id ∉ x.1.ids ∧ y.1 = (perform c x.1 call).1 ∧
      y.2 = x.2.record (perform c x.1 call).2 record := by
  refine ⟨?_, hserve.performed h hrequest⟩
  intro call' record' hcall
  rw [hrequest, Except.ok.injEq, Option.some.injEq, Prod.mk.injEq] at hcall
  rw [← hcall.1]
  exact hcurrent

/-! ## What is known of the segments -/

def NetworkSegment.identity (e : NetworkSegment) : PyStr × PyStr × PyStr := (e.siteKey, e.kind, e.name)

/-- The tenant's segment of a site, kind and name. -/
def segmentOf (t : TenantData) (k : PyStr × PyStr × PyStr) : Option NetworkSegment :=
  t.networkSegments.find? (fun e => e.identity = k)

/-- Under every segment key stand the id and the version that the tenant holds. -/
structure Synced (n : NetworkSpec) (x : ApplyState) : Prop where
  ids : (x.1.networkSegments.map NetworkSegment.id).Nodup
  segment : ∀ s ∈ n.segments,
    x.2.networkSegments.get? s.key = (segmentOf x.1 s.identity).map NetworkSegment.id
  version : ∀ s ∈ n.segments,
    x.2.networkSegmentVersions.get? s.key = (segmentOf x.1 s.identity).map NetworkSegment.version

theorem segmentOf_mem {t : TenantData} {k : PyStr × PyStr × PyStr} {e : NetworkSegment}
    (h : segmentOf t k = some e) : e ∈ t.networkSegments := List.mem_of_find?_eq_some h

theorem segmentOf_identity {t : TenantData} {k : PyStr × PyStr × PyStr} {e : NetworkSegment}
    (h : segmentOf t k = some e) : e.identity = k := by
  simpa using List.find?_some h

theorem segmentVersion_of_mem {t : TenantData} (hids : (t.networkSegments.map NetworkSegment.id).Nodup)
    {e : NetworkSegment} (he : e ∈ t.networkSegments) : t.segmentVersion e.id = some e.version := by
  rw [TenantData.segmentVersion, find?_key hids he]
  rfl

/-! ## What a step makes of a segment -/

/-- What a spec does not state is kept. -/
structure SegmentKept (s : NetworkSegmentSpec) (e e' : NetworkSegment) : Prop where
  id : e'.id = e.id
  identity : e'.identity = e.identity
  rank : s.rank = .unset → e'.rank = e.rank
  filterIds : s.filterIds = .unset → e'.filterIds = e.filterIds
  enabled : s.enabled = .unset → e'.enabled = e.enabled

/-- The segment holds what its spec states and keeps what it does not; one that is new has no profile. -/
structure SegmentDone (profiles : List NetworkReplyProfile) (s : NetworkSegmentSpec)
    (before : Option NetworkSegment) (e' : NetworkSegment) : Prop where
  holds : segmentDiffers s e' = false
  kept : ∀ e, before = some e → SegmentKept s e e'
  fresh : before = none → ∀ p ∈ profiles, p.segmentId ≠ e'.id

theorem SegmentKept.refl (s : NetworkSegmentSpec) (e : NetworkSegment) : SegmentKept s e e :=
  ⟨rfl, rfl, fun _ => rfl, fun _ => rfl, fun _ => rfl⟩

theorem sameSet_refl (l : List PyStr) : sameSet l l = true := by
  simp [sameSet]

/-- The body of a segment's replacement. -/
def segmentReplace (s : NetworkSegmentSpec) (e : NetworkSegment) : SegmentReplace where
  version := e.version
  vlanId := s.vlanId
  filterIds := s.filterIds.or e.filterIds
  enabled := s.enabled.or e.enabled
  rank := s.rank.or e.rank

theorem planSegment_some (s : NetworkSegmentSpec) (e : NetworkSegment) : planSegment s (some e) =
    if segmentDiffers s e then
      (⟨.update, .networkSegment, s.key⟩, .replaceNetworkSegment s.key (segmentReplace s e))
    else noChange .networkSegment s.key := rfl

/-- The segment that a create request asks for. -/
def SegmentCreate.segment (body : SegmentCreate) (c : Choices) : NetworkSegment :=
  ⟨c.id, body.siteKey, body.kind, body.name, body.vlanId, body.rank, body.filterIds.getD c.filterIds,
    body.enabled.getD c.enabled, 1⟩

theorem created_holds (s : NetworkSegmentSpec) (c : Choices) :
    segmentDiffers s ((segmentCreate s).segment c) = false := by
  obtain ⟨key, site, kind, name, vlanId, rank, filterIds, enabled⟩ := s
  cases rank <;> cases filterIds <;> cases enabled <;>
    simp [segmentDiffers, segmentCreate, SegmentCreate.segment, Stated.differs, Stated.or, sameSet_refl]

theorem replaced_holds (s : NetworkSegmentSpec) (e : NetworkSegment) :
    segmentDiffers s (e.replaced (segmentReplace s e)) = false := by
  obtain ⟨key, site, kind, name, vlanId, rank, filterIds, enabled⟩ := s
  cases rank <;> cases filterIds <;> cases enabled <;>
    simp [segmentDiffers, segmentReplace, NetworkSegment.replaced, Stated.differs, Stated.or, sameSet_refl]

theorem replaced_kept (s : NetworkSegmentSpec) (e : NetworkSegment) :
    SegmentKept s e (e.replaced (segmentReplace s e)) where
  id := rfl
  identity := rfl
  rank h := by simp [NetworkSegment.replaced, segmentReplace, h, Stated.or]
  filterIds h := by simp [NetworkSegment.replaced, segmentReplace, h, Stated.or]
  enabled h := by simp [NetworkSegment.replaced, segmentReplace, h, Stated.or]

/-! ## One step -/

section Step
variable {serve : Server TenantData} {n : NetworkSpec} {x y : ApplyState} {s : NetworkSegmentSpec}

theorem fresh_segment {t : TenantData} {i : PyStr} (h : i ∉ t.ids) :
    i ∉ t.networkSegments.map NetworkSegment.id := by
  intro hmem
  exact h (by simp [TenantData.ids, List.mem_map.1 hmem])

theorem fresh_profile {t : TenantData} {i : PyStr} (h : i ∉ t.ids) :
    ∀ p ∈ t.networkProfiles, p.segmentId ≠ i := by
  rintro p hp rfl
  exact h (by simp only [TenantData.ids, List.mem_append]; exact Or.inr (List.mem_map_of_mem hp))

theorem key_ne (hn : NetworkDeclared n) {s' : NetworkSegmentSpec} (hs : s ∈ n.segments)
    (hs' : s' ∈ n.segments) (h : s' ≠ s) : s.key ≠ s'.key ∧ s'.identity ≠ s.identity := by
  refine ⟨fun hkey => h ?_, fun hid => h ?_⟩
  · exact (List.inj_on_of_nodup_map hn.segmentKeys hs hs' hkey).symm
  · exact List.inj_on_of_nodup_map hn.identities hs' hs hid

theorem synced_create (hn : NetworkDeclared n) (hx : Synced n x) (hs : s ∈ n.segments)
    (hnone : segmentOf x.1 s.identity = none) {e : NetworkSegment} (hidentity : e.identity = s.identity)
    (hfresh : e.id ∉ x.1.ids) (hsegments : y.1.networkSegments = x.1.networkSegments ++ [e])
    (hids : y.2.networkSegments = x.2.networkSegments.set s.key e.id)
    (hversions : y.2.networkSegmentVersions = x.2.networkSegmentVersions.set s.key e.version) :
    Synced n y ∧ segmentOf y.1 s.identity = some e ∧
      ∀ k, k ≠ s.identity → segmentOf y.1 k = segmentOf x.1 k := by
  have hself : segmentOf y.1 s.identity = some e := by
    rw [segmentOf, hsegments]
    exact find?_append_of_none hnone (by simp [hidentity])
  have hother : ∀ k, k ≠ s.identity → segmentOf y.1 k = segmentOf x.1 k := by
    intro k hk
    rw [segmentOf, hsegments]
    refine find?_append_of_not _ ?_
    rw [hidentity]
    simpa using Ne.symm hk
  refine ⟨⟨?_, ?_, ?_⟩, hself, hother⟩
  · rw [hsegments, List.map_append, List.map_singleton, List.nodup_append]
    refine ⟨hx.ids, List.nodup_singleton _, ?_⟩
    intro i hi j hj hij
    rw [List.mem_singleton] at hj
    subst hj
    exact fresh_segment hfresh (hij ▸ hi)
  · intro s' hs'
    by_cases heq : s' = s
    · rw [heq, hids, Dict.get?_set_self, hself]
      rfl
    · obtain ⟨hkey, hid⟩ := key_ne hn hs hs' heq
      rw [hids, Dict.get?_set_ne _ _ hkey, hother _ hid]
      exact hx.segment s' hs'
  · intro s' hs'
    by_cases heq : s' = s
    · rw [heq, hversions, Dict.get?_set_self, hself]
      rfl
    · obtain ⟨hkey, hid⟩ := key_ne hn hs hs' heq
      rw [hversions, Dict.get?_set_ne _ _ hkey, hother _ hid]
      exact hx.version s' hs'

theorem synced_replace (hn : NetworkDeclared n) (hx : Synced n x) (hs : s ∈ n.segments)
    {e : NetworkSegment} (hfound : segmentOf x.1 s.identity = some e) {f : NetworkSegment → NetworkSegment}
    (hf : ∀ e, (f e).id = e.id ∧ (f e).identity = e.identity)
    (hsegments : y.1.networkSegments = updateAt NetworkSegment.id e.id f x.1.networkSegments)
    (hids : y.2.networkSegments = x.2.networkSegments)
    (hversions : y.2.networkSegmentVersions = x.2.networkSegmentVersions.set s.key (f e).version) :
    Synced n y ∧ segmentOf y.1 s.identity = some (f e) ∧
      ∀ k, k ≠ s.identity → segmentOf y.1 k = segmentOf x.1 k := by
  have hmap : ∀ k, segmentOf y.1 k = (segmentOf x.1 k).map (fun e' => if e'.id = e.id then f e' else e') := by
    intro k
    rw [segmentOf, hsegments]
    exact find?_updateAt _ fun e' _ => by rw [(hf e').2]
  have hself : segmentOf y.1 s.identity = some (f e) := by
    rw [hmap, hfound]
    simp
  have hother : ∀ k, k ≠ s.identity → segmentOf y.1 k = segmentOf x.1 k := by
    intro k hk
    rw [hmap]
    cases hfind : segmentOf x.1 k with
    | none => rfl
    | some e' =>
      have hne : e'.id ≠ e.id := by
        intro hid
        have heq := List.inj_on_of_nodup_map hx.ids (segmentOf_mem hfind) (segmentOf_mem hfound) hid
        rw [← segmentOf_identity hfind, heq, segmentOf_identity hfound] at hk
        exact hk rfl
      rw [Option.map_some, if_neg hne]
  refine ⟨⟨?_, ?_, ?_⟩, hself, hother⟩
  · rw [hsegments, map_updateAt NetworkSegment.id _ fun e' => (hf e').1]
    exact hx.ids
  · intro s' hs'
    rw [hids, hx.segment s' hs', hmap, Option.map_map]
    congr 1
    funext e'
    rw [Function.comp_apply]
    split
    · exact (hf e').1.symm
    · rfl
  · intro s' hs'
    by_cases heq : s' = s
    · rw [heq, hversions, Dict.get?_set_self, hself]
      rfl
    · obtain ⟨hkey, hid⟩ := key_ne hn hs hs' heq
      rw [hversions, Dict.get?_set_ne _ _ hkey, hother _ hid]
      exact hx.version s' hs'

/-- What stays as it is while the segments are written. -/
structure SegmentStage (n : NetworkSpec) (policy : Option NetworkPolicy) (profiles : List NetworkReplyProfile)
    (x : ApplyState) : Prop where
  synced : Synced n x
  policy : x.1.networkPolicy = policy
  profiles : x.1.networkProfiles = profiles

variable {policy : Option NetworkPolicy} {profiles : List NetworkReplyProfile}

theorem segment_create (hserve : Exact serve) (hn : NetworkDeclared n) (hs : s ∈ n.segments)
    (hx : SegmentStage n policy profiles x) (hnone : segmentOf x.1 s.identity = none)
    (h : Moves serve x (planSegment s none) y) :
    SegmentStage n policy profiles y ∧ SendsCurrent x (planSegment s none) ∧
      (∃ e', segmentOf y.1 s.identity = some e' ∧ SegmentDone profiles s none e') ∧
      ∀ k, k ≠ s.identity → segmentOf y.1 k = segmentOf x.1 k := by
  have hrequest : request x.2 (planSegment s none).2 =
      .ok (some (.createSegment (segmentCreate s), .segment s.key)) := rfl
  obtain ⟨hsends, c, hfresh, hstate, hresolved⟩ := hserve.sends h hrequest trivial
  obtain ⟨hsynced, hself, hother⟩ := synced_create (y := y) (e := (segmentCreate s).segment c) hn hx.synced
    hs hnone rfl hfresh (by rw [hstate]; rfl) (by rw [hresolved]; rfl) (by rw [hresolved]; rfl)
  refine ⟨⟨hsynced, ?_, ?_⟩, hsends, ⟨_, hself, created_holds s c, (fun _ h => absurd h.symm (Option.some_ne_none _)), ?_⟩, hother⟩
  · rw [hstate]
    exact hx.policy
  · rw [hstate]
    exact hx.profiles
  · intro _ p hp
    exact fresh_profile hfresh p (hx.profiles.symm ▸ hp)

theorem segment_replace (hserve : Exact serve) (hn : NetworkDeclared n) (hs : s ∈ n.segments)
    (hx : SegmentStage n policy profiles x) {e : NetworkSegment}
    (hfound : segmentOf x.1 s.identity = some e) {p : Planned}
    (hp : p.2 = .replaceNetworkSegment s.key (segmentReplace s e)) (h : Moves serve x p y) :
    SegmentStage n policy profiles y ∧ SendsCurrent x p ∧
      (∃ e', segmentOf y.1 s.identity = some e' ∧ SegmentDone profiles s (some e) e') ∧
      ∀ k, k ≠ s.identity → segmentOf y.1 k = segmentOf x.1 k := by
  have hid : x.2.networkSegments.get? s.key = some e.id := by
    rw [hx.synced.segment s hs, hfound]
    rfl
  have hversion : x.1.segmentVersion e.id = some e.version :=
    segmentVersion_of_mem hx.synced.ids (segmentOf_mem hfound)
  have hrequest : request x.2 p.2 =
      .ok (some (.replaceSegment e.id (segmentReplace s e), .segmentVersion s.key)) := by
    rw [hp, request, lookup, hid]
    rfl
  obtain ⟨hsends, c, -, hstate, hresolved⟩ := hserve.sends h hrequest hversion
  have hreply : (perform c x.1 (.replaceSegment e.id (segmentReplace s e))).2.version
      = (e.replaced (segmentReplace s e)).version := by
    simp only [perform, hversion]
    rfl
  obtain ⟨hsynced, hself, hother⟩ := synced_replace (y := y)
    (f := NetworkSegment.replaced (segmentReplace s e)) hn hx.synced hs hfound
    (fun e' => ⟨rfl, rfl⟩) (by rw [hstate]; rfl) (by rw [hresolved]; rfl)
    (by rw [hresolved, ← hreply]; rfl)
  refine ⟨⟨hsynced, ?_, ?_⟩, hsends, ⟨_, hself, replaced_holds s e, ?_, fun h => absurd h (Option.some_ne_none e)⟩, hother⟩
  · rw [hstate]
    exact hx.policy
  · rw [hstate]
    exact hx.profiles
  · intro e' he'
    obtain rfl := Option.some.inj he'
    exact replaced_kept s e

/-- **One segment**: its step makes of it what the spec states, sends its current version and leaves
the other segments alone. -/
theorem segment_step (hserve : Exact serve) (hn : NetworkDeclared n) (hs : s ∈ n.segments)
    (hx : SegmentStage n policy profiles x) {before : Option NetworkSegment}
    (hbefore : segmentOf x.1 s.identity = before) (h : Moves serve x (planSegment s before) y) :
    SegmentStage n policy profiles y ∧ SendsCurrent x (planSegment s before) ∧
      (∃ e', segmentOf y.1 s.identity = some e' ∧ SegmentDone profiles s before e') ∧
      ∀ k, k ≠ s.identity → segmentOf y.1 k = segmentOf x.1 k := by
  cases before with
  | none => exact segment_create hserve hn hs hx hbefore h
  | some e =>
    rw [planSegment_some] at h ⊢
    cases hdiffers : segmentDiffers s e with
    | false =>
      rw [hdiffers, if_neg Bool.false_ne_true] at h
      rw [if_neg Bool.false_ne_true]
      obtain rfl := moves_noop h rfl
      refine ⟨hx, sendsCurrent_noop rfl, ⟨e, hbefore, hdiffers, ?_, fun h => absurd h (Option.some_ne_none e)⟩, fun k _ => rfl⟩
      intro e' he'
      obtain rfl := Option.some.inj he'
      exact SegmentKept.refl s e
    | true =>
      rw [hdiffers, if_pos rfl] at h
      rw [if_pos rfl]
      exact segment_replace hserve hn hs hx hbefore rfl h

/-- **All segments**, one after the other. -/
theorem segments_run (hserve : Exact serve) (hn : NetworkDeclared n)
    (hx : SegmentStage n policy profiles x) (before : NetworkSegmentSpec → Option NetworkSegment)
    (hbefore : ∀ s ∈ n.segments, segmentOf x.1 s.identity = before s) :
    (∀ y, Run (Moves serve) x (n.segments.map (fun s => planSegment s (before s))) y →
      SegmentStage n policy profiles y ∧
      (∀ s ∈ n.segments, ∃ e', segmentOf y.1 s.identity = some e' ∧ SegmentDone profiles s (before s) e') ∧
      ∀ k, k ∉ n.segments.map NetworkSegmentSpec.identity → segmentOf y.1 k = segmentOf x.1 k) ∧
    Run.Always (Moves serve) x (n.segments.map (fun s => planSegment s (before s))) SendsCurrent := by
  refine Run.targets (fun k x => segmentOf x.1 k) NetworkSegmentSpec.identity before
    (fun s found => ∃ e', found = some e' ∧ SegmentDone profiles s (before s) e') ?_ hx hbefore hn.identities
  intro u s v hs hu hstart hmove
  exact segment_step hserve hn hs hu hstart hmove

end Step

end AxiamSdk.Manifest
