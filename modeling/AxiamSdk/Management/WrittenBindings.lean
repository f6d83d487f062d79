import AxiamSdk.Management.Rebind
import AxiamSdk.Management.Written

/-! # The role bindings that an apply leaves

* `holdings`: what a subject holds of a role; a call changes that of one subject and one role.
* `boundAfter`: what stands there after the step of a binding, whatever stood there before.
* `Reconciled.bindings`: at the end each subject holds that of each role that it binds, and nothing else of it. -/

namespace AxiamSdk.Manifest
open PyLib
set_option autoImplicit false

/-! ## What a subject holds of a role -/

/-- A kind of subjects, the id of a role and that of a subject. -/
abbrev Holder := SubjectKind × PyStr × PyStr

def holdings (k : Holder) (t : TenantData) : List RoleAssignment :=
  (t.bindings k.1 k.2.1).filter (fun a => a.subjectId = k.2.2)

/-- No subject holds a role twice. -/
def TenantData.BindsOnce (t : TenantData) : Prop := ∀ k, (holdings k t).length ≤ 1

section Holdings
variable {t u : TenantData} {kind : SubjectKind} {roleId : PyStr}

theorem holdings_eq (k : Holder) (t : TenantData) : holdings k t = (t.bindingTable.filter
    (fun row => row.1 = (k.1, k.2.1) ∧ row.2.subjectId = k.2.2)).map Prod.snd := by
  rw [holdings, TenantData.bindings, below]
  induction t.bindingTable with
  | nil => rfl
  | cons row l ih =>
    by_cases hrow : row.1 = (k.1, k.2.1)
    · by_cases hs : row.2.subjectId = k.2.2 <;> simp [hrow, hs, ih]
    · simp [hrow, ih]

theorem holdings_congr {k : Holder} (h : u.ofKind k.1 = t.ofKind k.1) : holdings k u = holdings k t := by
  have hkind : ∀ t : TenantData, holdings k t = ((t.ofKind k.1).filter
      (fun row => row.1 = (k.1, k.2.1) ∧ row.2.subjectId = k.2.2)).map Prod.snd := by
    intro t
    rw [holdings_eq, TenantData.ofKind, List.filter_filter]
    congr 1
    refine List.filter_congr fun row _ => ?_
    by_cases hrow : row.1 = (k.1, k.2.1) <;> simp [hrow]
  rw [hkind, h, ← hkind]

theorem holdings_assign {a : RoleAssignment} (h : u.bindingTable = t.bindingTable ++ [((kind, roleId), a)])
    (k : Holder) : holdings k u = holdings k t ++ if k = (kind, roleId, a.subjectId) then [a] else [] := by
  rw [holdings_eq, h, List.filter_append, List.map_append, ← holdings_eq]
  congr 1
  by_cases hk : k = (kind, roleId, a.subjectId)
  · subst hk
    simp
  · rw [if_neg hk]
    have hno : kind = k.1 → roleId = k.2.1 → a.subjectId ≠ k.2.2 := by
      intro hkind hrole hsubject
      exact hk (by rw [hkind, hrole, hsubject])
    simpa using hno

theorem holdings_unassign {subjectId : PyStr} {resourceId : Option PyStr}
    (h : u.bindingTable = t.bindingTable.filter (fun row =>
      ¬ (row.1 = (kind, roleId) ∧ row.2.subjectId = subjectId ∧ row.2.resourceId = resourceId)))
    (k : Holder) : holdings k u = (holdings k t).filter (fun a =>
      ¬ (k = (kind, roleId, subjectId) ∧ a.resourceId = resourceId)) := by
  obtain ⟨kind', roleId', subjectId'⟩ := k
  rw [holdings_eq, holdings_eq, h, List.filter_filter, List.filter_map, List.filter_filter]
  congr 1
  refine List.filter_congr fun row _ => ?_
  obtain ⟨⟨kind₁, roleId₁⟩, a⟩ := row
  rw [Bool.eq_iff_iff]
  simp only [Function.comp_apply, Bool.and_eq_true, decide_eq_true_eq, Prod.mk.injEq]
  grind

end Holdings

/-! ## One planned binding -/

/-- What stands after the step of a binding, given what stood before: `r` has the ids of the plan, and `d` those
that the step finds. -/
def boundAfter (r d : Resolved) (b : RoleBinding) (subjectId : PyStr) : Option RoleAssignment → RoleAssignment
  | none => ⟨subjectId, (bindingResourceAndInherit d b).1, (bindingResourceAndInherit r b).2, none⟩
  | some e =>
    if e.resourceId = (bindingResourceAndInherit r b).1 ∧ e.inherit = (bindingResourceAndInherit r b).2 then e
    else ⟨subjectId, (bindingResourceAndInherit d b).1, (bindingResourceAndInherit r b).2, e.tenantScope⟩

section Step
variable {serve : Server TenantData} {m : ManagementManifest} {snapshot : Snapshot} {r : Resolved}
  {z z' : ApplyState} {u : Subject} {b : RoleBinding} {roleId subjectId : PyStr}

theorem resourceStepId_eq {d : Resolved} (hb : resourceKey b ≠ some []) {resourceId : Option PyStr}
    (h : resourceStepId d (resourceKey b) = .ok resourceId) : resourceId = (bindingResourceAndInherit d b).1 := by
  rw [resourceStepId, truthy_parent hb] at h
  obtain role | ⟨role, resource, inherit⟩ := b
  · cases h
    rfl
  · have h : (lookup d.resources resource).map some = .ok resourceId := h
    cases hl : lookup d.resources resource with
    | error e =>
      rw [hl] at h
      cases h
    | ok id =>
      rw [hl] at h
      cases h
      exact (lookup_ok hl).symm

theorem subjectRole_moves (hserve : Exact serve) (hm : WellFormed m) (hr : Resolution m snapshot r)
    (hrole : roleKey b ∈ m.roles.map RoleSpec.key) (hb : resourceKey b ≠ some [])
    (hroleId : z.2.roles.get? (roleKey b) = some roleId)
    (hsubjectId : (z.2.subjects u.kind).get? u.key = some subjectId)
    (hstart : holdings (u.kind, roleId, subjectId) z.1 = (standing m snapshot u b).toList)
    (h : Moves serve z (planSubjectRole snapshot r u b) z') :
    holdings (u.kind, roleId, subjectId) z'.1 = [boundAfter r z.2 b subjectId (standing m snapshot u b)] ∧
      ∀ k, k ≠ (u.kind, roleId, subjectId) → holdings k z'.1 = holdings k z.1 := by
  rw [planSubjectRole, planRoleBinding, boundTo_eq hm hr hrole] at h
  dsimp only at h
  cases hstanding : standing m snapshot u b with
  | none =>
    rw [hstanding] at h hstart
    dsimp only at h
    obtain ⟨call, record, c, hrequest, -, hstate, -⟩ := hserve.moves h rfl (fun _ _ hp => by cases hp)
    obtain ⟨roleId', hrole', hrequest⟩ := bind_ok hrequest
    obtain ⟨subjectId', hsubject', hrequest⟩ := bind_ok hrequest
    obtain ⟨resourceId, hresource, hrequest⟩ := bind_ok hrequest
    cases hrequest
    obtain rfl : roleId = roleId' := Option.some.inj (hroleId.symm.trans (lookup_ok hrole'))
    obtain rfl : subjectId = subjectId' := Option.some.inj (hsubjectId.symm.trans (lookup_ok hsubject'))
    have hassign := fun k => holdings_assign (u := z'.1) (t := z.1) (by rw [hstate]; rfl) k
    rw [resourceStepId_eq hb hresource, RebindRole.inheritWire_getD] at hassign
    constructor
    · rw [hassign, hstart, if_pos rfl]
      rfl
    · intro k hk
      rw [hassign, if_neg hk, List.append_nil]
  | some e =>
    rw [hstanding] at h hstart
    dsimp only at h
    split at h
    · next hsame =>
      rw [moves_noop h rfl, boundAfter, if_pos hsame]
      exact ⟨hstart, fun k _ => rfl⟩
    · next hdiffers =>
      obtain ⟨hrun, -⟩ := moves_rebind h rfl
      obtain ⟨roleId', subjectId', resourceId, c, c', hrole', hsubject', hresource, hstate⟩ :=
        rebindRole_calls hserve hrun
      obtain rfl : roleId = roleId' := Option.some.inj (hroleId.symm.trans hrole')
      obtain rfl : subjectId = subjectId' := Option.some.inj (hsubjectId.symm.trans hsubject')
      have hassign := fun k => holdings_assign (u := z'.1) (by rw [hstate]; rfl) k
      have hunassign := fun k => holdings_unassign (t := z.1)
        (u := (perform c z.1 (.unassign u.kind roleId subjectId e.resourceId)).1) rfl k
      rw [resourceStepId_eq hb hresource, RebindRole.inheritWire_getD] at hassign
      constructor
      · rw [hassign, hunassign, hstart, if_pos rfl, boundAfter, if_neg hdiffers]
        simp
      · intro k hk
        rw [hassign, hunassign, if_neg hk, List.append_nil]
        simp [hk]

end Step

/-! ## The subjects of one kind -/

/-- Every subject of a kind has its id: that of the object found, or one that had no binding in `t`. -/
structure SubjectsWritten (t : TenantData) (d : Resolved) (kind : SubjectKind) (us : List Subject) : Prop where
  kinds : ∀ u ∈ us, u.kind = kind
  nodup : us.Nodup
  placed : ∀ u ∈ us, ∃ i, (d.subjects kind).get? u.key = some i ∧ (∀ j, u.id? = some j → i = j) ∧
    (u.id? = none → ∀ row ∈ t.ofKind kind, row.2.subjectId ≠ i)
  apart : ∀ u ∈ us, ∀ v ∈ us, ∀ i, (d.subjects kind).get? u.key = some i →
    (d.subjects kind).get? v.key = some i → u = v

theorem subjects_written {Spec Obj : Type} {key name : Spec → PyStr} {id nameOf : Obj → PyStr}
    {post : Spec → Option Obj → Obj → Prop} {found : Spec → Option Obj} {specs : List Spec} {l : List Obj}
    {t : TenantData} {d : Resolved} {kind : SubjectKind} {subject : Spec → Subject}
    (hinv : (flat key name id nameOf).Inv post found specs [] (l, d.subjects kind))
    (hkeys : (specs.map key).Nodup) (hkind : ∀ s, (subject s).kind = kind) (hkey : ∀ s, (subject s).key = key s)
    (hid : ∀ s, (subject s).id? = (found s).map id)
    (hpost : ∀ s o, post s none o → ∀ row ∈ t.ofKind kind, row.2.subjectId ≠ id o) :
    SubjectsWritten t d kind (specs.map subject) := by
  constructor
  case kinds =>
    rw [List.forall_mem_map]
    exact fun s _ => hkind s
  case nodup =>
    refine List.Nodup.of_map Subject.key ?_
    have hmap : (specs.map subject).map Subject.key = specs.map key := by
      rw [List.map_map]
      exact List.map_congr_left fun s _ => hkey s
    rw [hmap]
    exact hkeys
  case placed =>
    rw [List.forall_mem_map]
    intro s hs
    obtain ⟨o, ho⟩ := hinv.settled s hs
    refine ⟨id o, (hkey s).symm ▸ ho.resolved, fun j hj => ?_, fun hnone => ?_⟩
    · rw [hid, Option.map_eq_some_iff] at hj
      obtain ⟨e, he, rfl⟩ := hj
      exact ho.id e he
    · rw [hid, Option.map_eq_none_iff] at hnone
      exact hpost s o (hnone ▸ ho.post)
  case apart =>
    rw [List.forall_mem_map]
    intro s hs
    rw [List.forall_mem_map]
    intro s' hs' i hi hi'
    rw [hkey] at hi hi'
    rw [hinv.eq_of_get? hs hs' hi hi']

section Written
variable {serve : Server TenantData} {m : ManagementManifest} {t : Tenant} {r : Resolved}
  {ordered : List ResourceSpec} {y : ApplyState}

theorem Reconciled.group_subjects (h : Reconciled serve m t r ordered y) :
    SubjectsWritten t.toTenantData y.2 .group (m.groups.map (groupSubject (t.read m))) :=
  subjects_written h.groups h.wellFormed.groupKeys (fun _ => rfl) (fun _ => rfl) (fun _ => rfl)
    (fun _ _ hpost => (hpost.2 rfl).2)

theorem Reconciled.user_subjects (h : Reconciled serve m t r ordered y) :
    SubjectsWritten t.toTenantData y.2 .user (m.users.map (userSubject (t.read m))) :=
  subjects_written h.users h.wellFormed.userKeys (fun _ => rfl) (fun _ => rfl) (fun _ => rfl)
    (fun _ _ hpost => hpost.2 rfl)

theorem Reconciled.account_subjects (h : Reconciled serve m t r ordered y) :
    SubjectsWritten t.toTenantData y.2 .serviceAccount (m.serviceAccounts.map (accountSubject (t.read m))) :=
  subjects_written h.accounts h.wellFormed.serviceAccountKeys (fun _ => rfl) (fun _ => rfl) (fun _ => rfl)
    (fun _ _ hpost => hpost.2 rfl)

/-! ## Before the first binding -/

theorem holdings_nil {k : Holder} {t : TenantData}
    (h : ∀ row ∈ t.ofKind k.1, ¬ (row.1.2 = k.2.1 ∧ row.2.subjectId = k.2.2)) : holdings k t = [] := by
  rw [holdings_eq, List.map_eq_nil_iff, List.filter_eq_nil_iff]
  intro row hrow hkey
  rw [decide_eq_true_eq] at hkey
  refine h row (List.mem_filter.2 ⟨hrow, ?_⟩) ⟨by rw [hkey.1], hkey.2⟩
  simp [hkey.1]

theorem matchedRole_eq (hm : WellFormed m) {snapshot : Snapshot} {role : RoleSpec} (hrole : role ∈ m.roles) :
    matchedRole m snapshot role.key = matchRole snapshot role := by
  rw [matchedRole, find?_key hm.roleKeys hrole]
  rfl

theorem listed_bindings {t : TenantData} {role : RoleSpec} (hrole : role ∈ m.roles) {e : Role} (he : e ∈ t.roles)
    (hname : e.name = role.name) (hid : e.id ≠ []) (kind : SubjectKind) :
    listed ((t.read m).bindings kind) (some e.id) = t.bindings kind e.id := by
  rw [read_bindings, listed_readEach, if_pos]
  refine ⟨hid, List.mem_map_of_mem (List.mem_filter.2 ⟨?_, ?_⟩)⟩
  · rw [listAll_eq (core_of_role hrole)]
    exact he
  · rw [decide_eq_true_eq, hname]
    exact List.mem_map_of_mem hrole

theorem existingBinding_eq (t : TenantData) (kind : SubjectKind) (roleId subjectId : PyStr) :
    existingBinding (t.bindings kind roleId) (some subjectId) = (holdings (kind, roleId, subjectId) t).head? :=
  List.head?_filter.symm

theorem Reconciled.holdings_start (h : Reconciled serve m t r ordered y) (hone : t.BindsOnce) {u : Subject}
    {b : RoleBinding} {roleId subjectId : PyStr} (hb : roleKey b ∈ m.roles.map RoleSpec.key)
    (hrole : y.2.roles.get? (roleKey b) = some roleId) (hold : ∀ j, u.id? = some j → subjectId = j)
    (hnew : u.id? = none → ∀ row ∈ t.ofKind u.kind, row.2.subjectId ≠ subjectId) :
    holdings (u.kind, roleId, subjectId) t.toTenantData = (standing m (t.read m) u b).toList := by
  obtain ⟨role, hspec, hkey⟩ := List.mem_map.1 hb
  rw [standing, ← hkey, matchedRole_eq h.wellFormed hspec]
  rw [← hkey] at hrole
  cases hmatch : matchRole (t.read m) role with
  | none =>
    obtain ⟨o, ho⟩ := h.roles.settled role hspec
    obtain rfl : o.id = roleId := Option.some.inj (ho.resolved.symm.trans hrole)
    have hfresh := (ho.post.2.2 hmatch).2 u.kind
    exact holdings_nil fun row hrow hrowkey => hfresh row hrow hrowkey.1
  | some e =>
    have hplan := h.resolution.role role hspec
    rw [hmatch] at hplan
    obtain rfl : e.id = roleId := Option.some.inj ((h.role_kept hspec hplan).symm.trans hrole)
    have he : e ∈ t.roles := by
      have hmem := List.mem_of_find?_eq_some hmatch
      rwa [read_roles hspec] at hmem
    have hname : e.name = role.name := by simpa using List.find?_some hmatch
    have hid : e.id ≠ [] := fun hnil =>
      (List.nodup_cons.1 t.sound.roles).1 (hnil ▸ List.mem_map_of_mem he)
    rw [Option.bind_some, listed_bindings hspec he hname hid]
    cases hsubject : u.id? with
    | none => exact holdings_nil fun row hrow hrowkey => hnew hsubject row hrow hrowkey.2
    | some j =>
      obtain rfl := hold j hsubject
      rw [existingBinding_eq]
      have hlength := hone (u.kind, e.id, subjectId)
      generalize holdings (u.kind, e.id, subjectId) t.toTenantData = l at hlength
      obtain _ | ⟨a, _ | ⟨a', l⟩⟩ := l
      · rfl
      · rfl
      · simp at hlength

/-! ## After the last binding -/

theorem bindingResource_congr {d d' : Resolved} (h : d.resources = d'.resources) (b : RoleBinding) :
    bindingResourceAndInherit d b = bindingResourceAndInherit d' b := by
  obtain role | ⟨role, resource, inherit⟩ := b
  · rfl
  · rw [bindingResourceAndInherit, bindingResourceAndInherit, h]

theorem boundAfter_congr {d d' : Resolved} (h : d.resources = d'.resources) (b : RoleBinding) (subjectId : PyStr)
    (e : Option RoleAssignment) : boundAfter r d b subjectId e = boundAfter r d' b subjectId e := by
  cases e <;> rw [boundAfter, boundAfter, bindingResource_congr h]

theorem Within.subjects {kind : SubjectKind} {x z : ApplyState} (h : Within (.binding kind) x y z) :
    z.2.subjects kind = y.2.subjects kind := by
  cases kind with
  | group => exact congrArg Prod.snd (h.before .group (by decide))
  | user => exact congrArg Prod.snd (h.before .user (by decide))
  | serviceAccount => exact congrArg Prod.snd (h.before .serviceAccount (by decide))

/-- The holder that a binding is about, under the ids of `d`. -/
def holderOf (kind : SubjectKind) (d : Resolved) (a : Subject × RoleBinding) : Holder :=
  (kind, (d.roles.get? (roleKey a.2)).getD [], ((d.subjects kind).get? a.1.key).getD [])

theorem holderOf_eq {kind : SubjectKind} {d : Resolved} {a : Subject × RoleBinding} {roleId subjectId : PyStr}
    (hrole : d.roles.get? (roleKey a.2) = some roleId) (hsubject : (d.subjects kind).get? a.1.key = some subjectId) :
    holderOf kind d a = (kind, roleId, subjectId) := by
  rw [holderOf, hrole, hsubject]
  rfl

/-- The holdings are what the plan makes of a binding. -/
def EndsAs (m : ManagementManifest) (snapshot : Snapshot) (r d : Resolved) (kind : SubjectKind)
    (a : Subject × RoleBinding) (l : List RoleAssignment) : Prop :=
  ∃ subjectId, (d.subjects kind).get? a.1.key = some subjectId ∧
    l = [boundAfter r d a.2 subjectId (standing m snapshot a.1 a.2)]

/-- The subject and the role have ids, and what the subject holds of the role is what the plan makes of it. -/
def BoundAt (m : ManagementManifest) (snapshot : Snapshot) (r : Resolved) (y : ApplyState) (u : Subject)
    (b : RoleBinding) : Prop :=
  ∃ roleId subjectId, y.2.roles.get? (roleKey b) = some roleId ∧ (y.2.subjects u.kind).get? u.key = some subjectId ∧
    holdings (u.kind, roleId, subjectId) y.1 = [boundAfter r y.2 b subjectId (standing m snapshot u b)]

theorem Reconciled.role_resolved (h : Reconciled serve m t r ordered y) {b : RoleBinding}
    (hb : roleKey b ∈ m.roles.map RoleSpec.key) : ∃ roleId, y.2.roles.get? (roleKey b) = some roleId := by
  obtain ⟨role, hrole, hkey⟩ := List.mem_map.1 hb
  obtain ⟨o, ho⟩ := h.roles.settled role hrole
  exact ⟨o.id, hkey ▸ ho.resolved⟩

theorem Reconciled.resourceKey_ne (h : Reconciled serve m t r ordered y) {bs : List RoleBinding}
    (hbs : BindingsDeclared m bs) {b : RoleBinding} (hb : b ∈ bs) : resourceKey b ≠ some [] := by
  intro hkey
  obtain ⟨spec, hs, hnil⟩ := List.mem_map.1 (hbs.resource b hb [] hkey)
  exact h.statable.keys spec hs hnil

theorem Reconciled.bindings_of_kind (h : Reconciled serve m t r ordered y) (hone : t.BindsOnce) {kind : SubjectKind}
    {us : List Subject} (hw : SubjectsWritten t.toTenantData y.2 kind us)
    (hstage : (Part.binding kind, us.flatMap (fun u => u.roles.map (planSubjectRole (t.read m) r u))) ∈
      stages m (t.read m) r ordered)
    (hdeclared : ∀ u ∈ us, BindingsDeclared m u.roles) :
    ∀ u ∈ us, ∀ b ∈ u.roles, BoundAt m (t.read m) r y u b := by
  rw [flatMap_pairs] at hstage
  obtain ⟨v, w, hv, hw', hrun⟩ := h.stage hstage
  have hstart : v.1.ofKind kind = t.ofKind kind := hv
  have hend : w.1.ofKind kind = y.1.ofKind kind := hw'
  have hids : ∀ a ∈ us.flatMap (fun u => u.roles.map (Prod.mk u)), ∃ roleId subjectId,
      y.2.roles.get? (roleKey a.2) = some roleId ∧ (y.2.subjects kind).get? a.1.key = some subjectId ∧
      holdings (kind, roleId, subjectId) v.1 = (standing m (t.read m) a.1 a.2).toList := by
    intro a ha
    obtain ⟨hu, hb⟩ := mem_pairs.1 ha
    obtain ⟨roleId, hrole⟩ := h.role_resolved ((hdeclared a.1 hu).role a.2 hb)
    obtain ⟨subjectId, hsubject, hold, hnew⟩ := hw.placed a.1 hu
    have hkind := hw.kinds a.1 hu
    refine ⟨roleId, subjectId, hrole, hsubject, ?_⟩
    rw [holdings_congr hstart, ← hkind]
    exact h.holdings_start hone ((hdeclared a.1 hu).role a.2 hb) hrole hold (hkind ▸ hnew)
  have hnodup : ((us.flatMap (fun u => u.roles.map (Prod.mk u))).map (holderOf kind y.2)).Nodup := by
    refine List.Nodup.map_on ?_ ?_
    · intro a ha a' ha' htarget
      obtain ⟨hu, hb⟩ := mem_pairs.1 ha
      obtain ⟨hu', hb'⟩ := mem_pairs.1 ha'
      obtain ⟨roleId, subjectId, hrole, hsubject, -⟩ := hids a ha
      obtain ⟨roleId', subjectId', hrole', hsubject', -⟩ := hids a' ha'
      simp only [holderOf, hrole, hrole', hsubject, hsubject', Option.getD_some, Prod.mk.injEq, true_and] at htarget
      obtain ⟨rfl, rfl⟩ := htarget
      have hsame := hw.apart a.1 hu a'.1 hu' subjectId hsubject hsubject'
      obtain ⟨role, hspec, hkey⟩ := List.mem_map.1 ((hdeclared a.1 hu).role a.2 hb)
      obtain ⟨role', hspec', hkey'⟩ := List.mem_map.1 ((hdeclared a'.1 hu').role a'.2 hb')
      rw [← hkey] at hrole
      rw [← hkey'] at hrole'
      have hroles := h.roles.eq_of_get? hspec hspec' hrole hrole'
      refine Prod.ext hsame (List.inj_on_of_nodup_map (hdeclared a.1 hu).distinct hb (hsame ▸ hb') ?_)
      rw [← hkey, ← hkey', hroles]
    · rw [List.nodup_flatMap]
      refine ⟨fun u hu => ?_, ?_⟩
      · exact ((hdeclared u hu).distinct.of_map).map fun _ _ he => (Prod.mk.inj he).2
      · refine hw.nodup.imp fun {u u'} hne a ha ha' => hne ?_
        obtain ⟨b, -, rfl⟩ := List.mem_map.1 ha
        obtain ⟨b', -, he⟩ := List.mem_map.1 ha'
        exact (Prod.mk.inj he).1.symm
  have hstep : ∀ z a z', a ∈ us.flatMap (fun u => u.roles.map (Prod.mk u)) → True →
      holdings (holderOf kind y.2 a) z.1 = (standing m (t.read m) a.1 a.2).toList →
      guarded (Moves serve) (fun z _ => Within (.binding kind) (t.toTenantData, r) y z) z
        (planSubjectRole (t.read m) r a.1 a.2) z' → True ∧ True ∧
      EndsAs m (t.read m) r y.2 kind a (holdings (holderOf kind y.2 a) z'.1) ∧
      ∀ k, k ≠ holderOf kind y.2 a → holdings k z'.1 = holdings k z.1 := by
    rintro z a z' ha - hview ⟨hz, hwithin⟩
    obtain ⟨hu, hb⟩ := mem_pairs.1 ha
    obtain ⟨roleId, subjectId, hrole, hsubject, -⟩ := hids a ha
    rw [holderOf_eq hrole hsubject] at hview ⊢
    have hroles : z.2.roles = y.2.roles := congrArg Prod.snd (hwithin.before .role (by cases kind <;> decide))
    have hresources : z.2.resources = y.2.resources :=
      congrArg Prod.snd (hwithin.before .resource (by cases kind <;> decide))
    obtain rfl := hw.kinds a.1 hu
    have hmoves := subjectRole_moves h.exact h.wellFormed h.resolution ((hdeclared a.1 hu).role a.2 hb)
      (h.resourceKey_ne (hdeclared a.1 hu) hb) (hroles ▸ hrole) (hwithin.subjects ▸ hsubject) hview hz
    rw [boundAfter_congr hresources] at hmoves
    exact ⟨trivial, trivial, ⟨subjectId, hsubject, hmoves.1⟩, hmoves.2⟩
  have hbefore : ∀ a ∈ us.flatMap (fun u => u.roles.map (Prod.mk u)),
      holdings (holderOf kind y.2 a) v.1 = (standing m (t.read m) a.1 a.2).toList := by
    intro a ha
    obtain ⟨roleId, subjectId, hrole, hsubject, hholdings⟩ := hids a ha
    rw [holderOf_eq hrole hsubject]
    exact hholdings
  have hdone := (Run.targets_run (I := fun _ => True) (P := fun _ _ => True) (fun k (z : ApplyState) => holdings k z.1)
    (holderOf kind y.2) (fun a => (standing m (t.read m) a.1 a.2).toList) (EndsAs m (t.read m) r y.2 kind)
    hstep trivial hbefore hnodup hrun).2.1
  intro u hu b hb
  have ha : (u, b) ∈ us.flatMap (fun u => u.roles.map (Prod.mk u)) := mem_pairs.2 ⟨hu, hb⟩
  obtain ⟨roleId, subjectId, hrole, hsubject, -⟩ := hids (u, b) ha
  obtain ⟨subjectId', hsubject', hlast⟩ := hdone (u, b) ha
  obtain rfl : subjectId = subjectId' := Option.some.inj (hsubject.symm.trans hsubject')
  rw [holderOf_eq hrole hsubject, holdings_congr hend] at hlast
  have hkind := hw.kinds u hu
  exact ⟨roleId, subjectId, hrole, hkind ▸ hsubject, hkind ▸ hlast⟩

/-- **The bindings**: of each role that it binds a subject holds what the plan makes of the binding. -/
theorem Reconciled.bindings (h : Reconciled serve m t r ordered y) (hone : t.BindsOnce) :
    ∀ u ∈ subjects m (t.read m), ∀ b ∈ u.roles, BoundAt m (t.read m) r y u b := by
  have hdeclared : ∀ us, us ⊆ subjects m (t.read m) → ∀ u ∈ us, BindingsDeclared m u.roles :=
    fun us hus u hu => subjects_declared h.wellFormed (hus hu)
  have hgroups := h.bindings_of_kind hone h.group_subjects
    (by simp only [List.flatMap_map]; simp [stages, groupSubject])
    (hdeclared _ fun u hu => List.mem_append_left _ (List.mem_append_left _ hu))
  have husers := h.bindings_of_kind hone h.user_subjects
    (by simp only [List.flatMap_map]; simp [stages, userSubject])
    (hdeclared _ fun u hu => List.mem_append_left _ (List.mem_append_right _ hu))
  have haccounts := h.bindings_of_kind hone h.account_subjects
    (by simp only [List.flatMap_map]; simp [stages, accountSubject])
    (hdeclared _ fun u hu => List.mem_append_right _ hu)
  intro u hu
  rw [subjects, List.mem_append, List.mem_append] at hu
  obtain (hu | hu) | hu := hu
  · exact hgroups u hu
  · exact husers u hu
  · exact haccounts u hu

end Written

end AxiamSdk.Manifest
