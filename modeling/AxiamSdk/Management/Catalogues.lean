import AxiamSdk.Lib.Catalogue
import AxiamSdk.Management.Converged
import AxiamSdk.Management.Stages

/-! # The objects that an apply leaves

Resources, permissions, roles, groups, users and service accounts are catalogues: the stage that writes one
leaves every spec with its object.

* `flat`: objects that are told apart by a name alone.
* `resource_step`, `permission_step`, ..: a planned step is a step of its catalogue.
* `ResourcePost`, `RolePost`, `SubjectPost`: what holds of an object afterwards. -/

namespace AxiamSdk.Manifest
open PyLib
set_option autoImplicit false

/-! ## Objects without parents -/

section Flat
variable {Spec Obj : Type} {key name : Spec → PyStr} {id nameOf : Obj → PyStr}
  {post : Spec → Option Obj → Obj → Prop} {l : List Obj} {d : Dict PyStr PyStr} {s : Spec}

def flat (key name : Spec → PyStr) (id nameOf : Obj → PyStr) : Naming Spec Obj PyStr PyStr PyStr where
  key := key
  parent _ := none
  name := name
  id := id
  parentId _ := none
  nameOf := nameOf

theorem find_flat (d : Dict PyStr PyStr) (l : List Obj) (s : Spec) :
    (flat key name id nameOf).find d l s = l.find? (fun o => nameOf o = name s) := by
  rw [Naming.find]
  congr 1
  funext o
  simp [Naming.Matches, Naming.parentOf, flat]

theorem flat_start {found : Spec → Option Obj} {specs : List Spec} (hids : AreIds (l.map id))
    (hfound : ∀ s ∈ specs, found s = l.find? (fun o => nameOf o = name s))
    (hget : ∀ s ∈ specs, d.get? (key s) = (found s).map id) :
    (flat key name id nameOf).Start found specs (l, d) where
  ids := (List.nodup_cons.1 hids).2
  unchanged := hget
  ready s hs _ := (find_flat d l s).trans (hfound s hs).symm
  pending s hs h := absurd (fun p hp => by cases hp) h

theorem flat_ordered {specs : List Spec} (hkeys : (specs.map key).Nodup) (hnames : (specs.map name).Nodup) :
    (flat key name id nameOf).Ordered specs where
  keys := hkeys
  natural := by
    refine List.Nodup.of_map Prod.snd ?_
    rw [List.map_map]
    exact hnames
  first pre s post _ p hp := by cases hp

theorem flat_settled {found : Spec → Option Obj} {specs : List Spec}
    (h : (flat key name id nameOf).Inv post found specs [] (l, d)) (hs : s ∈ specs) : ∃ o ∈ l,
      l.find? (fun o => nameOf o = name s) = some o ∧ nameOf o = name s ∧ d.get? (key s) = some (id o) ∧
        post s (found s) o ∧ ∀ e, found s = some e → id o = id e := by
  obtain ⟨o, ho⟩ := h.settled s hs
  obtain ⟨hmem, hname, -⟩ := Naming.find_some ho.find
  exact ⟨o, hmem, (find_flat d l s).symm.trans ho.find, hname, ho.resolved, ho.post, ho.id⟩

theorem flat_create {o : Obj} {ids : List PyStr} (hname : nameOf o = name s) (hids : ∀ a ∈ l, id a ∈ ids)
    (hfresh : id o ∉ ids) (hpost : post s none o) :
    (flat key name id nameOf).Step post s none (l, d) (l ++ [o], d.set (key s) (id o)) := by
  refine Naming.Step.create ⟨hname, rfl⟩ ?_ ?_ hpost
  · intro hmem
    obtain ⟨a, ha, he⟩ := List.mem_map.1 hmem
    have hid : id a = id o := he
    exact hfresh (hid ▸ hids a ha)
  · intro a _ h
    cases h

theorem flat_change {e : Obj} {i : PyStr} {f : Obj → Obj} (hi : d.get? (key s) = some i)
    (hid : ∀ o, id (f o) = id o) (hname : ∀ o, nameOf (f o) = nameOf o) (hpost : post s (some e) (f e)) :
    (flat key name id nameOf).Step post s (some e) (l, d) (updateAt id i f l, d) :=
  Naming.Step.change hi ⟨hid, hname, fun _ => rfl⟩ hpost

end Flat

/-! ## Ids that occur -/

section Ids
variable {t : TenantData}

theorem ne_nil_of_fresh {i : PyStr} (h : i ∉ t.ids) : i ≠ [] := by
  rintro rfl
  exact h (by simp [TenantData.ids])

theorem mem_ids_resource {e : Resource} (h : e ∈ t.resources) : e.id ∈ t.ids := by
  have hmem : e.id ∈ t.resources.flatMap (fun e => e.id :: e.parentId.toList) :=
    List.mem_flatMap.2 ⟨e, h, by simp⟩
  simp only [TenantData.ids, List.mem_append, List.mem_cons, hmem, true_or, or_true]

theorem mem_ids_parent {e : Resource} {i : PyStr} (h : e ∈ t.resources) (hi : e.parentId = some i) : i ∈ t.ids := by
  have hmem : i ∈ t.resources.flatMap (fun e => e.id :: e.parentId.toList) :=
    List.mem_flatMap.2 ⟨e, h, by simp [hi]⟩
  simp only [TenantData.ids, List.mem_append, List.mem_cons, hmem, true_or, or_true]

theorem mem_ids_permission {e : Permission} (h : e ∈ t.permissions) : e.id ∈ t.ids := by
  have hmem : e.id ∈ t.permissions.map Permission.id := List.mem_map_of_mem h
  simp only [TenantData.ids, List.mem_append, hmem, true_or, or_true]

theorem mem_ids_role {e : Role} (h : e ∈ t.roles) : e.id ∈ t.ids := by
  have hmem : e.id ∈ t.roles.map Role.id := List.mem_map_of_mem h
  simp only [TenantData.ids, List.mem_append, hmem, true_or, or_true]

theorem mem_ids_group {e : Group} (h : e ∈ t.groups) : e.id ∈ t.ids := by
  have hmem : e.id ∈ t.groups.map Group.id := List.mem_map_of_mem h
  simp only [TenantData.ids, List.mem_append, hmem, true_or, or_true]

theorem mem_ids_user {e : User} (h : e ∈ t.users) : e.id ∈ t.ids := by
  have hmem : e.id ∈ t.users.map User.id := List.mem_map_of_mem h
  simp only [TenantData.ids, List.mem_append, hmem, true_or, or_true]

theorem mem_ids_serviceAccount {e : ServiceAccount} (h : e ∈ t.serviceAccounts) : e.id ∈ t.ids := by
  have hmem : e.id ∈ t.serviceAccounts.map ServiceAccount.id := List.mem_map_of_mem h
  simp only [TenantData.ids, List.mem_append, hmem, true_or, or_true]

theorem mem_ids_binding {row : (SubjectKind × PyStr) × RoleAssignment} (h : row ∈ t.bindingTable) :
    row.1.2 ∈ t.ids ∧ row.2.subjectId ∈ t.ids := by
  have hmem : ∀ i, i = row.1.2 ∨ i = row.2.subjectId →
      i ∈ t.bindingTable.flatMap (fun row => row.1.2 :: row.2.subjectId :: row.2.resourceId.toList) :=
    fun i hi => List.mem_flatMap.2 ⟨row, h, by simp only [List.mem_cons]; tauto⟩
  have hrole := hmem row.1.2 (.inl rfl)
  have hsubject := hmem row.2.subjectId (.inr rfl)
  simp only [TenantData.ids, List.mem_append, hrole, hsubject, true_or, or_true, and_self]

end Ids

/-! ## Afterwards -/

def ResourcePost (spec : ResourceSpec) (found : Option Resource) (e : Resource) : Prop :=
  e.resourceType = spec.resourceType ∧ metadataDiffers e.metadata spec.metadata = false ∧ (found = none → e.id ≠ [])

def PermissionPost (p : PermissionSpec) (_ : Option Permission) (e : Permission) : Prop :=
  e.description = p.description

/-- In `x` no binding is one of a role created since. -/
def RolePost (x : ApplyState) (role : RoleSpec) (found : Option Role) (e : Role) : Prop :=
  e.description = role.description ∧ e.isGlobal = role.isGlobal ∧
    (found = none → e.id ≠ [] ∧ ∀ kind, ∀ row ∈ x.1.ofKind kind, row.1.2 ≠ e.id)

/-- In `x` the subject has no binding. -/
def Unbound (x : ApplyState) (kind : SubjectKind) (id : PyStr) : Prop :=
  ∀ row ∈ x.1.ofKind kind, row.2.subjectId ≠ id

def GroupPost (x : ApplyState) (g : GroupSpec) (found : Option Group) (e : Group) : Prop :=
  e.description = g.description ∧ (found = none → e.id ≠ [] ∧ Unbound x .group e.id)

def UserPost (x : ApplyState) (u : UserSpec) (found : Option User) (e : User) : Prop :=
  e.email = u.email ∧ (found = none → Unbound x .user e.id)

def AccountPost (x : ApplyState) (s : ServiceAccountSpec) (found : Option ServiceAccount) (e : ServiceAccount) :
    Prop :=
  e.description = s.description ∧ (found = none → Unbound x .serviceAccount e.id)

/-! ## One planned step -/

section Steps
variable {serve : Server TenantData} {x y z z' : ApplyState}

def resourceNaming : Naming ResourceSpec Resource PyStr PyStr PyStr where
  key := ResourceSpec.key
  parent := ResourceSpec.parent
  name := ResourceSpec.name
  id := Resource.id
  parentId := Resource.parentId
  nameOf := Resource.name

abbrev permissionNaming := flat PermissionSpec.key PermissionSpec.action Permission.id Permission.action
abbrev roleNaming := flat RoleSpec.key RoleSpec.name Role.id Role.name
abbrev groupNaming := flat GroupSpec.key GroupSpec.name Group.id Group.name
abbrev userNaming := flat UserSpec.key UserSpec.username User.id User.username
abbrev accountNaming := flat ServiceAccountSpec.key ServiceAccountSpec.name ServiceAccount.id ServiceAccount.name

theorem truthy_parent {parent : Option PyStr} (h : parent ≠ some []) : truthy? parent = parent := by
  obtain _ | _ | ⟨c, cs⟩ := parent
  · rfl
  · exact absurd rfl h
  · rfl

theorem ofKind_mem {k : Part} {kind : SubjectKind} (hz : Within k x y z) (hk : k.stage < (Part.binding kind).stage)
    {row : (SubjectKind × PyStr) × RoleAssignment} (hrow : row ∈ x.1.ofKind kind) : row ∈ z.1.bindingTable := by
  have hsame : z.1.ofKind kind = x.1.ofKind kind := hz.after (.binding kind) hk
  rw [← hsame] at hrow
  exact List.mem_of_mem_filter hrow

theorem unbound_of_fresh {k : Part} {kind : SubjectKind} {i : PyStr} (hz : Within k x y z)
    (hk : k.stage < (Part.binding kind).stage) (hfresh : i ∉ z.1.ids) : Unbound x kind i := by
  intro row hrow he
  exact hfresh (he ▸ (mem_ids_binding (ofKind_mem hz hk hrow)).2)

theorem resource_step (hserve : Exact serve) {spec : ResourceSpec} (hparent : spec.parent ≠ some [])
    (hmeta : ∀ s, spec.metadata = some s → (Json.obj s).pyEq (.obj s) = true) {found : Option Resource}
    (h : Moves serve z (planResource spec.key spec found) z') :
    resourceNaming.Step ResourcePost spec found (z.1.resources, z.2.resources) (z'.1.resources, z'.2.resources) := by
  have hstated : ∀ v, metadataDiffers ((spec.metadata.map Json.obj).getD v) spec.metadata = false := by
    intro v
    cases hs : spec.metadata with
    | none => rfl
    | some s =>
      show (!(Json.obj s).pyEq (.obj s)) = false
      rw [hmeta s hs]
      rfl
  cases found with
  | none =>
    obtain ⟨c, hfresh, hstate, hresolved⟩ := hserve.performed h rfl
    rw [hstate, hresolved]
    refine Naming.Step.create ⟨rfl, ?_⟩ ?_ ?_ ⟨rfl, hstated c.metadata, fun _ => ne_nil_of_fresh hfresh⟩
    · show (truthy? spec.parent).bind z.2.resources.get? = spec.parent.bind z.2.resources.get?
      rw [truthy_parent hparent]
    · intro hmem
      obtain ⟨a, ha, he⟩ := List.mem_map.1 hmem
      have hid : a.id = c.id := he
      exact hfresh (hid ▸ mem_ids_resource ha)
    · intro a ha he
      exact hfresh (mem_ids_parent ha he)
  | some e =>
    obtain ⟨rt, hrt, htype⟩ : ∃ rt, (if e.resourceType ≠ spec.resourceType then some spec.resourceType else none) = rt ∧
        rt.getD e.resourceType = spec.resourceType := by
      refine ⟨_, rfl, ?_⟩
      split
      · rfl
      · next h => exact not_not.1 h
    obtain ⟨md, hmd, hmetadata⟩ :
        ∃ md, (if metadataDiffers e.metadata spec.metadata then spec.metadata else none) = md ∧
        metadataDiffers ((md.map Json.obj).getD e.metadata) spec.metadata = false := by
      refine ⟨_, rfl, ?_⟩
      split
      · exact hstated e.metadata
      · next h => exact Bool.eq_false_of_not_eq_true h
    rw [planResource, hrt, hmd] at h
    split at h
    · obtain ⟨call, record, c, hrequest, -, hstate, hresolved⟩ := hserve.moves h rfl (fun _ _ hp => by cases hp)
      obtain ⟨i, hi, hrequest⟩ := bind_ok hrequest
      cases hrequest
      rw [hstate, hresolved]
      exact Naming.Step.change (f := Resource.updated rt md) (lookup_ok hi)
        ⟨fun _ => rfl, fun _ => rfl, fun _ => rfl⟩ ⟨htype, hmetadata, fun hn => by cases hn⟩
    · next hno =>
      obtain ⟨rfl, rfl⟩ : rt = none ∧ md = none := by simpa using hno
      rw [moves_noop h rfl]
      exact Naming.Step.keep ⟨htype, hmetadata, fun hn => by cases hn⟩

theorem permission_step (hserve : Exact serve) {p : PermissionSpec} {found : Option Permission}
    (h : Moves serve z (planPermission p found) z') :
    permissionNaming.Step PermissionPost p found (z.1.permissions, z.2.permissions)
      (z'.1.permissions, z'.2.permissions) := by
  cases found with
  | none =>
    obtain ⟨c, hfresh, hstate, hresolved⟩ := hserve.performed h rfl
    rw [hstate, hresolved]
    exact flat_create rfl (fun _ => mem_ids_permission) hfresh rfl
  | some e =>
    rw [planPermission] at h
    split at h
    · obtain ⟨call, record, c, hrequest, -, hstate, hresolved⟩ := hserve.moves h rfl (fun _ _ hp => by cases hp)
      obtain ⟨i, hi, hrequest⟩ := bind_ok hrequest
      cases hrequest
      rw [hstate, hresolved]
      exact flat_change (lookup_ok hi) (fun _ => rfl) (fun _ => rfl) rfl
    · next hsame =>
      rw [moves_noop h rfl]
      exact Naming.Step.keep (not_not.1 hsame)

theorem role_step (hserve : Exact serve) (hz : Within .role x y z) {role : RoleSpec} {found : Option Role}
    (h : Moves serve z (planRole role found) z') :
    roleNaming.Step (RolePost x) role found (z.1.roles, z.2.roles) (z'.1.roles, z'.2.roles) := by
  cases found with
  | none =>
    obtain ⟨c, hfresh, hstate, hresolved⟩ := hserve.performed h rfl
    rw [hstate, hresolved]
    refine flat_create rfl (fun _ => mem_ids_role) hfresh ⟨rfl, rfl, fun _ => ⟨ne_nil_of_fresh hfresh, ?_⟩⟩
    intro kind row hrow he
    have hstage : Part.stage .role < (Part.binding kind).stage := by cases kind <;> decide
    have hid : row.1.2 = c.id := he
    exact hfresh (hid ▸ (mem_ids_binding (ofKind_mem hz hstage hrow)).1)
  | some e =>
    rw [planRole] at h
    split at h
    · obtain ⟨call, record, c, hrequest, -, hstate, hresolved⟩ := hserve.moves h rfl (fun _ _ hp => by cases hp)
      obtain ⟨i, hi, hrequest⟩ := bind_ok hrequest
      cases hrequest
      rw [hstate, hresolved]
      exact flat_change (lookup_ok hi) (fun _ => rfl) (fun _ => rfl) ⟨rfl, rfl, fun hn => by cases hn⟩
    · next hsame =>
      rw [not_or, not_not, not_not] at hsame
      rw [moves_noop h rfl]
      exact Naming.Step.keep ⟨hsame.1, hsame.2, fun hn => by cases hn⟩

theorem group_step (hserve : Exact serve) (hz : Within .group x y z) {g : GroupSpec} {found : Option Group}
    (h : Moves serve z (planGroup g found) z') :
    groupNaming.Step (GroupPost x) g found (z.1.groups, z.2.groups) (z'.1.groups, z'.2.groups) := by
  cases found with
  | none =>
    obtain ⟨c, hfresh, hstate, hresolved⟩ := hserve.performed h rfl
    rw [hstate, hresolved]
    exact flat_create rfl (fun _ => mem_ids_group) hfresh
      ⟨rfl, fun _ => ⟨ne_nil_of_fresh hfresh, unbound_of_fresh hz (by decide) hfresh⟩⟩
  | some e =>
    rw [planGroup] at h
    split at h
    · obtain ⟨call, record, c, hrequest, -, hstate, hresolved⟩ := hserve.moves h rfl (fun _ _ hp => by cases hp)
      obtain ⟨i, hi, hrequest⟩ := bind_ok hrequest
      cases hrequest
      rw [hstate, hresolved]
      exact flat_change (lookup_ok hi) (fun _ => rfl) (fun _ => rfl) ⟨rfl, fun hn => by cases hn⟩
    · next hsame =>
      rw [moves_noop h rfl]
      exact Naming.Step.keep ⟨not_not.1 hsame, fun hn => by cases hn⟩

theorem user_step (hserve : Exact serve) (hz : Within .user x y z) {u : UserSpec} {found : Option User}
    (h : Moves serve z (planUser u found) z') :
    userNaming.Step (UserPost x) u found (z.1.users, z.2.users) (z'.1.users, z'.2.users) := by
  cases found with
  | none =>
    obtain ⟨c, hfresh, hstate, hresolved⟩ := hserve.performed h rfl
    rw [hstate, hresolved]
    exact flat_create rfl (fun _ => mem_ids_user) hfresh
      ⟨rfl, fun _ => unbound_of_fresh hz (by decide) hfresh⟩
  | some e =>
    rw [planUser] at h
    split at h
    · obtain ⟨call, record, c, hrequest, -, hstate, hresolved⟩ := hserve.moves h rfl (fun _ _ hp => by cases hp)
      obtain ⟨i, hi, hrequest⟩ := bind_ok hrequest
      cases hrequest
      rw [hstate, hresolved]
      exact flat_change (lookup_ok hi) (fun _ => rfl) (fun _ => rfl) ⟨rfl, fun hn => by cases hn⟩
    · next hsame =>
      rw [moves_noop h rfl]
      exact Naming.Step.keep ⟨not_not.1 hsame, fun hn => by cases hn⟩

theorem account_step (hserve : Exact serve) (hz : Within .serviceAccount x y z) {s : ServiceAccountSpec}
    {found : Option ServiceAccount} (h : Moves serve z (planUniqueAccount s found) z') :
    accountNaming.Step (AccountPost x) s found (z.1.serviceAccounts, z.2.serviceAccounts)
      (z'.1.serviceAccounts, z'.2.serviceAccounts) := by
  cases found with
  | none =>
    obtain ⟨c, hfresh, hstate, hresolved⟩ := hserve.performed h rfl
    rw [hstate, hresolved]
    exact flat_create rfl (fun _ => mem_ids_serviceAccount) hfresh
      ⟨rfl, fun _ => unbound_of_fresh hz (by decide) hfresh⟩
  | some e =>
    rw [planUniqueAccount] at h
    split at h
    · obtain ⟨call, record, c, hrequest, -, hstate, hresolved⟩ := hserve.moves h rfl (fun _ _ hp => by cases hp)
      obtain ⟨i, hi, hrequest⟩ := bind_ok hrequest
      cases hrequest
      rw [hstate, hresolved]
      exact flat_change (lookup_ok hi) (fun _ => rfl) (fun _ => rfl) ⟨rfl, fun hn => by cases hn⟩
    · next hsame =>
      rw [moves_noop h rfl]
      exact Naming.Step.keep ⟨not_not.1 hsame, fun hn => by cases hn⟩

end Steps

end AxiamSdk.Manifest
