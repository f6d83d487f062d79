import AxiamSdk.Lib.Dict
import AxiamSdk.Management.Plan
import Mathlib.Data.List.Induction

/-! # Declared manifests (`management/manifest/_declarative.py`)

* `decorated`: the buckets of the classes after decorators were applied, in whatever order.
* `collectManifest`: the loop over the classes, and the validation of what it assembles.
* `assembled`: what the applications declare; `collectManifest_iff`: that is what is collected. -/

namespace AxiamSdk.Manifest
open PyLib
set_option autoImplicit false

/-! ## The decorators -/

/-- What a decorator records: `axiam_resource`, `axiam_scope`, and so on. -/
inductive Declaration
  | resource (spec : ResourceSpec)
  | scope (spec : ScopeSpec)
  | permission (spec : PermissionSpec)
  | role (spec : RoleSpec)
  | grant (spec : GrantSpec)
  | group (spec : GroupSpec)
  | user (spec : UserSpec)
  | serviceAccount (spec : ServiceAccountSpec)

namespace Declaration

def resource? : Declaration → Option ResourceSpec
  | .resource spec => some spec
  | _ => none

def scope? : Declaration → Option ScopeSpec
  | .scope spec => some spec
  | _ => none

def permission? : Declaration → Option PermissionSpec
  | .permission spec => some spec
  | _ => none

def role? : Declaration → Option RoleSpec
  | .role spec => some spec
  | _ => none

def grant? : Declaration → Option GrantSpec
  | .grant spec => some spec
  | _ => none

def group? : Declaration → Option GroupSpec
  | .group spec => some spec
  | _ => none

def user? : Declaration → Option UserSpec
  | .user spec => some spec
  | _ => none

def serviceAccount? : Declaration → Option ServiceAccountSpec
  | .serviceAccount spec => some spec
  | _ => none

end Declaration

/-- `_Bucket` -/
structure Bucket where
  resource : Option ResourceSpec
  scopes : List ScopeSpec
  permissions : List PermissionSpec
  role : Option RoleSpec
  grants : List GrantSpec
  group : Option GroupSpec
  user : Option UserSpec
  serviceAccount : Option ServiceAccountSpec

namespace Bucket

def new : Bucket := ⟨none, [], [], none, [], none, none, none⟩

/-- `apply` of a decorator. -/
def record (b : Bucket) : Declaration → Bucket
  | .resource spec => { b with resource := some spec }
  | .scope spec => { b with scopes := b.scopes ++ [spec] }
  | .permission spec => { b with permissions := b.permissions ++ [spec] }
  | .role spec => { b with role := some spec }
  | .grant spec => { b with grants := b.grants ++ [spec] }
  | .group spec => { b with group := some spec }
  | .user spec => { b with user := some spec }
  | .serviceAccount spec => { b with serviceAccount := some spec }

/-- The resource with the scopes of its class beneath it. -/
def wholeResource (b : Bucket) : Option ResourceSpec :=
  b.resource.map fun resource => { resource with scopes := resource.scopes ++ b.scopes }

/-- The role with the grants of its class. -/
def wholeRole (b : Bucket) : Option RoleSpec :=
  b.role.map fun role => { role with grants := role.grants ++ b.grants }

end Bucket

section Classes
variable {C : Type} [DecidableEq C]

/-- `_bucket`, and a decorator on it: the bucket is that of the class's own `__dict__`. -/
def decorate (buckets : Dict C Bucket) (e : C × Declaration) : Dict C Bucket :=
  buckets.set e.1 (((buckets.get? e.1).getD .new).record e.2)

/-- The buckets after decorators were applied to classes, in this order. -/
def decorated (es : List (C × Declaration)) : Dict C Bucket := es.foldl decorate .empty

/-! ## The collection -/

/-- What `collect_manifest` raises: a `TypeError` about a class, or the `NetworkError` of the validation. -/
inductive CollectError (C : Type)
  | nothing (cls : C)
  | scopes (cls : C)
  | grants (cls : C)
  | notReconcilable (problems : List Problem)

def emptyManifest : ManagementManifest := ⟨[], [], [], [], [], [], none⟩

/-- What a class adds. -/
def ManagementManifest.extend (m : ManagementManifest) (b : Bucket) : ManagementManifest where
  resources := m.resources ++ b.wholeResource.toList
  permissions := m.permissions ++ b.permissions
  roles := m.roles ++ b.wholeRole.toList
  groups := m.groups ++ b.group.toList
  users := m.users ++ b.user.toList
  serviceAccounts := m.serviceAccounts ++ b.serviceAccount.toList
  network := m.network

/-- The loop of `collect_manifest`. -/
def collectInto (buckets : Dict C Bucket) : List C → ManagementManifest → Except (CollectError C) ManagementManifest
  | [], m => .ok m
  | cls :: rest, m =>
    match buckets.get? cls with
    | none => .error (.nothing cls)
    | some b =>
      if !b.scopes.isEmpty && b.resource.isNone then .error (.scopes cls)
      else if !b.grants.isEmpty && b.role.isNone then .error (.grants cls)
      else collectInto buckets rest (m.extend b)

/-- `define_manifest` -/
def defineManifest (m : ManagementManifest) : Except (CollectError C) ManagementManifest :=
  if problems m = [] then .ok m else .error (.notReconcilable (problems m))

/-- `collect_manifest` -/
def collectManifest (buckets : Dict C Bucket) (classes : List C) : Except (CollectError C) ManagementManifest :=
  collectInto buckets classes emptyManifest >>= defineManifest

/-! ## What is declared -/

/-- What was declared on a class, in its order. -/
def declared (es : List (C × Declaration)) (cls : C) : List Declaration :=
  (es.filter fun e => e.1 = cls).map Prod.snd

/-- Of the kinds of which a class has one, the last counts; of the others all do. -/
def bucketOf (ds : List Declaration) : Bucket where
  resource := (ds.filterMap Declaration.resource?).getLast?
  scopes := ds.filterMap Declaration.scope?
  permissions := ds.filterMap Declaration.permission?
  role := (ds.filterMap Declaration.role?).getLast?
  grants := ds.filterMap Declaration.grant?
  group := (ds.filterMap Declaration.group?).getLast?
  user := (ds.filterMap Declaration.user?).getLast?
  serviceAccount := (ds.filterMap Declaration.serviceAccount?).getLast?

/-- Something is declared; scopes come with a resource, and grants with a role. -/
structure WellPlaced (ds : List Declaration) : Prop where
  something : ds ≠ []
  scopes : ds.filterMap Declaration.scope? ≠ [] → ds.filterMap Declaration.resource? ≠ []
  grants : ds.filterMap Declaration.grant? ≠ [] → ds.filterMap Declaration.role? ≠ []

/-- Of each kind the same, in the same order. -/
structure SameByKind (ds ds' : List Declaration) : Prop where
  resource : ds.filterMap Declaration.resource? = ds'.filterMap Declaration.resource?
  scope : ds.filterMap Declaration.scope? = ds'.filterMap Declaration.scope?
  permission : ds.filterMap Declaration.permission? = ds'.filterMap Declaration.permission?
  role : ds.filterMap Declaration.role? = ds'.filterMap Declaration.role?
  grant : ds.filterMap Declaration.grant? = ds'.filterMap Declaration.grant?
  group : ds.filterMap Declaration.group? = ds'.filterMap Declaration.group?
  user : ds.filterMap Declaration.user? = ds'.filterMap Declaration.user?
  serviceAccount : ds.filterMap Declaration.serviceAccount? = ds'.filterMap Declaration.serviceAccount?

/-- The class that a `TypeError` is about. -/
def CollectError.about : CollectError C → Option C
  | .nothing cls | .scopes cls | .grants cls => some cls
  | .notReconcilable _ => none

/-- The manifest that the applications declare on the classes, class by class. -/
def assembled (es : List (C × Declaration)) (classes : List C) : ManagementManifest where
  resources := classes.flatMap fun cls => (bucketOf (declared es cls)).wholeResource.toList
  permissions := classes.flatMap fun cls => (bucketOf (declared es cls)).permissions
  roles := classes.flatMap fun cls => (bucketOf (declared es cls)).wholeRole.toList
  groups := classes.flatMap fun cls => (bucketOf (declared es cls)).group.toList
  users := classes.flatMap fun cls => (bucketOf (declared es cls)).user.toList
  serviceAccounts := classes.flatMap fun cls => (bucketOf (declared es cls)).serviceAccount.toList
  network := none

/-! ## What is recorded -/

theorem bucketOf_snoc (ds : List Declaration) (d : Declaration) :
    bucketOf (ds ++ [d]) = (bucketOf ds).record d := by
  cases d <;> simp [bucketOf, Bucket.record, List.filterMap_append, Declaration.resource?, Declaration.scope?,
    Declaration.permission?, Declaration.role?, Declaration.grant?, Declaration.group?, Declaration.user?,
    Declaration.serviceAccount?]

theorem declared_snoc (es : List (C × Declaration)) (e : C × Declaration) (cls : C) :
    declared (es ++ [e]) cls = if e.1 = cls then declared es cls ++ [e.2] else declared es cls := by
  unfold declared
  by_cases h : e.1 = cls
  · simp [List.filter_append, h]
  · simp [List.filter_append, h]

/-- **The buckets**: of the applications in between only those on the class itself count. -/
theorem decorated_get? (es : List (C × Declaration)) (cls : C) : (decorated es).get? cls =
    if declared es cls = [] then none else some (bucketOf (declared es cls)) := by
  unfold decorated
  induction es using List.reverseRecOn with
  | nil => rfl
  | append_singleton es e ih =>
    rw [List.foldl_append, List.foldl_cons, List.foldl_nil, decorate, Dict.get?_set, declared_snoc]
    by_cases h : e.1 = cls
    · subst h
      rw [if_pos rfl, if_pos rfl, if_neg (by simp), bucketOf_snoc, ih]
      by_cases hnil : declared es e.1 = []
      · rw [if_pos hnil, hnil]
        rfl
      · rw [if_neg hnil]
        rfl
    · rw [if_neg h, if_neg h]
      exact ih

theorem SameByKind.symm {ds ds' : List Declaration} (h : SameByKind ds ds') : SameByKind ds' ds :=
  ⟨h.resource.symm, h.scope.symm, h.permission.symm, h.role.symm, h.grant.symm, h.group.symm, h.user.symm,
    h.serviceAccount.symm⟩

theorem SameByKind.nil {ds : List Declaration} (h : SameByKind [] ds) : ds = [] := by
  obtain ⟨hresource, hscope, hpermission, hrole, hgrant, hgroup, huser, haccount⟩ := h
  cases ds with
  | nil => rfl
  | cons d ds =>
    cases d with
    | resource spec => simp [Declaration.resource?] at hresource
    | scope spec => simp [Declaration.scope?] at hscope
    | permission spec => simp [Declaration.permission?] at hpermission
    | role spec => simp [Declaration.role?] at hrole
    | grant spec => simp [Declaration.grant?] at hgrant
    | group spec => simp [Declaration.group?] at hgroup
    | user spec => simp [Declaration.user?] at huser
    | serviceAccount spec => simp [Declaration.serviceAccount?] at haccount

theorem SameByKind.bucket {ds ds' : List Declaration} (h : SameByKind ds ds') : bucketOf ds = bucketOf ds' := by
  unfold bucketOf
  rw [h.resource, h.scope, h.permission, h.role, h.grant, h.group, h.user, h.serviceAccount]

/-- Applications that differ in nothing but the order of kinds and of classes leave the same bucket. -/
theorem decorated_same {es es' : List (C × Declaration)} {cls : C}
    (h : SameByKind (declared es cls) (declared es' cls)) :
    (decorated es).get? cls = (decorated es').get? cls := by
  have hnil : declared es cls = [] ↔ declared es' cls = [] := by
    constructor
    · intro hnil
      rw [hnil] at h
      exact h.nil
    · intro hnil
      rw [hnil] at h
      exact h.symm.nil
  rw [decorated_get?, decorated_get?, h.bucket]
  exact if_congr hnil rfl rfl

/-! ## What is collected -/

def ManagementManifest.join (m m' : ManagementManifest) : ManagementManifest where
  resources := m.resources ++ m'.resources
  permissions := m.permissions ++ m'.permissions
  roles := m.roles ++ m'.roles
  groups := m.groups ++ m'.groups
  users := m.users ++ m'.users
  serviceAccounts := m.serviceAccounts ++ m'.serviceAccounts
  network := m.network

theorem extend_join (m : ManagementManifest) (es : List (C × Declaration)) (cls : C) (classes : List C) :
    (m.extend (bucketOf (declared es cls))).join (assembled es classes) = m.join (assembled es (cls :: classes)) := by
  simp [ManagementManifest.join, ManagementManifest.extend, assembled]

theorem join_empty (es : List (C × Declaration)) (classes : List C) :
    emptyManifest.join (assembled es classes) = assembled es classes := by
  simp [ManagementManifest.join, emptyManifest, assembled]

theorem not_scopes {ds : List Declaration} : (!(bucketOf ds).scopes.isEmpty && (bucketOf ds).resource.isNone) = false ↔
    (ds.filterMap Declaration.scope? ≠ [] → ds.filterMap Declaration.resource? ≠ []) := by
  rw [← Bool.not_eq_true]
  simp only [bucketOf, Bool.and_eq_true, Bool.not_eq_true', List.isEmpty_eq_false_iff, Option.isNone_iff_eq_none,
    List.getLast?_eq_none_iff]
  tauto

theorem not_grants {ds : List Declaration} : (!(bucketOf ds).grants.isEmpty && (bucketOf ds).role.isNone) = false ↔
    (ds.filterMap Declaration.grant? ≠ [] → ds.filterMap Declaration.role? ≠ []) := by
  rw [← Bool.not_eq_true]
  simp only [bucketOf, Bool.and_eq_true, Bool.not_eq_true', List.isEmpty_eq_false_iff, Option.isNone_iff_eq_none,
    List.getLast?_eq_none_iff]
  tauto

/-- One class of the loop: it is refused if what it declares has no place, and else extends the manifest. -/
theorem collectInto_cons (es : List (C × Declaration)) (cls : C) (rest : List C) (m : ManagementManifest) :
    (WellPlaced (declared es cls) ∧ collectInto (decorated es) (cls :: rest) m =
        collectInto (decorated es) rest (m.extend (bucketOf (declared es cls)))) ∨
      (¬ WellPlaced (declared es cls) ∧ ∃ e, collectInto (decorated es) (cls :: rest) m = .error e ∧
        e.about = some cls) := by
  rw [collectInto, decorated_get?]
  by_cases hnil : declared es cls = []
  · rw [if_pos hnil]
    exact .inr ⟨fun h => h.something hnil, _, rfl, rfl⟩
  · rw [if_neg hnil]
    dsimp only
    cases hscopes : !(bucketOf (declared es cls)).scopes.isEmpty && (bucketOf (declared es cls)).resource.isNone with
    | true =>
      refine .inr ⟨?_, _, rfl, rfl⟩
      intro h
      rw [not_scopes.2 h.scopes] at hscopes
      cases hscopes
    | false =>
      cases hgrants : !(bucketOf (declared es cls)).grants.isEmpty && (bucketOf (declared es cls)).role.isNone with
      | true =>
        refine .inr ⟨?_, _, rfl, rfl⟩
        intro h
        rw [not_grants.2 h.grants] at hgrants
        cases hgrants
      | false => exact .inl ⟨⟨hnil, not_scopes.1 hscopes, not_grants.1 hgrants⟩, rfl⟩

/-- The loop ends with all that is declared, or at the first class whose declarations have no place. -/
theorem collectInto_cases (es : List (C × Declaration)) (classes : List C) (m : ManagementManifest) :
    ((∀ cls ∈ classes, WellPlaced (declared es cls)) ∧
        collectInto (decorated es) classes m = .ok (m.join (assembled es classes))) ∨
      ∃ before cls after e, classes = before ++ cls :: after ∧ (∀ c ∈ before, WellPlaced (declared es c)) ∧
        ¬ WellPlaced (declared es cls) ∧ collectInto (decorated es) classes m = .error e ∧ e.about = some cls := by
  induction classes generalizing m with
  | nil =>
    refine .inl ⟨by simp, ?_⟩
    simp [collectInto, ManagementManifest.join, assembled]
  | cons cls rest ih =>
    obtain ⟨hplaced, hstep⟩ | ⟨hnot, e, herror, habout⟩ := collectInto_cons es cls rest m
    · rw [hstep, ← extend_join]
      obtain ⟨hall, hok⟩ | ⟨before, c, after, e, rfl, hbefore, hnot, herror, habout⟩ :=
        ih (m.extend (bucketOf (declared es cls)))
      · exact .inl ⟨List.forall_mem_cons.2 ⟨hplaced, hall⟩, hok⟩
      · exact .inr ⟨cls :: before, c, after, e, rfl, List.forall_mem_cons.2 ⟨hplaced, hbefore⟩, hnot, herror, habout⟩
    · exact .inr ⟨[], cls, rest, e, rfl, by simp, hnot, herror, habout⟩

theorem collectInto_same {buckets buckets' : Dict C Bucket} {classes : List C}
    (h : ∀ cls ∈ classes, buckets.get? cls = buckets'.get? cls) (m : ManagementManifest) :
    collectInto buckets classes m = collectInto buckets' classes m := by
  induction classes generalizing m with
  | nil => rfl
  | cons cls rest ih =>
    obtain ⟨hcls, hrest⟩ := List.forall_mem_cons.1 h
    simp only [collectInto, hcls, ih hrest]

theorem defineManifest_valid {D : Type} {m : ManagementManifest} (h : problems m = []) :
    (defineManifest m : Except (CollectError D) ManagementManifest) = .ok m := if_pos h

theorem defineManifest_invalid {D : Type} {m : ManagementManifest} (h : ¬ problems m = []) :
    (defineManifest m : Except (CollectError D) ManagementManifest) = .error (.notReconcilable (problems m)) := if_neg h

theorem error_ne_ok {ε α : Type} {e : ε} {a : α} : (Except.error e : Except ε α) ≠ .ok a := by
  rintro ⟨⟩

theorem ok_bind {ε α β : Type} (a : α) (f : α → Except ε β) : (Except.ok a >>= f) = f a := rfl

theorem error_bind {ε α β : Type} (e : ε) (f : α → Except ε β) : (Except.error e >>= f) = .error e := rfl

/-- The manifest is the one that is declared, or is not valid, or some class is the first to be refused. -/
theorem collectManifest_cases (es : List (C × Declaration)) (classes : List C) :
    ((∀ cls ∈ classes, WellPlaced (declared es cls)) ∧ Valid (assembled es classes) ∧
        collectManifest (decorated es) classes = .ok (assembled es classes)) ∨
      ((∀ cls ∈ classes, WellPlaced (declared es cls)) ∧ ¬ Valid (assembled es classes) ∧
        collectManifest (decorated es) classes = .error (.notReconcilable (problems (assembled es classes)))) ∨
      ∃ before cls after e, classes = before ++ cls :: after ∧ (∀ c ∈ before, WellPlaced (declared es c)) ∧
        ¬ WellPlaced (declared es cls) ∧ collectManifest (decorated es) classes = .error e ∧ e.about = some cls := by
  unfold collectManifest
  obtain ⟨hall, hok⟩ | ⟨before, cls, after, e, hclasses, hbefore, hnot, herror, habout⟩ :=
    collectInto_cases es classes emptyManifest
  · rw [hok, join_empty, ok_bind]
    by_cases hvalid : problems (assembled es classes) = []
    · exact .inl ⟨hall, hvalid, defineManifest_valid hvalid⟩
    · exact .inr (.inl ⟨hall, hvalid, defineManifest_invalid hvalid⟩)
  · rw [herror, error_bind]
    exact .inr (.inr ⟨before, cls, after, e, hclasses, hbefore, hnot, rfl, habout⟩)

/-- **Declared manifests.** What is collected is what was declared on the classes, each with its own, and it is a valid
manifest; else the first class whose declarations have no place is refused, or the manifest with all its problems. The
order in which decorators of different kinds, or of different classes, were applied does not matter. -/
theorem collectManifest_iff (es : List (C × Declaration)) (classes : List C) :
    (∀ m, collectManifest (decorated es) classes = .ok m ↔
      (∀ cls ∈ classes, WellPlaced (declared es cls)) ∧ Valid (assembled es classes) ∧ m = assembled es classes) ∧
    (∀ e, collectManifest (decorated es) classes = .error e →
      (∃ before cls after, classes = before ++ cls :: after ∧ (∀ c ∈ before, WellPlaced (declared es c)) ∧
        ¬ WellPlaced (declared es cls) ∧ e.about = some cls) ∨
      (∀ cls ∈ classes, WellPlaced (declared es cls)) ∧ ¬ Valid (assembled es classes) ∧
        e = .notReconcilable (problems (assembled es classes))) ∧
    ∀ es', (∀ cls ∈ classes, SameByKind (declared es cls) (declared es' cls)) →
      collectManifest (decorated es') classes = collectManifest (decorated es) classes := by
  refine ⟨?_, ?_, ?_⟩
  · intro m
    obtain ⟨hall, hvalid, hres⟩ | ⟨-, hinvalid, hres⟩ | ⟨before, cls, after, e, hclasses, -, hnot, hres, -⟩ :=
      collectManifest_cases es classes
    · rw [hres]
      exact ⟨fun h => ⟨hall, hvalid, (Except.ok.inj h).symm⟩, fun h => congrArg Except.ok h.2.2.symm⟩
    · rw [hres]
      exact iff_of_false error_ne_ok fun h => hinvalid h.2.1
    · rw [hres]
      refine iff_of_false error_ne_ok fun h => hnot (h.1 cls ?_)
      rw [hclasses]
      exact List.mem_append_right _ List.mem_cons_self
  · intro e h
    obtain ⟨-, -, hres⟩ | ⟨hall, hinvalid, hres⟩ | ⟨before, cls, after, e', hclasses, hbefore, hnot, hres, habout⟩ :=
      collectManifest_cases es classes
    · exact absurd (hres.symm.trans h).symm error_ne_ok
    · exact .inr ⟨hall, hinvalid, (Except.error.inj (hres.symm.trans h)).symm⟩
    · rw [← Except.error.inj (hres.symm.trans h)]
      exact .inl ⟨before, cls, after, hclasses, hbefore, hnot, habout⟩
  · intro es' h
    unfold collectManifest
    rw [collectInto_same fun cls hcls => (decorated_same (h cls hcls)).symm]

end Classes

end AxiamSdk.Manifest
