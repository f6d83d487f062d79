import AxiamSdk.Management.Spec

/-! # Plans and validation (`management/manifest/_plan.py`)

* `topologicalOrder`: resource keys, parents before children.
* `validate`: the problems that make a manifest irreconcilable, found before any request. -/

namespace AxiamSdk.Manifest
open PyLib
set_option autoImplicit false

/-! ## Planned actions -/

inductive Change
  | create | update | noChange
  deriving DecidableEq

inductive Target
  | resource | scope | permission | role | roleGrant | group | groupRole | user | userRole | groupMember
  | serviceAccount | serviceAccountRole | networkPolicy | networkSegment | networkProfile
  deriving DecidableEq

/-- One step of a plan. -/
structure PlannedAction where
  change : Change
  target : Target
  key : PyStr
  deriving DecidableEq

/-- `ManagementPlan` -/
structure ManagementPlan where
  actions : List PlannedAction

/-- `changes` -/
def ManagementPlan.changes (p : ManagementPlan) : List PlannedAction :=
  p.actions.filter (fun a => a.change ≠ .noChange)

/-- `is_converged` -/
def ManagementPlan.isConverged (p : ManagementPlan) : Bool := p.changes.isEmpty

/-! ## Resource order -/

/-- `{r.key: r.parent for r in manifest.resources}` -/
def parents (m : ManagementManifest) : List (PyStr × Option PyStr) :=
  m.resources.foldl (fun d r => Assoc.set d r.key r.parent) []

/-- The inner loop of `topological_order`: from `cursor` up to a placed key or a root. The chain grows
at its head, so it already stands in the order its keys are placed in. The error is the key a cycle
was met at. -/
def climb (parents : List (PyStr × Option PyStr)) (placed : List PyStr) :
    ℕ → List PyStr → Option PyStr → Except PyStr (List PyStr)
  | _, chain, none => .ok chain
  | 0, _, some cursor => .error cursor
  | fuel + 1, chain, some cursor =>
    if cursor ∈ placed then .ok chain
    else if cursor ∈ chain then .error cursor
    else climb parents placed fuel (cursor :: chain) ((Assoc.get? parents cursor).join)

/-- The outer loop: the keys placed so far and the resources still to place. -/
def placeAll (parents : List (PyStr × Option PyStr)) (fuel : ℕ) :
    List PyStr → List ResourceSpec → Except PyStr (List PyStr)
  | order, [] => .ok order
  | order, r :: rs =>
    match climb parents order fuel [] (some r.key) with
    | .error k => .error k
    | .ok chain => placeAll parents fuel (order ++ chain) rs

/-- `topological_order`. A chain that climbs more keys than there are meets one of them again
(`climb_fuel`). -/
def topologicalOrder (m : ManagementManifest) : Except PyStr (List PyStr) :=
  placeAll (parents m) (m.resources.length + 2) [] m.resources

/-! ## Validation -/

inductive SpecKind
  | resource | scope | permission | role | group | user | serviceAccount | networkSegment
  deriving DecidableEq

/-- What a message of `validate` reports, with the values it names. -/
inductive Problem
  /-- `{kind} key {key} is declared more than once` -/
  | duplicateKey (kind : SpecKind) (key : PyStr)
  /-- `resource {key} names parent {parent}, which no resource declares` -/
  | unknownParent (key parent : PyStr)
  /-- `role {key} grants permission {permission}, which no permission declares` -/
  | unknownPermission (role permission : PyStr)
  /-- `role {key} scopes a grant to {scope}, which no scope declares` -/
  | unknownScope (role scope : PyStr)
  /-- `{kind} {key} is assigned role {role}, which no role declares` -/
  | unknownRole (kind : SpecKind) (subject role : PyStr)
  /-- `{kind} {key} binds role {role} more than once` -/
  | repeatedRole (kind : SpecKind) (subject role : PyStr)
  /-- `{kind} {key} binds role {role} at resource {resource}, which no resource declares` -/
  | unknownResource (kind : SpecKind) (subject role resource : PyStr)
  /-- `{kind} {key} binds global role {role} with inherit=False` -/
  | globalNotInherited (kind : SpecKind) (subject role : PyStr)
  /-- `user {key} is in group {group}, which no group declares` -/
  | unknownGroup (user group : PyStr)
  /-- `network segment {key} repeats the natural key ...` -/
  | repeatedSegment (key site kind name : PyStr)
  /-- `network segment {key} lists filter_id {name} more than once` -/
  | repeatedFilterId (key name : PyStr)
  /-- `network profile names segment {segment}, which no network segment of this manifest declares` -/
  | unknownSegment (segment : PyStr)
  /-- `network segment {segment} has more than one profile in this manifest` -/
  | repeatedProfile (segment : PyStr)
  /-- `network profile of segment {segment} states termination_action as None` -/
  | terminationNone (segment : PyStr)
  /-- `resource parent graph has a cycle through {key}` -/
  | cycle (key : PyStr)
  deriving DecidableEq

/-- The members of a list that occur in it before. -/
def repeats {α : Type} [DecidableEq α] : List α → List α → List α
  | _, [] => []
  | seen, x :: xs => if x ∈ seen then x :: repeats (x :: seen) xs else repeats (x :: seen) xs

/-- `_duplicates` -/
def duplicates (kind : SpecKind) (keys : List PyStr) : List Problem :=
  (repeats [] keys).map (.duplicateKey kind)

/-- `_validate_role_bindings`, from the roles seen so far. -/
def validateRoleBindings (m : ManagementManifest) (kind : SpecKind) (subject : PyStr) :
    List PyStr → List RoleBinding → List Problem
  | _, [] => []
  | seen, b :: bs =>
    let rk := roleKey b
    (if rk ∈ m.roles.map RoleSpec.key then [] else [.unknownRole kind subject rk]) ++
    (if rk ∈ seen then [.repeatedRole kind subject rk] else []) ++
    (match b with
      | .plain _ => []
      | .scoped _ resource inherit =>
        (if resource ∈ m.resources.map ResourceSpec.key then []
          else [.unknownResource kind subject rk resource]) ++
        -- `role_by_key.get(rk)`: the last role of that key
        (if !inherit && (m.roles.reverse.find? (fun r => r.key = rk)).any RoleSpec.isGlobal then
          [.globalNotInherited kind subject rk] else [])) ++
    validateRoleBindings m kind subject (rk :: seen) bs

/-- `(site, kind, name)` -/
def NetworkSegmentSpec.identity (s : NetworkSegmentSpec) : PyStr × PyStr × PyStr :=
  (s.site, s.kind, s.name)

/-- The segments' part of `_validate_network`, from the natural keys seen so far. -/
def validateSegments : List (PyStr × PyStr × PyStr) → List NetworkSegmentSpec → List Problem
  | _, [] => []
  | natural, s :: ss =>
    (if s.identity ∈ natural then [.repeatedSegment s.key s.site s.kind s.name] else []) ++
    (match s.filterIds with
      | .unset => []
      | .stated names => (repeats [] names).map (.repeatedFilterId s.key)) ++
    validateSegments (s.identity :: natural) ss

/-- The profiles' part of `_validate_network`, from the segments that have one so far. -/
def validateProfiles (segmentKeys : List PyStr) :
    List PyStr → List NetworkProfileSpec → List Problem
  | _, [] => []
  | profiled, p :: ps =>
    (if p.segment ∈ segmentKeys then [] else [.unknownSegment p.segment]) ++
    (if p.segment ∈ profiled then [.repeatedProfile p.segment] else []) ++
    (if p.terminationAction = .stated none then [.terminationNone p.segment] else []) ++
    validateProfiles segmentKeys (p.segment :: profiled) ps

/-- `_validate_network` -/
def validateNetwork (n : NetworkSpec) : List Problem :=
  duplicates .networkSegment (n.segments.map NetworkSegmentSpec.key) ++
  validateSegments [] n.segments ++
  validateProfiles (n.segments.map NetworkSegmentSpec.key) [] n.profiles

/-- The scopes of every resource. -/
def allScopes (m : ManagementManifest) : List ScopeSpec := m.resources.flatMap ResourceSpec.scopes

/-- `validate`: every problem of the manifest; it raises when there is one. -/
def problems (m : ManagementManifest) : List Problem :=
  let resourceKeys := m.resources.map ResourceSpec.key
  let scopeKeys := (allScopes m).map ScopeSpec.key
  let permissionKeys := m.permissions.map PermissionSpec.key
  let groupKeys := m.groups.map GroupSpec.key
  duplicates .resource resourceKeys ++
  duplicates .scope scopeKeys ++
  duplicates .permission permissionKeys ++
  duplicates .role (m.roles.map RoleSpec.key) ++
  duplicates .group groupKeys ++
  duplicates .user (m.users.map UserSpec.key) ++
  duplicates .serviceAccount (m.serviceAccounts.map ServiceAccountSpec.key) ++
  m.resources.flatMap (fun r =>
    match truthy? r.parent with
    | none => []
    | some parent => if parent ∈ resourceKeys then [] else [.unknownParent r.key parent]) ++
  m.roles.flatMap (fun role => role.grants.flatMap (fun grant =>
    (if grant.permission ∈ permissionKeys then [] else [.unknownPermission role.key grant.permission]) ++
    grant.scopes.flatMap (fun scope =>
      if scope ∈ scopeKeys then [] else [.unknownScope role.key scope]))) ++
  m.groups.flatMap (fun g => validateRoleBindings m .group g.key [] g.roles) ++
  m.users.flatMap (fun u => validateRoleBindings m .user u.key [] u.roles ++
    u.groups.flatMap (fun g => if g ∈ groupKeys then [] else [.unknownGroup u.key g])) ++
  m.serviceAccounts.flatMap (fun s => validateRoleBindings m .serviceAccount s.key [] s.roles) ++
  (match m.network with
    | none => []
    | some n => validateNetwork n) ++
  (match topologicalOrder m with
    | .error k => [.cycle k]
    | .ok _ => [])

/-- `validate` accepts the manifest. -/
def Valid (m : ManagementManifest) : Prop := problems m = []

instance (m : ManagementManifest) : Decidable (Valid m) := inferInstanceAs (Decidable (problems m = []))

end AxiamSdk.Manifest
