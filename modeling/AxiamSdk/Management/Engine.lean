import Mathlib.Data.List.Sort
import AxiamSdk.Management.Plan

/-! # Planning (`management/manifest/_engine.py`, the deciding half)

`compute` matches every spec against a snapshot of the tenant and returns the ordered steps. It is
pure: `plan` reports the steps and `apply` runs exactly these. A step carries manifest keys, not ids,
since what it names may be created by an earlier step. -/

namespace AxiamSdk.Manifest
open PyLib
set_option autoImplicit false

/-! ## What the tenant holds (`management/models.py`) -/

structure Resource where
  id : PyStr
  name : PyStr
  parentId : Option PyStr
  resourceType : PyStr
  metadata : Json

structure Scope where
  id : PyStr
  name : PyStr
  description : PyStr
  deriving DecidableEq

structure Permission where
  id : PyStr
  action : PyStr
  description : PyStr
  deriving DecidableEq

structure Role where
  id : PyStr
  name : PyStr
  description : PyStr
  isGlobal : Bool
  deriving DecidableEq

structure Group where
  id : PyStr
  name : PyStr
  description : PyStr
  deriving DecidableEq

/-- `UserResponse` -/
structure User where
  id : PyStr
  username : PyStr
  email : PyStr
  deriving DecidableEq

/-- `ServiceAccountResponse` -/
structure ServiceAccount where
  id : PyStr
  name : PyStr
  description : Option PyStr
  deriving DecidableEq

/-- `RoleGroupAssignment`, `RoleUserAssignment` or `RoleServiceAccountAssignment`: the id of its
subject, and the binding. -/
structure RoleAssignment where
  subjectId : PyStr
  resourceId : Option PyStr
  inherit : Bool
  tenantScope : Option (List PyStr)
  deriving DecidableEq

/-- `NetworkPolicyResponse` -/
structure NetworkPolicy where
  sessionTimeoutMaxSecs : ℤ
  version : ℤ
  deriving DecidableEq

/-- `NetworkSegmentResponse` -/
structure NetworkSegment where
  id : PyStr
  siteKey : PyStr
  kind : PyStr
  name : PyStr
  vlanId : ℤ
  rank : Option ℤ
  filterIds : List PyStr
  enabled : Bool
  version : ℤ
  deriving DecidableEq

/-- `NetworkReplyProfile`, the effective profile a read returns. -/
structure NetworkReplyProfile where
  segmentId : PyStr
  sessionTimeoutSecs : ℤ
  terminationAction : PyStr
  idleTimeoutSecs : Option ℤ
  filterId : Option PyStr
  serviceType : Option PyStr
  dictionary : PyStr
  version : ℤ
  deriving DecidableEq

/-- `_SUBJECT_KINDS` -/
inductive SubjectKind
  | group | user | serviceAccount
  deriving DecidableEq

/-- Manifest keys resolved to server ids. -/
structure Resolved where
  resources : Dict PyStr PyStr
  scopes : Dict PyStr PyStr
  permissions : Dict PyStr PyStr
  roles : Dict PyStr PyStr
  groups : Dict PyStr PyStr
  users : Dict PyStr PyStr
  serviceAccounts : Dict PyStr PyStr
  networkSegments : Dict PyStr PyStr
  networkSegmentVersions : Dict PyStr ℤ

/-- The current state a plan is computed against. -/
structure Snapshot where
  resources : List Resource
  scopes : Dict PyStr (List Scope)
  permissions : List Permission
  roles : List Role
  groups : List Group
  users : List User
  serviceAccounts : List ServiceAccount
  roleGrants : Dict PyStr (List PyStr)
  roleUserBindings : Dict PyStr (List RoleAssignment)
  roleGroupBindings : Dict PyStr (List RoleAssignment)
  roleServiceAccountBindings : Dict PyStr (List RoleAssignment)
  groupMembers : Dict PyStr (List PyStr)
  networkPolicy : Option NetworkPolicy
  networkSegments : List NetworkSegment
  networkProfiles : List NetworkReplyProfile

/-! ## Steps -/

/-- `CreateNetworkSegmentRequest`: a member that is `none` is left out. -/
structure SegmentCreate where
  kind : PyStr
  siteKey : PyStr
  name : PyStr
  vlanId : ℤ
  rank : Option ℤ
  filterIds : Option (List PyStr)
  enabled : Option Bool
  deriving DecidableEq

/-- `ReplaceNetworkSegmentRequest` -/
structure SegmentReplace where
  version : ℤ
  vlanId : ℤ
  filterIds : List PyStr
  enabled : Bool
  rank : Option ℤ
  deriving DecidableEq

/-- `NetworkReplyProfileInput`: a member that is `none` is left out. -/
structure ProfileInput where
  sessionTimeoutSecs : ℤ
  dictionary : Option PyStr
  terminationAction : Option PyStr
  idleTimeoutSecs : Option ℤ
  filterId : Option PyStr
  serviceType : Option PyStr
  deriving DecidableEq

/-- The payload of a `rebind-role` step. -/
structure Rebind where
  subjectKind : SubjectKind
  role : PyStr
  subject : PyStr
  resource : Option PyStr
  inherit : Bool
  previousResourceId : Option PyStr
  previousInherit : Bool
  tenantScope : Option (List PyStr)
  deriving DecidableEq

/-- `Step`: what it does and the manifest keys it names. -/
inductive Step
  | noop (key : PyStr)
  | createResource (key name resourceType : PyStr) (parent : Option PyStr) (metadata : Option Metadata)
  | updateResource (key : PyStr) (resourceType : Option PyStr) (metadata : Option Metadata)
  | createScope (key resource name description : PyStr)
  | createPermission (key action description : PyStr)
  | updatePermission (key description : PyStr)
  | createRole (key name description : PyStr) (isGlobal : Bool)
  | updateRole (key description : PyStr) (isGlobal : Bool)
  | grantPermission (key role permission : PyStr) (effect : Option PyStr) (scopes : List PyStr)
  | createGroup (key name description : PyStr)
  | updateGroup (key description : PyStr)
  | createUser (key username email : PyStr) (password : Option PyStr)
  | updateUser (key email : PyStr)
  | createServiceAccount (key name : PyStr) (description : Option PyStr)
  | updateServiceAccount (key : PyStr) (description : Option PyStr)
  | assignRole (kind : SubjectKind) (key role subject : PyStr) (resource : Option PyStr) (inherit : Bool)
  | rebindRole (key : PyStr) (payload : Rebind)
  | addGroupMember (key group user : PyStr)
  | replaceNetworkPolicy (key : PyStr) (sessionTimeoutMaxSecs version : ℤ)
  | createNetworkSegment (key : PyStr) (body : SegmentCreate)
  | replaceNetworkSegment (key : PyStr) (body : SegmentReplace)
  | createNetworkProfile (key : PyStr) (profile : ProfileInput)
  | replaceNetworkProfile (key : PyStr) (version : ℤ) (profile : ProfileInput)

/-- What `push` records. -/
abbrev Planned := PlannedAction × Step

def noChange (target : Target) (key : PyStr) : Planned := (⟨.noChange, target, key⟩, .noop key)

/-! ## Matching -/

/-- Records the id of every spec that `match?` finds. -/
def resolveAll {α : Type} (key : α → PyStr) (match? : α → Option PyStr) (specs : List α)
    (d : Dict PyStr PyStr) : Dict PyStr PyStr :=
  specs.foldl (fun d s => match match? s with
    | some id => d.set (key s) id
    | none => d) d

/-- `listing.get(id, []) if id else []` -/
def listed {α : Type} (listing : Dict PyStr (List α)) (id : Option PyStr) : List α :=
  match truthy? id with
  | none => []
  | some i => (listing.get? i).getD []

/-- `_metadata_differs` -/
def metadataDiffers (existing : Json) (stated : Option Metadata) : Bool :=
  match stated with
  | none => false
  | some s => !(Json.obj s).pyEq existing

/-! ## Resources and scopes -/

/-- The resource of the snapshot that a spec is; a spec whose parent is still to be created matches
none. -/
def matchResource (snapshot : Snapshot) (resources : Dict PyStr PyStr) (spec : ResourceSpec) :
    Option Resource :=
  let parentPending := match spec.parent with
    | none => false
    | some p => !resources.contains p
  let parentId := (truthy? spec.parent).bind resources.get?
  if parentPending then none
  else snapshot.resources.find? (fun r => r.name = spec.name ∧ r.parentId = parentId)

/-- The step for a resource, given what it matched. -/
def planResource (key : PyStr) (spec : ResourceSpec) : Option Resource → Planned
  | some existing =>
    let resourceType := if existing.resourceType ≠ spec.resourceType then some spec.resourceType else none
    let metadata := if metadataDiffers existing.metadata spec.metadata then spec.metadata else none
    if resourceType.isSome || metadata.isSome then
      (⟨.update, .resource, key⟩, .updateResource key resourceType metadata)
    else noChange .resource key
  | none => (⟨.create, .resource, key⟩,
      .createResource key spec.name spec.resourceType spec.parent spec.metadata)

/-- `{r.key: r for r in manifest.resources}[key]`; `none` is the `KeyError`. -/
def resourceSpec? (m : ManagementManifest) (key : PyStr) : Option ResourceSpec :=
  m.resources.reverse.find? (fun r => r.key = key)

/-- The resources, in the given order. -/
def planResources (m : ManagementManifest) (snapshot : Snapshot) :
    Dict PyStr PyStr → List PyStr → Except PyStr (List Planned × Dict PyStr PyStr)
  | resources, [] => .ok ([], resources)
  | resources, key :: keys =>
    match resourceSpec? m key with
    | none => .error key
    | some spec =>
      let existing := matchResource snapshot resources spec
      let resources := match existing with
        | some r => resources.set key r.id
        | none => resources
      match planResources m snapshot resources keys with
      | .error e => .error e
      | .ok (steps, resources) => .ok (planResource key spec existing :: steps, resources)

/-- The scope of the snapshot that a scope spec of a resource is. -/
def matchScope (snapshot : Snapshot) (resources : Dict PyStr PyStr) (spec : ResourceSpec)
    (scope : ScopeSpec) : Option Scope :=
  (listed snapshot.scopes (resources.get? spec.key)).find? (fun s => s.name = scope.name)

def planScope (spec : ResourceSpec) (scope : ScopeSpec) : Option Scope → Planned
  | some _ => noChange .scope scope.key
  | none => (⟨.create, .scope, scope.key⟩,
      .createScope scope.key spec.key scope.name scope.description)

/-- The scope specs, each with the resource spec that declares it. -/
def scopeSpecs (m : ManagementManifest) : List (ResourceSpec × ScopeSpec) :=
  m.resources.flatMap (fun r => r.scopes.map (fun s => (r, s)))

/-! ## Permissions, roles and grants -/

def matchPermission (snapshot : Snapshot) (spec : PermissionSpec) : Option Permission :=
  snapshot.permissions.find? (fun p => p.action = spec.action)

def planPermission (spec : PermissionSpec) : Option Permission → Planned
  | some found =>
    if found.description ≠ spec.description then
      (⟨.update, .permission, spec.key⟩, .updatePermission spec.key spec.description)
    else noChange .permission spec.key
  | none => (⟨.create, .permission, spec.key⟩, .createPermission spec.key spec.action spec.description)

def matchRole (snapshot : Snapshot) (spec : RoleSpec) : Option Role :=
  snapshot.roles.find? (fun r => r.name = spec.name)

def planRole (spec : RoleSpec) : Option Role → Planned
  | some found =>
    if found.description ≠ spec.description ∨ found.isGlobal ≠ spec.isGlobal then
      (⟨.update, .role, spec.key⟩, .updateRole spec.key spec.description spec.isGlobal)
    else noChange .role spec.key
  | none => (⟨.create, .role, spec.key⟩,
      .createRole spec.key spec.name spec.description spec.isGlobal)

/-- One grant of a role: granted or not, by the permission's id alone. -/
def planGrant (snapshot : Snapshot) (r : Resolved) (role : RoleSpec) (grant : GrantSpec) : Planned :=
  let granted := listed snapshot.roleGrants (r.roles.get? role.key)
  if (r.permissions.get? grant.permission).any (fun id => id ∈ granted) then noChange .roleGrant role.key
  else (⟨.create, .roleGrant, role.key⟩,
    .grantPermission role.key role.key grant.permission grant.effect grant.scopes)

/-! ## Groups, users and service accounts -/

def matchGroup (snapshot : Snapshot) (spec : GroupSpec) : Option Group :=
  snapshot.groups.find? (fun g => g.name = spec.name)

def planGroup (spec : GroupSpec) : Option Group → Planned
  | some found =>
    if found.description ≠ spec.description then
      (⟨.update, .group, spec.key⟩, .updateGroup spec.key spec.description)
    else noChange .group spec.key
  | none => (⟨.create, .group, spec.key⟩, .createGroup spec.key spec.name spec.description)

def matchUser (snapshot : Snapshot) (spec : UserSpec) : Option User :=
  snapshot.users.find? (fun u => u.username = spec.username)

def planUser (spec : UserSpec) : Option User → Planned
  | some found =>
    if found.email ≠ spec.email then
      (⟨.update, .user, spec.key⟩, .updateUser spec.key spec.email)
    else noChange .user spec.key
  | none => (⟨.create, .user, spec.key⟩,
      .createUser spec.key spec.username spec.email spec.initialPassword)

/-- The accounts of a name; the server enforces no uniqueness. -/
def serviceAccountMatches (snapshot : Snapshot) (spec : ServiceAccountSpec) : List ServiceAccount :=
  snapshot.serviceAccounts.filter (fun s => s.name = spec.name)

/-- The one account of a name. -/
def matchServiceAccount (snapshot : Snapshot) (spec : ServiceAccountSpec) : Option ServiceAccount :=
  match serviceAccountMatches snapshot spec with
  | [found] => some found
  | _ => none

/-- An ambiguous name gives no step; `plan` refuses it. -/
def planServiceAccount (snapshot : Snapshot) (spec : ServiceAccountSpec) : List Planned :=
  match serviceAccountMatches snapshot spec with
  | [found] =>
    if found.description ≠ spec.description then
      [(⟨.update, .serviceAccount, spec.key⟩, .updateServiceAccount spec.key spec.description)]
    else [noChange .serviceAccount spec.key]
  | [] => [(⟨.create, .serviceAccount, spec.key⟩,
      .createServiceAccount spec.key spec.name spec.description)]
  | _ => []

/-! ## Role bindings -/

/-- `_binding_resource_and_inherit` -/
def bindingResourceAndInherit (r : Resolved) : RoleBinding → Option PyStr × Bool
  | .plain _ => (none, true)
  | .scoped _ resource inherit => (r.resources.get? resource, inherit)

/-- `_existing_binding` -/
def existingBinding (bindings : List RoleAssignment) (subjectId : Option PyStr) : Option RoleAssignment :=
  subjectId.bind (fun id => bindings.find? (fun a => a.subjectId = id))

/-- `role_id` resolved, and the assignment of that role to the subject. -/
def boundTo (r : Resolved) (binding : RoleBinding) (bindings : List RoleAssignment)
    (subjectId : Option PyStr) : Option RoleAssignment :=
  (r.roles.get? (roleKey binding)).bind (fun _ => existingBinding bindings subjectId)

/-- `_plan_role_binding` -/
def planRoleBinding (kind : SubjectKind) (subject : PyStr) (subjectId : Option PyStr)
    (binding : RoleBinding) (r : Resolved) (bindings : List RoleAssignment) (target : Target) : Planned :=
  let (statedResourceId, statedInherit) := bindingResourceAndInherit r binding
  match boundTo r binding bindings subjectId with
  | none => (⟨.create, target, subject⟩,
      .assignRole kind subject (roleKey binding) subject (resourceKey binding) statedInherit)
  | some existing =>
    if existing.resourceId = statedResourceId ∧ existing.inherit = statedInherit then
      noChange target subject
    else (⟨.update, target, subject⟩,
      .rebindRole subject
        { subjectKind := kind
          role := roleKey binding
          subject := subject
          resource := resourceKey binding
          inherit := statedInherit
          previousResourceId := existing.resourceId
          previousInherit := existing.inherit
          tenantScope := existing.tenantScope })

def planGroupRole (snapshot : Snapshot) (r : Resolved) (group : GroupSpec) (binding : RoleBinding) :
    Planned :=
  planRoleBinding .group group.key (r.groups.get? group.key) binding r
    (listed snapshot.roleGroupBindings (r.roles.get? (roleKey binding))) .groupRole

def planUserRole (snapshot : Snapshot) (r : Resolved) (user : UserSpec) (binding : RoleBinding) :
    Planned :=
  planRoleBinding .user user.key (r.users.get? user.key) binding r
    (listed snapshot.roleUserBindings (r.roles.get? (roleKey binding))) .userRole

def planServiceAccountRole (snapshot : Snapshot) (r : Resolved) (account : ServiceAccountSpec)
    (binding : RoleBinding) : Planned :=
  planRoleBinding .serviceAccount account.key (r.serviceAccounts.get? account.key) binding r
    (listed snapshot.roleServiceAccountBindings (r.roles.get? (roleKey binding))) .serviceAccountRole

def planGroupMember (snapshot : Snapshot) (r : Resolved) (user : UserSpec) (group : PyStr) : Planned :=
  let members := listed snapshot.groupMembers (r.groups.get? group)
  if (r.users.get? user.key).any (fun id => id ∈ members) then noChange .groupMember user.key
  else (⟨.create, .groupMember, user.key⟩, .addGroupMember user.key group user.key)

/-! ## The network section -/

/-- A stated member, or the one carried. -/
def Stated.or {α : Type} (s : Stated α) (carried : α) : α :=
  match s with
  | .unset => carried
  | .stated a => a

/-- A member is stated and differs from the read. -/
def Stated.differs {α : Type} [DecidableEq α] (s : Stated α) (read : α) : Bool :=
  match s with
  | .unset => false
  | .stated a => decide (a ≠ read)

/-- `set(a) == set(b)` -/
def sameSet (a b : List PyStr) : Bool := a.all (· ∈ b) && b.all (· ∈ a)

def networkPolicyKey : PyStr := lit "network.policy"

def planNetworkPolicy (read : Option NetworkPolicy) (policy : NetworkPolicySpec) : Planned :=
  if read.any (fun p => p.sessionTimeoutMaxSecs = policy.sessionTimeoutMaxSecs) then
    noChange .networkPolicy networkPolicyKey
  else (⟨.update, .networkPolicy, networkPolicyKey⟩,
    -- the first write of a tenant that has never written one is version 0
    .replaceNetworkPolicy networkPolicyKey policy.sessionTimeoutMaxSecs
      ((read.map NetworkPolicy.version).getD 0))

def matchSegment (snapshot : Snapshot) (spec : NetworkSegmentSpec) : Option NetworkSegment :=
  snapshot.networkSegments.find? (fun s => (s.siteKey, s.kind, s.name) = (spec.site, spec.kind, spec.name))

def segmentDiffers (spec : NetworkSegmentSpec) (existing : NetworkSegment) : Bool :=
  decide (spec.vlanId ≠ existing.vlanId) || spec.rank.differs existing.rank ||
  (match spec.filterIds with
    | .unset => false
    | .stated names => !sameSet names existing.filterIds) ||
  spec.enabled.differs existing.enabled

def planSegment (spec : NetworkSegmentSpec) : Option NetworkSegment → Planned
  | none => (⟨.create, .networkSegment, spec.key⟩,
      .createNetworkSegment spec.key
        { kind := spec.kind
          siteKey := spec.site
          name := spec.name
          vlanId := spec.vlanId
          rank := spec.rank.or none
          filterIds := match spec.filterIds with
            | .unset => none
            | .stated names => some names
          enabled := match spec.enabled with
            | .unset => none
            | .stated b => some b })
  | some existing =>
    if segmentDiffers spec existing then
      (⟨.update, .networkSegment, spec.key⟩,
        .replaceNetworkSegment spec.key
          { version := existing.version
            vlanId := spec.vlanId
            filterIds := spec.filterIds.or existing.filterIds
            enabled := spec.enabled.or existing.enabled
            rank := spec.rank.or existing.rank })
    else noChange .networkSegment spec.key

/-- `_profile_input` -/
def profileInput (spec : NetworkProfileSpec) (read : Option NetworkReplyProfile) : ProfileInput where
  sessionTimeoutSecs := spec.sessionTimeoutSecs
  dictionary := read.map NetworkReplyProfile.dictionary
  terminationAction := spec.terminationAction.or (read.map NetworkReplyProfile.terminationAction)
  idleTimeoutSecs := spec.idleTimeoutSecs.or (read.bind NetworkReplyProfile.idleTimeoutSecs)
  filterId := spec.filterId.or (read.bind NetworkReplyProfile.filterId)
  serviceType := spec.serviceType.or (read.bind NetworkReplyProfile.serviceType)

def profileDiffers (spec : NetworkProfileSpec) (existing : NetworkReplyProfile) : Bool :=
  decide (spec.sessionTimeoutSecs ≠ existing.sessionTimeoutSecs) ||
  spec.terminationAction.differs (some existing.terminationAction) ||
  spec.idleTimeoutSecs.differs existing.idleTimeoutSecs ||
  spec.filterId.differs existing.filterId ||
  spec.serviceType.differs existing.serviceType

/-- The values of `termination_action` and `service_type` this SDK knows. -/
def knownTerminationActions : List PyStr := [lit "default", lit "radius_request"]
def knownServiceTypes : List PyStr := [lit "framed_user"]

/-- `_refuse_unknown_carried`: the member an update would carry with a value this SDK does not know. -/
def unknownCarried (spec : NetworkProfileSpec) (read : NetworkReplyProfile) : Option PyStr :=
  if !spec.serviceType.isStated && read.serviceType.any (· ∉ knownServiceTypes) then
    some (lit "service_type")
  else if !spec.terminationAction.isStated && decide (read.terminationAction ∉ knownTerminationActions) then
    some (lit "termination_action")
  else none

/-- Why `compute` raises. -/
inductive ComputeError
  /-- The `NetworkError` of a cycle in the parent graph. -/
  | cycle (key : PyStr)
  /-- The `KeyError` of a key no spec declares. -/
  | keyError (key : PyStr)
  /-- The `ValidationError` of a carried open-enum value. -/
  | validation (field : PyStr)
  deriving DecidableEq

def planProfile (snapshot : Snapshot) (segments : Dict PyStr PyStr) (spec : NetworkProfileSpec) :
    Except ComputeError Planned :=
  let existing := (segments.get? spec.segment).bind
    (fun id => snapshot.networkProfiles.find? (fun p => p.segmentId = id))
  match existing with
  | none => .ok (⟨.create, .networkProfile, spec.segment⟩,
      .createNetworkProfile spec.segment (profileInput spec none))
  | some read =>
    if profileDiffers spec read then
      match unknownCarried spec read with
      | some field => .error (.validation field)
      | none => .ok (⟨.update, .networkProfile, spec.segment⟩,
          .replaceNetworkProfile spec.segment read.version (profileInput spec (some read)))
    else .ok (noChange .networkProfile spec.segment)

/-- `{s.key: i for i, s in enumerate(network.segments)}`, counted from the end: of two segments with one
key the last counts. -/
def segmentsAfter (n : NetworkSpec) (key : PyStr) : ℕ :=
  (n.segments.map NetworkSegmentSpec.key).reverse.idxOf key

/-- The profiles by the position of their segment. -/
def orderedProfiles (n : NetworkSpec) : Except ComputeError (List NetworkProfileSpec) :=
  match n.profiles.find? (fun p => p.segment ∉ n.segments.map NetworkSegmentSpec.key) with
  | some p => .error (.keyError p.segment)
  | none => .ok (n.profiles.insertionSort
      (fun p q => segmentsAfter n q.segment ≤ segmentsAfter n p.segment))

/-- The ids and versions of the segments that exist. -/
def resolveSegments (snapshot : Snapshot) (specs : List NetworkSegmentSpec) : Dict PyStr PyStr :=
  resolveAll NetworkSegmentSpec.key (fun s => (matchSegment snapshot s).map NetworkSegment.id) specs .empty

def resolveVersions (snapshot : Snapshot) (specs : List NetworkSegmentSpec) : Dict PyStr ℤ :=
  specs.foldl (fun d s => match matchSegment snapshot s with
    | some e => d.set s.key e.version
    | none => d) .empty

def collect {ε α β : Type} (f : α → Except ε β) : List α → Except ε (List β)
  | [] => .ok []
  | a :: as =>
    match f a with
    | .error e => .error e
    | .ok b => (collect f as).map (b :: ·)

/-- `_plan_network` -/
def planNetwork (snapshot : Snapshot) (n : NetworkSpec) : Except ComputeError (List Planned) :=
  let policy := n.policy.toList.map (planNetworkPolicy snapshot.networkPolicy)
  let segments := n.segments.map (fun s => planSegment s (matchSegment snapshot s))
  match orderedProfiles n with
  | .error e => .error e
  | .ok ordered =>
    (collect (planProfile snapshot (resolveSegments snapshot n.segments)) ordered).map
      (fun profiles => policy ++ segments ++ profiles)

/-! ## The plan -/

/-- The keys resolved while planning, given those of the resources. -/
def resolve (m : ManagementManifest) (snapshot : Snapshot) (resources : Dict PyStr PyStr) : Resolved where
  resources := resources
  scopes := resolveAll (fun p => p.2.key)
    (fun p => (matchScope snapshot resources p.1 p.2).map Scope.id) (scopeSpecs m) .empty
  permissions := resolveAll PermissionSpec.key
    (fun p => (matchPermission snapshot p).map Permission.id) m.permissions .empty
  roles := resolveAll RoleSpec.key (fun r => (matchRole snapshot r).map Role.id) m.roles .empty
  groups := resolveAll GroupSpec.key (fun g => (matchGroup snapshot g).map Group.id) m.groups .empty
  users := resolveAll UserSpec.key (fun u => (matchUser snapshot u).map User.id) m.users .empty
  serviceAccounts := resolveAll ServiceAccountSpec.key
    (fun s => (matchServiceAccount snapshot s).map ServiceAccount.id) m.serviceAccounts .empty
  networkSegments := resolveSegments snapshot ((m.network.map NetworkSpec.segments).getD [])
  networkSegmentVersions := resolveVersions snapshot ((m.network.map NetworkSpec.segments).getD [])

/-- The steps of everything but the resources and the network. -/
def coreSteps (m : ManagementManifest) (snapshot : Snapshot) (r : Resolved) : List Planned :=
  (scopeSpecs m).map (fun p => planScope p.1 p.2 (matchScope snapshot r.resources p.1 p.2)) ++
  m.permissions.map (fun p => planPermission p (matchPermission snapshot p)) ++
  m.roles.map (fun role => planRole role (matchRole snapshot role)) ++
  m.roles.flatMap (fun role => role.grants.map (planGrant snapshot r role)) ++
  m.groups.map (fun g => planGroup g (matchGroup snapshot g)) ++
  m.groups.flatMap (fun g => g.roles.map (planGroupRole snapshot r g)) ++
  m.users.map (fun u => planUser u (matchUser snapshot u)) ++
  m.users.flatMap (fun u => u.roles.map (planUserRole snapshot r u)) ++
  m.serviceAccounts.flatMap (planServiceAccount snapshot) ++
  m.serviceAccounts.flatMap (fun s => s.roles.map (planServiceAccountRole snapshot r s)) ++
  m.users.flatMap (fun u => u.groups.map (planGroupMember snapshot r u))

/-- `_compute`: the ordered steps, and the keys resolved on the way. No step depends on a key that its
own section resolves, the resources apart. -/
def compute (m : ManagementManifest) (snapshot : Snapshot) :
    Except ComputeError (List Planned × Resolved) :=
  match topologicalOrder m with
  | .error k => .error (.cycle k)
  | .ok order =>
    match planResources m snapshot .empty order with
    | .error k => .error (.keyError k)
    | .ok (resourceSteps, resources) =>
      let r := resolve m snapshot resources
      match m.network with
      | none => .ok (resourceSteps ++ coreSteps m snapshot r, r)
      | some n => (planNetwork snapshot n).map
          (fun networkSteps => (resourceSteps ++ coreSteps m snapshot r ++ networkSteps, r))

/-! ## Refusals -/

/-- `_needs_password`: the users a plan would create without a password. -/
def needsPassword (steps : List Planned) : List PyStr :=
  steps.filterMap (fun s => match s.2 with
    | .createUser key _ _ none => some key
    | _ => none)

/-- `_no_ambiguous_service_accounts`: the specs whose name more than one account has. -/
def ambiguousServiceAccounts (m : ManagementManifest) (snapshot : Snapshot) : List PyStr :=
  (m.serviceAccounts.filter (fun s => 1 < (serviceAccountMatches snapshot s).length)).map
    ServiceAccountSpec.key

/-- What `plan` and `apply` go on with: the manifest is valid, no name is ambiguous and no user lacks a
password. -/
def Planable (m : ManagementManifest) (snapshot : Snapshot) (steps : List Planned) (r : Resolved) : Prop :=
  Valid m ∧ ambiguousServiceAccounts m snapshot = [] ∧ compute m snapshot = .ok (steps, r) ∧
    needsPassword steps = []

end AxiamSdk.Manifest
