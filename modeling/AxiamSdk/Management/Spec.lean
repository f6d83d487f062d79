import AxiamSdk.Lib.JsonEq

/-! # The manifest (`management/manifest/_spec.py`)

The desired shape of a tenant. A spec carries a manifest-local `key` that other specs refer to, since
a manifest is written before the things in it exist. -/

namespace AxiamSdk.Manifest
open PyLib
set_option autoImplicit false

/-- A `dict[str, Any]` of JSON values. -/
abbrev Metadata := List (PyStr × Json)

structure ScopeSpec where
  key : PyStr
  name : PyStr
  description : PyStr

structure ResourceSpec where
  key : PyStr
  name : PyStr
  resourceType : PyStr
  parent : Option PyStr
  scopes : List ScopeSpec
  metadata : Option Metadata

structure PermissionSpec where
  key : PyStr
  action : PyStr
  description : PyStr

structure GrantSpec where
  permission : PyStr
  effect : Option PyStr
  scopes : List PyStr

/-- `RoleBinding`: a bare role key, or a `ScopedRoleBinding`. -/
inductive RoleBinding
  | plain (role : PyStr)
  | scoped (role resource : PyStr) (inherit : Bool)
  deriving DecidableEq

structure RoleSpec where
  key : PyStr
  name : PyStr
  description : PyStr
  isGlobal : Bool
  grants : List GrantSpec

structure GroupSpec where
  key : PyStr
  name : PyStr
  description : PyStr
  roles : List RoleBinding

structure UserSpec where
  key : PyStr
  username : PyStr
  email : PyStr
  initialPassword : Option PyStr
  roles : List RoleBinding
  groups : List PyStr

structure ServiceAccountSpec where
  key : PyStr
  name : PyStr
  description : Option PyStr
  roles : List RoleBinding

/-- A member of a network spec: `UNSET`, or stated. -/
inductive Stated (α : Type)
  | unset
  | stated (a : α)
  deriving DecidableEq

/-- `_stated(value)` -/
def Stated.isStated {α : Type} : Stated α → Bool
  | .unset => false
  | .stated _ => true

structure NetworkSegmentSpec where
  key : PyStr
  site : PyStr
  kind : PyStr
  name : PyStr
  vlanId : ℤ
  rank : Stated (Option ℤ)
  filterIds : Stated (List PyStr)
  enabled : Stated Bool

structure NetworkProfileSpec where
  segment : PyStr
  sessionTimeoutSecs : ℤ
  terminationAction : Stated (Option PyStr)
  idleTimeoutSecs : Stated (Option ℤ)
  filterId : Stated (Option PyStr)
  serviceType : Stated (Option PyStr)

structure NetworkPolicySpec where
  sessionTimeoutMaxSecs : ℤ

structure NetworkSpec where
  policy : Option NetworkPolicySpec
  segments : List NetworkSegmentSpec
  profiles : List NetworkProfileSpec

structure ManagementManifest where
  resources : List ResourceSpec
  permissions : List PermissionSpec
  roles : List RoleSpec
  groups : List GroupSpec
  users : List UserSpec
  serviceAccounts : List ServiceAccountSpec
  network : Option NetworkSpec

/-- `role_key` -/
def roleKey : RoleBinding → PyStr
  | .plain role => role
  | .scoped role _ _ => role

/-- `resource_key` -/
def resourceKey : RoleBinding → Option PyStr
  | .plain _ => none
  | .scoped _ resource _ => some resource

/-- Python's truth value of an optional string. -/
def truthy? : Option PyStr → Option PyStr
  | some (c :: cs) => some (c :: cs)
  | _ => none

end AxiamSdk.Manifest
