import AxiamSdk.Errors
import AxiamSdk.Lib.Dict

/-! # The workspace a sign-in names (`_oidc.py`, `_webauthn.py`)

A workspace is a tenant and an organization, each by its id or by its slug, from the caller or from the client.

* `merged`, `put`: the merge that four builders repeat at both levels.
* `get?_put`: a level puts at most one of its forms, and the id if there is one.
* `level_iff`: when the form that a level puts is the caller's.
* `explicit_wins_iff`: of every builder, what it builds names the caller's forms exactly if no id of the client
  stands against an explicit slug, and no slug of the client against an empty argument. -/

namespace AxiamSdk.Workspace
open PyLib
set_option autoImplicit false

/-! ## One level -/

/-- The two forms of a tenant, or of an organization. -/
structure Named where
  id : Option PyStr
  slug : Option PyStr
  deriving DecidableEq

/-- `x` is neither `None` nor empty. -/
def truthy (x : Option PyStr) : Bool := x.any (!·.isEmpty)

/-- `x or y` -/
def pyOr (x y : Option PyStr) : Option PyStr := if truthy x then x else y

/-- Each form from the caller, or else from the client. -/
def merged (caller own : Named) : Named := ⟨pyOr caller.id own.id, pyOr caller.slug own.slug⟩

/-- Neither form is given. -/
def Named.unresolved (n : Named) : Bool := !truthy n.id && !truthy n.slug

/-- The id under its key, or else the slug under its own. -/
def put (idKey slugKey : PyStr) (n : Named) (body : Dict PyStr PyStr) : Dict PyStr PyStr :=
  if truthy n.id then body.set idKey (n.id.getD [])
  else if truthy n.slug then body.set slugKey (n.slug.getD [])
  else body

def putTenant : Named → Dict PyStr PyStr → Dict PyStr PyStr := put (lit "tenant_id") (lit "tenant_slug")

def putOrg : Named → Dict PyStr PyStr → Dict PyStr PyStr := put (lit "org_id") (lit "org_slug")

/-! ## The builders -/

/-- The context of a client: its tenant slug, the tenant id of its session, the organization it was made with, and
the organization id that it was made with or its session resolved. -/
structure Client where
  tenantSlug : PyStr
  resolvedTenantId : Option PyStr
  orgId : Option PyStr
  orgSlug : Option PyStr
  resolvedOrgId : Option PyStr

/-- The four arguments; a missing `WebauthnWorkspace` is one without any. -/
structure Explicit where
  tenant : Named
  org : Named

section Builders
variable (c : Client) (w : Explicit)

/-- What the federation builders default a tenant to. -/
def Client.tenant : Named := ⟨c.resolvedTenantId, some c.tenantSlug⟩

/-- What they default an organization to. -/
def Client.org : Named := ⟨c.resolvedOrgId, c.orgSlug⟩

def authError {α : Type} (message : PyStr) : Except Exc α := .error (.authError message none)

/-- The body that `_sso_start_body` and `_sso_start_oauth2_body` build for their operation. -/
def startBody (operation : String) (federationConfigId redirectUri : PyStr) : Except Exc (Dict PyStr PyStr) :=
  let tenant := merged w.tenant c.tenant
  let org := merged w.org c.org
  if tenant.unresolved then
    authError (lit operation ++ lit " requires tenant context: pass tenant_id or tenant_slug, or " ++
      lit "construct the client with one (CONTRACT.md §5.1).")
  else if org.unresolved then
    authError (lit operation ++ lit " requires organization context: pass org_id or org_slug, or " ++
      lit "construct the client with one (CONTRACT.md §5.1).")
  else
    let body := (Dict.empty.set (lit "federation_config_id") federationConfigId).set (lit "redirect_uri") redirectUri
    .ok (putOrg org (putTenant tenant body))

/-- `_sso_start_body` -/
def ssoStartBody (federationConfigId redirectUri : PyStr) : Except Exc (Dict PyStr PyStr) :=
  startBody c w "sso_start" federationConfigId redirectUri

/-- `_sso_start_oauth2_body` -/
def ssoStartOauth2Body (federationConfigId redirectUri : PyStr) : Except Exc (Dict PyStr PyStr) :=
  startBody c w "sso_start_oauth2" federationConfigId redirectUri

/-- `_sso_providers_params` -/
def ssoProvidersParams : Dict PyStr PyStr :=
  putTenant (merged w.tenant c.tenant) (putOrg (merged w.org c.org) Dict.empty)

/-- `_webauthn_discoverable_body`: the organization the client was made with, and no tenant id of its session. -/
def webauthnDiscoverableBody : Except Exc (Dict PyStr PyStr) :=
  let org := merged w.org ⟨c.orgId, c.orgSlug⟩
  let tenant := merged w.tenant ⟨none, some c.tenantSlug⟩
  if org.unresolved then
    authError (lit "webauthn_discoverable_start needs an organization: construct the client " ++
      lit "with one, or pass it in the workspace argument (CONTRACT.md §24.1).")
  else if tenant.unresolved then
    authError (lit "webauthn_discoverable_start needs a tenant (CONTRACT.md §24.1).")
  else .ok (putTenant tenant (putOrg org Dict.empty))

end Builders

/-- The four builders, with the further arguments of the first and the third. -/
inductive Builder
  | ssoStart (federationConfigId redirectUri : PyStr)
  | ssoProviders
  | ssoStartOauth2 (federationConfigId redirectUri : PyStr)
  | webauthnDiscoverable

def Builder.build (c : Client) (w : Explicit) : Builder → Except Exc (Dict PyStr PyStr)
  | .ssoStart federationConfigId redirectUri => ssoStartBody c w federationConfigId redirectUri
  | .ssoProviders => .ok (ssoProvidersParams c w)
  | .ssoStartOauth2 federationConfigId redirectUri => ssoStartOauth2Body c w federationConfigId redirectUri
  | .webauthnDiscoverable => webauthnDiscoverableBody c w

/-- The tenant of the client that the builder defaults to. -/
def Builder.ownTenant (c : Client) : Builder → Named
  | .webauthnDiscoverable => ⟨none, some c.tenantSlug⟩
  | _ => c.tenant

/-- The organization of the client that the builder defaults to. -/
def Builder.ownOrg (c : Client) : Builder → Named
  | .webauthnDiscoverable => ⟨c.orgId, c.orgSlug⟩
  | _ => c.org

/-- The builder allows a level without any form. -/
def Builder.optional : Builder → Bool
  | .ssoProviders => true
  | _ => false

/-! ## What a level puts -/

/-- The body names one form of the level, or none where that is allowed. -/
structure OneForm (optional : Bool) (body : Dict PyStr PyStr) (idKey slugKey : PyStr) : Prop where
  atMostOne : body.get? idKey = none ∨ body.get? slugKey = none
  atLeastOne : optional = false → body.get? idKey ≠ none ∨ body.get? slugKey ≠ none

/-- If the caller supplied a form of the level, the form in the body is one that the caller supplied. -/
def CallerWins (caller : Named) (body : Dict PyStr PyStr) (idKey slugKey : PyStr) : Prop :=
  caller.id ≠ none ∨ caller.slug ≠ none → ∀ v,
    (body.get? idKey = some v → caller.id = some v) ∧ (body.get? slugKey = some v → caller.slug = some v)

/-- Nothing of the client stands against the caller's form: the caller gives an id, or supplies neither form, or
gives a slug, or only empty ones that the client has no slug for, while the client has no id. -/
def Unopposed (caller own : Named) : Prop :=
  truthy caller.id = true ∨ (caller.id = none ∧ caller.slug = none) ∨
    (truthy own.id = false ∧ (truthy caller.slug = true ∨ truthy own.slug = false))

/-- The id that is put. -/
def Named.putId (n : Named) : Option PyStr := if truthy n.id then n.id else none

/-- The slug that is put. -/
def Named.putSlug (n : Named) : Option PyStr := if truthy n.id then none else if truthy n.slug then n.slug else none

section Level
variable {idKey slugKey : PyStr} {n caller own : Named} {body : Dict PyStr PyStr}

theorem some_of_truthy {x : Option PyStr} (h : truthy x = true) : x = some (x.getD []) := by
  cases x with
  | none => cases h
  | some s => rfl

theorem get?_put (hkeys : idKey ≠ slugKey) (hid : body.get? idKey = none) (hslug : body.get? slugKey = none) :
    (put idKey slugKey n body).get? idKey = n.putId ∧ (put idKey slugKey n body).get? slugKey = n.putSlug := by
  unfold put Named.putId Named.putSlug
  by_cases hi : truthy n.id = true
  · simp only [hi, if_true]
    rw [Dict.get?_set_self, Dict.get?_set_ne _ _ hkeys, hslug, ← some_of_truthy hi]
    exact ⟨rfl, rfl⟩
  · by_cases hs : truthy n.slug = true
    · simp only [hi, hs, if_true, if_false, Bool.false_eq_true]
      rw [Dict.get?_set_self, Dict.get?_set_ne _ _ hkeys.symm, hid, ← some_of_truthy hs]
      exact ⟨rfl, rfl⟩
    · simp only [hi, hs, if_false, Bool.false_eq_true]
      exact ⟨hid, hslug⟩

theorem get?_put_ne {k : PyStr} (hid : idKey ≠ k) (hslug : slugKey ≠ k) :
    (put idKey slugKey n body).get? k = body.get? k := by
  unfold put
  split
  · exact Dict.get?_set_ne _ _ hid
  · split
    · exact Dict.get?_set_ne _ _ hslug
    · rfl

/-- The level holds what was put for `n`. -/
structure Holds (n : Named) (body : Dict PyStr PyStr) (idKey slugKey : PyStr) : Prop where
  id : body.get? idKey = n.putId
  slug : body.get? slugKey = n.putSlug

theorem Holds.oneForm (h : Holds n body idKey slugKey) {optional : Bool}
    (hopt : optional = false → n.unresolved = false) : OneForm optional body idKey slugKey := by
  obtain ⟨hid, hslug⟩ := h
  constructor
  · rw [hid, hslug]
    unfold Named.putId Named.putSlug
    by_cases hi : truthy n.id = true
    · exact Or.inr (if_pos hi)
    · exact Or.inl (if_neg hi)
  · intro ho
    have hresolved := hopt ho
    rw [hid, hslug]
    unfold Named.putId Named.putSlug
    by_cases hi : truthy n.id = true
    · rw [if_pos hi, some_of_truthy hi]
      exact Or.inl (Option.some_ne_none _)
    · by_cases hs : truthy n.slug = true
      · rw [if_neg hi, if_neg hi, if_pos hs, some_of_truthy hs]
        exact Or.inr (Option.some_ne_none _)
      · simp [Named.unresolved, hi, hs] at hresolved

/-- The client's own value stands in the body: it does unless the caller supplied nothing. -/
theorem opposed {x y z : Option PyStr} (hx : ¬ truthy x = true) (hy : truthy y = true) :
    (x ≠ none ∨ z ≠ none → ∀ v, y = some v → x = some v) ↔ x = none ∧ z = none := by
  constructor
  · intro h
    by_contra hnot
    have hsupplied : x ≠ none ∨ z ≠ none := by
      rw [not_and_or] at hnot
      exact hnot
    have hxy := h hsupplied _ (some_of_truthy hy)
    rw [hxy, ← some_of_truthy hy] at hx
    exact hx hy
  · rintro ⟨hx, hz⟩ (hne | hne)
    · exact absurd hx hne
    · exact absurd hz hne

/-- **One level**: the caller wins exactly if nothing of the client stands against its form. -/
theorem level_iff (h : Holds (merged caller own) body idKey slugKey) :
    CallerWins caller body idKey slugKey ↔ Unopposed caller own := by
  obtain ⟨hid, hslug⟩ := h
  unfold CallerWins Unopposed
  rw [hid, hslug]
  unfold Named.putId Named.putSlug merged pyOr
  by_cases hi : truthy caller.id = true
  · simp [hi]
  · by_cases hI : truthy own.id = true
    · have hown := opposed (z := caller.slug) hi hI
      simp only [hi, hI, if_true, if_false, Bool.false_eq_true, false_or, Bool.true_eq_false, false_and, or_false]
      rw [← hown]
      simp
    · by_cases hs : truthy caller.slug = true
      · simp [hi, hI, hs]
      · by_cases hS : truthy own.slug = true
        · have hown := opposed (z := caller.id) hs hS
          simp only [hi, hI, hs, hS, if_true, if_false, Bool.false_eq_true, false_or, Bool.true_eq_false, and_false,
            or_false]
          rw [and_comm, ← hown, or_comm]
          simp
        · simp [hi, hI, hs, hS]

end Level

/-! ## The bodies -/

theorem holds_put (ia sa ib sb : PyStr) (hkeys : [ia, sa, ib, sb].Nodup) (a b : Named) {base : Dict PyStr PyStr}
    (hbase : ∀ k ∈ [ia, sa, ib, sb], base.get? k = none) :
    Holds a (put ib sb b (put ia sa a base)) ia sa ∧ Holds b (put ib sb b (put ia sa a base)) ib sb := by
  simp only [List.nodup_cons, List.mem_cons, List.not_mem_nil, or_false, not_or, not_false_eq_true, List.nodup_nil,
    and_true] at hkeys
  obtain ⟨⟨hia_sa, hia_ib, hia_sb⟩, ⟨hsa_ib, hsa_sb⟩, hib_sb⟩ := hkeys
  simp only [List.forall_mem_cons, List.not_mem_nil, false_implies, implies_true, and_true] at hbase
  obtain ⟨hia, hsa, hib, hsb⟩ := hbase
  have hib' : (put ia sa a base).get? ib = none := by rw [get?_put_ne hia_ib hsa_ib, hib]
  have hsb' : (put ia sa a base).get? sb = none := by rw [get?_put_ne hia_sb hsa_sb, hsb]
  obtain ⟨hfirst, hfirst'⟩ := get?_put (n := a) hia_sa hia hsa
  obtain ⟨hlast, hlast'⟩ := get?_put (n := b) hib_sb hib' hsb'
  refine ⟨⟨?_, ?_⟩, ⟨hlast, hlast'⟩⟩
  · rw [get?_put_ne (Ne.symm hia_ib) (Ne.symm hia_sb), hfirst]
  · rw [get?_put_ne (Ne.symm hsa_ib) (Ne.symm hsa_sb), hfirst']

/-- Both levels of what a builder builds. -/
structure Levels (t o : Named) (optional : Bool) (body : Dict PyStr PyStr) : Prop where
  tenant : Holds t body (lit "tenant_id") (lit "tenant_slug")
  org : Holds o body (lit "org_id") (lit "org_slug")
  tenantResolved : optional = false → t.unresolved = false
  orgResolved : optional = false → o.unresolved = false

section Bodies
variable {c : Client} {w : Explicit} {body : Dict PyStr PyStr}

theorem startBody_levels {operation : String} {federationConfigId redirectUri : PyStr}
    (h : startBody c w operation federationConfigId redirectUri = .ok body) :
    Levels (merged w.tenant c.tenant) (merged w.org c.org) false body := by
  simp only [startBody] at h
  split at h
  · cases h
  · next htenant =>
    split at h
    · cases h
    · next horg =>
      cases h
      have hbase : ∀ k ∈ [lit "tenant_id", lit "tenant_slug", lit "org_id", lit "org_slug"],
          ((Dict.empty.set (lit "federation_config_id") federationConfigId).set (lit "redirect_uri") redirectUri).get? k =
            none := by
        intro k hk
        have hid : lit "federation_config_id" ≠ k := by
          rintro rfl
          revert hk
          decide
        have huri : lit "redirect_uri" ≠ k := by
          rintro rfl
          revert hk
          decide
        rw [Dict.get?_set_ne _ _ huri, Dict.get?_set_ne _ _ hid, Dict.get?_empty]
      obtain ⟨ht, ho⟩ := holds_put (lit "tenant_id") (lit "tenant_slug") (lit "org_id") (lit "org_slug") (by decide)
        (merged w.tenant c.tenant) (merged w.org c.org) hbase
      exact ⟨ht, ho, fun _ => by simpa using htenant, fun _ => by simpa using horg⟩

theorem orgFirst_levels (tenant org : Named) :
    Holds tenant (putTenant tenant (putOrg org Dict.empty)) (lit "tenant_id") (lit "tenant_slug") ∧
      Holds org (putTenant tenant (putOrg org Dict.empty)) (lit "org_id") (lit "org_slug") := by
  obtain ⟨ho, ht⟩ := holds_put (lit "org_id") (lit "org_slug") (lit "tenant_id") (lit "tenant_slug") (by decide) org tenant
    (fun k _ => Dict.get?_empty k)
  exact ⟨ht, ho⟩

theorem webauthnDiscoverableBody_levels (h : webauthnDiscoverableBody c w = .ok body) :
    Levels (merged w.tenant ⟨none, some c.tenantSlug⟩) (merged w.org ⟨c.orgId, c.orgSlug⟩) false body := by
  simp only [webauthnDiscoverableBody] at h
  split at h
  · cases h
  · next horg =>
    split at h
    · cases h
    · next htenant =>
      cases h
      obtain ⟨ht, ho⟩ := orgFirst_levels (merged w.tenant ⟨none, some c.tenantSlug⟩) (merged w.org ⟨c.orgId, c.orgSlug⟩)
      exact ⟨ht, ho, fun _ => by simpa using htenant, fun _ => by simpa using horg⟩

/-- **What a builder builds**: at both levels, what was put for the caller's forms merged with the client's. -/
theorem build_levels {b : Builder} (h : b.build c w = .ok body) :
    Levels (merged w.tenant (b.ownTenant c)) (merged w.org (b.ownOrg c)) b.optional body := by
  cases b with
  | ssoStart federationConfigId redirectUri => exact startBody_levels h
  | ssoProviders =>
    cases h
    obtain ⟨ht, ho⟩ := orgFirst_levels (merged w.tenant c.tenant) (merged w.org c.org)
    exact ⟨ht, ho, fun h => Bool.noConfusion h, fun h => Bool.noConfusion h⟩
  | ssoStartOauth2 federationConfigId redirectUri => exact startBody_levels h
  | webauthnDiscoverable => exact webauthnDiscoverableBody_levels h

/-- The body names one form at each level, of the caller wherever the caller supplied one. -/
structure ExplicitWins (b : Builder) (w : Explicit) (body : Dict PyStr PyStr) : Prop where
  tenantForm : OneForm b.optional body (lit "tenant_id") (lit "tenant_slug")
  orgForm : OneForm b.optional body (lit "org_id") (lit "org_slug")
  tenant : CallerWins w.tenant body (lit "tenant_id") (lit "tenant_slug")
  org : CallerWins w.org body (lit "org_id") (lit "org_slug")

/-- **An explicit workspace argument.** It wins in what a builder builds exactly if nothing of the client
stands against it. -/
theorem explicit_wins_iff (b : Builder) (c : Client) (w : Explicit) {body : Dict PyStr PyStr}
    (h : b.build c w = .ok body) :
    ExplicitWins b w body ↔ Unopposed w.tenant (b.ownTenant c) ∧ Unopposed w.org (b.ownOrg c) := by
  have hlevels := build_levels h
  rw [← level_iff hlevels.tenant, ← level_iff hlevels.org]
  constructor
  · intro hwins
    exact ⟨hwins.tenant, hwins.org⟩
  · rintro ⟨htenant, horg⟩
    exact ⟨hlevels.tenant.oneForm hlevels.tenantResolved, hlevels.org.oneForm hlevels.orgResolved, htenant, horg⟩

end Bodies

/-! ## A slug against a resolved id -/

namespace SignedIn

/-- A client that has signed in to its tenant. -/
def client : Client := ⟨lit "acme", some (lit "t1"), none, some (lit "org"), some (lit "o1")⟩

/-- Another tenant, by its slug. -/
def otherSlug : Explicit := ⟨⟨none, some (lit "other")⟩, ⟨none, none⟩⟩

/-- Another tenant, by its id. -/
def otherId : Explicit := ⟨⟨some (lit "t2"), none⟩, ⟨none, none⟩⟩

def params (tenant : PyStr) : Dict PyStr PyStr := (Dict.empty.set (lit "org_id") (lit "o1")).set (lit "tenant_id") tenant

end SignedIn

open SignedIn in
theorem otherId_wins : ExplicitWins .ssoProviders otherId (params (lit "t2")) :=
  (explicit_wins_iff .ssoProviders client otherId rfl).2 ⟨Or.inl (by decide), Or.inr (Or.inl ⟨rfl, rfl⟩)⟩

open SignedIn in
/-- The providers of the client's own tenant are asked for. -/
theorem not_explicit_wins : ¬ ∀ (b : Builder) (c : Client) (w : Explicit) (body : Dict PyStr PyStr),
    b.build c w = .ok body → ExplicitWins b w body := by
  intro h
  have hwins := h .ssoProviders client otherSlug (params (lit "t1")) rfl
  have hid := (hwins.tenant (Or.inr (Option.some_ne_none _)) (lit "t1")).1 rfl
  cases hid

end AxiamSdk.Workspace
