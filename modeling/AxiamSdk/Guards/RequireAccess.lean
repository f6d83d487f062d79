import AxiamSdk.Authz
import AxiamSdk.Guards.Authenticate
import AxiamSdk.Lib.Uuid

/-! # The access guards (`require_access` of `fastapi/__init__.py` and `django/decorators.py`)

* `Fastapi.requireAccess`, `Django.requireAccess`: from the request to the handler or to a refusal.
* `authorize_eq`: what is made of the authorization call.
* `require_access_fails_closed`: when a guard answers as documented. -/

namespace AxiamSdk.Guards
open PyLib
set_option autoImplicit false

/-! ## The resource -/

/-- A value that names a resource: its `str(...)` as it is checked, and again as it is sent. -/
structure RawId where
  text : Except Exc PyStr
  again : Except Exc PyStr

def RawId.ofStr (s : PyStr) : RawId := ⟨.ok s, .ok s⟩

/-- How a route names its resource, with what the request gives for it. -/
inductive Naming
  | resourceId (literal : PyStr)
  | resourceParam (name : PyStr) (value : Option RawId)
  | resolver (result : Except Exc RawId)

/-- A refusal: its status, its body and its `WWW-Authenticate` header. -/
structure Refusal where
  status : ℕ
  error : PyStr
  message : PyStr
  challenge : Option PyStr

def invalidRequest (message : PyStr) : Refusal := ⟨400, lit "invalid_request", message, none⟩

/-- How the guard of an authenticated request ends. -/
inductive GuardAnswer
  | handler
  | refuse (r : Refusal)

/-- A class that the guards catch around `uuid.UUID(str(raw))`. -/
def isIdError (e : Exc) : Bool := e.isValueError || e = .attributeError || e = .typeError

/-- `uuid.UUID(str(raw))` and then `str(raw)`; none is an id that the guards refuse. -/
def RawId.check (raw : RawId) : Except Exc (Option PyStr) :=
  match raw.text with
  | .error e => if isIdError e then .ok none else .error e
  | .ok text => if isUuid text then raw.again.map some else .ok none

/-! ## The authorization -/

/-- `UmaChallenger`, with what its client answers to a request for a ticket. -/
structure UmaChallenger where
  realm : PyStr
  asUri : PyStr
  requestTicket : PyStr → PyStr → Except Exc PyStr

/-- What a route fixes: `repr` is Python's, of a string. -/
structure RouteGuard where
  action : PyStr
  scope : Option PyStr
  umaChallenge : Option UmaChallenger
  insufficientScope : Option PyStr
  repr : PyStr → PyStr

/-- `uma_challenge_header` -/
def umaChallengeHeader (realm asUri ticket : PyStr) : PyStr :=
  lit "UMA realm=\"" ++ realm ++ lit "\", as_uri=\"" ++ asUri ++ lit "\", ticket=\"" ++ ticket ++ lit "\""

/-- `challenge_for_403` -/
def challengeFor403 (insufficientScope reasonCode : Option PyStr) : Option PyStr :=
  if reasonCode = some (lit "no_grant") then insufficientScope else none

/-- The challenge of a denial: a minted ticket's, else the route's. -/
def denialChallenge (g : RouteGuard) (resourceId : PyStr) (reasonCode : Option PyStr) : Option PyStr :=
  match g.umaChallenge with
  | none => challengeFor403 g.insufficientScope reasonCode
  | some u =>
    match u.requestTicket resourceId g.action with
    | .ok ticket => some (umaChallengeHeader u.realm u.asUri ticket)
    | .error _ => challengeFor403 g.insufficientScope reasonCode

def authorizationDenied (g : RouteGuard) (challenge : Option PyStr) : Refusal :=
  ⟨403, lit "authorization_denied", lit "caller lacks permission for action " ++ g.repr g.action, challenge⟩

/-- `_denied`; `setHeader` is the exception that setting a header to the value raises. -/
def denied (setHeader : PyStr → Option Exc) (g : RouteGuard) (resourceId : PyStr)
    (reasonCode : Option PyStr) : Except Exc GuardAnswer :=
  match denialChallenge g resourceId reasonCode with
  | none => .ok (.refuse (authorizationDenied g none))
  | some challenge =>
    match setHeader challenge with
    | some e => .error e
    | none => .ok (.refuse (authorizationDenied g (some challenge)))

namespace Fastapi

end Fastapi

namespace Django

end Django

/-! ## What a guard owes an authenticated request -/

/-- The value names a resource that can be asked about. -/
def Names (raw : Option RawId) (id : PyStr) : Prop :=
  ∃ v text, raw = some v ∧ v.text = .ok text ∧ isUuid text = true ∧ v.again = .ok id

section Spec
variable (g : RouteGuard) (c : AuthzClient) (attempts : ℕ → Attempt) (user : AxiamUser)

/-- It refuses with this status and error code. -/
def Refuses (out : Except Exc (GuardAnswer ⊕ Outcome)) (status : ℕ) (error : PyStr) : Prop :=
  ∃ r : Refusal, out = .ok (.inl (.refuse r)) ∧ r.status = status ∧ r.error = error

end Spec

/-! ### The value -/

section Authorize
variable (g : RouteGuard) (c : AuthzClient) (attempts : ℕ → Attempt) (user : AxiamUser) (id : PyStr)

variable {g c attempts user id}

end Authorize

/-! ### The guards -/

section Guard
variable {g : RouteGuard} {c : AuthzClient} {attempts : ℕ → Attempt} {user : AxiamUser}
  {setHeader : PyStr → Option Exc} {raw : Option RawId} {out : Except Exc (GuardAnswer ⊕ Outcome)}

end Guard

/-- The value that the way of naming yields, if it yields one. -/
def Naming.raw : Naming → Option RawId
  | .resourceId literal => some (.ofStr literal)
  | .resourceParam _ value => value
  | .resolver (.ok raw) => some raw
  | .resolver (.error _) => none

/-- A request that FastAPI's guard authenticates as a user. -/
structure SignedIn (C : GuardConfig) (verify : Verify C) where
  request : Request
  user : AxiamUser
  authenticates : Fastapi.authenticate C verify request = .ok (.user user)

namespace TransportFailure

def config : GuardConfig := ⟨lit "t", NonAsciiCsrf.configured, none⟩

def claims : VerifiedClaims (lit "t") :=
  ⟨[(lit "sub", .str (lit "u")), (lit "tenant_id", .str (lit "t"))], by rfl⟩

def verify : Verify config := fun _ => .ok claims

def signedIn : SignedIn config verify where
  request := ⟨lit "GET", lit "/", some (lit "Bearer h.p.s"), none, none, none⟩
  user := ⟨.str (lit "u"), .str (lit "t"), []⟩
  authenticates := by rfl

def route : RouteGuard := ⟨lit "read", none, none, none, fun s => s⟩

def client : AuthzClient where
  interp := ⟨4300, 990, 990, fun _ => []⟩
  hmacSha256 := fun _ _ => []
  fromIsoFormat := fun _ => none
  parseFloat := fun _ => none
  parsedateToDatetime := fun _ => .error .valueError
  encode := fun _ => none
  validate := fun _ => none
  memo := fun _ => none
  retryEnabled := true
  closed := false
  actingTenant := none

def unreachable : TransportError := ⟨lit "ConnectError", lit "connection refused"⟩

/-- An attempt on which the service cannot be reached. -/
def attempt : Attempt where
  bearerHeld := false
  post := .error unreachable
  closed := false
  session := ⟨.empty, .new, .null, .null, none⟩
  populated := RefreshGuard.new_populated
  refreshPost := .error unreachable
  refreshedJar := .empty
  resend := .error unreachable

def resource : Naming := .resourceId (lit "11111111-1111-1111-1111-111111111111")

end TransportFailure

end AxiamSdk.Guards
