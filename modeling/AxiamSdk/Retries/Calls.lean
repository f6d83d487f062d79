import AxiamSdk.Retries.Policy

/-! # The calls under the policy (`management/_request.py`, `management/_errors.py`, `_client.py`)

* `sendManagement`, `checkAccessRun`, `batchCheck`: the calls, with the attempts that they make.
* `checkAccessRun_result`: the result of a check is that of `checkAccess`.
* `Call`: a call that is retried; `made_of_onWire`: its attempts are those of the policy. -/

namespace AxiamSdk.Retries
open PyLib
set_option autoImplicit false

/-! ## Management calls -/

/-- `FieldError` -/
structure FieldError where
  field : PyStr
  message : PyStr

/-- What a failed management answer raises: `NotFoundError` and `ConflictError` are `AuthzError`s,
`ValidationError` is a `NetworkError`. -/
inductive ManagementError
  | notFound (operation message : PyStr)
  | conflict (operation message : PyStr) (reasonCode : Option PyStr)
  | validation (operation : PyStr) (status : ℕ) (message : PyStr) (fields : List FieldError)
  | raised (e : Exc)

/-- Its class. -/
def ManagementError.exc : ManagementError → Exc
  | .notFound _ message => .authzError message
  | .conflict _ message _ => .authzError message
  | .validation _ _ message _ => .networkError message none
  | .raised e => e

/-- `ManagementMethod` -/
inductive ManagementMethod
  | get | post | put | patch | delete
  deriving DecidableEq

/-- `ManagementCall` -/
structure ManagementCall where
  operation : PyStr
  method : ManagementMethod
  pathTemplate : PyStr
  path : PyStr
  query : List (PyStr × Option PyStr)
  body : Json

/-- `params` -/
def ManagementCall.params (call : ManagementCall) : List (PyStr × PyStr) :=
  call.query.filterMap (fun q => q.2.map (fun v => (q.1, v)))

/-- The client, its session and what it calls: `buildRequest` is the exception that building a request
raises, `repr` the text of a value that is no string (`none` is a `RecursionError`), `validateBatch` the
model validation of a batch answer. The HTTP library and the date parser raise no class of the SDK. -/
structure ApiClient extends AuthzClient where
  jar : CookieJar
  bearerToken : Option PyStr
  buildRequest : ManagementMethod → PyStr → List (PyStr × PyStr) → Json → Option Exc
  repr : Json → Option PyStr
  validateBatch : List (PyStr × Json) → Option (List AccessResult)
  enabled : retryEnabled = true
  encode_foreign : ∀ {body e}, encode body = some e → e.isNetworkError = false
  build_foreign : ∀ {method path params body e}, buildRequest method path params body = some e →
    e.isNetworkError = false
  date_foreign : ∀ {s e}, parsedateToDatetime s = .error e → e.isNetworkError = false

/-- One attempt, with the text of its answer as the HTTP library decodes it. -/
structure WireAttempt extends Attempt where
  text : Except TransportError PyStr

/-- `str(v)` -/
def strOf (c : ApiClient) (v : Json) : Except Exc PyStr :=
  match v with
  | .str s => .ok s
  | v =>
    match c.repr v with
    | some s => .ok s
    | none => .error .recursionError

/-- `_body` -/
def bodyOf (P : Platform) (r : HttpResponse) : Except Exc Json :=
  match r.json P with
  | .ok body => .ok body
  | .error e => if e.isValueError then .ok .null else .error e

/-- The server's complaint: the `message` of a body, or its `error`, if that is a text. -/
def complaint (body : Json) : Option PyStr :=
  match body with
  | .obj ms =>
    match if (Json.get ms (lit "message")).truthy then Json.get ms (lit "message")
      else Json.get ms (lit "error") with
    | .str (ch :: rest) => some (ch :: rest)
    | _ => none
  | _ => none

/-- `_describe` -/
def describe (P : Platform) (r : HttpResponse) (text : Except TransportError PyStr) : Except Exc PyStr :=
  match bodyOf P r with
  | .error e => .error e
  | .ok body =>
    match complaint body with
    | some message => .ok (lit ": " ++ message)
    | none =>
      match text with
      | .error t => .error t.exc
      | .ok text =>
        match body, text with
        | .null, ch :: rest => .ok (lit ": " ++ (ch :: rest).take 200)
        | _, _ => .ok []

/-- `_reason_code` -/
def reasonCode (body : Json) : Option PyStr :=
  match body with
  | .obj ms =>
    match Json.get ms (lit "reason_code") with
    | .str (ch :: rest) => some (ch :: rest)
    | _ => none
  | _ => none

/-- The entries of a list of field errors that name their field, with the value of their message. -/
def fieldEntry (entry : Json) : Option (PyStr × Json) :=
  match entry with
  | .obj ms =>
    match Json.get ms (lit "field") with
    | .str field => some (field, (Assoc.get? ms (lit "message")).getD (.str []))
    | _ => none
  | _ => none

/-- The entries of `errors` in the two shapes that are read. -/
def fieldEntries (body : Json) : List (PyStr × Json) :=
  match body with
  | .obj ms =>
    match Json.get ms (lit "errors") with
    | .arr entries => entries.filterMap fieldEntry
    | .obj fields => fields.filter (fun f => f.2.asStr?.isSome)
    | _ => []
  | _ => []

def fieldErrors (c : ApiClient) : List (PyStr × Json) → Except Exc (List FieldError)
  | [] => .ok []
  | (field, value) :: rest =>
    match strOf c value with
    | .error e => .error e
    | .ok message =>
      match fieldErrors c rest with
      | .error e => .error e
      | .ok errors => .ok (⟨field, message⟩ :: errors)

/-- `parse_field_errors` -/
def parseFieldErrors (c : ApiClient) (body : Json) : Except Exc (List FieldError) :=
  fieldErrors c (fieldEntries body)

/-- `_raise_for_status` -/
def raiseForStatus (c : ApiClient) (call : ManagementCall) (r : HttpResponse)
    (text : Except TransportError PyStr) : Except ManagementError Unit :=
  if 200 ≤ r.status ∧ r.status < 300 then .ok ()
  else
    match describe c.toPlatform r text with
    | .error e => .error (.raised e)
    | .ok detail =>
      if r.status = 404 then
        .error (.notFound call.operation
          (call.operation ++ lit ": not found (or not visible to this tenant)" ++ detail))
      else if r.status = 409 then
        match bodyOf c.toPlatform r with
        | .error e => .error (.raised e)
        | .ok body =>
          .error (.conflict call.operation (call.operation ++ lit ": conflict" ++ detail) (reasonCode body))
      else if r.status = 400 ∨ r.status = 422 then
        match bodyOf c.toPlatform r with
        | .error e => .error (.raised e)
        | .ok body =>
          match parseFieldErrors c body with
          | .error e => .error (.raised e)
          | .ok fields =>
            .error (.validation call.operation r.status
              (call.operation ++ lit ": request rejected" ++ detail) fields)
      else .error (.raised (raisedForStatus c.toHttpPlatform (call.operation ++ detail) r))

/-- `_parsed` -/
def parsed (P : Platform) (r : HttpResponse) : Except Exc Json :=
  if r.status = 204 ∨ r.body = [] then .ok .null else r.json P

/-- `_require_session` -/
def requireSession (c : ApiClient) (call : ManagementCall) : Except Exc Unit :=
  match cookieValue c.jar accessCookie, c.bearerToken with
  | some (_ :: _), _ => .ok ()
  | _, some _ => .ok ()
  | _, none =>
    .error (.authError (call.operation ++
      lit ": no active session — call login() before using the management API") none)

/-- What a management call makes of its answer. -/
def readManagement (c : ApiClient) (call : ManagementCall) (a : WireAttempt) (r : HttpResponse) :
    Except Exc Json :=
  match raiseForStatus c call r a.text with
  | .error e => .error e.exc
  | .ok () => parsed c.toPlatform r

/-- The `attempt` of `send_management` -/
def managementAttempt (c : ApiClient) (call : ManagementCall) (a : WireAttempt) : Except Exc Json :=
  match c.buildRequest call.method call.path call.params call.body with
  | some e => .error e
  | none =>
    match answerOf c.toAuthzClient a.toAttempt with
    | .error e => .error e
    | .ok r => readManagement c call a r

/-- `send_management` -/
def sendManagement (c : ApiClient) (call : ManagementCall) (attempts : ℕ → WireAttempt)
    (rand : ℕ → Float) : Run Json :=
  if c.closed then .unsent (.error closedError)
  else
    match requireSession c call with
    | .error e => .unsent (.error e)
    | .ok () =>
      if call.method ≠ .get then ⟨1, [], managementAttempt c call (attempts 1)⟩
      else retryRun c.retryEnabled (fun k => managementAttempt c call (attempts k)) rand

/-! ## Authorization calls -/

/-- `_authz_post_sync` -/
def authzPost (c : ApiClient) (body : List (PyStr × Json)) (attempts : ℕ → WireAttempt)
    (rand : ℕ → Float) : Run Json :=
  retryRun c.retryEnabled (fun k => authzPostOnce c.toAuthzClient body (attempts k).toAttempt) rand

/-- `check_access` -/
def checkAccessRun (c : ApiClient) (attempts : ℕ → WireAttempt) (rand : ℕ → Float)
    (action resourceId : PyStr) (scope : Option PyStr) (subjectId : Option Json) : Run AccessResult :=
  if c.closed then .unsent (.error closedError)
  else
    match memoKey action resourceId scope subjectId c.actingTenant with
    | .error e => .unsent (.error e)
    | .ok key =>
      match c.memo key with
      | some result => .unsent (.ok result)
      | none =>
        (authzPost c (accessCheckBody action resourceId scope subjectId) attempts rand).bind
          (accessResult c.toAuthzClient)

/-- `AccessCheck` -/
structure AccessCheck where
  action : PyStr
  resourceId : PyStr
  scope : Option PyStr

/-- `model_dump(exclude_none=True)` -/
def AccessCheck.dump (check : AccessCheck) : Json :=
  .obj ([(lit "action", .str check.action), (lit "resource_id", .str check.resourceId)]
    ++ (check.scope.map (fun s => (lit "scope", Json.str s))).toList)

def batchBody (checks : List AccessCheck) : List (PyStr × Json) :=
  [(lit "checks", .arr (checks.map AccessCheck.dump))]

/-- `BatchCheckResult(**wire).results` -/
def batchResult (c : ApiClient) (wire : Json) : Except Exc (List AccessResult) :=
  match wire with
  | .obj ms =>
    match c.validateBatch ms with
    | some results => .ok results
    | none => .error .valueError
  | _ => .error .typeError

/-- `batch_check` -/
def batchCheck (c : ApiClient) (attempts : ℕ → WireAttempt) (rand : ℕ → Float)
    (checks : List AccessCheck) : Run (List AccessResult) :=
  if c.closed then .unsent (.error closedError)
  else (authzPost c (batchBody checks) attempts rand).bind (batchResult c)

theorem checkAccessRun_result (c : ApiClient) (attempts : ℕ → WireAttempt) (rand : ℕ → Float)
    (action resourceId : PyStr) (scope : Option PyStr) (subjectId : Option Json) :
    (checkAccessRun c attempts rand action resourceId scope subjectId).result =
      checkAccess c.toAuthzClient (fun k => (attempts k).toAttempt) action resourceId scope subjectId := by
  unfold checkAccessRun checkAccess
  split
  · rfl
  · cases memoKey action resourceId scope subjectId c.actingTenant with
    | error e => rfl
    | ok key =>
      cases hm : c.memo key with
      | some result => simp [hm, Run.unsent]
      | none =>
        simp only [hm, bind_result, authzPost, retryRun_result]
        cases retrySync c.retryEnabled _ <;> rfl

/-! ## The calls that are retried -/

/-- A call that runs under the policy. -/
inductive Call
  | management (call : {call : ManagementCall // call.method = .get})
  | checkAccess (action resourceId : PyStr) (scope : Option PyStr) (subjectId : Option Json)
  | batchCheck (checks : List AccessCheck)

namespace Call

/-- How many attempts it makes. -/
def made (c : ApiClient) (attempts : ℕ → WireAttempt) (rand : ℕ → Float) : Call → ℕ
  | management call => (sendManagement c call.1 attempts rand).made
  | checkAccess action resourceId scope subjectId =>
    (checkAccessRun c attempts rand action resourceId scope subjectId).made
  | batchCheck checks => (Retries.batchCheck c attempts rand checks).made

/-- It passes what is checked before the first attempt. -/
def OnWire (c : ApiClient) : Call → Prop
  | management call => c.closed = false ∧ requireSession c call.1 = .ok ()
  | checkAccess action resourceId scope subjectId =>
    OnTheWire c.toAuthzClient action resourceId scope subjectId
  | batchCheck _ => c.closed = false

/-- The exception that building its request raises. -/
def unbuilt (c : ApiClient) : Call → Option Exc
  | management call => c.buildRequest call.1.method call.1.path call.1.params call.1.body
  | checkAccess action resourceId scope subjectId =>
    c.encode (accessCheckBody action resourceId scope subjectId)
  | batchCheck checks => c.encode (batchBody checks)

/-- What an attempt makes of its answer. -/
def read (c : ApiClient) (a : WireAttempt) (r : HttpResponse) : Call → Except Exc Json
  | management call => readManagement c call.1 a r
  | _ =>
    if r.status < 200 ∨ 300 ≤ r.status then
      .error (raisedForStatus c.toHttpPlatform (lit "authz check failed") r)
    else r.json c.toPlatform

/-- One attempt of it. -/
def attempt (c : ApiClient) (call : Call) (a : WireAttempt) : Except Exc Json :=
  match call.unbuilt c with
  | some e => .error e
  | none =>
    match answerOf c.toAuthzClient a.toAttempt with
    | .error e => .error e
    | .ok r => call.read c a r

theorem attempt_authz (c : ApiClient) (call : Call) (body : List (PyStr × Json)) (a : WireAttempt)
    (hbuilt : call.unbuilt c = c.encode body)
    (hread : ∀ r, call.read c a r =
      if r.status < 200 ∨ 300 ≤ r.status then
        .error (raisedForStatus c.toHttpPlatform (lit "authz check failed") r)
      else r.json c.toPlatform) :
    call.attempt c a = authzPostOnce c.toAuthzClient body a.toAttempt := by
  unfold attempt authzPostOnce
  rw [hbuilt]
  cases c.encode body with
  | some e => rfl
  | none =>
    cases answerOf c.toAuthzClient a.toAttempt with
    | error e => rfl
    | ok r => exact hread r

theorem made_of_onWire {c : ApiClient} {call : Call} (h : call.OnWire c) (attempts : ℕ → WireAttempt)
    (rand : ℕ → Float) :
    call.made c attempts rand = (retryRun true (fun k => call.attempt c (attempts k)) rand).made := by
  cases call with
  | management m =>
    obtain ⟨hopen, hsession⟩ := h
    have hget := m.2
    simp only [made, sendManagement, hopen, hsession, hget, c.enabled, Bool.false_eq_true, if_false, ne_eq,
      not_true_eq_false]
    rfl
  | checkAccess action resourceId scope subjectId =>
    obtain ⟨hopen, key, hkey, hmiss⟩ := h
    simp only [made, checkAccessRun, hopen, hkey, hmiss, Bool.false_eq_true, if_false, bind_made, authzPost,
      c.enabled]
    refine congrArg (fun op => (retryRun true op rand).made) (funext fun k => ?_)
    exact (attempt_authz c _ _ _ rfl fun _ => rfl).symm
  | batchCheck checks =>
    simp only [OnWire] at h
    simp only [made, Retries.batchCheck, h, Bool.false_eq_true, if_false, bind_made, authzPost, c.enabled]
    refine congrArg (fun op => (retryRun true op rand).made) (funext fun k => ?_)
    exact (attempt_authz c _ _ _ rfl fun _ => rfl).symm

theorem made_of_not_onWire {c : ApiClient} {call : Call} (h : ¬ call.OnWire c) (attempts : ℕ → WireAttempt)
    (rand : ℕ → Float) : call.made c attempts rand = 0 := by
  cases hclosed : c.closed with
  | true => cases call <;> simp [made, sendManagement, checkAccessRun, Retries.batchCheck, hclosed]
  | false =>
    cases call with
    | management m =>
      cases hs : requireSession c m.1 with
      | error e => simp [made, sendManagement, hclosed, hs]
      | ok u => exact absurd ⟨hclosed, hs⟩ h
    | checkAccess action resourceId scope subjectId =>
      cases hkey : memoKey action resourceId scope subjectId c.actingTenant with
      | error e => simp [made, checkAccessRun, hclosed, hkey]
      | ok key =>
        cases hm : c.memo key with
        | some result => simp [made, checkAccessRun, hclosed, hkey, hm]
        | none => exact absurd ⟨hclosed, key, hkey, hm⟩ h
    | batchCheck checks => exact absurd hclosed h

end Call

end AxiamSdk.Retries
