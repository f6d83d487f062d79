import AxiamSdk.Http
import AxiamSdk.Opaque

/-! # OPAQUE login (`login_opaque` of `_client.py` and `_async_client.py`)

* `loginOpaque`: the requests of one login against a server that answers as it likes, and the answer that the
  login result is read from.
* `Falls`: the one case in which the password is sent.
* `opaque_login_hides`: nothing else that is sent depends on the password, beyond what the exchange makes of it. -/

namespace AxiamSdk.Opaque
open PyLib
set_option autoImplicit false

/-! ## The answer to `login/start` -/

/-- Python's `str(v)` and `int(v)` for a JSON value that is no text. -/
structure Coercions where
  str : Json → PyStr
  int : Json → Except Exc ℤ

/-- `str(v)` -/
def Coercions.textOf (C : Coercions) (v : Json) : PyStr := v.asStr?.getD (C.str v)

/-- `opt` of `KsfParams.from_wire` -/
def Coercions.cost (C : Coercions) (wire : List (PyStr × Json)) (name : PyStr) : Except Exc (Option ℤ) :=
  match Json.get wire name with
  | .null => .ok none
  | v => (C.int v).map some

/-- `KsfParams.from_wire` -/
def KsfParams.fromWire (C : Coercions) (wire : List (PyStr × Json)) : Except Exc KsfParams := do
  let memoryKib ← C.cost wire (lit "memory_kib")
  let iterations ← C.cost wire (lit "iterations")
  let parallelism ← C.cost wire (lit "parallelism")
  let logN ← C.cost wire (lit "log_n")
  let r ← C.cost wire (lit "r")
  let p ← C.cost wire (lit "p")
  return ⟨((Assoc.get? wire (lit "ksf")).map C.textOf).getD [], memoryKib, iterations, parallelism, logN, r, p⟩

/-- `OpaqueLoginStart` -/
structure OpaqueLoginStart where
  opaqueSession : PyStr
  ke2 : Option PyStr
  ksf : KsfParams
  mode : Option PyStr

/-- The text of a member that is not null. -/
def Coercions.optional (C : Coercions) (wire : List (PyStr × Json)) (name : PyStr) : Option PyStr :=
  match Json.get wire name with
  | .null => none
  | v => some (C.textOf v)

/-- `OpaqueLoginStart.from_wire` -/
def OpaqueLoginStart.fromWire (C : Coercions) (wire : List (PyStr × Json)) : Except Exc OpaqueLoginStart := do
  let ksf ← KsfParams.fromWire C wire
  return ⟨((Assoc.get? wire (lit "opaque_session")).map C.textOf).getD [], C.optional wire (lit "ke2"), ksf,
    C.optional wire (lit "mode")⟩

/-- `OPAQUE_MODE_OPTIONAL` -/
def opaqueModeOptional : PyStr := lit "optional"

def OpaqueLoginStart.allowsPasswordFallback (started : OpaqueLoginStart) : Bool :=
  decide (started.mode = some opaqueModeOptional)

/-! ## The requests -/

structure Request where
  path : PyStr
  body : List (PyStr × Json)

/-- The workspace of a client. -/
structure Workspace where
  tenantSlug : PyStr
  orgId : Option PyStr
  orgSlug : Option PyStr

/-- A text that Python takes for true. -/
def given (s : Option PyStr) : Option PyStr := s.filter fun s => !s.isEmpty

/-- The organization in a login body. -/
def Workspace.organization (w : Workspace) : List (PyStr × Json) :=
  match given w.orgId, given w.orgSlug with
  | some id, _ => [(lit "org_id", .str id)]
  | none, some slug => [(lit "org_slug", .str slug)]
  | none, none => []

/-- `_login_body` -/
def loginBody (w : Workspace) (email password : PyStr) : List (PyStr × Json) :=
  [(lit "tenant_slug", .str w.tenantSlug), (lit "username_or_email", .str email), (lit "password", .str password)]
    ++ w.organization

/-- `_opaque_login_start_body` -/
def opaqueLoginStartBody (w : Workspace) (usernameOrEmail ke1 : PyStr) : List (PyStr × Json) :=
  Assoc.set (Assoc.erase (loginBody w usernameOrEmail []) (lit "password")) (lit "ke1") (.str ke1)

def loginRequest (w : Workspace) (email password : PyStr) : Request :=
  ⟨lit "/api/v1/auth/login", loginBody w email password⟩

def startRequest (w : Workspace) (usernameOrEmail ke1 : PyStr) : Request :=
  ⟨lit "/api/v1/auth/opaque/login/start", opaqueLoginStartBody w usernameOrEmail ke1⟩

def finishRequest (started : OpaqueLoginStart) (ke3 : PyStr) : Request :=
  ⟨lit "/api/v1/auth/opaque/login/finish",
    [(lit "opaque_session", .str started.opaqueSession), (lit "ke3", .str ke3)]⟩

/-! ## The login -/

/-- An exchange begun with a password: its first message, and what its `finish` makes of the second. -/
structure LoginExchange where
  ke1 : PyStr
  finish : PyStr → KsfParams → Except Exc PyStr

/-- The client, the library behind `start_login`, and a server that answers what has been sent so far. -/
structure World where
  workspace : Workspace
  http : HttpPlatform
  coercions : Coercions
  startLogin : PyStr → Except Exc LoginExchange
  answer : List Request → Except Exc HttpResponse

/-- `error_from_http_status` of a status alone. -/
def errorOfStatus (status : ℕ) (message : PyStr) : Exc :=
  if status = 401 then .authError message none
  else if status = 403 ∨ status = 409 then .authzError message
  else .networkError message none

/-- `_opaque_start_error` -/
def opaqueStartError (status : ℕ) : Exc :=
  if status = 404 then
    .networkError (lit "this tenant does not offer OPAQUE (opaque_mode is disabled); use login() instead") none
  else errorOfStatus status (lit "OPAQUE login/start failed")

/-- `_opaque_finish_login` -/
def opaqueFinishLogin (exchange : LoginExchange) (started : OpaqueLoginStart) : Except Exc PyStr :=
  match started.ke2 with
  | none => .error (.networkError (lit "OPAQUE login/start returned no `ke2`") none)
  | some ke2 =>
    match exchange.finish ke2 started.ksf with
    | .ok ke3 => .ok ke3
    | .error e => .error (if e.isNetworkError || e.isAuthError then e else .authError (lit "invalid credentials") none)

/-- The answer to `login/finish`. -/
def finished (answer : Except Exc HttpResponse) : Except Exc HttpResponse :=
  match answer with
  | .error e => .error e
  | .ok r =>
    if r.status = 200 ∨ r.status = 202 then .ok r
    else .error (errorOfStatus r.status (lit "OPAQUE login/finish failed"))

variable (W : World)

/-- What the answer to `login/start` is read as. -/
def readStart (r : HttpResponse) : Except Exc OpaqueLoginStart :=
  if r.status ≠ 200 then .error (opaqueStartError r.status)
  else
    match r.json W.http.toPlatform with
    | .error e => .error e
    | .ok (.obj wire) => OpaqueLoginStart.fromWire W.coercions wire
    | .ok _ => .error .attributeError

/-- The requests that were sent, and the answer that `_handle_login_response` reads, or what was raised. -/
structure Trace where
  sent : List Request
  result : Except Exc HttpResponse

/-- The login from the answer to its first request. -/
def continueLogin (username password : PyStr) (exchange : LoginExchange) (first : Request)
    (started : OpaqueLoginStart) : Trace :=
  match opaqueFinishLogin exchange started with
  | .ok ke3 =>
    let sent := [first, finishRequest started ke3]
    ⟨sent, finished (W.answer sent)⟩
  | .error e =>
    if e.isAuthError && started.allowsPasswordFallback then
      let sent := [first, loginRequest W.workspace username password]
      ⟨sent, W.answer sent⟩
    else ⟨[first], .error e⟩

/-- `login_opaque` -/
def loginOpaque (username password : PyStr) : Trace :=
  match W.startLogin password with
  | .error e => ⟨[], .error e⟩
  | .ok exchange =>
    let first := startRequest W.workspace username exchange.ke1
    match W.answer [first] with
    | .error e => ⟨[first], .error e⟩
    | .ok r =>
      match readStart W r with
      | .error e => ⟨[first], .error e⟩
      | .ok started => continueLogin W username password exchange first started

/-! ## What is sent -/

/-- The exchange has begun and was answered with what `login/start` answers. -/
def Begun (username password : PyStr) (exchange : LoginExchange) (started : OpaqueLoginStart) : Prop :=
  W.startLogin password = .ok exchange ∧
    ∃ r, W.answer [startRequest W.workspace username exchange.ke1] = .ok r ∧ readStart W r = .ok started

/-- The server has named the mode `optional`, and the exchange has failed for the credentials. -/
def Falls (username password : PyStr) : Prop :=
  ∃ exchange started e, Begun W username password exchange started ∧ opaqueFinishLogin exchange started = .error e ∧
    e.isAuthError = true ∧ started.mode = some opaqueModeOptional

theorem begun_unique {username password : PyStr} {exchange exchange' : LoginExchange}
    {started started' : OpaqueLoginStart} (h : Begun W username password exchange started)
    (h' : Begun W username password exchange' started') : exchange = exchange' ∧ started = started' := by
  obtain ⟨hstart, r, hanswer, hread⟩ := h
  obtain ⟨hstart', r', hanswer', hread'⟩ := h'
  obtain rfl := Except.ok.inj (hstart.symm.trans hstart')
  obtain rfl := Except.ok.inj (hanswer.symm.trans hanswer')
  exact ⟨rfl, Except.ok.inj (hread.symm.trans hread')⟩

/-- How a login goes. -/
inductive Course (username password : PyStr) : Trace → Prop
  | ends (sent : List Request) (e : Exc) (hsent : ∀ request ∈ sent, ∃ ke1,
      request = startRequest W.workspace username ke1) (hkept : ¬ Falls W username password) :
      Course username password ⟨sent, .error e⟩
  | finishes (exchange : LoginExchange) (started : OpaqueLoginStart) (ke3 : PyStr) (result : Except Exc HttpResponse)
      (hbegun : Begun W username password exchange started) (hfinish : opaqueFinishLogin exchange started = .ok ke3) :
      Course username password
        ⟨[startRequest W.workspace username exchange.ke1, finishRequest started ke3], result⟩
  | falls (exchange : LoginExchange) (result : Except Exc HttpResponse) (hfalls : Falls W username password)
      (hstart : W.startLogin password = .ok exchange) :
      Course username password
        ⟨[startRequest W.workspace username exchange.ke1, loginRequest W.workspace username password], result⟩

theorem course (username password : PyStr) : Course W username password (loginOpaque W username password) := by
  unfold loginOpaque
  cases hstart : W.startLogin password with
  | error e =>
    refine .ends [] e ?_ ?_
    · intro request hrequest
      cases hrequest
    · rintro ⟨exchange, started, e', ⟨hbegan, -⟩, -⟩
      rw [hstart] at hbegan
      cases hbegan
  | ok exchange =>
    have hends : ∀ e, ¬ Falls W username password →
        Course W username password ⟨[startRequest W.workspace username exchange.ke1], .error e⟩ := by
      intro e hkept
      refine .ends _ e ?_ hkept
      intro request hrequest
      exact ⟨exchange.ke1, List.mem_singleton.1 hrequest⟩
    have hbegan : ∀ {exchange' started}, Begun W username password exchange' started →
        exchange' = exchange ∧ ∃ r, W.answer [startRequest W.workspace username exchange.ke1] = .ok r ∧
          readStart W r = .ok started := by
      rintro exchange' started ⟨hbegan, hrest⟩
      obtain rfl := Except.ok.inj (hbegan.symm.trans hstart)
      exact ⟨rfl, hrest⟩
    dsimp only
    cases hanswer : W.answer [startRequest W.workspace username exchange.ke1] with
    | error e =>
      refine hends e ?_
      rintro ⟨exchange', started, e', hbegun, -⟩
      obtain ⟨-, r, hr, -⟩ := hbegan hbegun
      rw [hanswer] at hr
      cases hr
    | ok r =>
      dsimp only
      cases hread : readStart W r with
      | error e =>
        refine hends e ?_
        rintro ⟨exchange', started, e', hbegun, -⟩
        obtain ⟨-, r', hr, hread'⟩ := hbegan hbegun
        obtain rfl := Except.ok.inj (hanswer.symm.trans hr)
        rw [hread] at hread'
        cases hread'
      | ok started =>
        have hbegun : Begun W username password exchange started := ⟨hstart, r, hanswer, hread⟩
        dsimp only
        unfold continueLogin
        cases hend : opaqueFinishLogin exchange started with
        | ok ke3 => exact .finishes exchange started ke3 _ hbegun hend
        | error e =>
          dsimp only
          by_cases hboth : (e.isAuthError && started.allowsPasswordFallback) = true
          · rw [if_pos hboth]
            rw [Bool.and_eq_true] at hboth
            exact .falls exchange _ ⟨exchange, started, e, hbegun, hend, hboth.1, of_decide_eq_true hboth.2⟩ hstart
          · rw [if_neg hboth]
            refine hends e ?_
            rintro ⟨exchange', started', e', hbegun', hend', hauth, hmode⟩
            obtain ⟨rfl, rfl⟩ := begun_unique W hbegun hbegun'
            obtain rfl := Except.error.inj (hend.symm.trans hend')
            rw [Bool.and_eq_true] at hboth
            exact hboth ⟨hauth, decide_eq_true hmode⟩

/-- A request that carries a password. -/
def Request.NamesPassword (request : Request) : Prop := lit "password" ∈ request.body.map Prod.fst

theorem startRequest_names (w : Workspace) (username ke1 : PyStr) :
    ¬ (startRequest w username ke1).NamesPassword := by
  have hke1 : lit "ke1" ≠ lit "password" := by decide
  unfold Request.NamesPassword startRequest opaqueLoginStartBody
  dsimp only
  rw [← Assoc.get?_eq_none_iff, Assoc.get?_set, if_neg hke1, Assoc.get?_erase, if_pos rfl]

theorem finishRequest_names (started : OpaqueLoginStart) (ke3 : PyStr) :
    ¬ (finishRequest started ke3).NamesPassword := by
  have hnames : lit "password" ∉ [lit "opaque_session", lit "ke3"] := by decide
  exact hnames

/-- Two passwords with which the exchange shows the same: its first message, and what it makes of the answer. -/
def Alike (username password password' : PyStr) : Prop :=
  ∃ exchange exchange', W.startLogin password = .ok exchange ∧ W.startLogin password' = .ok exchange' ∧
    exchange.ke1 = exchange'.ke1 ∧
    ∀ started, Begun W username password exchange started →
      opaqueFinishLogin exchange started = opaqueFinishLogin exchange' started

/-- A login that does not fall back goes as it does with any other password that is alike. -/
theorem loginOpaque_congr {username password password' : PyStr} (halike : Alike W username password password')
    (hfalls : ¬ Falls W username password) :
    loginOpaque W username password = loginOpaque W username password' := by
  obtain ⟨exchange, exchange', hstart, hstart', hke1, hfinish⟩ := halike
  unfold loginOpaque
  rw [hstart, hstart']
  dsimp only
  rw [← hke1]
  cases hanswer : W.answer [startRequest W.workspace username exchange.ke1] with
  | error e => rfl
  | ok r =>
    dsimp only
    cases hread : readStart W r with
    | error e => rfl
    | ok started =>
      have hbegun : Begun W username password exchange started := ⟨hstart, r, hanswer, hread⟩
      dsimp only
      unfold continueLogin
      rw [← hfinish started hbegun]
      cases hend : opaqueFinishLogin exchange started with
      | ok ke3 => rfl
      | error e =>
        have hkept : ¬ (e.isAuthError && started.allowsPasswordFallback) = true := by
          intro hboth
          rw [Bool.and_eq_true] at hboth
          exact hfalls ⟨exchange, started, e, hbegun, hend, hboth.1, of_decide_eq_true hboth.2⟩
        dsimp only
        rw [if_neg hkept, if_neg hkept]

/-- What the requests of a login show of its password. -/
structure Hides (username password : PyStr) (sent : List Request) : Prop where
  /-- The password is sent in one case, behind the request that began the exchange. -/
  falls : (∃ request ∈ sent, request.NamesPassword) ↔ Falls W username password
  login : Falls W username password → ∃ exchange, W.startLogin password = .ok exchange ∧
    sent = [startRequest W.workspace username exchange.ke1, loginRequest W.workspace username password]
  /-- `login/finish` is sent with what the exchange ended with. -/
  finish : ∀ request ∈ sent, request.path = lit "/api/v1/auth/opaque/login/finish" →
    ∃ exchange started ke3, Begun W username password exchange started ∧
      opaqueFinishLogin exchange started = .ok ke3 ∧ request = finishRequest started ke3
  /-- Otherwise the requests show of the password what the exchange shows. -/
  blind : ∀ password', Alike W username password password' → ¬ Falls W username password →
    sent = (loginOpaque W username password').sent

/-- **`login_opaque`**, whatever the server answers and the library does: the password is sent exactly if the
server has named the mode `optional` and the exchange has failed for the credentials. -/
theorem opaque_login_hides (username password : PyStr) :
    Hides W username password (loginOpaque W username password).sent := by
  have hblind : ∀ password', Alike W username password password' → ¬ Falls W username password →
      (loginOpaque W username password).sent = (loginOpaque W username password').sent := by
    intro password' halike hfalls
    rw [loginOpaque_congr W halike hfalls]
  have hpath : ∀ {ke1 : PyStr},
      (startRequest W.workspace username ke1).path ≠ lit "/api/v1/auth/opaque/login/finish" := by
    intro ke1
    change lit "/api/v1/auth/opaque/login/start" ≠ lit "/api/v1/auth/opaque/login/finish"
    decide
  have hcourse := course W username password
  generalize loginOpaque W username password = trace at hcourse hblind ⊢
  cases hcourse with
  | ends sent e hsent hkept =>
    refine ⟨iff_of_false ?_ hkept, fun hfalls => absurd hfalls hkept, ?_, hblind⟩
    · rintro ⟨request, hrequest, hnames⟩
      obtain ⟨ke1, rfl⟩ := hsent request hrequest
      exact startRequest_names _ _ _ hnames
    · intro request hrequest hfinish
      obtain ⟨ke1, rfl⟩ := hsent request hrequest
      exact absurd hfinish hpath
  | finishes exchange started ke3 result hbegun hfinish =>
    have hkept : ¬ Falls W username password := by
      rintro ⟨exchange', started', e, hbegun', hend, -⟩
      obtain ⟨rfl, rfl⟩ := begun_unique W hbegun hbegun'
      rw [hfinish] at hend
      cases hend
    refine ⟨iff_of_false ?_ hkept, fun hfalls => absurd hfalls hkept, ?_, hblind⟩
    · rintro ⟨request, hrequest, hnames⟩
      rw [List.mem_pair] at hrequest
      obtain rfl | rfl := hrequest
      · exact startRequest_names _ _ _ hnames
      · exact finishRequest_names _ _ hnames
    · intro request hrequest hfinishes
      rw [List.mem_pair] at hrequest
      obtain rfl | rfl := hrequest
      · exact absurd hfinishes hpath
      · exact ⟨exchange, started, ke3, hbegun, hfinish, rfl⟩
  | falls exchange result hfalls hstart =>
    have hnames : (loginRequest W.workspace username password).NamesPassword := by
      unfold Request.NamesPassword loginRequest loginBody
      simp
    refine ⟨iff_of_true ⟨_, List.mem_pair.2 (.inr rfl), hnames⟩ hfalls, fun _ => ⟨exchange, hstart, rfl⟩, ?_,
      hblind⟩
    intro request hrequest hfinishes
    have hlogin : lit "/api/v1/auth/login" ≠ lit "/api/v1/auth/opaque/login/finish" := by decide
    rw [List.mem_pair] at hrequest
    obtain rfl | rfl := hrequest
    · exact absurd hfinishes hpath
    · exact absurd hfinishes hlogin

end AxiamSdk.Opaque
