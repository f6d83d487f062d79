import AxiamSdk.DecisionMemo
import AxiamSdk.Lib.Runs

/-! # The memo across a change of principal (`_client.py`, `_session.py`)

Calls of `check_access` and the operations that establish or end a session, interleaved step by step
over one session and one memo.

* `Operation.program`: what each operation does to the session and the memo, in order.
* `State.epoch`: how often the principal has changed; an `Answer` carries the epoch it was asked in.
* `Honest`: no call returns an answer of an epoch before the one an operation had established by the
  time the call started.
* `memo_respects_principals`: the runs in which the memo keeps this, and how a step outside them
  breaks it. -/

namespace AxiamSdk.PrincipalMemo
open PyLib
set_option autoImplicit false

/-! ## Operations -/

inductive Operation
  | login
  | loginOpaque (passwordFallback : Bool)
  | verifyMfa
  | mfaSetupConfirm
  | webauthnFinish
  | webauthnSetupRegisterFinish
  | authenticateDevice
  | ssoComplete
  | ssoCompleteOauth2
  | ssoCompleteHandoff
  | refresh
  | logout
  deriving DecidableEq

/-- A step of an operation: `exchange` is a request and its answer, whose cookies the shared jar
captures. -/
inductive Action
  | onCredentialChange
  | exchange
  | absorbSessionCookies
  | adoptBearerCredential
  | clearBearerCredential
  deriving DecidableEq

open Action in
/-- The steps of an operation, in the order of its source. -/
def Operation.program : Operation → List Action
  | .login | .verifyMfa | .mfaSetupConfirm | .webauthnFinish | .webauthnSetupRegisterFinish =>
    [onCredentialChange, exchange, absorbSessionCookies]
  | .loginOpaque false => [onCredentialChange, exchange, exchange, absorbSessionCookies]
  | .loginOpaque true =>
    [onCredentialChange, exchange, onCredentialChange, exchange, absorbSessionCookies]
  | .authenticateDevice => [exchange, onCredentialChange, adoptBearerCredential]
  | .ssoComplete | .ssoCompleteOauth2 | .ssoCompleteHandoff => [exchange, absorbSessionCookies]
  | .refresh => [onCredentialChange, exchange]
  | .logout => [onCredentialChange, exchange, clearBearerCredential]

/-- An operation under way: what it has still to do, and the epoch of the last change of principal that
it made. -/
structure Pending where
  program : List Action
  established : ℕ

/-! ## Calls -/

/-- The arguments of `check_access` and the handle's acting tenant. -/
structure Question where
  action : PyStr
  resourceId : PyStr
  scope : Option PyStr
  subjectId : Option PyStr
  actingTenant : Option PyStr

def Question.key (q : Question) : Except Exc PyStr :=
  memoKey q.action q.resourceId q.scope (q.subjectId.map .str) q.actingTenant

/-- A decision of the server, and the epoch in which the request for it was sent. -/
structure Answer (δ : Type) where
  decision : δ
  epoch : ℕ
  deriving DecidableEq

inductive Phase (δ : Type)
  | begun
  | missed
  | sent (epoch : ℕ)
  | received (answer : Answer δ)

/-- A call under way: `floor` is the epoch that completed operations had established at its start. -/
structure Call (δ : Type) where
  key : PyStr
  floor : ℕ
  phase : Phase δ

/-! ## The session -/

/-- Who a credential is issued to. -/
abbrev Principal := PyStr

structure State (δ : Type) where
  memo : DecisionMemo (Answer δ)
  now : Float
  jar : Option Principal
  bearer : Option Principal
  epoch : ℕ
  floor : ℕ
  calls : ℕ → Option (Call δ)
  operations : ℕ → Option Pending
  returned : List (ℕ × Answer δ)

/-- The principal that a request is sent as: the device credential's, else the jar's. -/
def principalOf (jar bearer : Option Principal) : Option Principal := bearer.or jar

def State.new {δ : Type} (ttlMs now : Float) (jar bearer : Option Principal) : State δ :=
  ⟨.new ttlMs, now, jar, bearer, 0, 0, fun _ => none, fun _ => none, []⟩

/-- A step of the session: `c` is a call, `o` an operation. `fail` and `abort` are their exceptions. -/
inductive Event (δ : Type)
  | tick (now : Float)
  | start (c : ℕ) (q : Question)
  | lookup (c : ℕ)
  | send (c : ℕ)
  | receive (c : ℕ) (decision : δ)
  | store (c : ℕ)
  | fail (c : ℕ)
  | begin (o : ℕ) (operation : Operation)
  | onCredentialChange (o : ℕ)
  | exchange (o : ℕ) (captured : Option (Option Principal))
  | absorbSessionCookies (o : ℕ) (completed : Bool)
  | adoptBearerCredential (o : ℕ) (principal : Principal)
  | clearBearerCredential (o : ℕ)
  | finish (o : ℕ)
  | abort (o : ℕ)

section Step
variable {δ : Type}

namespace State

def setCall (s : State δ) (c : ℕ) (call : Option (Call δ)) : State δ :=
  { s with calls := Function.update s.calls c call }

def setOperation (s : State δ) (o : ℕ) (p : Option Pending) : State δ :=
  { s with operations := Function.update s.operations o p }

/-- The call returns the answer. -/
def answer (s : State δ) (c floor : ℕ) (a : Answer δ) : State δ :=
  { s.setCall c none with returned := (floor, a) :: s.returned }

/-- The step of operation `o` that leaves this jar and this device credential. -/
def credential (s : State δ) (o : ℕ) (p : Pending) (rest : List Action) (jar bearer : Option Principal) :
    State δ :=
  if principalOf jar bearer = principalOf s.jar s.bearer then
    { s.setOperation o (some ⟨rest, p.established⟩) with jar := jar, bearer := bearer }
  else
    { s.setOperation o (some ⟨rest, s.epoch + 1⟩) with
      jar := jar, bearer := bearer, epoch := s.epoch + 1 }

end State

/-- The action that an event of an operation is, with the jar and the device credential it leaves. -/
def Event.credentials (s : State δ) : Event δ → Option (ℕ × Action × Option Principal × Option Principal)
  | .exchange o captured => some (o, .exchange, captured.getD s.jar, s.bearer)
  | .absorbSessionCookies o completed =>
    some (o, .absorbSessionCookies, s.jar, if completed then none else s.bearer)
  | .adoptBearerCredential o principal => some (o, .adoptBearerCredential, none, some principal)
  | .clearBearerCredential o => some (o, .clearBearerCredential, s.jar, none)
  | _ => none

/-- An operation's step on the credentials, when it is the next one of its program. -/
def operate (s : State δ) (o : ℕ) (action : Action) (jar bearer : Option Principal) : Option (State δ) :=
  match s.operations o with
  | some ⟨next :: rest, established⟩ =>
    if next = action then some (s.credential o ⟨next :: rest, established⟩ rest jar bearer) else none
  | _ => none

def step (s : State δ) (e : Event δ) : Option (State δ) :=
  match e with
  | .tick now => if s.now ≤ now then some { s with now := now } else none
  | .start c q =>
    match s.calls c, q.key with
    | none, .ok key => some (s.setCall c (some ⟨key, s.floor, .begun⟩))
    | _, _ => none
  | .lookup c =>
    match s.calls c with
    | some ⟨key, floor, .begun⟩ =>
      match s.memo.get key s.now with
      | (some a, memo) => some ({ s with memo := memo }.answer c floor a)
      | (none, memo) => some ({ s with memo := memo }.setCall c (some ⟨key, floor, .missed⟩))
    | _ => none
  | .send c =>
    match s.calls c with
    | some ⟨key, floor, .missed⟩ | some ⟨key, floor, .sent _⟩ =>
      some (s.setCall c (some ⟨key, floor, .sent s.epoch⟩))
    | _ => none
  | .receive c decision =>
    match s.calls c with
    | some ⟨key, floor, .sent epoch⟩ => some (s.setCall c (some ⟨key, floor, .received ⟨decision, epoch⟩⟩))
    | _ => none
  | .store c =>
    match s.calls c with
    | some ⟨key, floor, .received a⟩ =>
      some ({ s with memo := s.memo.set key a s.now }.answer c floor a)
    | _ => none
  | .fail c => (s.calls c).map fun _ => s.setCall c none
  | .begin o operation =>
    match s.operations o with
    | none => some (s.setOperation o (some ⟨operation.program, 0⟩))
    | some _ => none
  | .onCredentialChange o =>
    match s.operations o with
    | some ⟨.onCredentialChange :: rest, established⟩ =>
      some { s.setOperation o (some ⟨rest, established⟩) with memo := s.memo.clear }
    | _ => none
  | .finish o =>
    match s.operations o with
    | some ⟨[], established⟩ => some { s.setOperation o none with floor := max s.floor established }
    | _ => none
  | .abort o => (s.operations o).map fun _ => s.setOperation o none
  | e =>
    match e.credentials s with
    | some (o, action, jar, bearer) => operate s o action jar bearer
    | none => none

/-! ## What the memo owes a call -/

/-- No call has returned an answer older than what was established when it started. -/
def Honest (s : State δ) : Prop := ∀ r ∈ s.returned, r.1 ≤ r.2.epoch

/-- A lookup may still find this answer. -/
def Returnable (s : State δ) (a : Answer δ) : Prop :=
  s.memo.enabled = true ∧ ∃ key storedAt now, s.memo.entries.get? key = some (a, storedAt) ∧
    (now = s.now ∨ s.now ≤ now) ∧ s.memo.expired now storedAt = false

/-- An operation has established this epoch, or will return having established it and without
clearing the memo again. -/
def Owes (s : State δ) (epoch : ℕ) : Prop :=
  epoch = s.floor ∨ ∃ o p, s.operations o = some p ∧ p.established = epoch ∧
    Action.onCredentialChange ∉ p.program

/-- A decision is stored only while the principal it was asked for is in force, and at a change of the
principal by an operation that will not clear the memo any more the memo holds no live entry. -/
def Meets (s : State δ) (e : Event δ) : Prop :=
  (∀ c key floor a, e = .store c → s.calls c = some ⟨key, floor, .received a⟩ → s.memo.enabled = true →
      ∀ epoch, Owes s epoch → epoch ≤ a.epoch) ∧
    ∀ o action jar bearer p rest, e.credentials s = some (o, action, jar, bearer) → s.operations o = some p →
      p.program = action :: rest → Action.onCredentialChange ∉ rest →
      principalOf jar bearer ≠ principalOf s.jar s.bearer → ∀ a, ¬ Returnable s a

/-! ## The steps -/

/-- What a step of the system is. -/
inductive Moved (s : State δ) : Event δ → State δ → Prop
  | tick (now : Float) (later : s.now ≤ now) : Moved s (.tick now) { s with now := now }
  | start (c : ℕ) (q : Question) (key : PyStr) (free : s.calls c = none) (hkey : q.key = .ok key) :
      Moved s (.start c q) (s.setCall c (some ⟨key, s.floor, .begun⟩))
  | hit (c : ℕ) (key : PyStr) (floor : ℕ) (a : Answer δ) (call : s.calls c = some ⟨key, floor, .begun⟩)
      (found : (s.memo.get key s.now).1 = some a) :
      Moved s (.lookup c) ({ s with memo := (s.memo.get key s.now).2 }.answer c floor a)
  | miss (c : ℕ) (key : PyStr) (floor : ℕ) (call : s.calls c = some ⟨key, floor, .begun⟩) :
      Moved s (.lookup c)
        ({ s with memo := (s.memo.get key s.now).2 }.setCall c (some ⟨key, floor, .missed⟩))
  | send (c : ℕ) (key : PyStr) (floor : ℕ) (phase : Phase δ) (call : s.calls c = some ⟨key, floor, phase⟩) :
      Moved s (.send c) (s.setCall c (some ⟨key, floor, .sent s.epoch⟩))
  | receive (c : ℕ) (decision : δ) (key : PyStr) (floor epoch : ℕ)
      (call : s.calls c = some ⟨key, floor, .sent epoch⟩) :
      Moved s (.receive c decision) (s.setCall c (some ⟨key, floor, .received ⟨decision, epoch⟩⟩))
  | store (c : ℕ) (key : PyStr) (floor : ℕ) (a : Answer δ)
      (call : s.calls c = some ⟨key, floor, .received a⟩) :
      Moved s (.store c) ({ s with memo := s.memo.set key a s.now }.answer c floor a)
  | fail (c : ℕ) : Moved s (.fail c) (s.setCall c none)
  | begin (o : ℕ) (operation : Operation) :
      Moved s (.begin o operation) (s.setOperation o (some ⟨operation.program, 0⟩))
  | clear (o : ℕ) (rest : List Action) (established : ℕ)
      (next : s.operations o = some ⟨.onCredentialChange :: rest, established⟩) :
      Moved s (.onCredentialChange o)
        { s.setOperation o (some ⟨rest, established⟩) with memo := s.memo.clear }
  | operate (e : Event δ) (o : ℕ) (action : Action) (rest : List Action) (established : ℕ)
      (jar bearer : Option Principal) (credentials : e.credentials s = some (o, action, jar, bearer))
      (next : s.operations o = some ⟨action :: rest, established⟩) :
      Moved s e (s.credential o ⟨action :: rest, established⟩ rest jar bearer)
  | finish (o established : ℕ) (done : s.operations o = some ⟨[], established⟩) :
      Moved s (.finish o) { s.setOperation o none with floor := max s.floor established }
  | abort (o : ℕ) : Moved s (.abort o) (s.setOperation o none)

theorem operate_moved {s t : State δ} {e : Event δ} {o : ℕ} {action : Action} {jar bearer : Option Principal}
    (hc : e.credentials s = some (o, action, jar, bearer)) (h : operate s o action jar bearer = some t) :
    Moved s e t := by
  unfold operate at h
  split at h
  · next next rest established hop =>
    split at h
    · next hnext =>
      subst hnext
      obtain rfl := Option.some.inj h
      exact .operate e o next rest established jar bearer hc hop
    · cases h
  · cases h

/-- **The inversion of a step.** -/
theorem step_moved {s t : State δ} {e : Event δ} (h : step s e = some t) : Moved s e t := by
  cases e with
  | tick now =>
    simp only [step] at h
    split at h
    · next hle =>
      obtain rfl := Option.some.inj h
      exact .tick now hle
    · cases h
  | start c q =>
    simp only [step] at h
    split at h
    · next key hfree hkey =>
      obtain rfl := Option.some.inj h
      exact .start c q key hfree hkey
    · cases h
  | lookup c =>
    simp only [step] at h
    split at h
    · next key floor hcall =>
      split at h
      · next a memo hget =>
        obtain rfl := Option.some.inj h
        have hfound : (s.memo.get key s.now).1 = some a := by rw [hget]
        have hmoved := Moved.hit c key floor a hcall hfound
        rw [hget] at hmoved
        exact hmoved
      · next memo hget =>
        obtain rfl := Option.some.inj h
        have hmoved := Moved.miss c key floor hcall
        rw [hget] at hmoved
        exact hmoved
    · cases h
  | send c =>
    simp only [step] at h
    split at h
    · next key floor hcall =>
      obtain rfl := Option.some.inj h
      exact .send c key floor _ hcall
    · next key floor epoch hcall =>
      obtain rfl := Option.some.inj h
      exact .send c key floor _ hcall
    · cases h
  | receive c decision =>
    simp only [step] at h
    split at h
    · next key floor epoch hcall =>
      obtain rfl := Option.some.inj h
      exact .receive c decision key floor epoch hcall
    · cases h
  | store c =>
    simp only [step] at h
    split at h
    · next key floor a hcall =>
      obtain rfl := Option.some.inj h
      exact .store c key floor a hcall
    · cases h
  | fail c =>
    simp only [step] at h
    obtain ⟨call, _, rfl⟩ := Option.map_eq_some_iff.1 h
    exact .fail c
  | begin o operation =>
    simp only [step] at h
    split at h
    · obtain rfl := Option.some.inj h
      exact .begin o operation
    · cases h
  | onCredentialChange o =>
    simp only [step] at h
    split at h
    · next rest established hop =>
      obtain rfl := Option.some.inj h
      exact .clear o rest established hop
    · cases h
  | finish o =>
    simp only [step] at h
    split at h
    · next established hop =>
      obtain rfl := Option.some.inj h
      exact .finish o established hop
    · cases h
  | abort o =>
    simp only [step] at h
    obtain ⟨p, _, rfl⟩ := Option.map_eq_some_iff.1 h
    exact .abort o
  | exchange o captured => exact operate_moved rfl h
  | absorbSessionCookies o completed => exact operate_moved rfl h
  | adoptBearerCredential o principal => exact operate_moved rfl h
  | clearBearerCredential o => exact operate_moved rfl h

/-! ## Reading a state after an update -/

theorem calls_setCall {s : State δ} {c c' : ℕ} {call : Option (Call δ)} {found : Call δ}
    (h : (s.setCall c call).calls c' = some found) :
    (c' = c ∧ call = some found) ∨ s.calls c' = some found := by
  by_cases hc : c' = c
  · subst hc
    left
    exact ⟨rfl, by simpa [State.setCall] using h⟩
  · right
    simpa [State.setCall, Function.update_of_ne hc] using h

theorem operations_setOperation {s : State δ} {o o' : ℕ} {p : Option Pending} {found : Pending}
    (h : (s.setOperation o p).operations o' = some found) :
    (o' = o ∧ p = some found) ∨ s.operations o' = some found := by
  by_cases ho : o' = o
  · subst ho
    left
    exact ⟨rfl, by simpa [State.setOperation] using h⟩
  · right
    simpa [State.setOperation, Function.update_of_ne ho] using h

theorem owes_setOperation {s : State δ} {o : ℕ} {p : Option Pending} {e : ℕ}
    (h : Owes (s.setOperation o p) e) :
    Owes s e ∨ ∃ q, p = some q ∧ q.established = e ∧ Action.onCredentialChange ∉ q.program := by
  rcases h with hfloor | ⟨o', q, hq, he, hclear⟩
  · exact Or.inl (Or.inl hfloor)
  · rcases operations_setOperation hq with ⟨_, hp⟩ | hq
    · exact Or.inr ⟨q, hp, he, hclear⟩
    · exact Or.inl (Or.inr ⟨o', q, hq, he, hclear⟩)

theorem returnable_of_get {s : State δ} {key : PyStr} {a : Answer δ} (h : (s.memo.get key s.now).1 = some a) :
    Returnable s a := by
  obtain ⟨henabled, storedAt, hget, hlive⟩ := DecisionMemo.get_some h
  exact ⟨henabled, key, storedAt, s.now, hget, Or.inl rfl, hlive⟩

/-- A memo with the same TTL and no more entries, at no earlier an instant, has no more answers. -/
theorem returnable_mono {s t : State δ} {a : Answer δ} (h : Returnable t a)
    (httl : t.memo.ttlMs = s.memo.ttlMs)
    (hentries : ∀ key entry, t.memo.entries.get? key = some entry → s.memo.entries.get? key = some entry)
    (hnow : t.now = s.now ∨ s.now ≤ t.now) : Returnable s a := by
  obtain ⟨henabled, key, storedAt, now, hget, hlater, hlive⟩ := h
  refine ⟨?_, key, storedAt, now, hentries _ _ hget, ?_, ?_⟩
  · simpa [DecisionMemo.enabled, httl] using henabled
  · rcases hlater with rfl | hlater
    · exact hnow
    · rcases hnow with hnow | hnow
      · exact Or.inr (hnow ▸ hlater)
      · exact Or.inr (FloatOrder.le_trans hnow hlater)
  · simpa [DecisionMemo.expired, httl] using hlive

theorem returnable_set {s : State δ} {key : PyStr} {a b : Answer δ} {calls : ℕ → Option (Call δ)}
    {returned : List (ℕ × Answer δ)}
    (h : Returnable { s with memo := s.memo.set key a s.now, calls := calls, returned := returned } b) :
    Returnable s b ∨ (b = a ∧ s.memo.enabled = true) := by
  obtain ⟨henabled, key', storedAt, now, hget, hlater, hlive⟩ := h
  have hon : s.memo.enabled = true := by simpa [DecisionMemo.enabled] using henabled
  rcases DecisionMemo.set_entries hget with hget | ⟨_, hentry⟩
  · left
    exact ⟨hon, key', storedAt, now, hget, hlater, by simpa [DecisionMemo.expired] using hlive⟩
  · right
    exact ⟨congrArg Prod.fst hentry, hon⟩

/-! ## The shape of a state -/

/-- Every key in use is that of some question, some call is free, and no operation has established an
epoch to come. -/
structure Shaped (s : State δ) : Prop where
  called : ∀ c call, s.calls c = some call → ∃ q : Question, q.key = .ok call.key
  stored : ∀ key entry, s.memo.entries.get? key = some entry → ∃ q : Question, q.key = .ok key
  free : ∃ n, ∀ c, n ≤ c → s.calls c = none
  established : ∀ o p, s.operations o = some p → p.established ≤ s.epoch

theorem shaped_new (ttlMs now : Float) (jar bearer : Option Principal) :
    Shaped (State.new ttlMs now jar bearer : State δ) where
  called := by
    intro c call hc
    cases hc
  stored := by
    intro key entry h
    cases h
  free := ⟨0, fun _ _ => rfl⟩
  established := by
    intro o p hp
    cases hp

theorem shaped_setCall {s : State δ} (hs : Shaped s) {c : ℕ} {call : Option (Call δ)}
    {memo : DecisionMemo (Answer δ)}
    (hcall : ∀ new, call = some new → ∃ q : Question, q.key = .ok new.key)
    (hmemo : ∀ key entry, memo.entries.get? key = some entry → ∃ q : Question, q.key = .ok key) :
    Shaped ({ s with memo := memo }.setCall c call) where
  called := by
    intro c' found hc
    rcases calls_setCall hc with ⟨_, hnew⟩ | hc
    · exact hcall found hnew
    · exact hs.called c' found hc
  stored := hmemo
  free := by
    obtain ⟨n, hn⟩ := hs.free
    refine ⟨max n (c + 1), fun c' hc' => ?_⟩
    have hne : c' ≠ c := by omega
    have hold : s.calls c' = none := hn c' (by omega)
    simpa [State.setCall, Function.update_of_ne hne] using hold
  established := hs.established

theorem established_setOperation {s : State δ} (hs : Shaped s) {o : ℕ} {p : Option Pending} {epoch : ℕ}
    (hle : s.epoch ≤ epoch) (hp : ∀ q, p = some q → q.established ≤ epoch) :
    ∀ o' q, (s.setOperation o p).operations o' = some q → q.established ≤ epoch := by
  intro o' q hq
  rcases operations_setOperation hq with ⟨_, hnew⟩ | hold
  · exact hp q hnew
  · exact Nat.le_trans (hs.established o' q hold) hle

theorem shaped_step {s t : State δ} {e : Event δ} (hs : Shaped s) (h : Moved s e t) : Shaped t := by
  have hkey : ∀ c key floor phase, s.calls c = some ⟨key, floor, phase⟩ → ∃ q : Question, q.key = .ok key :=
    fun c key floor phase hc => hs.called c ⟨key, floor, phase⟩ hc
  cases h with
  | tick now later => exact ⟨hs.called, hs.stored, hs.free, hs.established⟩
  | start c q key free hq =>
    refine shaped_setCall hs ?_ hs.stored
    intro new hnew
    obtain rfl := Option.some.inj hnew
    exact ⟨q, hq⟩
  | hit c key floor a call found =>
    have hset : Shaped ({ s with memo := (s.memo.get key s.now).2 }.setCall c none) :=
      shaped_setCall hs (fun _ hnew => by cases hnew)
        (fun key' entry h => hs.stored key' entry (DecisionMemo.get_entries h))
    exact ⟨hset.called, hset.stored, hset.free, hset.established⟩
  | miss c key floor call =>
    refine shaped_setCall hs ?_ (fun key' entry h => hs.stored key' entry (DecisionMemo.get_entries h))
    intro new hnew
    obtain rfl := Option.some.inj hnew
    exact hkey c key floor _ call
  | send c key floor phase call =>
    refine shaped_setCall hs ?_ hs.stored
    intro new hnew
    obtain rfl := Option.some.inj hnew
    exact hkey c key floor _ call
  | receive c decision key floor epoch call =>
    refine shaped_setCall hs ?_ hs.stored
    intro new hnew
    obtain rfl := Option.some.inj hnew
    exact hkey c key floor _ call
  | store c key floor a call =>
    have hmemo : ∀ key' entry, (s.memo.set key a s.now).entries.get? key' = some entry →
        ∃ q : Question, q.key = .ok key' := by
      intro key' entry h
      rcases DecisionMemo.set_entries h with h | ⟨rfl, _⟩
      · exact hs.stored key' entry h
      · exact hkey c key' floor _ call
    have hset : Shaped ({ s with memo := s.memo.set key a s.now }.setCall c none) :=
      shaped_setCall hs (fun _ hnew => by cases hnew) hmemo
    exact ⟨hset.called, hset.stored, hset.free, hset.established⟩
  | fail c => exact shaped_setCall hs (fun _ hnew => by cases hnew) hs.stored
  | begin o operation =>
    refine ⟨hs.called, hs.stored, hs.free, established_setOperation hs (Nat.le_refl _) ?_⟩
    intro q hq
    obtain rfl := Option.some.inj hq
    exact Nat.zero_le _
  | clear o rest established next =>
    refine ⟨hs.called, fun _ _ h => (by cases h), hs.free, established_setOperation hs (Nat.le_refl _) ?_⟩
    intro q hq
    obtain rfl := Option.some.inj hq
    have hle : established ≤ s.epoch := hs.established o ⟨.onCredentialChange :: rest, established⟩ next
    exact hle
  | operate e o action rest established jar bearer credentials next =>
    unfold State.credential
    split
    · refine ⟨hs.called, hs.stored, hs.free, established_setOperation hs (Nat.le_refl _) ?_⟩
      intro q hq
      obtain rfl := Option.some.inj hq
      have hle : established ≤ s.epoch := hs.established o ⟨action :: rest, established⟩ next
      exact hle
    · refine ⟨hs.called, hs.stored, hs.free, established_setOperation hs (Nat.le_succ _) ?_⟩
      intro q hq
      obtain rfl := Option.some.inj hq
      exact Nat.le_refl _
  | finish o established done =>
    exact ⟨hs.called, hs.stored, hs.free,
      established_setOperation hs (Nat.le_refl _) (fun _ hq => by cases hq)⟩
  | abort o =>
    exact ⟨hs.called, hs.stored, hs.free,
      established_setOperation hs (Nat.le_refl _) (fun _ hq => by cases hq)⟩

/-! ## The invariant -/

/-- What every state of a run has whose steps all meet the condition. -/
structure Inv (s : State δ) : Prop where
  stored : ∀ a, Returnable s a → a.epoch ≤ s.epoch ∧ ∀ e, Owes s e → e ≤ a.epoch
  floor : s.floor ≤ s.epoch
  started : ∀ c call, s.calls c = some call → call.floor ≤ s.floor
  sent : ∀ c key floor e, s.calls c = some ⟨key, floor, .sent e⟩ → floor ≤ e ∧ e ≤ s.epoch
  received : ∀ c key floor a, s.calls c = some ⟨key, floor, .received a⟩ →
    floor ≤ a.epoch ∧ a.epoch ≤ s.epoch
  honest : Honest s

theorem Inv.owed {s : State δ} (hi : Inv s) (hs : Shaped s) {e : ℕ} (h : Owes s e) : e ≤ s.epoch := by
  rcases h with rfl | ⟨o, p, hp, rfl, _⟩
  · exact hi.floor
  · exact hs.established o p hp

theorem inv_new (ttlMs now : Float) (jar bearer : Option Principal) :
    Inv (State.new ttlMs now jar bearer : State δ) where
  stored := by
    rintro a ⟨_, key, storedAt, now', hget, _⟩
    cases hget
  floor := Nat.le_refl 0
  started := by
    intro c call hc
    cases hc
  sent := by
    intro c key floor e hc
    cases hc
  received := by
    intro c key floor a hc
    cases hc
  honest := by
    intro r hr
    cases hr

/-! ### The steps keep the invariant -/

theorem inv_setCall {s : State δ} (hi : Inv s) {c : ℕ} {call : Option (Call δ)} {memo : DecisionMemo (Answer δ)}
    (httl : memo.ttlMs = s.memo.ttlMs)
    (hentries : ∀ key entry, memo.entries.get? key = some entry → s.memo.entries.get? key = some entry)
    (hfloor : ∀ new, call = some new → new.floor ≤ s.floor)
    (hsent : ∀ key floor e, call = some ⟨key, floor, .sent e⟩ → floor ≤ e ∧ e ≤ s.epoch)
    (hreceived : ∀ key floor a, call = some ⟨key, floor, .received a⟩ → floor ≤ a.epoch ∧ a.epoch ≤ s.epoch) :
    Inv ({ s with memo := memo }.setCall c call) where
  stored := fun a ha => hi.stored a (returnable_mono ha httl hentries (Or.inl rfl))
  floor := hi.floor
  started := by
    intro c' found hc
    rcases calls_setCall hc with ⟨_, hnew⟩ | hc
    · exact hfloor found hnew
    · exact hi.started c' found hc
  sent := by
    intro c' key floor e hc
    rcases calls_setCall hc with ⟨_, hnew⟩ | hc
    · exact hsent key floor e hnew
    · exact hi.sent c' key floor e hc
  received := by
    intro c' key floor a hc
    rcases calls_setCall hc with ⟨_, hnew⟩ | hc
    · exact hreceived key floor a hnew
    · exact hi.received c' key floor a hc
  honest := hi.honest

theorem honest_cons {s : State δ} (h : Honest s) {floor : ℕ} {a : Answer δ} (ha : floor ≤ a.epoch) :
    ∀ r ∈ (floor, a) :: s.returned, r.1 ≤ r.2.epoch := by
  intro r hr
  rcases List.mem_cons.1 hr with rfl | hr
  · exact ha
  · exact h r hr

theorem inv_setOperation {s : State δ} (hi : Inv s) {o : ℕ} {p : Option Pending}
    (howes : ∀ e, Owes (s.setOperation o p) e → Owes s e ∨ e = 0) : Inv (s.setOperation o p) where
  stored := by
    intro a ha
    refine ⟨(hi.stored a ha).1, fun e he => ?_⟩
    rcases howes e he with he | rfl
    · exact (hi.stored a ha).2 e he
    · exact Nat.zero_le _
  floor := hi.floor
  started := hi.started
  sent := hi.sent
  received := hi.received
  honest := hi.honest

theorem inv_credential {s : State δ} (hi : Inv s) {o established : ℕ} {action : Action} {rest : List Action}
    {jar bearer : Option Principal} (hnext : s.operations o = some ⟨action :: rest, established⟩)
    (haction : action ≠ .onCredentialChange)
    (hmeets : Action.onCredentialChange ∉ rest → principalOf jar bearer ≠ principalOf s.jar s.bearer →
      ∀ a, ¬ Returnable s a) : Inv (s.credential o ⟨action :: rest, established⟩ rest jar bearer) := by
  unfold State.credential
  split
  · -- the principal stays: the operation owes what it owed
    have hset : Inv (s.setOperation o (some ⟨rest, established⟩)) := by
      refine inv_setOperation hi (fun e he => Or.inl ?_)
      rcases owes_setOperation he with he | ⟨q, hq, rfl, hclear⟩
      · exact he
      · obtain rfl := Option.some.inj hq
        exact Or.inr ⟨o, _, hnext, rfl, by simpa [haction.symm] using hclear⟩
    exact ⟨hset.stored, hset.floor, hset.started, hset.sent, hset.received, hset.honest⟩
  · next hne =>
    have hle : s.epoch ≤ s.epoch + 1 := Nat.le_succ _
    constructor
    · intro a ha
      refine ⟨Nat.le_trans (hi.stored a ha).1 hle, fun e he => ?_⟩
      have howes : Owes (s.setOperation o (some ⟨rest, s.epoch + 1⟩)) e := he
      rcases owes_setOperation howes with he | ⟨q, hq, rfl, hclear⟩
      · exact (hi.stored a ha).2 e he
      · obtain rfl := Option.some.inj hq
        exact absurd ha (hmeets hclear hne a)
    · exact Nat.le_trans hi.floor hle
    · exact hi.started
    · exact fun c key floor e hc =>
        ⟨(hi.sent c key floor e hc).1, Nat.le_trans (hi.sent c key floor e hc).2 hle⟩
    · exact fun c key floor a hc =>
        ⟨(hi.received c key floor a hc).1, Nat.le_trans (hi.received c key floor a hc).2 hle⟩
    · exact hi.honest

theorem credentials_action {s : State δ} {e : Event δ} {o : ℕ} {action : Action} {jar bearer : Option Principal}
    (h : e.credentials s = some (o, action, jar, bearer)) : action ≠ .onCredentialChange := by
  cases e <;> simp only [Event.credentials, Option.some.injEq, Prod.mk.injEq, reduceCtorEq] at h
  all_goals
    obtain ⟨_, rfl, _⟩ := h
    decide

theorem inv_step {s t : State δ} {e : Event δ} (hs : Shaped s) (hi : Inv s) (hmeets : Meets s e) (h : Moved s e t) :
    Inv t := by
  cases h with
  | tick now later =>
    refine ⟨fun a ha => hi.stored a ?_, hi.floor, hi.started, hi.sent, hi.received, hi.honest⟩
    exact returnable_mono ha rfl (fun _ _ h => h) (Or.inr later)
  | start c q key free hkey =>
    refine inv_setCall hi rfl (fun _ _ h => h) ?_ ?_ ?_
    · intro new hnew
      obtain rfl := Option.some.inj hnew
      exact Nat.le_refl _
    · intro _ _ _ hnew
      cases hnew
    · intro _ _ _ hnew
      cases hnew
  | hit c key floor a call found =>
    have hfound := returnable_of_get found
    have hfloor : floor ≤ a.epoch :=
      Nat.le_trans (hi.started c _ call) ((hi.stored a hfound).2 s.floor (Or.inl rfl))
    have hset : Inv ({ s with memo := (s.memo.get key s.now).2 }.setCall c none) :=
      inv_setCall hi (by simp) (fun _ _ => DecisionMemo.get_entries)
        (fun _ hnew => by cases hnew) (fun _ _ _ hnew => by cases hnew) (fun _ _ _ hnew => by cases hnew)
    exact ⟨hset.stored, hset.floor, hset.started, hset.sent, hset.received,
      honest_cons hi.honest hfloor⟩
  | miss c key floor call =>
    have hfloor : floor ≤ s.floor := hi.started c ⟨key, floor, .begun⟩ call
    refine inv_setCall hi (by simp) (fun _ _ => DecisionMemo.get_entries) ?_ ?_ ?_
    · intro new hnew
      obtain rfl := Option.some.inj hnew
      exact hfloor
    · intro _ _ _ hnew
      cases hnew
    · intro _ _ _ hnew
      cases hnew
  | send c key floor phase call =>
    have hfloor : floor ≤ s.floor := hi.started c _ call
    refine inv_setCall hi rfl (fun _ _ h => h) ?_ ?_ ?_
    · intro new hnew
      obtain rfl := Option.some.inj hnew
      exact hfloor
    · intro _ _ _ hnew
      cases hnew
      exact ⟨Nat.le_trans hfloor hi.floor, Nat.le_refl _⟩
    · intro _ _ _ hnew
      cases hnew
  | receive c decision key floor epoch call =>
    have hfloor : floor ≤ s.floor := hi.started c ⟨key, floor, .sent epoch⟩ call
    refine inv_setCall hi rfl (fun _ _ h => h) ?_ ?_ ?_
    · intro new hnew
      obtain rfl := Option.some.inj hnew
      exact hfloor
    · intro _ _ _ hnew
      cases hnew
    · intro _ _ _ hnew
      cases hnew
      exact hi.sent c key floor epoch call
  | store c key floor a call =>
    have hbase : Inv (s.setCall c none) :=
      inv_setCall hi rfl (fun _ _ h => h) (fun _ hnew => by cases hnew) (fun _ _ _ hnew => by cases hnew)
        (fun _ _ _ hnew => by cases hnew)
    refine ⟨?_, hbase.floor, hbase.started, hbase.sent, hbase.received,
      honest_cons hi.honest (hi.received c key floor a call).1⟩
    intro b hb
    rcases returnable_set hb with hb | ⟨rfl, henabled⟩
    · exact hi.stored b hb
    · exact ⟨(hi.received c key floor b call).2, hmeets.1 c key floor b rfl call henabled⟩
  | fail c =>
    exact inv_setCall hi rfl (fun _ _ h => h) (fun _ hnew => by cases hnew) (fun _ _ _ hnew => by cases hnew)
      (fun _ _ _ hnew => by cases hnew)
  | begin o operation =>
    refine inv_setOperation hi (fun e he => ?_)
    rcases owes_setOperation he with he | ⟨q, hq, rfl, _⟩
    · exact Or.inl he
    · obtain rfl := Option.some.inj hq
      exact Or.inr rfl
  | clear o rest established next =>
    refine ⟨?_, hi.floor, hi.started, hi.sent, hi.received, hi.honest⟩
    rintro a ⟨_, key, storedAt, now, hget, _⟩
    cases hget
  | operate e o action rest established jar bearer credentials next =>
    exact inv_credential hi next (credentials_action credentials)
      (hmeets.2 o action jar bearer _ rest credentials next rfl)
  | finish o established done =>
    have howed : Owes s established := Or.inr ⟨o, _, done, rfl, by simp⟩
    have hset : Inv (s.setOperation o none) := by
      refine inv_setOperation hi (fun e he => Or.inl ?_)
      rcases owes_setOperation he with he | ⟨_, hq, _⟩
      · exact he
      · cases hq
    refine ⟨?_, ?_, ?_, hset.sent, hset.received, hset.honest⟩
    · intro a ha
      refine ⟨(hset.stored a ha).1, fun e he => ?_⟩
      rcases he with rfl | ⟨o', q, hq⟩
      · exact Nat.max_le.2 ⟨(hi.stored a ha).2 _ (Or.inl rfl), (hi.stored a ha).2 _ howed⟩
      · exact (hset.stored a ha).2 e (Or.inr ⟨o', q, hq⟩)
    · exact Nat.max_le.2 ⟨hi.floor, hi.owed hs howed⟩
    · exact fun c call hc => Nat.le_trans (hi.started c call hc) (Nat.le_max_left _ _)
  | abort o =>
    refine inv_setOperation hi (fun e he => Or.inl ?_)
    rcases owes_setOperation he with he | ⟨_, hq, _⟩
    · exact he
    · cases hq

/-! ## What a stale answer leads to -/

/-- A call that starts now may be given an answer of before what is established. -/
theorem stale_returned {s : State δ} (hs : Shaped s) {a : Answer δ} (ha : Returnable s a)
    (hstale : a.epoch < s.floor) : ∃ es t, Run (fnStep step) s es t ∧ ¬ Honest t := by
  obtain ⟨henabled, key, storedAt, now, hget, hlater, hlive⟩ := ha
  obtain ⟨q, hq⟩ := hs.stored key _ hget
  obtain ⟨c, hfree⟩ := hs.free
  have hc : s.calls c = none := hfree c (Nat.le_refl c)
  -- the clock reaches the instant at which the entry is live
  have hclock : ∃ es, Run (fnStep step) s es { s with now := now } := by
    rcases hlater with rfl | hlater
    · exact ⟨[], Run.nil s⟩
    · refine ⟨[.tick now], Run.single ?_⟩
      simp [fnStep, step, hlater]
  obtain ⟨es, hes⟩ := hclock
  have hstart : fnStep step { s with now := now } (.start c q)
      ({ s with now := now }.setCall c (some ⟨key, s.floor, .begun⟩)) := by
    simp [fnStep, step, hc, hq]
  have hlookup : fnStep step ({ s with now := now }.setCall c (some ⟨key, s.floor, .begun⟩)) (.lookup c)
      (({ s with now := now }.setCall c (some ⟨key, s.floor, .begun⟩)).answer c s.floor a) := by
    have hfound := DecisionMemo.get_live henabled hget hlive
    simp [fnStep, step, State.setCall, hfound]
  refine ⟨es ++ [.start c q, .lookup c], _, hes.append (Run.cons hstart (Run.single hlookup)), ?_⟩
  intro hhonest
  have hle := hhonest (s.floor, a) (List.mem_cons_self ..)
  exact absurd hstale (by simpa using hle)

/-- An operation that will not clear the memo any more can be completed with the memo as it is. -/
theorem operation_completes (program : List Action) :
    ∀ (s : State δ) (o established : ℕ), Action.onCredentialChange ∉ program →
      s.operations o = some ⟨program, established⟩ → established ≤ s.epoch →
      ∃ es t established', Run (fnStep step) s es t ∧ t.operations o = some ⟨[], established'⟩ ∧
        established ≤ established' ∧ t.memo = s.memo ∧ t.now = s.now ∧ t.calls = s.calls := by
  induction program with
  | nil =>
    intro s o established _ hop _
    exact ⟨[], s, established, Run.nil s, hop, Nat.le_refl _, rfl, rfl, rfl⟩
  | cons action rest ih =>
    intro s o established hclear hop hle
    rw [List.mem_cons, not_or] at hclear
    -- one event performs the action
    have hevent : ∃ (e : Event δ) (jar bearer : Option Principal),
        e.credentials s = some (o, action, jar, bearer) ∧ step s e = operate s o action jar bearer := by
      cases action with
      | onCredentialChange => exact absurd rfl hclear.1
      | exchange => exact ⟨.exchange o none, _, _, rfl, rfl⟩
      | absorbSessionCookies => exact ⟨.absorbSessionCookies o false, _, _, rfl, rfl⟩
      | adoptBearerCredential => exact ⟨.adoptBearerCredential o [], _, _, rfl, rfl⟩
      | clearBearerCredential => exact ⟨.clearBearerCredential o, _, _, rfl, rfl⟩
    obtain ⟨e, jar, bearer, _, hstep⟩ := hevent
    have hmove : fnStep step s e (s.credential o ⟨action :: rest, established⟩ rest jar bearer) := by
      rw [fnStep, hstep]
      simp [operate, hop]
    have hnext : ∃ established', (s.credential o ⟨action :: rest, established⟩ rest jar bearer).operations o =
          some ⟨rest, established'⟩ ∧ established ≤ established' ∧
        established' ≤ (s.credential o ⟨action :: rest, established⟩ rest jar bearer).epoch ∧
        (s.credential o ⟨action :: rest, established⟩ rest jar bearer).memo = s.memo ∧
        (s.credential o ⟨action :: rest, established⟩ rest jar bearer).now = s.now ∧
        (s.credential o ⟨action :: rest, established⟩ rest jar bearer).calls = s.calls := by
      unfold State.credential
      split
      · exact ⟨established, by simp [State.setOperation], Nat.le_refl _, hle, rfl, rfl, rfl⟩
      · exact ⟨s.epoch + 1, by simp [State.setOperation], Nat.le_trans hle (Nat.le_succ _), Nat.le_refl _,
          rfl, rfl, rfl⟩
    obtain ⟨established₁, hop₁, hle₁, hepoch₁, hmemo₁, hnow₁, hcalls₁⟩ := hnext
    obtain ⟨es, t, established', hrun, hop', hle', hmemo, hnow, hcalls⟩ :=
      ih _ o established₁ hclear.2 hop₁ hepoch₁
    exact ⟨e :: es, t, established', Run.cons hmove hrun, hop', Nat.le_trans hle₁ hle',
      hmemo.trans hmemo₁, hnow.trans hnow₁, hcalls.trans hcalls₁⟩

theorem owed_returned {s : State δ} (hs : Shaped s) {a : Answer δ} (ha : Returnable s a) {epoch : ℕ} (howed : Owes s epoch) (hstale : a.epoch < epoch) :
    ∃ es t, Run (fnStep step) s es t ∧ ¬ Honest t := by
  rcases howed with rfl | ⟨o, ⟨program, established⟩, hop, rfl, hclear⟩
  · exact stale_returned hs ha hstale
  · obtain ⟨es, t, established', hrun, hop', hle, hmemo, hnow, hcalls⟩ :=
      operation_completes program s o established hclear hop (hs.established o _ hop)
    have hfinish : fnStep step t (.finish o)
        { t.setOperation o none with floor := max t.floor established' } := by
      simp [fnStep, step, hop']
    have htshaped : Shaped t := hrun.invariant (fun _ _ _ h hstep => shaped_step h (step_moved hstep)) hs
    have hshaped : Shaped { t.setOperation o none with floor := max t.floor established' } := by
      refine ⟨?_, ?_, ?_, ?_⟩
      · show ∀ c call, t.calls c = some call → _
        rw [hcalls]
        exact hs.called
      · show ∀ key entry, t.memo.entries.get? key = some entry → _
        rw [hmemo]
        exact hs.stored
      · show ∃ n, ∀ c, n ≤ c → t.calls c = none
        rw [hcalls]
        exact hs.free
      · exact fun o' q hq => (htshaped.established o' q) (by
          rcases operations_setOperation hq with ⟨_, hnone⟩ | hq
          · cases hnone
          · exact hq)
    have hreturnable : Returnable { t.setOperation o none with floor := max t.floor established' } a := by
      unfold Returnable
      show t.memo.enabled = true ∧ ∃ key storedAt now, t.memo.entries.get? key = some (a, storedAt) ∧
        (now = t.now ∨ t.now ≤ now) ∧ t.memo.expired now storedAt = false
      rw [hmemo, hnow]
      exact ha
    obtain ⟨es', u, hrun', hdishonest⟩ := stale_returned hshaped hreturnable
      (Nat.lt_of_lt_of_le hstale (Nat.le_trans hle (Nat.le_max_right _ _)))
    exact ⟨es ++ (.finish o :: es'), u, hrun.append (Run.cons hfinish hrun'), hdishonest⟩

/-- A step that does not meet the condition leaves an answer that is older than what is owed. -/
theorem breach_stale {s t : State δ} (hi : Inv s) {e : Event δ} (h : Moved s e t) (hbreach : ¬ Meets s e) :
    ∃ a epoch, Returnable t a ∧ Owes t epoch ∧ a.epoch < epoch := by
  by_cases hstore : ∀ c key floor a, e = .store c → s.calls c = some ⟨key, floor, .received a⟩ →
      s.memo.enabled = true → ∀ epoch, Owes s epoch → epoch ≤ a.epoch
  · have hchange : ¬ ∀ o action jar bearer p rest, e.credentials s = some (o, action, jar, bearer) →
        s.operations o = some p → p.program = action :: rest → Action.onCredentialChange ∉ rest →
        principalOf jar bearer ≠ principalOf s.jar s.bearer → ∀ a, ¬ Returnable s a :=
      fun hall => hbreach ⟨hstore, hall⟩
    push Not at hchange
    obtain ⟨o, action, jar, bearer, ⟨program, established⟩, rest, hcred, hop, rfl, hclear, hne, a, ha⟩ := hchange
    have ht : t = s.credential o ⟨action :: rest, established⟩ rest jar bearer := by
      cases h with
      | operate _ o' action' rest' established' jar' bearer' hcred' hop' =>
        rw [hcred] at hcred'
        obtain ⟨rfl, rfl, rfl, rfl⟩ : o = o' ∧ action = action' ∧ jar = jar' ∧ bearer = bearer' := by
          simpa using hcred'
        rw [hop] at hop'
        obtain ⟨rfl, rfl⟩ : rest = rest' ∧ established = established' := by simpa using hop'
        rfl
      | _ => cases hcred
    subst ht
    refine ⟨a, s.epoch + 1, ?_, ?_, Nat.lt_succ_of_le (hi.stored a ha).1⟩
    · unfold State.credential
      rw [if_neg hne]
      exact ha
    · unfold State.credential
      rw [if_neg hne]
      exact Or.inr ⟨o, ⟨rest, s.epoch + 1⟩, by simp [State.setOperation], rfl, hclear⟩
  · push Not at hstore
    obtain ⟨c, key, floor, a, rfl, hcall, henabled, epoch, howed, hlt⟩ := hstore
    cases h with
    | store _ key' floor' a' hcall' =>
      rw [hcall] at hcall'
      obtain ⟨rfl, rfl, rfl⟩ : key = key' ∧ floor = floor' ∧ a = a' := by simpa using hcall'
      refine ⟨a, epoch, ⟨?_, key, s.now, s.now, DecisionMemo.set_self henabled, Or.inl rfl, ?_⟩, howed, hlt⟩
      · simpa [DecisionMemo.enabled, State.answer, State.setCall] using henabled
      · simpa [DecisionMemo.expired, State.answer, State.setCall] using DecisionMemo.expired_self henabled s.now
    | operate _ o action rest established jar bearer hcred hop => cases hcred

/-- **No call is answered for a previous principal** in a run whose steps all meet the condition; and
after such a run a step that does not meet it can be continued to a call that is. -/
theorem memo_respects_principals {ttlMs now : Float} {jar bearer : Option Principal} {es : List (Event δ)}
    {s : State δ} (h : Run (guarded (fnStep step) Meets) (State.new ttlMs now jar bearer) es s) :
    Honest s ∧ ∀ e t, step s e = some t → ¬ Meets s e →
      ∃ es' u, Run (fnStep step) t es' u ∧ ¬ Honest u := by
  have hkeeps : ∀ (s : State δ) (e : Event δ) (t : State δ), Shaped s ∧ Inv s →
      guarded (fnStep step) Meets s e t → Shaped t ∧ Inv t := by
    rintro s e t ⟨hs, hi⟩ ⟨hstep, hmeets⟩
    have hmoved := step_moved hstep
    exact ⟨shaped_step hs hmoved, inv_step hs hi hmeets hmoved⟩
  have hkept := Run.invariant hkeeps h ⟨shaped_new ttlMs now jar bearer, inv_new ttlMs now jar bearer⟩
  obtain ⟨hshaped, hinv⟩ := hkept
  refine ⟨hinv.honest, fun e t hstep hbreach => ?_⟩
  have hmoved := step_moved hstep
  obtain ⟨a, epoch, ha, howed, hstale⟩ := breach_stale hinv hmoved hbreach
  exact owed_returned (shaped_step hshaped hmoved) ha howed hstale

/-! ### Two runs -/

/-- A test of the condition: the memo is empty when the credentials change, and a decision is stored in
the epoch it was asked in. -/
def plainly (s : State δ) (e : Event δ) : Bool :=
  match e with
  | .store c =>
    match s.calls c with
    | some ⟨_, _, .received a⟩ => decide (a.epoch = s.epoch)
    | _ => true
  | e => (e.credentials s).isNone || s.memo.entries.items.isEmpty

theorem plainly_meets {s : State δ} (hs : Shaped s) (hi : Inv s) {e : Event δ} (h : plainly s e = true) :
    Meets s e := by
  constructor
  · rintro c key floor a rfl hcall _ epoch howed
    simp only [plainly, hcall, decide_eq_true_eq] at h
    rw [h]
    exact hi.owed hs howed
  · intro o action jar bearer p rest hcred _ _ _ _
    have hempty : s.memo.entries.items = [] := by
      cases e with
      | store c => cases hcred
      | _ => simpa [plainly, hcred] using h
    rintro a ⟨_, key, storedAt, now, hget, _⟩
    rw [← Dict.mem_iff_get?, hempty] at hget
    cases hget

/-- The steps that pass the test. -/
def plainStep (s : State δ) (e : Event δ) : Option (State δ) := if plainly s e then step s e else none

theorem plain_guarded {s t : State δ} {es : List (Event δ)} (hs : Shaped s) (hi : Inv s)
    (h : Run (fnStep plainStep) s es t) : Run (guarded (fnStep step) Meets) s es t ∧ Shaped t ∧ Inv t := by
  induction h with
  | nil => exact ⟨Run.nil _, hs, hi⟩
  | snoc _ hstep ih =>
    obtain ⟨hrun, hs', hi'⟩ := ih
    simp only [fnStep, plainStep, Option.ite_none_right_eq_some] at hstep
    have hmeets := plainly_meets hs' hi' hstep.1
    have hmoved := step_moved hstep.2
    exact ⟨hrun.snoc ⟨hstep.2, hmeets⟩, shaped_step hs' hmoved, inv_step hs' hi' hmeets hmoved⟩

end Step

namespace Login

def question : Question := ⟨lit "read", lit "r", none, none, none⟩

/-- A login as this principal. -/
def login (o : ℕ) (principal : Principal) : List (Event Bool) :=
  [.begin o .login, .onCredentialChange o, .exchange o (some (some principal)),
    .absorbSessionCookies o true, .finish o]

/-- A question that the server answers, and the same question again, answered by the memo. -/
def askTwice (c : ℕ) : List (Event Bool) :=
  [.start c question, .lookup c, .send c, .receive c true, .store c, .start c question, .lookup c]

end Login

open Login in
theorem login_respects_principals : ∃ s : State Bool,
    Run (guarded (fnStep step) Meets) (State.new 1000.0 0.0 none none)
      (login 0 (lit "ann") ++ askTwice 1 ++ login 2 (lit "ben")) s ∧
    (s.returned.map fun r => r.2.epoch) = [1, 1] ∧ s.epoch = 2 ∧
    (Honest s ∧ ∀ e t, step s e = some t → ¬ Meets s e → ∃ es u, Run (fnStep step) t es u ∧ ¬ Honest u) := by
  have hexec : ((exec plainStep (State.new 1000.0 0.0 none none : State Bool)
      (login 0 (lit "ann") ++ askTwice 1 ++ login 2 (lit "ben"))).map fun s =>
        (s.returned.map fun r => r.2.epoch, s.epoch)) = some ([1, 1], 2) := by
    decide +kernel
  obtain ⟨s, hs, hread⟩ := Option.map_eq_some_iff.1 hexec
  have hrun := (plain_guarded (shaped_new _ _ _ _) (inv_new _ _ _ _) (exec_run hs)).1
  exact ⟨s, hrun, congrArg Prod.fst hread, congrArg Prod.snd hread, memo_respects_principals hrun⟩

open Login in
/-- A login through single sign-on clears no memo: the next call is answered for the principal before. -/
theorem not_memo_respects_principals : ¬ ∀ (ttlMs now : Float) (jar bearer : Option Principal)
    (es : List (Event Bool)) (s : State Bool),
    Run (fnStep step) (State.new ttlMs now jar bearer) es s → Honest s := by
  intro hall
  have hexec : ((exec step (State.new 1000.0 0.0 none none : State Bool)
      (login 0 (lit "ann") ++ askTwice 1 ++ [.begin 2 .ssoComplete, .exchange 2 (some (some (lit "ben"))),
        .absorbSessionCookies 2 true, .finish 2, .start 3 question, .lookup 3])).map fun s =>
        decide ((2, ⟨true, 1⟩) ∈ s.returned)) = some true := by
    decide +kernel
  obtain ⟨s, hs, hreturned⟩ := Option.map_eq_some_iff.1 hexec
  have hhonest := hall 1000.0 0.0 none none _ s (exec_run hs) (2, ⟨true, 1⟩) (of_decide_eq_true hreturned)
  exact absurd hhonest (by decide)

end AxiamSdk.PrincipalMemo
