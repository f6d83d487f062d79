import AxiamSdk.Amqp.ReactorProtocol

/-! # Dispatching a reactor delivery (`amqp/_reactor.py`)

`dispatchReactorDelivery` takes one delivery from its bytes to its `ack` or `nack`, and records
what it asks of the broker on the way. `dispatch_settles` says exactly when it settles the
delivery and returns. -/

namespace AxiamSdk.Amqp
open PyLib
set_option autoImplicit false

/-! ## The dispatch -/

inductive ReactorMode
  | intercept | listen
  deriving DecidableEq, Repr

/-- `_DispatchContext`, apart from the nonce store, the logger and the telemetry. -/
structure DispatchContext where
  signingKey : Bytes
  tenantId : PyStr
  mode : ReactorMode
  skewSeconds : Float

/-- `ReactorDelivery` -/
structure ReactorDelivery where
  body : Bytes
  replyTo : Option PyStr
  correlationId : Option PyStr

/-- How the handler ends inside the window: a decision, an exception, or the timeout. -/
inductive Answer
  | decided (d : ReactorDecision)
  | raised
  | timedOut

/-- The readings of one dispatch: the event loop's clock at its start and when the reply is ready,
the wall clock, the monotonic clock of the nonce store, and the reply's stamp. -/
structure Readings where
  started : Float
  ready : Float
  now : ℤ
  monotonic : Float
  stamp : ReplyStamp

/-- What a dispatch asks of the broker. -/
inductive BrokerCall
  | ack
  | nack
  | publishReply (replyQueue : PyStr) (correlationId : PyStr) (body : Bytes)

/-- `LOGIN_POST_AUTH` -/
def loginPostAuth : PyStr := lit "login.post_auth"

/-- `decision.kind` as it goes on the wire. -/
def DecisionKind.wire : DecisionKind → PyStr
  | .allow => lit "allow"
  | .deny => lit "deny"
  | .mutate => lit "mutate"
  | .abstain => lit "abstain"

/-- The patch a decision publishes. -/
def ReactorDecision.wirePatch (d : ReactorDecision) : Option (Dict PyStr PyStr) :=
  if d.kind = .mutate then some (d.patch.getD Dict.empty) else none

/-- The reason a decision publishes. -/
def ReactorDecision.wireReason (d : ReactorDecision) : Option PyStr :=
  if d.kind = .deny then d.reason else none

/-- The refusals that publish nothing: an abstention, an empty mutation, a step-up elsewhere than
on `login.post_auth`. -/
def refusedLocally (event : ReactorEvent) (d : ReactorDecision) : Bool :=
  decide (d.kind = .abstain) ||
    decide (d.kind = .mutate ∧ (d.patch.getD Dict.empty).items = []) ||
    (d.requireMfa && decide (event.event ≠ loginPostAuth))

/-- `_publish_answer`: the publications it makes. A publication that fails is caught. -/
def publishAnswer (P : Platform) (delivery : ReactorDelivery) (ctx : DispatchContext)
    (event : ReactorEvent) (d : ReactorDecision) (deadline : Float) (r : Readings) :
    Except Exc (List BrokerCall) :=
  if refusedLocally event d then .ok []
  else
    let unsigned := buildReactorReply event.correlationId event.tenantId event.event d.kind.wire
      d.wireReason d.wirePatch d.requireMfa r.stamp
    match signReactorReply P unsigned ctx.signingKey with
    | .error e => .error e
    | .ok reply =>
      if deadline ≤ r.ready then .ok []
      else match delivery.replyTo with
        | none => .ok []
        | some [] => .ok []
        | some replyTo =>
          let correlation := match delivery.correlationId with
            | none => event.correlationId
            | some [] => event.correlationId
            | some c => c
          match reactorReplyBytes P reply with
          | .error e => .error e
          | .ok body => .ok [.publishReply replyTo correlation body]

/-- The result of a dispatch: what it asked of the broker, and the exception it ended with. -/
structure Dispatched where
  calls : List BrokerCall
  raised : Option Exc
  nonceStore : NonceStore

/-- The part after the checks: run the handler, publish, acknowledge. -/
def answerEvent (P : Platform) (delivery : ReactorDelivery) (ctx : DispatchContext)
    (event : ReactorEvent) (answer : Answer) (r : Readings) (store : NonceStore) : Dispatched :=
  match event.timeoutSeconds with
  | none => ⟨[], some .overflowError, store⟩
  | some timeout =>
    match ctx.mode, answer with
    | .intercept, .decided d =>
      match publishAnswer P delivery ctx event d (r.started + timeout) r with
      | .error e => ⟨[], some e, store⟩
      | .ok calls => ⟨calls ++ [.ack], none, store⟩
    | _, _ => ⟨[.ack], none, store⟩

/-- `dispatch_reactor_delivery` -/
def dispatchReactorDelivery (P : Platform) (delivery : ReactorDelivery) (ctx : DispatchContext)
    (store : NonceStore) (answer : Answer) (r : Readings) : Dispatched :=
  let reject (store : NonceStore) : Dispatched := ⟨[.nack], none, store⟩
  match P.loads delivery.body with
  | .error e => if e.isValueError then reject store else ⟨[], some e, store⟩
  | .ok (.obj body) =>
    match verifyEvent P body ctx.signingKey r.now ctx.skewSeconds with
    | .error e => ⟨[], some e, store⟩
    | .ok (.error _) => reject store
    | .ok (.ok event) =>
      match store.checkAndRecord event.nonce r.monotonic with
      | (false, store) => reject store
      | (true, store) =>
        if event.tenantId ≠ ctx.tenantId then reject store
        else answerEvent P delivery ctx event answer r store
  | .ok _ => reject store

/-! ## Settlement -/

def BrokerCall.isSettlement : BrokerCall → Bool
  | .ack | .nack => true
  | .publishReply .. => false

/-- The dispatch returned, after one `ack` or `nack` and no other. -/
def Settled (d : Dispatched) : Prop := d.raised = none ∧ (d.calls.filter BrokerCall.isSettlement).length = 1

/-- A text of the published answer holds a surrogate: the reason of a denial, or the patch. -/
def uncleanAnswer (d : ReactorDecision) : Bool :=
  !(d.wireReason.all noSurrogate && d.wirePatch.all cleanPatch)

/-- What leaves a delivery unsettled: a body nested too deep to parse; a body with a `key_version` of
at least 2 and a string `hmac_signature` that cannot be re-serialized; a verified, unreplayed event of
this tenant whose `timeout_ms` is too large for a float, or whose intercepting handler answers with a
text that holds a surrogate. -/
def Unsettling (P : Platform) (delivery : ReactorDelivery) (ctx : DispatchContext)
    (store : NonceStore) (answer : Answer) (r : Readings) : Prop :=
  P.loads delivery.body = .error .recursionError ∨
  ∃ body, P.loads delivery.body = .ok (.obj body) ∧
    ((ReachesMac body ∧ encodable P.interp (unsignedBody body) = false) ∨
    ∃ event, verifyEvent P body ctx.signingKey r.now ctx.skewSeconds = .ok (.ok event) ∧
      (store.checkAndRecord event.nonce r.monotonic).1 = true ∧ event.tenantId = ctx.tenantId ∧
      (event.timeoutSeconds = none ∨
        ∃ d, answer = .decided d ∧ ctx.mode = .intercept ∧ refusedLocally event d = false ∧
          uncleanAnswer d = true))

/-! ### The parts -/

theorem set_hmac_get {body : List (PyStr × Json)} {k : PyStr} (hk : lit "hmac_signature" ≠ k) :
    Json.get (Assoc.set body (lit "hmac_signature") .null) k = Json.get body k :=
  Json.get_set_ne body .null hk

/-- The texts of a verified event are clean, and its payload is a nested object. -/
theorem verified_clean {P : Platform} {body : List (PyStr × Json)} {key : Bytes} {now : ℤ}
    {skew : Float} {e : ReactorEvent} (h : verifyEvent P body key now skew = .ok (.ok e)) :
    noSurrogate e.correlationId = true ∧ noSurrogate e.tenantId = true ∧
      noSurrogate e.event = true ∧ 2 ≤ P.interp.dumpsDepth := by
  obtain ⟨henc, ht, hev, hc, hp⟩ := verifyEvent_ok h
  simp only [encodable, unsignedBody, Bool.and_eq_true, Json.clean] at henc
  obtain ⟨⟨hd, _⟩, hclean⟩ := henc
  have hdepth := of_decide_eq_true hd
  have hget := fun k => Json.clean_of_get hclean k
  have h1 := hget (lit "correlation_id")
  have h2 := hget (lit "tenant_id")
  have h3 := hget (lit "event")
  have h4 := Json.depth_get_le (Assoc.set body (lit "hmac_signature") .null) (lit "payload")
  rw [set_hmac_get (by decide), hc] at h1
  rw [set_hmac_get (by decide), ht] at h2
  rw [set_hmac_get (by decide), hev] at h3
  rw [set_hmac_get (by decide), hp, Json.depth] at h4
  rw [Json.depth] at hdepth
  exact ⟨h1, h2, h3, by omega⟩

theorem noSurrogate_wire (k : DecisionKind) : noSurrogate k.wire = true := by
  cases k <;> exact noSurrogate_lit _

/-- Publishing raises exactly when the answer is published and holds a surrogate, and settles
nothing itself. -/
theorem publishAnswer_spec {P : Platform} {event : ReactorEvent}
    (hc : noSurrogate event.correlationId = true) (ht : noSurrogate event.tenantId = true)
    (he : noSurrogate event.event = true) (hdepth : 2 ≤ P.interp.dumpsDepth)
    (delivery : ReactorDelivery) (ctx : DispatchContext) (d : ReactorDecision) (deadline : Float)
    (r : Readings) :
    (refusedLocally event d = false ∧ uncleanAnswer d = true ∧
      ∃ e, publishAnswer P delivery ctx event d deadline r = .error e) ∨
    (¬ (refusedLocally event d = false ∧ uncleanAnswer d = true) ∧
      ∃ calls, publishAnswer P delivery ctx event d deadline r = .ok calls ∧
        calls.filter BrokerCall.isSettlement = []) := by
  unfold publishAnswer
  cases hr : refusedLocally event d with
  | true => exact Or.inr ⟨by simp, [], by simp⟩
  | false =>
    have hsign := signReactorReply_isOk event.correlationId event.tenantId event.event d.kind.wire
      d.wireReason d.wirePatch d.requireMfa r.stamp hdepth ctx.signingKey
    rw [cleanReply, hc, ht, he, noSurrogate_wire] at hsign
    simp only [Bool.false_eq_true, if_false]
    cases hs : signReactorReply P (buildReactorReply event.correlationId event.tenantId event.event
        d.kind.wire d.wireReason d.wirePatch d.requireMfa r.stamp) ctx.signingKey with
    | error e =>
      rw [hs] at hsign
      have hun : uncleanAnswer d = true := by
        rw [uncleanAnswer, Bool.not_eq_true']
        simpa [isOk] using hsign.symm
      exact Or.inl ⟨trivial, hun, e, rfl⟩
    | ok reply =>
      rw [hs] at hsign
      have hun : uncleanAnswer d = false := by
        rw [uncleanAnswer, Bool.not_eq_false']
        simpa [isOk] using hsign.symm
      refine Or.inr ⟨by simp [hun], ?_⟩
      have hbytes := reactorReplyBytes_isOk event.correlationId event.tenantId event.event
        d.kind.wire d.wireReason d.wirePatch d.requireMfa r.stamp hdepth hs
      dsimp only
      split
      · exact ⟨[], rfl, rfl⟩
      split
      · exact ⟨[], rfl, rfl⟩
      · exact ⟨[], rfl, rfl⟩
      · cases hb : reactorReplyBytes P reply with
        | error e =>
          rw [hb] at hbytes
          cases hbytes
        | ok b => exact ⟨_, rfl, rfl⟩

theorem settled_ack (calls : List BrokerCall) (store : NonceStore)
    (h : calls.filter BrokerCall.isSettlement = []) : Settled ⟨calls ++ [.ack], none, store⟩ := by
  refine ⟨rfl, ?_⟩
  rw [List.filter_append, h]
  rfl

theorem settled_nack (store : NonceStore) : Settled ⟨[.nack], none, store⟩ := ⟨rfl, rfl⟩

theorem not_settled_raised (calls : List BrokerCall) (e : Exc) (store : NonceStore) :
    ¬ Settled ⟨calls, some e, store⟩ := by
  rintro ⟨h, _⟩
  cases h

/-- A verified event of this tenant is settled unless its window overflows or its answer cannot be
signed. -/
theorem answerEvent_settled {P : Platform} {event : ReactorEvent}
    (hc : noSurrogate event.correlationId = true) (ht : noSurrogate event.tenantId = true)
    (he : noSurrogate event.event = true) (hdepth : 2 ≤ P.interp.dumpsDepth)
    (delivery : ReactorDelivery) (ctx : DispatchContext) (answer : Answer) (r : Readings)
    (store : NonceStore) :
    Settled (answerEvent P delivery ctx event answer r store) ↔
      ¬ (event.timeoutSeconds = none ∨ ∃ d, answer = .decided d ∧ ctx.mode = .intercept ∧
        refusedLocally event d = false ∧ uncleanAnswer d = true) := by
  unfold answerEvent
  cases event.timeoutSeconds with
  | none =>
    simp only [true_or, not_true_eq_false, iff_false]
    exact not_settled_raised _ _ _
  | some timeout =>
    have hack : Settled ⟨[.ack], none, store⟩ := settled_ack [] store rfl
    cases hm : ctx.mode with
    | listen =>
      cases answer <;> simpa using hack
    | intercept =>
      cases answer with
      | raised => simpa using hack
      | timedOut => simpa using hack
      | decided d =>
        rcases publishAnswer_spec hc ht he hdepth delivery ctx d (r.started + timeout) r with
          ⟨hr, hu, e, hpub⟩ | ⟨hno, calls, hpub, hcalls⟩
        · have hraise : ¬ Settled ⟨[], some e, store⟩ := not_settled_raised _ _ _
          simpa [hpub, hr, hu] using hraise
        · have hset := settled_ack calls store hcalls
          simp only [hpub]
          refine ⟨fun _ => ?_, fun _ => hset⟩
          rintro (hnone | ⟨d', hd', _, hr, hu⟩)
          · cases hnone
          · cases hd'
            exact hno ⟨hr, hu⟩

/-! ### The whole dispatch -/

/-- **When a reactor delivery is settled.** The dispatch returns after exactly one `ack` or `nack`
unless the delivery is one of the `Unsettling` ones, and on those it never does. -/
theorem dispatch_settles (P : Platform) (delivery : ReactorDelivery) (ctx : DispatchContext)
    (store : NonceStore) (answer : Answer) (r : Readings) :
    Settled (dispatchReactorDelivery P delivery ctx store answer r) ↔
      ¬ Unsettling P delivery ctx store answer r := by
  unfold dispatchReactorDelivery Unsettling
  cases hl : P.loads delivery.body with
  | error e =>
    rcases loads_error hl with hv | rfl
    · have hne : e ≠ .recursionError := by
        rintro rfl
        cases hv
      simpa [hv, hne] using settled_nack store
    · simpa [Exc.isValueError] using not_settled_raised [] .recursionError store
  | ok v =>
    cases v with
    | obj body =>
      have hraise := verifyEvent_isOk P body ctx.signingKey r.now ctx.skewSeconds
      cases hv : verifyEvent P body ctx.signingKey r.now ctx.skewSeconds with
      | error e =>
        rw [hv] at hraise
        have hbad := hraise.1 rfl
        simpa [hv, hbad] using not_settled_raised [] e store
      | ok res =>
        rw [hv] at hraise
        have hgood : ¬ (ReachesMac body ∧ encodable P.interp (unsignedBody body) = false) :=
          fun hb => absurd (hraise.2 hb) (by simp [isOk])
        cases res with
        | error rejection => simpa [hv, hgood] using settled_nack store
        | ok event =>
          obtain ⟨hc, ht, he, hdepth⟩ := verified_clean hv
          cases hcheck : store.checkAndRecord event.nonce r.monotonic with
          | mk fresh store' =>
            cases fresh with
            | false => simpa [hv, hgood, hcheck] using settled_nack store'
            | true =>
              by_cases htenant : event.tenantId = ctx.tenantId
              · have hans := answerEvent_settled hc ht he hdepth delivery ctx answer r store'
                simp only [hv, hcheck, htenant, ne_eq, not_true_eq_false, if_false]
                rw [hans]
                simp [hgood, hv, hcheck, htenant]
              · simpa [hv, hgood, hcheck, htenant] using settled_nack store'
    | null => simpa using settled_nack store
    | bool _ => simpa using settled_nack store
    | int _ => simpa using settled_nack store
    | float _ => simpa using settled_nack store
    | str _ => simpa using settled_nack store
    | arr _ => simpa using settled_nack store

namespace LoneSurrogate

def platform : Platform := ⟨⟨4300, 990, 990, fun _ => []⟩, fun _ _ => List.replicate 32 0, fun _ => none⟩

/-- An unsigned body: `key_version` 2, an empty `hmac_signature`, and a member `x` that is the escape
of a lone surrogate. -/
def delivery : ReactorDelivery where
  body :=
    [123, 34, 107, 101, 121, 95, 118, 101, 114, 115, 105, 111, 110, 34, 58, 50, 44, 34, 104, 109,
      97, 99, 95, 115, 105, 103, 110, 97, 116, 117, 114, 101, 34, 58, 34, 34, 44, 34, 120, 34, 58,
      34, 92, 117, 100, 56, 48, 48, 34, 125]
  replyTo := some (lit "amq.rabbitmq.reply-to")
  correlationId := none

def ctx : DispatchContext := ⟨[1, 2, 3, 4], lit "t-1", .intercept, 300.0⟩

def readings : Readings :=
  ⟨0.0, 0.0, 1767225600000000, 0.0, List.replicate 36 48, ⟨2026, 1, 1, 0, 0, 0, 0⟩⟩

theorem raised : (dispatchReactorDelivery platform delivery ctx (NonceStore.new 600.0) (.decided allow)
    readings).raised = some .unicodeEncodeError := by
  decide +kernel

end LoneSurrogate

/-- An unsigned body with the escape of a lone surrogate raises out of the dispatch, before its MAC
is looked at, and is neither acknowledged nor refused. -/
theorem not_dispatch_settles :
    ¬ ∀ (P : Platform) (delivery : ReactorDelivery) (ctx : DispatchContext) (store : NonceStore)
      (answer : Answer) (r : Readings),
      Settled (dispatchReactorDelivery P delivery ctx store answer r) := by
  intro hall
  have hset := (hall LoneSurrogate.platform LoneSurrogate.delivery LoneSurrogate.ctx
    (NonceStore.new 600.0) (.decided allow) LoneSurrogate.readings).1
  rw [LoneSurrogate.raised] at hset
  cases hset

end AxiamSdk.Amqp
