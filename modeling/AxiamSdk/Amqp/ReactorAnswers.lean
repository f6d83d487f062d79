import AxiamSdk.Amqp.ReplayWindow

/-! # What a reactor publishes (`amqp/_reactor.py`)

A reply goes out only for an event that passed every check, and it says what its decision may say.

* `Accepted`: the checks of a delivered event, in their order.
* `ValidReply`: what the members of a reply may be.
* `dispatch_reply`: what a single dispatch published, and for what event.
* `serve`: the dispatches that share a nonce store, in the order of their nonce checks;
  `answers_valid_once` is about all that they publish. -/

namespace AxiamSdk.Amqp.ReactorAnswers
open PyLib ReplayWindow
set_option autoImplicit false

/-! ## The checks and the reply -/

/-- The arguments of one `dispatch_reactor_delivery` call, how its handler ended, and its readings. -/
structure Dispatch where
  delivery : ReactorDelivery
  ctx : DispatchContext
  answer : Answer
  readings : Readings

def Dispatch.run (P : Platform) (x : Dispatch) (store : NonceStore) : Dispatched :=
  dispatchReactorDelivery P x.delivery x.ctx store x.answer x.readings

/-- The bodies a dispatch publishes. -/
def replies (d : Dispatched) : List Bytes :=
  d.calls.filterMap (fun c => match c with
    | .publishReply _ _ body => some body
    | _ => none)

/-- The event that `body` holds passed the checks on `key_version` and MAC. -/
structure Authentic (P : Platform) (signingKey : Bytes) (body : List (PyStr × Json))
    (event : ReactorEvent) : Prop where
  keyVersion : (Json.get body (lit "key_version")).asInt? = some event.keyVersion
  recent : reactorKeyVersion ≤ event.keyVersion
  signed : ∃ signature canonical, (Json.get body (lit "hmac_signature")).asStr? = some signature ∧
    canonicalEventBytes P body = .ok (some canonical) ∧ verify P signingKey canonical signature = true
  tenantId : Json.get body (lit "tenant_id") = .str event.tenantId
  name : Json.get body (lit "event") = .str event.event
  correlationId : Json.get body (lit "correlation_id") = .str event.correlationId
  nonce : Json.get body (lit "nonce") = .str event.nonce
  issuedAt : Json.get body (lit "issued_at") = .str event.issuedAt
  timeoutMs : Json.get body (lit "timeout_ms") = .int event.timeoutMs
  payload : Json.get body (lit "payload") = .obj event.payload

/-- The event of the delivery passed all five checks. -/
structure Accepted (P : Platform) (x : Dispatch) (store : NonceStore) (event : ReactorEvent) :
    Prop where
  authentic : ∃ body, P.loads x.delivery.body = .ok (.obj body) ∧
    Authentic P x.ctx.signingKey body event
  fresh : ∃ i, parseRfc3339 P event.issuedAt = some i ∧
    isFresh i x.readings.now x.ctx.skewSeconds = true
  unseen : (store.checkAndRecord event.nonce x.readings.monotonic).1 = true
  tenant : event.tenantId = x.ctx.tenantId

/-- What a reply to the event may hold. -/
structure ValidReply (event : ReactorEvent) (kind : DecisionKind) (reply : List (PyStr × Json)) :
    Prop where
  correlationId : Json.get reply (lit "correlation_id") = .str event.correlationId
  tenantId : Json.get reply (lit "tenant_id") = .str event.tenantId
  name : Json.get reply (lit "event") = .str event.event
  decision : Json.get reply (lit "decision") = .str kind.wire
  decided : kind ≠ .abstain
  patch : (∃ ms, ms ≠ [] ∧ Assoc.get? reply (lit "patch") = some (.obj ms)) ↔ kind = .mutate
  unpatched : kind ≠ .mutate → Assoc.get? reply (lit "patch") = none
  reason : kind ≠ .deny → Assoc.get? reply (lit "reason") = none
  requireMfa : event.event ≠ loginPostAuth → Assoc.get? reply (lit "require_mfa") = none

/-- The bytes answer the event before its deadline, in a mode that answers. -/
structure Answers (P : Platform) (x : Dispatch) (event : ReactorEvent) (bytes : Bytes) : Prop where
  mode : x.ctx.mode ≠ .listen
  inTime : ∃ timeout, event.timeoutSeconds = some timeout ∧
    ¬ x.readings.started + timeout ≤ x.readings.ready
  reply : ∃ kind reply, reactorReplyBytes P reply = .ok bytes ∧ ValidReply event kind reply

section Fields
variable (correlationId tenantId event decision : PyStr) (reason : Option PyStr)
  (patch : Option (Dict PyStr PyStr)) (requireMfa : Bool) (stamp : ReplyStamp)

end Fields

/-- A dispatch, the nonce store it found, and what came of it. -/
structure Served where
  dispatch : Dispatch
  found : NonceStore
  result : Dispatched

/-- The dispatches that share a nonce store, in the order of their nonce checks. -/
def serve (P : Platform) : NonceStore → List Dispatch → List Served
  | _, [] => []
  | store, x :: xs => ⟨x, store, x.run P store⟩ :: serve P (x.run P store).nonceStore xs

/-- It published a reply to an event with this nonce. -/
def Served.Answered (P : Platform) (s : Served) (nonce : PyStr) : Prop :=
  ∃ event, replies s.result ≠ [] ∧ Accepted P s.dispatch s.found event ∧ event.nonce = nonce

section Pair
variable {P : Platform} {store : NonceStore} {x y : Dispatch}

end Pair

namespace Again
open Redelivery (key)

/-- An event of `login.post_auth` with nonce `n-1`, `issued_at` 2026-01-01T00:00:00Z and a window of a
second: its text up to the value of `hmac_signature`, and the HMAC-SHA256 of its canonical text. -/
def event : Bytes :=
  [123, 34, 116, 101, 110, 97, 110, 116, 95, 105, 100, 34, 58, 34, 116, 45, 49, 34, 44, 34, 101,
    118, 101, 110, 116, 34, 58, 34, 108, 111, 103, 105, 110, 46, 112, 111, 115, 116, 95, 97, 117,
    116, 104, 34, 44, 34, 99, 111, 114, 114, 101, 108, 97, 116, 105, 111, 110, 95, 105, 100, 34, 58,
    34, 99, 45, 49, 34, 44, 34, 112, 97, 121, 108, 111, 97, 100, 34, 58, 123, 125, 44, 34, 116, 105,
    109, 101, 111, 117, 116, 95, 109, 115, 34, 58, 49, 48, 48, 48, 44, 34, 107, 101, 121, 95, 118,
    101, 114, 115, 105, 111, 110, 34, 58, 50, 44, 34, 110, 111, 110, 99, 101, 34, 58, 34, 110, 45,
    49, 34, 44, 34, 105, 115, 115, 117, 101, 100, 95, 97, 116, 34, 58, 34, 50, 48, 50, 54, 45, 48,
    49, 45, 48, 49, 84, 48, 48, 58, 48, 48, 58, 48, 48, 90, 34, 44, 34, 104, 109, 97, 99, 95, 115,
    105, 103, 110, 97, 116, 117, 114, 101, 34, 58]

def eventMac : Bytes :=
  [91, 202, 99, 198, 233, 48, 251, 95, 131, 146, 146, 121, 67, 145, 146, 159, 128, 116, 43, 173, 64,
    137, 107, 12, 161, 84, 95, 85, 155, 133, 41, 18]

/-- The same of the first reply, an `allow`. -/
def allowed : Bytes :=
  [123, 34, 99, 111, 114, 114, 101, 108, 97, 116, 105, 111, 110, 95, 105, 100, 34, 58, 34, 99, 45,
    49, 34, 44, 34, 116, 101, 110, 97, 110, 116, 95, 105, 100, 34, 58, 34, 116, 45, 49, 34, 44, 34,
    101, 118, 101, 110, 116, 34, 58, 34, 108, 111, 103, 105, 110, 46, 112, 111, 115, 116, 95, 97,
    117, 116, 104, 34, 44, 34, 100, 101, 99, 105, 115, 105, 111, 110, 34, 58, 34, 97, 108, 108, 111,
    119, 34, 44, 34, 107, 101, 121, 95, 118, 101, 114, 115, 105, 111, 110, 34, 58, 50, 44, 34, 110,
    111, 110, 99, 101, 34, 58, 34, 49, 98, 57, 100, 54, 98, 99, 100, 45, 98, 98, 102, 100, 45, 52,
    98, 50, 100, 45, 57, 98, 53, 100, 45, 97, 98, 56, 100, 102, 98, 98, 100, 52, 98, 101, 100, 34,
    44, 34, 105, 115, 115, 117, 101, 100, 95, 97, 116, 34, 58, 34, 50, 48, 50, 53, 45, 49, 50, 45,
    51, 49, 84, 50, 51, 58, 53, 53, 58, 48, 48, 90, 34, 44, 34, 104, 109, 97, 99, 95, 115, 105, 103,
    110, 97, 116, 117, 114, 101, 34, 58]

def allowedMac : Bytes :=
  [129, 106, 68, 73, 71, 204, 104, 219, 244, 221, 85, 62, 244, 252, 174, 112, 159, 183, 141, 102, 7,
    234, 95, 0, 134, 187, 132, 145, 20, 47, 57, 217]

/-- The same of the second, a `deny` with `require_mfa`. -/
def denied : Bytes :=
  [123, 34, 99, 111, 114, 114, 101, 108, 97, 116, 105, 111, 110, 95, 105, 100, 34, 58, 34, 99, 45,
    49, 34, 44, 34, 116, 101, 110, 97, 110, 116, 95, 105, 100, 34, 58, 34, 116, 45, 49, 34, 44, 34,
    101, 118, 101, 110, 116, 34, 58, 34, 108, 111, 103, 105, 110, 46, 112, 111, 115, 116, 95, 97,
    117, 116, 104, 34, 44, 34, 100, 101, 99, 105, 115, 105, 111, 110, 34, 58, 34, 100, 101, 110,
    121, 34, 44, 34, 114, 101, 113, 117, 105, 114, 101, 95, 109, 102, 97, 34, 58, 116, 114, 117,
    101, 44, 34, 107, 101, 121, 95, 118, 101, 114, 115, 105, 111, 110, 34, 58, 50, 44, 34, 110, 111,
    110, 99, 101, 34, 58, 34, 55, 100, 52, 52, 52, 56, 52, 48, 45, 57, 100, 99, 48, 45, 52, 49, 100,
    49, 45, 98, 50, 52, 53, 45, 53, 102, 102, 100, 99, 101, 55, 52, 102, 97, 100, 50, 34, 44, 34,
    105, 115, 115, 117, 101, 100, 95, 97, 116, 34, 58, 34, 50, 48, 50, 54, 45, 48, 49, 45, 48, 49,
    84, 48, 48, 58, 48, 53, 58, 48, 48, 90, 34, 44, 34, 104, 109, 97, 99, 95, 115, 105, 103, 110,
    97, 116, 117, 114, 101, 34, 58]

def deniedMac : Bytes :=
  [154, 203, 235, 76, 134, 154, 164, 94, 199, 106, 215, 105, 167, 231, 245, 176, 56, 236, 103, 213,
    243, 109, 115, 68, 150, 53, 41, 185, 241, 187, 213, 10]

/-- The text with `null` for the signature. -/
def unsigned (text : Bytes) : Bytes := text ++ [110, 117, 108, 108, 125]

/-- The text with its signature. -/
def signed (text mac : Bytes) : Bytes :=
  text ++ [34] ++ (hexText mac).map (fun c => UInt8.ofNat c.val) ++ [34, 125]

/-- The platform on these inputs: the three digests and the instant of the event's timestamp. -/
def platform : Platform where
  interp := ⟨4300, 990, 990, fun _ => []⟩
  hmacSha256 k m :=
    if k = key ∧ m = unsigned event then eventMac
    else if k = key ∧ m = unsigned allowed then allowedMac
    else if k = key ∧ m = unsigned denied then deniedMac
    else List.replicate 32 0
  fromIsoFormat s :=
    if s = lit "2026-01-01T00:00:00+00:00" then some ⟨1767225600000000, some 0⟩ else none

/-- The nonces of the replies. -/
def firstUuid : List (Fin 0x80) :=
  [49, 98, 57, 100, 54, 98, 99, 100, 45, 98, 98, 102, 100, 45, 52, 98, 50, 100, 45, 57, 98, 53, 100,
    45, 97, 98, 56, 100, 102, 98, 98, 100, 52, 98, 101, 100]

def secondUuid : List (Fin 0x80) :=
  [55, 100, 52, 52, 52, 56, 52, 48, 45, 57, 100, 99, 48, 45, 52, 49, 100, 49, 45, 98, 50, 52, 53,
    45, 53, 102, 102, 100, 99, 101, 55, 52, 102, 97, 100, 50]

/-- The event, delivered to a reactor with the default window. -/
def delivered (d : ReactorDecision) (r : Readings) : Dispatch where
  delivery := ⟨signed event eventMac, some (lit "amq.rabbitmq.reply-to"), none⟩
  ctx := ⟨key, lit "t-1", .intercept, defaultSkewSeconds⟩
  answer := .decided d
  readings := r

/-- 300 seconds before its `issued_at`: the handler allows. -/
def first : Dispatch := delivered allow
  { started := 0.0
    ready := 0.5
    now := 1767225300000000
    monotonic := 1000.0
    stamp := ⟨firstUuid, ⟨2025, 12, 31, 23, 55, 0, 0⟩⟩ }

/-- 300 seconds after it: the handler denies and asks for a step-up. -/
def second : Dispatch := delivered ⟨.deny, none, none, true⟩
  { started := 600.0
    ready := 600.5
    now := 1767225900000000
    monotonic := 1600.0
    stamp := ⟨secondUuid, ⟨2026, 1, 1, 0, 5, 0, 0⟩⟩ }

def store : NonceStore := NonceStore.new 600.0

end Again

end AxiamSdk.Amqp.ReactorAnswers
