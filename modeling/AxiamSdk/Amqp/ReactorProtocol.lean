import Mathlib.Data.List.Lex
import Mathlib.Data.List.Sort
import Mathlib.Order.Fin.Basic
import AxiamSdk.Lib.FloatOrder
import AxiamSdk.Amqp.Replay

/-! # The reactor wire protocol (`amqp/_reactor_protocol.py`)

The signed event a reactor receives and the signed reply it sends.

* `canonicalJson`: the serialization both are signed over, and exactly when it raises
  (`canonicalJson_isOk`).
* `verifyEvent`: the checks of a delivered event in their fixed order.
* `buildReactorReply`, `signReactorReply`: the reply body; it raises exactly when a text in it
  holds a surrogate (`signReactorReply_isOk`). -/

namespace AxiamSdk.Amqp
open PyLib
set_option autoImplicit false

/-- `REACTOR_KEY_VERSION` -/
def reactorKeyVersion : ℤ := 2

/-- `EventRejection`: why a delivered event was not usable. -/
inductive EventRejection
  | malformed | keyVersionTooOld | badSignature | stale | replayedNonce | tenantMismatch
  deriving DecidableEq, Repr

/-! ## Canonical bytes and signatures -/

/-- `_canonical_json` -/
def canonicalJson (P : Platform) (v : Json) : Except Exc Bytes :=
  match P.dumps false v with
  | .error e => .error e
  | .ok text =>
    match encodeUtf8 text with
    | none => .error .unicodeEncodeError
    | some b => .ok b

theorem canonicalJson_isOk (P : Platform) (v : Json) :
    isOk (canonicalJson P v) = encodable P.interp v := by
  have hd := dumps_isOk P.interp false v
  unfold canonicalJson Platform.dumps encodable
  rw [← hd]
  cases ht : PyLib.dumps P.interp false v with
  | error e => rfl
  | ok t =>
    have hc := noSurrogate_dumps ht
    have he := encodeUtf8_isSome t
    simp only [Except.mapError, isOk, Bool.true_and, ← hc, ← he]
    cases encodeUtf8 t <;> rfl

def hexText (b : Bytes) : PyStr :=
  b.flatMap (fun o => [JsonDumps.hexDigit (o.toNat / 16), JsonDumps.hexDigit (o.toNat % 16)])

theorem noSurrogate_hexText (b : Bytes) : noSurrogate (hexText b) = true := by
  apply noSurrogate_of_ascii
  rw [hexText, List.all_flatMap, List.all_eq_true]
  intro o _
  simp [JsonDumps.isAscii_hexDigit]

/-- `_sign` -/
def sign (P : Platform) (signingKey canonical : Bytes) : PyStr :=
  hexText (P.hmacSha256 signingKey canonical)

/-- `_verify` -/
def verify (P : Platform) (signingKey canonical : Bytes) (signatureHex : PyStr) : Bool :=
  match fromHex signatureHex with
  | none => false
  | some received => decide (received = P.hmacSha256 signingKey canonical)

/-! ## Events -/

/-- `ReactorEvent`: an event as a handler sees it. -/
structure ReactorEvent where
  tenantId : PyStr
  event : PyStr
  correlationId : PyStr
  payload : List (PyStr × Json)
  timeoutMs : ℤ
  keyVersion : ℤ
  nonce : PyStr
  issuedAt : PyStr

/-- `timeout_seconds`; `none` is the `OverflowError` of an integer too large for a float. -/
def ReactorEvent.timeoutSeconds (e : ReactorEvent) : Option Float :=
  (FloatOrder.ofInt? e.timeoutMs).map (· / 1000.0)

/-- The body that is signed: `hmac_signature` set to null in place. -/
def unsignedBody (body : List (PyStr × Json)) : Json :=
  .obj (Assoc.set body (lit "hmac_signature") .null)

/-- `canonical_event_bytes`; `none` when there is no `hmac_signature`. -/
def canonicalEventBytes (P : Platform) (body : List (PyStr × Json)) : Except Exc (Option Bytes) :=
  if (Assoc.get? body (lit "hmac_signature")).isNone then .ok none
  else (canonicalJson P (unsignedBody body)).map some

/-- `is_fresh`: `issued_at` lies in the window, on either side of `now`. -/
def isFresh (issuedAt now : ℤ) (skewSeconds : Float) : Bool :=
  decide (deltaSeconds now issuedAt ≤ skewSeconds)

/-- The shape of a verified body, then its freshness. -/
def decodeEvent (P : Platform) (body : List (PyStr × Json)) (keyVersion now : ℤ)
    (skewSeconds : Float) : Except EventRejection ReactorEvent :=
  match Json.get body (lit "tenant_id"), Json.get body (lit "event"),
      Json.get body (lit "correlation_id"), Json.get body (lit "nonce"),
      Json.get body (lit "issued_at"), Json.get body (lit "timeout_ms"),
      Json.get body (lit "payload") with
  | .str tenantId, .str eventName, .str correlationId, .str nonce, .str issuedAtRaw, .int timeoutMs,
      .obj payload =>
    match parseRfc3339 P issuedAtRaw with
    | none => .error .stale
    | some issuedAt =>
      if isFresh issuedAt now skewSeconds then
        .ok ⟨tenantId, eventName, correlationId, payload, timeoutMs, keyVersion, nonce, issuedAtRaw⟩
      else .error .stale
  | _, _, _, _, _, _, _ => .error .malformed

/-- `verify_event`: `key_version`, MAC, shape, freshness, in this order. -/
def verifyEvent (P : Platform) (body : List (PyStr × Json)) (signingKey : Bytes) (now : ℤ)
    (skewSeconds : Float) : Except Exc (Except EventRejection ReactorEvent) :=
  match (Json.get body (lit "key_version")).asInt? with
  | none => .ok (.error .malformed)
  | some keyVersion =>
    if keyVersion < reactorKeyVersion then .ok (.error .keyVersionTooOld)
    else match (Json.get body (lit "hmac_signature")).asStr? with
      | none => .ok (.error .badSignature)
      | some signature =>
        match canonicalEventBytes P body with
        | .error e => .error e
        | .ok none => .ok (.error .badSignature)
        | .ok (some canonical) =>
          if verify P signingKey canonical signature then
            .ok (decodeEvent P body keyVersion now skewSeconds)
          else .ok (.error .badSignature)

/-! ### When verification raises -/

/-- The body gets as far as its canonical serialization. -/
def ReachesMac (body : List (PyStr × Json)) : Prop :=
  (∃ k, (Json.get body (lit "key_version")).asInt? = some k ∧ reactorKeyVersion ≤ k) ∧
    ∃ sig, (Json.get body (lit "hmac_signature")).asStr? = some sig

theorem get?_of_asStr? {body : List (PyStr × Json)} {k s : PyStr}
    (h : (Json.get body k).asStr? = some s) : Assoc.get? body k = some (.str s) := by
  unfold Json.get at h
  cases hg : Assoc.get? body k with
  | none =>
    rw [hg] at h
    cases h
  | some v =>
    rw [hg] at h
    cases v with
    | str t =>
      obtain rfl := Option.some.inj h
      rfl
    | _ => cases h

/-- Verification raises exactly when it serializes a body that is not encodable. -/
theorem verifyEvent_isOk (P : Platform) (body : List (PyStr × Json)) (key : Bytes) (now : ℤ)
    (skew : Float) : isOk (verifyEvent P body key now skew) = false ↔
      ReachesMac body ∧ encodable P.interp (unsignedBody body) = false := by
  unfold verifyEvent
  split
  · next hk => simp [isOk, ReachesMac, hk]
  next k hk =>
  split
  · next hlt =>
    have hnot : ¬ reactorKeyVersion ≤ k := Int.not_le.2 hlt
    simp [isOk, ReachesMac, hk, hnot]
  next hlt =>
  split
  · next hs => simp [isOk, ReachesMac, hs]
  next sig hs =>
  have hreach : ReachesMac body := ⟨⟨k, hk, Int.not_lt.1 hlt⟩, sig, hs⟩
  have hcan : canonicalEventBytes P body = (canonicalJson P (unsignedBody body)).map some := by
    simp [canonicalEventBytes, get?_of_asStr? hs]
  rw [hcan, ← canonicalJson_isOk]
  cases canonicalJson P (unsignedBody body) with
  | error e => simp [Except.map, isOk, hreach]
  | ok b =>
    simp only [Except.map]
    cases verify P key b sig <;> simp [isOk]

theorem verifyEvent_ok {P : Platform} {body : List (PyStr × Json)} {key : Bytes} {now : ℤ}
    {skew : Float} {e : ReactorEvent} (h : verifyEvent P body key now skew = .ok (.ok e)) :
    encodable P.interp (unsignedBody body) = true ∧
      Json.get body (lit "tenant_id") = .str e.tenantId ∧
      Json.get body (lit "event") = .str e.event ∧
      Json.get body (lit "correlation_id") = .str e.correlationId ∧
      Json.get body (lit "payload") = .obj e.payload := by
  have hok : isOk (verifyEvent P body key now skew) = true := by rw [h]; rfl
  have hraise := verifyEvent_isOk P body key now skew
  unfold verifyEvent at h
  split at h
  · cases h
  next k hk =>
  split at h
  · cases h
  next hlt =>
  split at h
  · cases h
  next sig hs =>
  have hreach : ReachesMac body := ⟨⟨k, hk, Int.not_lt.1 hlt⟩, sig, hs⟩
  have henc : encodable P.interp (unsignedBody body) = true := by
    cases he : encodable P.interp (unsignedBody body) with
    | true => rfl
    | false =>
      rw [hraise.2 ⟨hreach, he⟩] at hok
      cases hok
  refine ⟨henc, ?_⟩
  split at h
  · cases h
  · cases h
  split at h
  · next hdec =>
    have hd := Except.ok.inj h
    unfold decodeEvent at hd
    split at hd
    · next ht hev hc hn hi hm hp =>
      split at hd
      · cases hd
      · split at hd
        · cases hd
          exact ⟨ht, hev, hc, hp⟩
        · cases hd
    · cases hd
  · cases h

/-! ## Decisions and replies -/

inductive DecisionKind
  | allow | deny | mutate | abstain
  deriving DecidableEq, Repr

/-- `ReactorDecision`: what a handler decided. -/
structure ReactorDecision where
  kind : DecisionKind
  reason : Option PyStr
  patch : Option (Dict PyStr PyStr)
  requireMfa : Bool

def allow : ReactorDecision := ⟨.allow, none, none, false⟩

def requireStepUp : ReactorDecision := ⟨.allow, none, none, true⟩

def deny (reason : Option PyStr) : ReactorDecision := ⟨.deny, reason, none, false⟩

def mutate (patch : Dict PyStr PyStr) : ReactorDecision := ⟨.mutate, none, some patch, false⟩

def abstain : ReactorDecision := ⟨.abstain, none, none, false⟩

/-- A UTC `datetime` by its calendar fields. -/
structure UtcMoment where
  year : ℕ
  month : ℕ
  day : ℕ
  hour : ℕ
  minute : ℕ
  second : ℕ
  microsecond : ℕ

/-- The decimal text of `n`, padded with zeros to `width`. -/
def padded (width n : ℕ) : PyStr :=
  let digits := JsonDumps.decDigits n
  List.replicate (width - digits.length) (ch '0') ++ digits

/-- `to_chrono_rfc3339` -/
def toChronoRfc3339 (t : UtcMoment) : PyStr :=
  let stem := padded 4 t.year ++ lit "-" ++ padded 2 t.month ++ lit "-" ++ padded 2 t.day ++ lit "T" ++
    padded 2 t.hour ++ lit ":" ++ padded 2 t.minute ++ lit ":" ++ padded 2 t.second
  if t.microsecond = 0 then stem ++ lit "Z"
  else if t.microsecond % 1000 = 0 then stem ++ lit "." ++ padded 3 (t.microsecond / 1000) ++ lit "Z"
  else stem ++ lit "." ++ padded 6 t.microsecond ++ lit "Z"

/-- What a reply takes from the outside: a fresh UUID's text and the time. -/
structure ReplyStamp where
  uuid4 : List (Fin 0x80)
  now : UtcMoment

/-- The patch's items by sorted key. -/
def sortedPatch (patch : Dict PyStr PyStr) : List (PyStr × Json) :=
  (patch.items.insertionSort (fun a b => a.1 ≤ b.1)).map (fun p => (p.1, .str p.2))

/-- The members of a reply before its signature, in the server's field order. -/
def replyFields (correlationId tenantId event decision : PyStr) (reason : Option PyStr)
    (patch : Option (Dict PyStr PyStr)) (requireMfa : Bool) (stamp : ReplyStamp) :
    List (PyStr × Json) :=
  [(lit "correlation_id", .str correlationId), (lit "tenant_id", .str tenantId),
    (lit "event", .str event), (lit "decision", .str decision)] ++
  (match reason with | none => [] | some r => [(lit "reason", .str r)]) ++
  (match patch with | none => [] | some p => [(lit "patch", .obj (sortedPatch p))]) ++
  (if requireMfa then [(lit "require_mfa", .bool true)] else []) ++
  [(lit "key_version", .int reactorKeyVersion),
    (lit "nonce", .str (stamp.uuid4.map JsonDumps.asciiPoint)),
    (lit "issued_at", .str (toChronoRfc3339 stamp.now))]

/-- `build_reactor_reply` -/
def buildReactorReply (correlationId tenantId event decision : PyStr) (reason : Option PyStr)
    (patch : Option (Dict PyStr PyStr)) (requireMfa : Bool) (stamp : ReplyStamp) :
    List (PyStr × Json) :=
  replyFields correlationId tenantId event decision reason patch requireMfa stamp ++
    [(lit "hmac_signature", .null)]

/-- `canonical_reply_bytes` -/
def canonicalReplyBytes (P : Platform) (reply : List (PyStr × Json)) : Except Exc Bytes :=
  canonicalJson P (unsignedBody reply)

/-- `reactor_reply_bytes` -/
def reactorReplyBytes (P : Platform) (reply : List (PyStr × Json)) : Except Exc Bytes :=
  canonicalJson P (.obj reply)

/-- `sign_reactor_reply` -/
def signReactorReply (P : Platform) (reply : List (PyStr × Json)) (signingKey : Bytes) :
    Except Exc (List (PyStr × Json)) :=
  (canonicalReplyBytes P reply).map
    (fun canonical => Assoc.set reply (lit "hmac_signature") (.str (sign P signingKey canonical)))

/-! ### When signing raises -/

theorem noSurrogate_replicate_zero (n : ℕ) : noSurrogate (List.replicate n (ch '0')) = true := by
  rw [noSurrogate, List.all_eq_true]
  intro c hc
  rw [(List.mem_replicate.1 hc).2, isSurrogate_ch]
  rfl

theorem noSurrogate_padded (width n : ℕ) : noSurrogate (padded width n) = true := by
  simp only [padded]
  rw [noSurrogate_append, noSurrogate_replicate_zero,
    noSurrogate_of_ascii (JsonDumps.all_isAscii_decDigits n)]
  rfl

theorem noSurrogate_toChronoRfc3339 (t : UtcMoment) : noSurrogate (toChronoRfc3339 t) = true := by
  simp only [toChronoRfc3339]
  split
  · simp only [noSurrogate_append, noSurrogate_padded, noSurrogate_lit, Bool.and_self]
  split
  · simp only [noSurrogate_append, noSurrogate_padded, noSurrogate_lit, Bool.and_self]
  · simp only [noSurrogate_append, noSurrogate_padded, noSurrogate_lit, Bool.and_self]

theorem noSurrogate_asciiPoints (l : List (Fin 0x80)) :
    noSurrogate (l.map JsonDumps.asciiPoint) = true := by
  apply noSurrogate_of_ascii
  rw [List.all_map, List.all_eq_true]
  intro b _
  simp [isAscii, JsonDumps.asciiPoint]

/-- No key and no value of the patch holds a surrogate. -/
def cleanPatch (patch : Dict PyStr PyStr) : Bool :=
  patch.items.all (fun p => noSurrogate p.1 && noSurrogate p.2)

theorem clean_sortedPatch (patch : Dict PyStr PyStr) :
    Json.cleanMembers (sortedPatch patch) = cleanPatch patch := by
  rw [Bool.eq_iff_iff, Json.cleanMembers_iff, cleanPatch, List.all_eq_true]
  constructor
  · intro h q hq
    have hmem : (q.1, Json.str q.2) ∈ sortedPatch patch :=
      List.mem_map.2 ⟨q, (List.mem_insertionSort _).2 hq, rfl⟩
    simpa [Json.clean] using h _ hmem
  · intro h p hp
    obtain ⟨q, hq, rfl⟩ := List.mem_map.1 hp
    simpa [Json.clean] using h q ((List.mem_insertionSort _).1 hq)

theorem depth_sortedPatch (patch : Dict PyStr PyStr) :
    Json.depthMembers (sortedPatch patch) = 0 := by
  apply Nat.le_zero.1
  rw [Json.depthMembers_le_iff]
  intro p hp
  obtain ⟨q, _, rfl⟩ := List.mem_map.1 hp
  exact Nat.le_refl _

theorem intsOk_sortedPatch (I : Interp) (patch : Dict PyStr PyStr) :
    Json.intsOkMembers I (sortedPatch patch) = true := by
  unfold sortedPatch
  induction patch.items.insertionSort (fun a b => a.1 ≤ b.1) with
  | nil => rfl
  | cons p ps ih => simpa [Json.intsOkMembers, Json.intsOk] using ih

/-- No text that a reply carries holds a surrogate. -/
def cleanReply (correlationId tenantId event decision : PyStr) (reason : Option PyStr)
    (patch : Option (Dict PyStr PyStr)) : Bool :=
  noSurrogate correlationId && noSurrogate tenantId && noSurrogate event && noSurrogate decision &&
    reason.all noSurrogate && patch.all cleanPatch

theorem cleanMembers_append (ms ns : List (PyStr × Json)) :
    Json.cleanMembers (ms ++ ns) = (Json.cleanMembers ms && Json.cleanMembers ns) := by
  induction ms with
  | nil => rfl
  | cons p ms ih =>
    obtain ⟨k, v⟩ := p
    simp only [List.cons_append, Json.cleanMembers, ih, Bool.and_assoc]

theorem intsOkMembers_append (I : Interp) (ms ns : List (PyStr × Json)) :
    Json.intsOkMembers I (ms ++ ns) = (Json.intsOkMembers I ms && Json.intsOkMembers I ns) := by
  induction ms with
  | nil => rfl
  | cons p ms ih =>
    obtain ⟨k, v⟩ := p
    simp only [List.cons_append, Json.intsOkMembers, ih, Bool.and_assoc]

section Reply
variable (correlationId tenantId event decision : PyStr) (reason : Option PyStr)
  (patch : Option (Dict PyStr PyStr)) (requireMfa : Bool) (stamp : ReplyStamp)

theorem cleanMembers_replyFields :
    Json.cleanMembers (replyFields correlationId tenantId event decision reason patch requireMfa stamp)
      = cleanReply correlationId tenantId event decision reason patch := by
  unfold replyFields
  simp only [cleanMembers_append]
  cases reason <;> cases patch <;> cases requireMfa <;>
    simp [Json.cleanMembers, Json.clean, cleanReply, clean_sortedPatch, noSurrogate_asciiPoints,
      noSurrogate_toChronoRfc3339, Bool.and_assoc]

theorem digitsOk_one (I : Interp) : I.digitsOk 1 = true := by
  simp only [Interp.digitsOk, decide_eq_true_eq]
  omega

theorem intsOk_replyFields (I : Interp) :
    Json.intsOkMembers I
      (replyFields correlationId tenantId event decision reason patch requireMfa stamp) = true := by
  have hv : I.digitsOk (JsonDumps.decDigits reactorKeyVersion.natAbs).length = true := digitsOk_one I
  unfold replyFields
  simp only [intsOkMembers_append]
  cases reason <;> cases patch <;> cases requireMfa <;>
    simp [Json.intsOkMembers, hv, intsOk_sortedPatch, Json.intsOk]

theorem depth_replyFields : ∀ p ∈ replyFields correlationId tenantId event decision reason patch
    requireMfa stamp, p.2.depth ≤ 1 := by
  rw [← Json.depthMembers_le_iff]
  unfold replyFields
  cases reason <;> cases patch <;> cases requireMfa <;>
    simp [Json.depthMembers, Json.depth, depth_sortedPatch]

theorem hmac_not_mem_replyFields : lit "hmac_signature" ∉
    (replyFields correlationId tenantId event decision reason patch requireMfa stamp).map Prod.fst := by
  unfold replyFields
  cases reason <;> cases patch <;> cases requireMfa <;>
    simp only [List.map_append, List.map_cons, List.map_nil, List.append_nil, Bool.false_eq_true,
      if_true, if_false] <;> decide

/-- A reply with a clean `hmac_signature` is encodable exactly when its texts are clean. -/
theorem encodable_reply {I : Interp} (hdepth : 2 ≤ I.dumpsDepth) {v : Json} (hd : v.depth = 0)
    (hi : v.intsOk I = true) (hc : v.clean = true) :
    encodable I (.obj (replyFields correlationId tenantId event decision reason patch requireMfa stamp
      ++ [(lit "hmac_signature", v)])) = cleanReply correlationId tenantId event decision reason patch := by
  have h1 : Json.depthMembers (replyFields correlationId tenantId event decision reason patch
      requireMfa stamp ++ [(lit "hmac_signature", v)]) ≤ 1 := by
    rw [Json.depthMembers_le_iff]
    intro p hp
    rcases List.mem_append.1 hp with hp | hp
    · exact depth_replyFields _ _ _ _ _ _ _ _ p hp
    · rw [List.mem_singleton.1 hp]
      simp [hd]
  have h2 : Json.depth (.obj (replyFields correlationId tenantId event decision reason patch
      requireMfa stamp ++ [(lit "hmac_signature", v)])) ≤ I.dumpsDepth := by
    rw [Json.depth]
    omega
  simp only [encodable, decide_eq_true h2, Json.intsOk, Json.clean, intsOkMembers_append,
    cleanMembers_append, intsOk_replyFields, cleanMembers_replyFields]
  simp [Json.intsOkMembers, Json.cleanMembers, hi, hc]

theorem unsignedBody_buildReactorReply :
    unsignedBody (buildReactorReply correlationId tenantId event decision reason patch requireMfa stamp)
      = .obj (replyFields correlationId tenantId event decision reason patch requireMfa stamp
        ++ [(lit "hmac_signature", .null)]) := by
  rw [unsignedBody, buildReactorReply, Assoc.set_append_last _ (hmac_not_mem_replyFields _ _ _ _ _ _ _ _)]

/-- **Signing a reply** raises exactly when a text in it holds a surrogate. -/
theorem signReactorReply_isOk {P : Platform} (hdepth : 2 ≤ P.interp.dumpsDepth) (key : Bytes) :
    isOk (signReactorReply P
      (buildReactorReply correlationId tenantId event decision reason patch requireMfa stamp) key)
      = cleanReply correlationId tenantId event decision reason patch := by
  rw [signReactorReply, JsonDumps.isOk_map, canonicalReplyBytes, canonicalJson_isOk,
    unsignedBody_buildReactorReply, encodable_reply _ _ _ _ _ _ _ _ hdepth rfl rfl rfl]

theorem reactorReplyBytes_isOk {P : Platform} (hdepth : 2 ≤ P.interp.dumpsDepth) {key : Bytes}
    {reply : List (PyStr × Json)} (h : signReactorReply P
      (buildReactorReply correlationId tenantId event decision reason patch requireMfa stamp) key
        = .ok reply) : isOk (reactorReplyBytes P reply) = true := by
  have hok := signReactorReply_isOk correlationId tenantId event decision reason patch requireMfa
    stamp hdepth key
  rw [h] at hok
  unfold signReactorReply at h
  cases hcan : canonicalReplyBytes P
      (buildReactorReply correlationId tenantId event decision reason patch requireMfa stamp) with
  | error e =>
    rw [hcan] at h
    cases h
  | ok canonical =>
    rw [hcan] at h
    obtain rfl := Except.ok.inj h
    have hclean : (Json.str (sign P key canonical)).clean = true := noSurrogate_hexText _
    have hints : (Json.str (sign P key canonical)).intsOk P.interp = true := by simp [Json.intsOk]
    have henc := encodable_reply correlationId tenantId event decision reason patch requireMfa stamp
      hdepth (by simp [Json.depth]) hints hclean
    rw [reactorReplyBytes, canonicalJson_isOk]
    dsimp only [buildReactorReply]
    rw [Assoc.set_append_last _ (hmac_not_mem_replyFields _ _ _ _ _ _ _ _), henc, ← hok]
    rfl

end Reply

end AxiamSdk.Amqp
