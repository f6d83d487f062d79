import AxiamSdk.Lib.Url
import AxiamSdk.Lib.Runs
import AxiamSdk.Lib.FloatOrder
import AxiamSdk.Errors

/-! # DPoP proofs (`_dpop.py`)

`verifyDpopProof` runs the ten checks of a proof in their order and claims its `jti` last.

* `checkProof`: every check before the claim; what it reads of the claims depends on the proof
  string alone (`checkProof_ok`).
* `claim`: the in-memory store of used identifiers.
* `dpop_accepts_once`: along a run of calls, when acceptance is fresh and single-use. -/

namespace AxiamSdk.Dpop
open PyLib
set_option autoImplicit false

/-! ## The checks -/

/-- `DPOP_IAT_LEEWAY_SECONDS` -/
def dpopIatLeewaySeconds : Float := 60.0

/-- `_PRIVATE_JWK_MEMBERS` -/
def privateJwkMembers : List PyStr :=
  [lit "d", lit "p", lit "q", lit "dp", lit "dq", lit "qi", lit "oth", lit "k"]

/-- `_THUMBPRINT_MEMBERS` -/
def thumbprintMembers : List (PyStr × List PyStr) :=
  [(lit "RSA", [lit "e", lit "kty", lit "n"]),
    (lit "EC", [lit "crv", lit "kty", lit "x", lit "y"]),
    (lit "OKP", [lit "crv", lit "kty", lit "x"])]

/-- The `AuthError`s of the module, with what their messages name. -/
inductive Refusal
  | missing
  | severalProofs
  | notCompactJws
  | headerNotJson
  | headerNotObject
  | typ (typ : Json)
  | noPublicJwk
  | privateMaterial (members : List PyStr)
  | keyType (kty crv : Json)
  | unusableKey
  | invalidJws
  | htm (htm : Json) (httpMethod : PyStr)
  | htu (htu : Json) (expected : PyStr)
  | iatNotNumber
  | iatOutsideWindow
  | athMissing
  | athMismatch
  | thumbprintKty (kty : Json)
  | thumbprintMember (member : PyStr)
  | keyMismatch
  | jtiMissing
  | replayed

/-- How a verification fails: by its own `AuthError`, or by an exception it does not catch. -/
inductive Failure
  | auth (r : Refusal)
  | escaped (e : Exc)

/-- What `jwt.decode` does: it verifies, raises a `PyJWTError`, or raises something else. -/
inductive JwtOutcome
  | verified
  | refused
  | escaped (e : Exc)

/-- What the module takes from outside: whether `jwt.PyJWK` builds a key of the JWK for the
algorithm, and what `jwt.decode` answers for the proof under it at a wall-clock reading. -/
structure Library where
  platform : Platform
  urlChecks : UrlChecks
  sha256 : Bytes → Bytes
  pyJwk : List (PyStr × Json) → PyStr → Bool
  jwtDecode : PyStr → List (PyStr × Json) → PyStr → Float → JwtOutcome

/-- The arguments of one call, with `now` not overridden, and the wall-clock readings it takes: the
JWT library's, its own, and the store's. -/
structure Call where
  proof : PyStr
  httpMethod : PyStr
  httpUri : PyStr
  accessToken : PyStr
  expectedJkt : Option PyStr
  jwtNow : Float
  now : Float
  claimNow : Float

def refuse {α : Type} (r : Refusal) : Except Failure α := .error (.auth r)

/-- An exception of a call that nothing around it catches. -/
def uncaught {α : Type} (x : Except Exc α) : Except Failure α := x.mapError .escaped

/-- A test whose failure is an `AuthError`. -/
def ensure (ok : Bool) (r : Refusal) : Except Failure Unit := if ok then .ok () else refuse r

/-- `_raw_header` -/
def rawHeader (P : Platform) (proof : PyStr) : Except Failure (List (PyStr × Json)) :=
  match splitOn (ch '.') proof with
  | [header, _, _] =>
    match decodeSegment P header with
    | .ok (.obj ms) => .ok ms
    | .ok _ => refuse .headerNotObject
    | .error e => if e.isValueError then refuse .headerNotJson else .error (.escaped e)
  | _ => refuse .notCompactJws

/-- The claims of a proof as `jwt.decode` reads them: the JSON object that the UTF-8 octets of its
second segment spell. -/
def claimsOf (P : Platform) (proof : PyStr) : Option (List (PyStr × Json)) :=
  match splitOn (ch '.') proof with
  | [_, payload, _] =>
    match (encodeUtf8 payload).bind (fun b => Base64.urlsafeDecodeBytes (padBase64 61 b)) with
    | none => none
    | some raw =>
      match P.loads raw with
      | .ok (.obj ms) => some ms
      | _ => none
  | _ => none

/-- `_expected_alg` -/
def expectedAlg (jwk : List (PyStr × Json)) : Except Failure PyStr :=
  let kty := Json.get jwk (lit "kty")
  let crv := Json.get jwk (lit "crv")
  if kty.asStr? = some (lit "RSA") then .ok (lit "PS256")
  else if kty.asStr? = some (lit "EC") ∧ crv.asStr? = some (lit "P-256") then .ok (lit "ES256")
  else if kty.asStr? = some (lit "OKP") ∧ crv.asStr? = some (lit "Ed25519") then .ok (lit "EdDSA")
  else refuse (.keyType kty crv)

/-- The members of a thumbprint, each a non-empty string. -/
def canonicalMembers (jwk : List (PyStr × Json)) : List PyStr → Except Failure (List (PyStr × Json))
  | [] => .ok []
  | member :: rest =>
    match (Json.get jwk member).asStr? with
    | none => refuse (.thumbprintMember member)
    | some [] => refuse (.thumbprintMember member)
    | some value => (canonicalMembers jwk rest).map ((member, .str value) :: ·)

/-- `jwk_thumbprint_s256` -/
def jwkThumbprintS256 (L : Library) (jwk : List (PyStr × Json)) : Except Failure PyStr :=
  let kty := Json.get jwk (lit "kty")
  match kty.asStr?.bind (Assoc.get? thumbprintMembers) with
  | none => refuse (.thumbprintKty kty)
  | some members => do
    let canonical ← canonicalMembers jwk members
    let serialized ← uncaught (L.platform.dumps true (.obj canonical))
    match encodeUtf8 serialized with
    | none => .error (.escaped .unicodeEncodeError)
    | some bytes => .ok (Base64.urlsafeEncode (L.sha256 bytes))

/-- `access_token_hash` -/
def accessTokenHash (L : Library) (accessToken : PyStr) : Except Exc PyStr :=
  match encodeAscii accessToken with
  | none => .error .unicodeEncodeError
  | some bytes => .ok (Base64.urlsafeEncode (L.sha256 bytes))

/-- `canonical_htu`: the URI without its query and fragment. -/
def canonicalHtu (L : Library) (uri : PyStr) : Except Exc PyStr :=
  match urlsplit L.urlChecks uri with
  | none => .error .valueError
  | some parts => .ok (urlunsplit { parts with query := [], fragment := [] })

/-- `float(iat)` of a numeric claim; a Boolean and any other value is no number. -/
def numericIat (iat : Json) : Except Failure Float :=
  match iat with
  | .int n =>
    match FloatOrder.ofInt? n with
    | none => .error (.escaped .overflowError)
    | some x => .ok x
  | .float x => .ok x
  | _ => refuse .iatNotNumber

/-- What the checks read of a proof for its claim: `float(iat)`, the `jti` and the thumbprint. -/
structure Checked where
  iat : Float
  jti : PyStr
  jkt : PyStr

/-- The checks of the header: the key and its algorithm. -/
def checkHeader (L : Library) (proof : PyStr) : Except Failure (List (PyStr × Json) × PyStr) := do
  ensure (!proof.isEmpty) .missing
  ensure (!proof.contains (ch ',') && !(strip proof).contains (ch ' ')) .severalProofs
  let header ← rawHeader L.platform proof
  let typ := Json.get header (lit "typ")
  ensure (decide (typ.asStr?.map lowerAscii = some (lit "dpop+jwt"))) (.typ typ)
  match (Json.get header (lit "jwk")).asObj? with
  | none => refuse .noPublicJwk
  | some jwk =>
    let present := privateJwkMembers.filter (fun m => (Assoc.get? jwk m).isSome)
    ensure present.isEmpty (.privateMaterial present)
    let alg ← expectedAlg jwk
    ensure (L.pyJwk jwk alg) .unusableKey
    return (jwk, alg)

/-- `jwt.decode` -/
def decodeClaims (L : Library) (c : Call) (jwk : List (PyStr × Json)) (alg : PyStr) :
    Except Failure (List (PyStr × Json)) :=
  match L.jwtDecode c.proof jwk alg c.jwtNow, claimsOf L.platform c.proof with
  | .verified, some claims => .ok claims
  | .escaped e, _ => .error (.escaped e)
  | _, _ => refuse .invalidJws

/-- The checks of the claims against the request: `htm` and `htu`. -/
def checkRequest (L : Library) (c : Call) (claims : List (PyStr × Json)) : Except Failure Unit := do
  let htm := Json.get claims (lit "htm")
  ensure (decide (htm.asStr? = some c.httpMethod)) (.htm htm c.httpMethod)
  let htu := Json.get claims (lit "htu")
  let expected ← uncaught (canonicalHtu L c.httpUri)
  match htu.asStr? with
  | none => refuse (.htu htu expected)
  | some uri =>
    let actual ← uncaught (canonicalHtu L uri)
    ensure (decide (actual = expected)) (.htu htu expected)

/-- The checks of the claims against the token and the key: `ath` and the thumbprint. -/
def checkBinding (L : Library) (c : Call) (claims jwk : List (PyStr × Json)) : Except Failure PyStr := do
  match (Json.get claims (lit "ath")).asStr? with
  | none => refuse .athMissing
  | some [] => refuse .athMissing
  | some ath =>
    let hash ← uncaught (accessTokenHash L c.accessToken)
    let same ← uncaught (compareDigest ath hash)
    ensure same .athMismatch
    let jkt ← jwkThumbprintS256 L jwk
    match c.expectedJkt with
    | none => return jkt
    | some expected =>
      let same ← uncaught (compareDigest jkt expected)
      ensure same .keyMismatch
      return jkt

/-- The `jti` claim, a non-empty string. -/
def jtiOf (claims : List (PyStr × Json)) : Except Failure PyStr :=
  match (Json.get claims (lit "jti")).asStr? with
  | none => refuse .jtiMissing
  | some [] => refuse .jtiMissing
  | some jti => .ok jti

/-- `verify_dpop_proof` up to the claim of the `jti`. -/
def checkProof (L : Library) (c : Call) : Except Failure Checked := do
  let (jwk, alg) ← checkHeader L c.proof
  let claims ← decodeClaims L c jwk alg
  checkRequest L c claims
  let iat ← numericIat (Json.get claims (lit "iat"))
  ensure (!decide (dpopIatLeewaySeconds < (c.now - iat).abs)) .iatOutsideWindow
  let jkt ← checkBinding L c claims jwk
  let jti ← jtiOf claims
  return ⟨iat, jti, jkt⟩

/-! ## The store of used identifiers -/

/-- `InMemoryJtiStore`: identifier to expiry. -/
abbrev InMemoryJtiStore := Dict PyStr Float

/-- The entries still valid, once there are more than 128. -/
def prune (seen : InMemoryJtiStore) (now : Float) : InMemoryJtiStore :=
  if 128 < seen.size then seen.filter (fun p => decide (now < p.2)) else seen

/-- `claim` -/
def claim (seen : InMemoryJtiStore) (jti : PyStr) (expiresAt now : Float) : Bool × InMemoryJtiStore :=
  let seen := prune seen now
  if now < (seen.get? jti).getD 0.0 then (false, seen) else (true, seen.set jti expiresAt)

/-- `verify_dpop_proof` -/
def verifyDpopProof (L : Library) (c : Call) (store : InMemoryJtiStore) :
    Except Failure PyStr × InMemoryJtiStore :=
  match checkProof L c with
  | .error e => (.error e, store)
  | .ok checked =>
    match claim store checked.jti (checked.iat + dpopIatLeewaySeconds) c.claimNow with
    | (true, store) => (.ok checked.jkt, store)
    | (false, store) => (refuse .replayed, store)

/-! ## What acceptance depends on -/

/-- `float(iat)` and `jti` of a proof. -/
def identityOf (P : Platform) (proof : PyStr) : Option (Float × PyStr) :=
  match claimsOf P proof with
  | none => none
  | some claims =>
    match numericIat (Json.get claims (lit "iat")), jtiOf claims with
    | .ok iat, .ok jti => some (iat, jti)
    | _, _ => none

theorem ensure_ok {ok : Bool} {r : Refusal} {u : Unit} (h : ensure ok r = .ok u) : ok = true := by
  cases ok with
  | true => rfl
  | false => cases h

theorem decodeClaims_ok {L : Library} {c : Call} {jwk claims : List (PyStr × Json)} {alg : PyStr}
    (h : decodeClaims L c jwk alg = .ok claims) : claimsOf L.platform c.proof = some claims := by
  unfold decodeClaims at h
  split at h
  · next hc => rw [hc, Except.ok.inj h]
  · cases h
  · cases h

/-- **A proof that passes the checks** was looked at inside the window, and what it claims depends on
the proof string alone. -/
theorem checkProof_ok {L : Library} {c : Call} {k : Checked} (h : checkProof L c = .ok k) :
    ¬ dpopIatLeewaySeconds < (c.now - k.iat).abs ∧
      identityOf L.platform c.proof = some (k.iat, k.jti) := by
  obtain ⟨⟨jwk, alg⟩, _, h⟩ := bind_ok h
  obtain ⟨claims, hdec, h⟩ := bind_ok h
  obtain ⟨_, _, h⟩ := bind_ok h
  obtain ⟨iat, hiat, h⟩ := bind_ok h
  obtain ⟨_, hwin, h⟩ := bind_ok h
  obtain ⟨jkt, _, h⟩ := bind_ok h
  obtain ⟨jti, hjti, h⟩ := bind_ok h
  obtain rfl := Except.ok.inj h
  constructor
  · simpa using ensure_ok hwin
  · simp only [identityOf, decodeClaims_ok hdec, hiat, hjti]

/-! ## The run -/

/-- The store, the last clock reading, and the proofs accepted so far. -/
structure RunState where
  store : InMemoryJtiStore
  clock : Float
  accepted : List PyStr

def RunState.start (clock : Float) : RunState := ⟨Dict.empty, clock, []⟩

/-- One call. Wall-clock readings are finite and never go back. -/
def step (L : Library) (s : RunState) (c : Call) : Option RunState :=
  if s.clock ≤ c.now ∧ c.now ≤ c.claimNow ∧ c.now.isFinite then
    match verifyDpopProof L c s.store with
    | (.ok _, store) => some ⟨store, c.claimNow, c.proof :: s.accepted⟩
    | (.error _, store) => some ⟨store, c.claimNow, s.accepted⟩
  else none

/-- A call that returns did so inside the window around the proof's `iat`, for a proof that was not
accepted before. -/
def AcceptsOnce (L : Library) (s : RunState) (c : Call) : Prop :=
  ∀ jkt, (verifyDpopProof L c s.store).1 = .ok jkt →
    (∃ iat jti, identityOf L.platform c.proof = some (iat, jti) ∧
      (c.now - iat).abs ≤ dpopIatLeewaySeconds) ∧ c.proof ∉ s.accepted

/-- Some accepted proof has this identifier and this expiry. -/
def RunState.Recorded (P : Platform) (s : RunState) (jti : PyStr) (expiry : Float) : Prop :=
  ∃ proof ∈ s.accepted, ∃ iat, identityOf P proof = some (iat, jti) ∧
    iat + dpopIatLeewaySeconds = expiry

/-- An accepted proof with this identifier has an expiry that the store's clock has not reached. -/
def StillLive (P : Platform) (s : RunState) (jti : PyStr) (now : Float) : Prop :=
  ∃ expiry, s.Recorded P jti expiry ∧ now < expiry

/-- No accepted proof with this identifier is live, at a clock that is not before the epoch. -/
def Claimable (P : Platform) (s : RunState) (jti : PyStr) (now : Float) : Prop :=
  ¬ now < 0.0 ∧ ¬ StillLive P s jti now

/-- A proof that passes the other checks has an `iat` that is not NaN if its identifier is claimable,
and if it is a replay, its identifier is still live: no replay arrives once the expiry is reached. -/
def NumericAndReplayedLive (L : Library) (s : RunState) (c : Call) : Prop :=
  ∀ k, checkProof L c = .ok k →
    (Claimable L.platform s k.jti c.claimNow → k.iat.isNaN = false) ∧
      (c.proof ∈ s.accepted → StillLive L.platform s k.jti c.claimNow)

/-- The store holds every live accepted identifier, and nothing that was not accepted. -/
structure Linked (P : Platform) (s : RunState) : Prop where
  recorded : ∀ j e, s.store.get? j = some e → s.Recorded P j e
  live : ∀ j e, s.Recorded P j e → s.clock < e → s.store.get? j = some e
  epoch : s.accepted ≠ [] → ¬ s.clock < 0.0

variable {P : Platform} {L : Library} {s t : RunState} {c : Call} {k : Checked}

theorem not_recorded_start (clock : Float) (j : PyStr) (e : Float) :
    ¬ (RunState.start clock).Recorded P j e := by
  rintro ⟨p, hp, -⟩
  cases hp

theorem linked_start (clock : Float) : Linked P (RunState.start clock) := by
  constructor
  · intro j e h
    cases h
  · intro j e h
    exact absurd h (not_recorded_start clock j e)
  · intro h
    exact absurd rfl h

theorem RunState.Recorded.accepted_ne_nil {j : PyStr} {e : Float} (h : s.Recorded P j e) :
    s.accepted ≠ [] := by
  obtain ⟨p, hp, -⟩ := h
  exact List.ne_nil_of_mem hp

/-! ### The store -/

/-- What pruning leaves: entries of the store, and every entry not yet expired. -/
theorem get?_prune (seen : InMemoryJtiStore) (now : Float) (j : PyStr) (e : Float) :
    ((prune seen now).get? j = some e → seen.get? j = some e) ∧
      (seen.get? j = some e → now < e → (prune seen now).get? j = some e) := by
  unfold prune
  split
  · rw [Dict.get?_filter_eq_some]
    exact ⟨fun h => h.1, fun h hlt => ⟨h, by simpa using hlt⟩⟩
  · exact ⟨fun h => h, fun h _ => h⟩

/-- A claim succeeds when the pruned store has no expiry for the identifier after the clock. -/
theorem claim_fst (seen : InMemoryJtiStore) (jti : PyStr) (e now : Float) :
    (claim seen jti e now).1 = true ↔ ¬ now < ((prune seen now).get? jti).getD 0.0 := by
  unfold claim
  dsimp only
  split
  · next hlt => simp [hlt]
  · next hlt => simp [hlt]

/-- What a claim leaves in the store: a refused one prunes, an accepted one prunes and records. -/
theorem claim_snd (seen : InMemoryJtiStore) (jti : PyStr) (e now : Float) :
    (claim seen jti e now).2 =
      if (claim seen jti e now).1 then (prune seen now).set jti e else prune seen now := by
  unfold claim
  dsimp only
  split
  · rfl
  · rfl

/-- Under the invariant a claim succeeds exactly when its identifier is claimable. -/
theorem Linked.claim_iff (h : Linked P s) {now : Float} (hle : s.clock ≤ now) (jti : PyStr)
    (e : Float) : (claim s.store jti e now).1 = true ↔ Claimable P s jti now := by
  have hepoch : s.accepted ≠ [] → ¬ now < 0.0 :=
    fun hne hlt => h.epoch hne (FloatOrder.lt_of_le_of_lt hle hlt)
  have hstored : ∀ e', s.Recorded P jti e' → now < e' → (prune s.store now).get? jti = some e' := by
    intro e' hrec hlt
    exact (get?_prune _ _ _ _).2 (h.live jti e' hrec (FloatOrder.lt_of_le_of_lt hle hlt)) hlt
  rw [claim_fst]
  cases hg : (prune s.store now).get? jti with
  | none =>
    refine ⟨fun hzero => ⟨hzero, ?_⟩, fun hc => hc.1⟩
    rintro ⟨e', hrec, hlt⟩
    rw [hstored e' hrec hlt] at hg
    cases hg
  | some v =>
    have hv := h.recorded jti v ((get?_prune _ _ _ _).1 hg)
    constructor
    · intro hnot
      refine ⟨hepoch hv.accepted_ne_nil, ?_⟩
      rintro ⟨e', hrec, hlt⟩
      rw [hstored e' hrec hlt] at hg
      obtain rfl := Option.some.inj hg
      exact hnot hlt
    · intro hc hlt
      exact hc.2 ⟨v, hv, hlt⟩

theorem Linked.advance (h : Linked P s) {now : Float} (hle : s.clock ≤ now) :
    Linked P ⟨s.store, now, s.accepted⟩ ∧ Linked P ⟨prune s.store now, now, s.accepted⟩ := by
  have hlive : ∀ j e, s.Recorded P j e → now < e → s.store.get? j = some e :=
    fun j e hrec hlt => h.live j e hrec (FloatOrder.lt_of_le_of_lt hle hlt)
  have hepoch : s.accepted ≠ [] → ¬ now < 0.0 :=
    fun hne hlt => h.epoch hne (FloatOrder.lt_of_le_of_lt hle hlt)
  constructor
  · exact ⟨h.recorded, hlive, hepoch⟩
  · refine ⟨?_, ?_, hepoch⟩
    · intro j e hj
      exact h.recorded j e ((get?_prune _ _ _ _).1 hj)
    · intro j e hrec hlt
      exact (get?_prune _ _ _ _).2 (hlive j e hrec hlt) hlt

theorem Linked.record (h : Linked P s) {jti proof : PyStr} {iat : Float}
    (hid : identityOf P proof = some (iat, jti)) (hc : Claimable P s jti s.clock) :
    Linked P ⟨s.store.set jti (iat + dpopIatLeewaySeconds), s.clock, proof :: s.accepted⟩ := by
  constructor
  · intro j e hj
    rw [Dict.get?_set] at hj
    split at hj
    · next hjj =>
      subst hjj
      exact ⟨proof, List.mem_cons_self, iat, hid, Option.some.inj hj⟩
    · obtain ⟨p, hp, hrest⟩ := h.recorded j e hj
      exact ⟨p, List.mem_cons_of_mem _ hp, hrest⟩
  · rintro j e ⟨p, hp, iat', hid', rfl⟩ hlt
    rw [Dict.get?_set]
    rcases List.mem_cons.1 hp with rfl | hp
    · obtain ⟨rfl, rfl⟩ : iat = iat' ∧ jti = j := by simpa [hid] using hid'
      rw [if_pos rfl]
    · have hrec : s.Recorded P j (iat' + dpopIatLeewaySeconds) := ⟨p, hp, iat', hid', rfl⟩
      have hne : jti ≠ j := by
        rintro rfl
        exact hc.2 ⟨_, hrec, hlt⟩
      rw [if_neg hne]
      exact h.live j _ hrec hlt
  · intro _
    exact hc.1

/-! ### One call -/

theorem verifyDpopProof_checked (hk : checkProof L c = .ok k) (seen : InMemoryJtiStore) :
    verifyDpopProof L c seen =
      (if (claim seen k.jti (k.iat + dpopIatLeewaySeconds) c.claimNow).1 then .ok k.jkt
        else refuse .replayed,
      (claim seen k.jti (k.iat + dpopIatLeewaySeconds) c.claimNow).2) := by
  unfold verifyDpopProof
  rw [hk]
  dsimp only
  cases claim seen k.jti (k.iat + dpopIatLeewaySeconds) c.claimNow with
  | mk free store => cases free <;> rfl

/-- A call returns exactly when its proof passes the checks and its identifier is claimable. -/
theorem Linked.verify_ok_iff (h : Linked L.platform s) (hle : s.clock ≤ c.claimNow) (jkt : PyStr) :
    (verifyDpopProof L c s.store).1 = .ok jkt ↔
      ∃ k, checkProof L c = .ok k ∧ k.jkt = jkt ∧ Claimable L.platform s k.jti c.claimNow := by
  cases hk : checkProof L c with
  | error e => simp [verifyDpopProof, hk]
  | ok k =>
    rw [verifyDpopProof_checked hk]
    have hiff := h.claim_iff hle k.jti (k.iat + dpopIatLeewaySeconds)
    by_cases hfree : (claim s.store k.jti (k.iat + dpopIatLeewaySeconds) c.claimNow).1 = true
    · simp [hfree, hiff.1 hfree]
    · simp [hfree, mt hiff.2 hfree, refuse]

theorem step_ok (h : step L s c = some t) :
    (s.clock ≤ c.now ∧ c.now ≤ c.claimNow ∧ c.now.isFinite) ∧
      t = match verifyDpopProof L c s.store with
        | (.ok _, store) => ⟨store, c.claimNow, c.proof :: s.accepted⟩
        | (.error _, store) => ⟨store, c.claimNow, s.accepted⟩ := by
  unfold step at h
  split at h
  · next hclock =>
    refine ⟨hclock, ?_⟩
    split at h
    · exact (Option.some.inj h).symm
    · exact (Option.some.inj h).symm
  · cases h

theorem linked_step (h : Linked L.platform s) (hs : step L s c = some t) : Linked L.platform t := by
  obtain ⟨⟨hle, hle', -⟩, rfl⟩ := step_ok hs
  have hclock : s.clock ≤ c.claimNow := FloatOrder.le_trans hle hle'
  obtain ⟨hidle, hpruned⟩ := h.advance hclock
  cases hk : checkProof L c with
  | error e =>
    unfold verifyDpopProof
    rw [hk]
    exact hidle
  | ok k =>
    rw [verifyDpopProof_checked hk, claim_snd]
    have hiff := h.claim_iff hclock k.jti (k.iat + dpopIatLeewaySeconds)
    by_cases hfree : (claim s.store k.jti (k.iat + dpopIatLeewaySeconds) c.claimNow).1 = true
    · simp only [hfree, if_true]
      exact hpruned.record (checkProof_ok hk).2 (hiff.1 hfree)
    · simp only [hfree]
      exact hpruned

/-! ### When acceptance is fresh and single-use -/

/-- For a proof that passed the window test at a finite reading, inside the window means not NaN. -/
theorem window_iff (hk : checkProof L c = .ok k) (hfin : c.now.isFinite = true) :
    (c.now - k.iat).abs ≤ dpopIatLeewaySeconds ↔ k.iat.isNaN = false := by
  constructor
  · intro hle
    have habs := (FloatOrder.not_isNaN_of_le hle).1
    by_contra hnan
    rw [Bool.not_eq_false] at hnan
    rw [FloatOrder.isNaN_abs_sub_of_isNaN hnan] at habs
    cases habs
  · intro hnum
    have habs := FloatOrder.isNaN_abs (FloatOrder.isNaN_sub hfin hnum)
    exact FloatOrder.le_of_not_lt (by decide +kernel) habs (checkProof_ok hk).1

theorem Linked.acceptsOnce_iff (h : Linked L.platform s) (hle : s.clock ≤ c.claimNow)
    (hfin : c.now.isFinite = true) : AcceptsOnce L s c ↔ NumericAndReplayedLive L s c := by
  constructor
  · intro hacc k hk
    have hid := (checkProof_ok hk).2
    constructor
    · intro hc
      have hv := (h.verify_ok_iff hle k.jkt).2 ⟨k, hk, rfl, hc⟩
      obtain ⟨⟨iat, jti, hid', hwin⟩, -⟩ := hacc k.jkt hv
      obtain ⟨rfl, -⟩ : k.iat = iat ∧ k.jti = jti := by simpa [hid] using hid'
      exact (window_iff hk hfin).1 hwin
    · intro hspent
      by_contra hlive
      have hepoch : ¬ c.claimNow < 0.0 := fun hlt =>
        h.epoch (List.ne_nil_of_mem hspent) (FloatOrder.lt_of_le_of_lt hle hlt)
      have hv := (h.verify_ok_iff hle k.jkt).2 ⟨k, hk, rfl, hepoch, hlive⟩
      exact (hacc k.jkt hv).2 hspent
  · intro hcond jkt hv
    obtain ⟨k, hk, -, hc⟩ := (h.verify_ok_iff hle jkt).1 hv
    obtain ⟨hnum, hreplay⟩ := hcond k hk
    refine ⟨⟨k.iat, k.jti, (checkProof_ok hk).2, (window_iff hk hfin).2 (hnum hc)⟩, ?_⟩
    intro hspent
    exact hc.2 (hreplay hspent)

/-- **Freshness and single use.** Along a run of calls over one store, every call that returns does so
inside the window and for a proof not accepted before, exactly when every `iat` that gets to the claim
is a number and every replay arrives while its identifier is live. -/
theorem dpop_accepts_once (L : Library) (clock : Float) (calls : List Call) :
    Run.Always (fnStep (step L)) (RunState.start clock) calls (AcceptsOnce L) ↔
      Run.Always (fnStep (step L)) (RunState.start clock) calls (NumericAndReplayedLive L) := by
  refine Run.Always.congr (linked_start clock) (fun s c t h hs => linked_step h hs) ?_
  intro s c t h hs
  obtain ⟨⟨hle, hle', hfin⟩, -⟩ := step_ok hs
  exact h.acceptsOnce_iff (FloatOrder.le_trans hle hle') hfin

namespace ReplayAtExpiry

/-- A proof signed with an Ed25519 key. Its header holds `typ`, `alg` and the public `jwk`; its claims
are `htm` GET, `htu` https://a/r, `iat` 1000, `jti` j, and the `ath` of the token `tok`. -/
def proof : PyStr :=
  [101, 121, 74, 48, 101, 88, 65, 105, 79, 105, 74, 107, 99, 71, 57, 119, 75, 50, 112, 51, 100,
    67, 73, 115, 73, 109, 70, 115, 90, 121, 73, 54, 73, 107, 86, 107, 82, 70, 78, 66, 73, 105, 119,
    105, 97, 110, 100, 114, 73, 106, 112, 55, 73, 109, 116, 48, 101, 83, 73, 54, 73, 107, 57, 76,
    85, 67, 73, 115, 73, 109, 78, 121, 100, 105, 73, 54, 73, 107, 86, 107, 77, 106, 85, 49, 77, 84,
    107, 105, 76, 67, 74, 52, 73, 106, 111, 105, 81, 84, 90, 70, 83, 72, 90, 102, 85, 69, 57, 70,
    84, 68, 82, 107, 89, 48, 52, 119, 87, 84, 85, 119, 100, 107, 70, 116, 86, 50, 90, 114, 77, 87,
    112, 68, 89, 110, 66, 82, 77, 87, 90, 73, 90, 72, 108, 72, 87, 107, 74, 75, 86, 107, 49, 105,
    90, 121, 74, 57, 102, 81, 46, 101, 121, 74, 111, 100, 71, 48, 105, 79, 105, 74, 72, 82, 86, 81,
    105, 76, 67, 74, 111, 100, 72, 85, 105, 79, 105, 74, 111, 100, 72, 82, 119, 99, 122, 111, 118,
    76, 50, 69, 118, 99, 105, 73, 115, 73, 109, 108, 104, 100, 67, 73, 54, 77, 84, 65, 119, 77, 67,
    119, 105, 97, 110, 82, 112, 73, 106, 111, 105, 97, 105, 73, 115, 73, 109, 70, 48, 97, 67, 73,
    54, 73, 107, 100, 117, 87, 106, 65, 50, 77, 68, 100, 117, 97, 109, 90, 109, 97, 72, 74, 70, 84,
    50, 70, 114, 79, 70, 65, 50, 97, 109, 112, 53, 86, 86, 89, 48, 86, 70, 85, 122, 99, 50, 52, 53,
    97, 109, 112, 66, 85, 109, 77, 48, 99, 51, 90, 73, 86, 48, 107, 105, 102, 81, 46, 114, 49, 118,
    110, 85, 56, 57, 83, 114, 105, 108, 66, 121, 117, 86, 111, 114, 69, 120, 71, 98, 88, 115, 83,
    70, 77, 53, 69, 79, 117, 118, 66, 76, 48, 71, 95, 85, 68, 57, 83, 89, 65, 97, 90, 105, 104, 55,
    79, 121, 81, 97, 105, 88, 79, 115, 70, 67, 72, 115, 84, 70, 80, 120, 76, 116, 112, 55, 99, 105,
    101, 100, 106, 90, 102, 49, 84, 102, 105, 112, 45, 115, 56, 105, 84, 65, 65]

/-- The SHA-256 of `tok`. -/
def tokenDigest : Bytes :=
  [26, 118, 116, 235, 78, 231, 141, 247, 225, 172, 67, 154, 147, 195, 250, 142, 60, 148, 87, 132,
    212, 222, 201, 253, 142, 48, 17, 115, 139, 47, 29, 98]

/-- The SHA-256 of the canonical JWK. -/
def jwkDigest : Bytes :=
  [212, 129, 182, 180, 193, 251, 39, 108, 27, 37, 153, 206, 127, 194, 201, 205, 8, 173, 41, 254,
    203, 50, 250, 0, 18, 91, 46, 12, 197, 76, 231, 134]

/-- The libraries on this proof: the key is usable and the signature verifies. -/
def library : Library where
  platform := ⟨⟨4300, 990, 990, fun _ => []⟩, fun _ _ => List.replicate 32 0, fun _ => none⟩
  urlChecks := ⟨fun _ => false, fun _ => true⟩
  sha256 b := if b = [116, 111, 107] then tokenDigest else jwkDigest
  pyJwk _ _ := true
  jwtDecode p _ _ _ := if p = proof then .verified else .refused

def call (now : Float) : Call :=
  ⟨proof, lit "GET", lit "https://a/r", lit "tok", none, now, now, now⟩

def afterFirst : Option RunState := exec (step library) (RunState.start 0.0) [call 1000.0]

theorem afterFirst_isSome : afterFirst.isSome = true := by decide +kernel

/-- The state after the proof was accepted at its own `iat`. -/
def state : RunState := afterFirst.get afterFirst_isSome

theorem proof_mem : proof ∈ state.accepted := by decide +kernel

theorem replay_step : (step library state (call 1060.0)).isSome = true := by decide +kernel

theorem replay_isOk : (verifyDpopProof library (call 1060.0) state.store).1.isOk = true := by
  decide +kernel

end ReplayAtExpiry

open ReplayAtExpiry in
/-- A proof accepted at its `iat` is accepted again exactly the leeway later: the store's entry has
expired and the window is still open. -/
theorem not_dpop_accepts_once :
    ¬ ∀ (L : Library) (clock : Float) (calls : List Call),
      Run.Always (fnStep (step L)) (RunState.start clock) calls (AcceptsOnce L) := by
  intro hall
  have hrun : Run (fnStep (step library)) (RunState.start 0.0) [call 1000.0] state :=
    exec_run (Option.some_get afterFirst_isSome).symm
  have hstep : fnStep (step library) state (call 1060.0)
      ((step library state (call 1060.0)).get replay_step) := (Option.some_get replay_step).symm
  have hacc := hall library 0.0 ([call 1000.0] ++ [call 1060.0]) [call 1000.0] (call 1060.0) [] state _
    rfl hrun hstep
  have hok := replay_isOk
  cases hv : (verifyDpopProof library (call 1060.0) state.store).1 with
  | error e =>
    rw [hv] at hok
    cases hok
  | ok jkt => exact (hacc jkt hv).2 proof_mem

end AxiamSdk.Dpop
