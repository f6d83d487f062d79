import AxiamSdk.Dpop
import AxiamSdk.Lib.JsonRender

/-! # How the verification of a DPoP proof fails (`verify_dpop_proof` of `_dpop.py`)

* `verifyWith`: a call over any store that answers, with the identifiers that it claimed.
* `Escaping`: the inputs on which a library call raises what nothing catches.
* `authOnly_iff`: on all others, and on them alone, a call returns the thumbprint of the embedded key or
  raises an `AuthError`. -/

namespace AxiamSdk.Dpop
open PyLib
set_option autoImplicit false

/-! ## A call over any store -/

/-- A `JtiStore` that answers. -/
structure JtiStore (σ : Type) where
  claim : σ → PyStr → Float → Bool × σ

structure Verified (σ : Type) where
  result : Except Failure PyStr
  store : σ
  /-- The identifiers that `claim` was called with. -/
  claimed : List PyStr

/-- `verify_dpop_proof` -/
def verifyWith {σ : Type} (S : JtiStore σ) (L : Library) (c : Call) (store : σ) : Verified σ :=
  match checkProof L c with
  | .error e => ⟨.error e, store, []⟩
  | .ok checked =>
    match S.claim store checked.jti (checked.iat + dpopIatLeewaySeconds) with
    | (true, store) => ⟨.ok checked.jkt, store, [checked.jti]⟩
    | (false, store) => ⟨refuse .replayed, store, [checked.jti]⟩

/-- The in-memory store at a clock reading. -/
def inMemory (now : Float) : JtiStore InMemoryJtiStore := ⟨fun seen jti expiresAt => claim seen jti expiresAt now⟩

theorem verifyWith_inMemory (L : Library) (c : Call) (store : InMemoryJtiStore) :
    ((verifyWith (inMemory c.claimNow) L c store).result, (verifyWith (inMemory c.claimNow) L c store).store) =
      verifyDpopProof L c store := by
  unfold verifyWith verifyDpopProof inMemory
  cases checkProof L c with
  | error e => rfl
  | ok checked =>
    dsimp only
    cases claim store checked.jti (checked.iat + dpopIatLeewaySeconds) c.claimNow with
    | mk free store' => cases free <;> rfl

/-- It returns the thumbprint of the key in the proof's header, or raises an `AuthError`; and it raises
after a claim only for a replay. -/
structure AuthOnly {σ : Type} (S : JtiStore σ) (L : Library) (c : Call) (store : σ) : Prop where
  raises : ∀ f, (verifyWith S L c store).result = .error f → ∃ r, f = .auth r
  returns : ∀ jkt, (verifyWith S L c store).result = .ok jkt → ∃ header jwk,
    rawHeader L.platform c.proof = .ok header ∧ (Json.get header (lit "jwk")).asObj? = some jwk ∧
    jwkThumbprintS256 L jwk = .ok jkt
  unclaimed : ∀ f, (verifyWith S L c store).result = .error f →
    (verifyWith S L c store).claimed = [] ∨ f = .auth .replayed

/-! ## What escapes -/

/-- One proof, of three segments, with a header that nests too deep to parse. -/
def DeepHeader (P : Platform) (proof : PyStr) : Prop :=
  proof ≠ [] ∧ (!proof.contains (ch ',') && !(strip proof).contains (ch ' ')) = true ∧
    ∃ header payload signature, splitOn (ch '.') proof = [header, payload, signature] ∧
      decodeSegment P header = .error .recursionError

/-- The claims name the method of the request, and `urlsplit` rejects the URI of the request or theirs. -/
def UnsplittableTarget (L : Library) (c : Call) (claims : List (PyStr × Json)) : Prop :=
  (Json.get claims (lit "htm")).asStr? = some c.httpMethod ∧
    (urlsplit L.urlChecks c.httpUri = none ∨
      ∃ uri, (Json.get claims (lit "htu")).asStr? = some uri ∧ urlsplit L.urlChecks uri = none)

/-- An integer too large for a float. -/
def HugeIat (claims : List (PyStr × Json)) : Prop :=
  ∃ n, Json.get claims (lit "iat") = .int n ∧ FloatOrder.ofInt? n = none

/-- The members of the key's thumbprint cannot be written. -/
def UnwritableKey (L : Library) (jwk : List (PyStr × Json)) : Prop :=
  ∃ members canonical, (Json.get jwk (lit "kty")).asStr?.bind (Assoc.get? thumbprintMembers) = some members ∧
    canonicalMembers jwk members = .ok canonical ∧ isOk (L.platform.dumps true (.obj canonical)) = false

/-- The access token or a non-empty `ath` is not ASCII; or `ath` is the token's hash and the key cannot be
written, or is compared with a thumbprint that is not ASCII. -/
def UnhashableBinding (L : Library) (c : Call) (claims jwk : List (PyStr × Json)) : Prop :=
  ∃ ath, (Json.get claims (lit "ath")).asStr? = some ath ∧ ath ≠ [] ∧
    (c.accessToken.all isAscii = false ∨ ath.all isAscii = false ∨
      (accessTokenHash L c.accessToken = .ok ath ∧ (UnwritableKey L jwk ∨
        ∃ jkt expected, jwkThumbprintS256 L jwk = .ok jkt ∧ c.expectedJkt = some expected ∧
          expected.all isAscii = false)))

/-- What the claims of a proof that decodes can raise, each behind the checks before it. -/
def EscapingClaims (L : Library) (c : Call) (claims jwk : List (PyStr × Json)) : Prop :=
  UnsplittableTarget L c claims ∨
  (checkRequest L c claims = .ok () ∧ (HugeIat claims ∨
    ∃ iat, numericIat (Json.get claims (lit "iat")) = .ok iat ∧
      ¬ dpopIatLeewaySeconds < (c.now - iat).abs ∧ UnhashableBinding L c claims jwk))

/-- The inputs on which a library call raises what nothing catches. -/
def Escaping (L : Library) (c : Call) : Prop :=
  DeepHeader L.platform c.proof ∨
  ∃ jwk alg, checkHeader L c.proof = .ok (jwk, alg) ∧
    ((∃ e, L.jwtDecode c.proof jwk alg c.jwtNow = .escaped e) ∨
      ∃ claims, decodeClaims L c jwk alg = .ok claims ∧ EscapingClaims L c claims jwk)

/-! ## Escaping, step by step -/

def Escapes {α : Type} (x : Except Failure α) : Prop := ∃ e, x = .error (.escaped e)

section Rules
variable {α β : Type}

theorem escapes_bind {x : Except Failure α} {f : α → Except Failure β} :
    Escapes (x >>= f) ↔ Escapes x ∨ ∃ a, x = .ok a ∧ Escapes (f a) := by
  cases x with
  | error failure =>
    have hbind : (Except.error failure >>= f) = .error failure := rfl
    rw [hbind]
    refine ⟨fun ⟨e, he⟩ => .inl ⟨e, ?_⟩, ?_⟩
    · rw [Except.error.inj he]
    · rintro (⟨e, he⟩ | ⟨a, ha, -⟩)
      · exact ⟨e, by rw [Except.error.inj he]⟩
      · cases ha
  | ok a =>
    have hbind : (Except.ok a >>= f) = f a := rfl
    rw [hbind]
    refine ⟨fun h => .inr ⟨a, rfl, h⟩, ?_⟩
    rintro (⟨e, he⟩ | ⟨a', ha, h⟩)
    · cases he
    · rw [Except.ok.inj ha]
      exact h

theorem not_escapes_ok (a : α) : ¬ Escapes (Except.ok a : Except Failure α) := by
  rintro ⟨e, he⟩
  cases he

theorem not_escapes_refuse (r : Refusal) : ¬ Escapes (refuse r : Except Failure α) := by
  rintro ⟨e, he⟩
  cases he

theorem escapes_ensure_bind {b : Bool} {r : Refusal} {f : Unit → Except Failure β} :
    Escapes (ensure b r >>= f) ↔ b = true ∧ Escapes (f ()) := by
  cases b with
  | true =>
    refine ⟨fun h => ⟨rfl, h⟩, fun h => h.2⟩
  | false =>
    refine iff_of_false (not_escapes_refuse r) ?_
    rintro ⟨h, -⟩
    cases h

theorem not_escapes_ensure (b : Bool) (r : Refusal) : ¬ Escapes (ensure b r) := by
  cases b with
  | true => exact not_escapes_ok ()
  | false => exact not_escapes_refuse r

theorem escapes_uncaught {x : Except Exc α} : Escapes (uncaught x) ↔ isOk x = false := by
  cases x with
  | error e => exact iff_of_true ⟨e, rfl⟩ rfl
  | ok a => exact iff_of_false (not_escapes_ok a) (fun h => Bool.noConfusion h)

theorem uncaught_ok {x : Except Exc α} {a : α} : uncaught x = .ok a ↔ x = .ok a := by
  cases x with
  | error e => exact iff_of_false (by rintro ⟨⟩) (by rintro ⟨⟩)
  | ok b => exact ⟨fun h => by rw [Except.ok.inj h], fun h => by rw [Except.ok.inj h]; rfl⟩

end Rules

section Steps
variable {L : Library} {c : Call} {claims jwk : List (PyStr × Json)}

theorem decodeSegment_error {P : Platform} {segment : PyStr} {e : Exc} (h : decodeSegment P segment = .error e) :
    e.isValueError = true ∨ e = .recursionError := by
  unfold decodeSegment at h
  split at h
  · rw [← Except.error.inj h]
    exact .inl rfl
  · exact loads_error h

theorem escapes_rawHeader (P : Platform) (proof : PyStr) : Escapes (rawHeader P proof) ↔
    ∃ header payload signature, splitOn (ch '.') proof = [header, payload, signature] ∧
      decodeSegment P header = .error .recursionError := by
  unfold rawHeader
  split
  · next header payload signature hsplit =>
    have hunique : (∃ header' payload' signature', splitOn (ch '.') proof = [header', payload', signature'] ∧
        decodeSegment P header' = .error .recursionError) ↔ decodeSegment P header = .error .recursionError := by
      refine ⟨?_, fun h => ⟨header, payload, signature, hsplit, h⟩⟩
      rintro ⟨header', payload', signature', hsplit', h⟩
      rw [hsplit, List.cons.injEq] at hsplit'
      rw [hsplit'.1]
      exact h
    rw [hunique]
    cases hdecode : decodeSegment P header with
    | error e =>
      dsimp only
      obtain hvalue | rfl := decodeSegment_error hdecode
      · rw [if_pos hvalue]
        refine iff_of_false (not_escapes_refuse _) fun h => ?_
        rw [Except.error.inj h] at hvalue
        cases hvalue
      · exact iff_of_true ⟨_, rfl⟩ rfl
    | ok v =>
      refine iff_of_false ?_ (by rintro ⟨⟩)
      cases v with
      | obj ms => exact not_escapes_ok ms
      | _ => exact not_escapes_refuse _
  · next hnot =>
    refine iff_of_false (not_escapes_refuse _) ?_
    rintro ⟨header, payload, signature, hsplit, -⟩
    exact hnot header payload signature hsplit

theorem not_escapes_expectedAlg : ¬ Escapes (expectedAlg jwk) := by
  unfold expectedAlg
  dsimp only
  split
  · exact not_escapes_ok _
  split
  · exact not_escapes_ok _
  split
  · exact not_escapes_ok _
  · exact not_escapes_refuse _

theorem escapes_checkHeader (L : Library) (proof : PyStr) :
    Escapes (checkHeader L proof) ↔ DeepHeader L.platform proof := by
  unfold checkHeader DeepHeader
  rw [escapes_ensure_bind, escapes_ensure_bind, escapes_bind, escapes_rawHeader]
  rw [or_iff_left]
  · have hempty : (!proof.isEmpty) = true ↔ proof ≠ [] := by
      rw [Bool.not_eq_true', List.isEmpty_eq_false_iff]
    rw [hempty]
  -- past the decoding of the header every error is a refusal
  · rintro ⟨header, -, h⟩
    obtain ⟨-, h⟩ := escapes_ensure_bind.1 h
    split at h
    · exact not_escapes_refuse _ h
    · obtain ⟨-, h⟩ := escapes_ensure_bind.1 h
      obtain h | ⟨alg, -, h⟩ := escapes_bind.1 h
      · exact not_escapes_expectedAlg h
      · obtain ⟨-, h⟩ := escapes_ensure_bind.1 h
        exact not_escapes_ok _ h

theorem escapes_decodeClaims {alg : PyStr} : Escapes (decodeClaims L c jwk alg) ↔
    ∃ e, L.jwtDecode c.proof jwk alg c.jwtNow = .escaped e := by
  unfold decodeClaims
  cases L.jwtDecode c.proof jwk alg c.jwtNow with
  | verified =>
    refine iff_of_false ?_ (by rintro ⟨e, ⟨⟩⟩)
    cases claimsOf L.platform c.proof with
    | none => exact not_escapes_refuse _
    | some claims => exact not_escapes_ok claims
  | refused => exact iff_of_false (not_escapes_refuse _) (by rintro ⟨e, ⟨⟩⟩)
  | escaped e => exact iff_of_true ⟨e, rfl⟩ ⟨e, rfl⟩

theorem canonicalHtu_isOk (uri : PyStr) : isOk (canonicalHtu L uri) = false ↔ urlsplit L.urlChecks uri = none := by
  unfold canonicalHtu
  cases urlsplit L.urlChecks uri with
  | none => exact iff_of_true rfl rfl
  | some parts => exact iff_of_false (fun h => Bool.noConfusion h) (by rintro ⟨⟩)

theorem escapes_checkRequest : Escapes (checkRequest L c claims) ↔ UnsplittableTarget L c claims := by
  unfold checkRequest UnsplittableTarget
  rw [escapes_ensure_bind, decide_eq_true_eq]
  refine and_congr_right fun _ => ?_
  rw [escapes_bind, escapes_uncaught, canonicalHtu_isOk]
  cases hexpected : urlsplit L.urlChecks c.httpUri with
  | none => exact iff_of_true (.inl rfl) (.inl rfl)
  | some parts =>
    have hform : ∃ form, uncaught (canonicalHtu L c.httpUri) = .ok form := by
      unfold canonicalHtu
      rw [hexpected]
      exact ⟨_, rfl⟩
    obtain ⟨form, hform⟩ := hform
    refine or_congr Iff.rfl ⟨?_, ?_⟩
    · rintro ⟨expected, -, h⟩
      split at h
      · exact absurd h (not_escapes_refuse _)
      · next uri huri =>
        obtain h | ⟨actual, -, h⟩ := escapes_bind.1 h
        · exact ⟨uri, huri, (canonicalHtu_isOk uri).1 (escapes_uncaught.1 h)⟩
        · exact absurd h (not_escapes_ensure _ _)
    · rintro ⟨uri, huri, hnone⟩
      refine ⟨form, hform, ?_⟩
      rw [huri]
      exact escapes_bind.2 (.inl (escapes_uncaught.2 ((canonicalHtu_isOk uri).2 hnone)))

theorem escapes_numericIat : Escapes (numericIat (Json.get claims (lit "iat"))) ↔ HugeIat claims := by
  unfold HugeIat
  cases Json.get claims (lit "iat") with
  | int n =>
    unfold numericIat
    dsimp only
    cases hfloat : FloatOrder.ofInt? n with
    | none => exact iff_of_true ⟨_, rfl⟩ ⟨n, rfl, hfloat⟩
    | some x =>
      refine iff_of_false (not_escapes_ok x) ?_
      rintro ⟨m, hm, hnone⟩
      rw [← Json.int.inj hm, hfloat] at hnone
      cases hnone
  | float x =>
    refine iff_of_false (not_escapes_ok x) ?_
    rintro ⟨m, ⟨⟩, -⟩
  | null | bool b | str s | arr xs | obj ms =>
    refine iff_of_false (not_escapes_refuse _) ?_
    rintro ⟨m, ⟨⟩, -⟩

theorem not_escapes_canonicalMembers (members : List PyStr) : ¬ Escapes (canonicalMembers jwk members) := by
  induction members with
  | nil => exact not_escapes_ok []
  | cons member members ih =>
    unfold canonicalMembers
    split
    · exact not_escapes_refuse _
    · exact not_escapes_refuse _
    · cases hrest : canonicalMembers jwk members with
      | ok canonical => exact not_escapes_ok _
      | error failure =>
        rintro ⟨e, he⟩
        rw [Except.error.inj he] at hrest
        exact ih ⟨e, hrest⟩

theorem escapes_thumbprint : Escapes (jwkThumbprintS256 L jwk) ↔ UnwritableKey L jwk := by
  unfold jwkThumbprintS256 UnwritableKey
  dsimp only
  cases (Json.get jwk (lit "kty")).asStr?.bind (Assoc.get? thumbprintMembers) with
  | none =>
    refine iff_of_false (not_escapes_refuse _) ?_
    rintro ⟨members, canonical, ⟨⟩, -⟩
  | some members =>
    dsimp only
    rw [escapes_bind, or_iff_right (not_escapes_canonicalMembers members)]
    constructor
    · rintro ⟨canonical, hcanonical, h⟩
      obtain h | ⟨serialized, hserialized, h⟩ := escapes_bind.1 h
      · exact ⟨members, canonical, rfl, hcanonical, escapes_uncaught.1 h⟩
      · obtain ⟨b, hb⟩ := JsonText.encodeUtf8_dumps (dumps_ok (uncaught_ok.1 hserialized))
        rw [hb] at h
        exact absurd h (not_escapes_ok _)
    · rintro ⟨members', canonical, hmembers, hcanonical, h⟩
      obtain rfl := Option.some.inj hmembers
      exact ⟨canonical, hcanonical, escapes_bind.2 (.inl (escapes_uncaught.2 h))⟩

/-! ### Digests -/

theorem isAscii_urlSafeChar (n : ℕ) (h : n < 64) : isAscii (Base64.urlSafeChar n) = true := by
  revert n
  decide

theorem all_isAscii_urlsafeEncode (b : Bytes) : (Base64.urlsafeEncode b).all isAscii = true := by
  have hoctet : ∀ o : UInt8, o.toNat < 256 := fun o => o.toNat_lt
  induction b using Base64.urlsafeEncode.induct with
  | case1 => rfl
  | case2 a =>
    have ha := hoctet a
    simp only [Base64.urlsafeEncode, List.all_cons, List.all_nil, Bool.and_true, Bool.and_eq_true]
    exact ⟨isAscii_urlSafeChar _ (by omega), isAscii_urlSafeChar _ (by omega)⟩
  | case3 a b =>
    have ha := hoctet a
    have hb := hoctet b
    simp only [Base64.urlsafeEncode, List.all_cons, List.all_nil, Bool.and_true, Bool.and_eq_true]
    exact ⟨isAscii_urlSafeChar _ (by omega), isAscii_urlSafeChar _ (by omega),
      isAscii_urlSafeChar _ (by omega)⟩
  | case4 a b c rest ih =>
    have ha := hoctet a
    have hb := hoctet b
    have hc := hoctet c
    simp only [Base64.urlsafeEncode, List.all_cons, ih, Bool.and_true, Bool.and_eq_true]
    exact ⟨isAscii_urlSafeChar _ (by omega), isAscii_urlSafeChar _ (by omega),
      isAscii_urlSafeChar _ (by omega), isAscii_urlSafeChar _ (by omega)⟩

theorem thumbprint_ascii {jkt : PyStr} (h : jwkThumbprintS256 L jwk = .ok jkt) : jkt.all isAscii = true := by
  unfold jwkThumbprintS256 at h
  dsimp only at h
  split at h
  · cases h
  · obtain ⟨canonical, -, h⟩ := bind_ok h
    obtain ⟨serialized, -, h⟩ := bind_ok h
    split at h
    · cases h
    · rw [← Except.ok.inj h]
      exact all_isAscii_urlsafeEncode _

theorem compareDigest_isOk (a b : PyStr) : isOk (compareDigest a b) = (a.all isAscii && b.all isAscii) := by
  unfold compareDigest
  cases a.all isAscii && b.all isAscii with
  | true => rfl
  | false => rfl

theorem escapes_compare {a b : PyStr} (ha : a.all isAscii = true) :
    Escapes (uncaught (compareDigest a b)) ↔ b.all isAscii = false := by
  rw [escapes_uncaught, compareDigest_isOk, ha, Bool.true_and]

/-- The token's hash raises on a token that is not ASCII, and is ASCII itself. -/
theorem accessTokenHash_cases (L : Library) (token : PyStr) :
    (token.all isAscii = false ∧ isOk (accessTokenHash L token) = false) ∨
    (token.all isAscii = true ∧ ∃ hash, accessTokenHash L token = .ok hash ∧ hash.all isAscii = true) := by
  unfold accessTokenHash encodeAscii
  cases htoken : token.all isAscii with
  | false => exact .inl ⟨rfl, rfl⟩
  | true => exact .inr ⟨rfl, _, rfl, all_isAscii_urlsafeEncode _⟩

theorem escapes_expected {jkt : PyStr} (hjkt : jwkThumbprintS256 L jwk = .ok jkt) :
    Escapes (match c.expectedJkt with
      | none => (return jkt)
      | some expected => do
        let same ← uncaught (compareDigest jkt expected)
        ensure same .keyMismatch
        return jkt) ↔ ∃ expected, c.expectedJkt = some expected ∧ expected.all isAscii = false := by
  cases c.expectedJkt with
  | none =>
    refine iff_of_false (not_escapes_ok jkt) ?_
    rintro ⟨expected, ⟨⟩, -⟩
  | some expected =>
    dsimp only
    rw [escapes_bind, escapes_compare (thumbprint_ascii hjkt), or_iff_left]
    · refine ⟨fun h => ⟨expected, rfl, h⟩, ?_⟩
      rintro ⟨expected', hexpected, h⟩
      rw [Option.some.inj hexpected]
      exact h
    · rintro ⟨same, -, h⟩
      exact not_escapes_ok _ (escapes_ensure_bind.1 h).2

theorem escapes_checkBinding : Escapes (checkBinding L c claims jwk) ↔ UnhashableBinding L c claims jwk := by
  unfold checkBinding UnhashableBinding
  cases hath : (Json.get claims (lit "ath")).asStr? with
  | none =>
    refine iff_of_false (not_escapes_refuse _) ?_
    rintro ⟨ath, ⟨⟩, -⟩
  | some ath =>
    cases ath with
    | nil =>
      refine iff_of_false (not_escapes_refuse _) ?_
      rintro ⟨ath, hnil, hne, -⟩
      exact hne (Option.some.inj hnil).symm
    | cons a ath =>
      simp only [Option.some.injEq, ne_eq, exists_eq_left', reduceCtorEq, not_false_eq_true, true_and]
      rw [escapes_bind, escapes_uncaught]
      obtain ⟨htoken, hraises⟩ | ⟨htoken, hash, hhash, hascii⟩ := accessTokenHash_cases L c.accessToken
      · exact iff_of_true (.inl hraises) (.inl htoken)
      · have hreturns : isOk (accessTokenHash L c.accessToken) ≠ false := by
          rw [hhash]
          exact fun h => Bool.noConfusion h
        have htoken' : c.accessToken.all isAscii ≠ false := by
          rw [htoken]
          exact fun h => Bool.noConfusion h
        have huncaught : ∀ x : PyStr, uncaught (accessTokenHash L c.accessToken) = .ok x ↔ x = hash := by
          intro x
          rw [uncaught_ok, hhash, Except.ok.injEq]
          exact eq_comm
        rw [or_iff_right hreturns, or_iff_right htoken']
        simp only [huncaught, exists_eq_left]
        rw [escapes_bind, escapes_uncaught, compareDigest_isOk, hascii, Bool.and_true]
        refine or_congr_right' fun hath' => ?_
        rw [Bool.not_eq_false] at hath'
        have hcompare : ∀ b : Bool, uncaught (compareDigest (a :: ath) hash) = .ok b ↔
            b = decide (a :: ath = hash) := by
          intro b
          unfold compareDigest
          rw [hath', hascii, uncaught_ok]
          exact ⟨fun h => (Except.ok.inj h).symm, fun h => by rw [h]; rfl⟩
        simp only [hcompare, exists_eq_left]
        rw [escapes_ensure_bind, decide_eq_true_eq, hhash, Except.ok.injEq, eq_comm]
        refine and_congr_right fun _ => ?_
        rw [escapes_bind, escapes_thumbprint]
        refine or_congr Iff.rfl ⟨?_, ?_⟩
        · rintro ⟨jkt, hjkt, h⟩
          obtain ⟨expected, hexpected, h⟩ := (escapes_expected hjkt).1 h
          exact ⟨jkt, expected, hjkt, hexpected, h⟩
        · rintro ⟨jkt, expected, hjkt, hexpected, h⟩
          exact ⟨jkt, hjkt, (escapes_expected hjkt).2 ⟨expected, hexpected, h⟩⟩

theorem not_escapes_jtiOf : ¬ Escapes (jtiOf claims) := by
  unfold jtiOf
  split
  · exact not_escapes_refuse _
  · exact not_escapes_refuse _
  · exact not_escapes_ok _

theorem escapes_claims : Escapes (do
      checkRequest L c claims
      let iat ← numericIat (Json.get claims (lit "iat"))
      ensure (!decide (dpopIatLeewaySeconds < (c.now - iat).abs)) .iatOutsideWindow
      let jkt ← checkBinding L c claims jwk
      let jti ← jtiOf claims
      return (⟨iat, jti, jkt⟩ : Checked)) ↔ EscapingClaims L c claims jwk := by
  unfold EscapingClaims
  rw [escapes_bind, escapes_checkRequest]
  refine or_congr Iff.rfl ?_
  have hunit : ∀ P : Prop, (∃ u : Unit, checkRequest L c claims = .ok u ∧ P) ↔
      checkRequest L c claims = .ok () ∧ P := fun P => ⟨fun ⟨_, h⟩ => h, fun h => ⟨(), h⟩⟩
  rw [hunit]
  refine and_congr_right fun _ => ?_
  rw [escapes_bind, escapes_numericIat]
  refine or_congr Iff.rfl (exists_congr fun iat => and_congr_right fun _ => ?_)
  rw [escapes_ensure_bind, Bool.not_eq_true', decide_eq_false_iff_not]
  refine and_congr_right fun _ => ?_
  rw [escapes_bind, escapes_checkBinding, or_iff_left]
  rintro ⟨jkt, -, h⟩
  obtain h | ⟨jti, -, h⟩ := escapes_bind.1 h
  · exact not_escapes_jtiOf h
  · exact not_escapes_ok _ h

/-- **An exception escapes the checks** exactly on the escaping inputs. -/
theorem escapes_checkProof (L : Library) (c : Call) : Escapes (checkProof L c) ↔ Escaping L c := by
  unfold checkProof Escaping
  rw [escapes_bind, escapes_checkHeader]
  refine or_congr Iff.rfl ⟨?_, ?_⟩
  · rintro ⟨⟨jwk, alg⟩, hheader, h⟩
    refine ⟨jwk, alg, hheader, ?_⟩
    obtain h | ⟨claims, hclaims, h⟩ := escapes_bind.1 h
    · exact .inl (escapes_decodeClaims.1 h)
    · exact .inr ⟨claims, hclaims, escapes_claims.1 h⟩
  · rintro ⟨jwk, alg, hheader, h⟩
    refine ⟨⟨jwk, alg⟩, hheader, escapes_bind.2 ?_⟩
    obtain h | ⟨claims, hclaims, h⟩ := h
    · exact .inl (escapes_decodeClaims.2 h)
    · exact .inr ⟨claims, hclaims, escapes_claims.2 h⟩

/-! ## The whole call -/

theorem checkProof_thumbprint {checked : Checked} (h : checkProof L c = .ok checked) : ∃ header jwk,
    rawHeader L.platform c.proof = .ok header ∧ (Json.get header (lit "jwk")).asObj? = some jwk ∧
    jwkThumbprintS256 L jwk = .ok checked.jkt := by
  obtain ⟨⟨jwk, alg⟩, hheader, h⟩ := bind_ok h
  obtain ⟨claims, -, h⟩ := bind_ok h
  obtain ⟨_, -, h⟩ := bind_ok h
  obtain ⟨iat, -, h⟩ := bind_ok h
  obtain ⟨_, -, h⟩ := bind_ok h
  obtain ⟨jkt, hbinding, h⟩ := bind_ok h
  obtain ⟨jti, -, h⟩ := bind_ok h
  obtain rfl := Except.ok.inj h
  obtain ⟨_, -, hheader⟩ := bind_ok hheader
  obtain ⟨_, -, hheader⟩ := bind_ok hheader
  obtain ⟨header, hraw, hheader⟩ := bind_ok hheader
  obtain ⟨_, -, hheader⟩ := bind_ok hheader
  refine ⟨header, jwk, hraw, ?_, ?_⟩
  · cases hjwk : (Json.get header (lit "jwk")).asObj? with
    | none =>
      rw [hjwk] at hheader
      cases hheader
    | some found =>
      rw [hjwk] at hheader
      obtain ⟨_, -, hheader⟩ := bind_ok hheader
      obtain ⟨_, -, hheader⟩ := bind_ok hheader
      obtain ⟨_, -, hheader⟩ := bind_ok hheader
      rw [(Prod.mk.inj (Except.ok.inj hheader)).1]
  · unfold checkBinding at hbinding
    split at hbinding
    · cases hbinding
    · cases hbinding
    · obtain ⟨hash, -, hbinding⟩ := bind_ok hbinding
      obtain ⟨same, -, hbinding⟩ := bind_ok hbinding
      obtain ⟨_, -, hbinding⟩ := bind_ok hbinding
      obtain ⟨found, hfound, hbinding⟩ := bind_ok hbinding
      rw [hfound]
      split at hbinding
      · exact hbinding
      · obtain ⟨same, -, hbinding⟩ := bind_ok hbinding
        obtain ⟨_, -, hbinding⟩ := bind_ok hbinding
        exact hbinding

end Steps

/-- **A call fails only with an** `AuthError` exactly if its input is not an escaping one, over every
store. -/
theorem authOnly_iff {σ : Type} (S : JtiStore σ) (L : Library) (c : Call) (store : σ) :
    AuthOnly S L c store ↔ ¬ Escaping L c := by
  rw [← escapes_checkProof]
  cases hchecked : checkProof L c with
  | error failure =>
    have hrun : verifyWith S L c store = ⟨.error failure, store, []⟩ := by
      unfold verifyWith
      rw [hchecked]
    constructor
    · rintro h ⟨e, he⟩
      obtain ⟨r, hr⟩ := h.raises failure (by rw [hrun])
      rw [Except.error.inj he] at hr
      cases hr
    · intro hnot
      refine ⟨fun f hf => ?_, fun jkt hjkt => ?_, fun f _ => .inl (by rw [hrun])⟩
      · rw [hrun] at hf
        obtain rfl := Except.error.inj hf
        cases failure with
        | auth r => exact ⟨r, rfl⟩
        | escaped e => exact absurd ⟨e, rfl⟩ hnot
      · rw [hrun] at hjkt
        cases hjkt
  | ok checked =>
    refine iff_of_true ?_ (not_escapes_ok checked)
    cases hclaim : S.claim store checked.jti (checked.iat + dpopIatLeewaySeconds) with
    | mk free store' =>
      cases free with
      | true =>
        have hrun : verifyWith S L c store = ⟨.ok checked.jkt, store', [checked.jti]⟩ := by
          unfold verifyWith
          rw [hchecked]
          dsimp only
          rw [hclaim]
        refine ⟨fun f hf => ?_, fun jkt hjkt => ?_, fun f hf => ?_⟩
        · rw [hrun] at hf
          cases hf
        · rw [hrun] at hjkt
          rw [← Except.ok.inj hjkt]
          exact checkProof_thumbprint hchecked
        · rw [hrun] at hf
          cases hf
      | false =>
        have hrun : verifyWith S L c store = ⟨refuse .replayed, store', [checked.jti]⟩ := by
          unfold verifyWith
          rw [hchecked]
          dsimp only
          rw [hclaim]
        refine ⟨fun f hf => ?_, fun jkt hjkt => ?_, fun f hf => .inr ?_⟩
        · rw [hrun] at hf
          exact ⟨.replayed, (Except.error.inj hf).symm⟩
        · rw [hrun] at hjkt
          cases hjkt
        · rw [hrun] at hf
          exact (Except.error.inj hf).symm

namespace UnsplittableUri

/-- A request whose `Host` was an opening bracket. -/
def call : Call := { ReplayAtExpiry.call 1000.0 with httpUri := lit "https://[/r" }

/-- The exception that escaped. -/
def escapee {α : Type} : Except Failure α → Option Exc
  | .error (.escaped e) => some e
  | _ => none

theorem escaped : escapee (verifyWith (inMemory 1000.0) ReplayAtExpiry.library call Dict.empty).result =
    some .valueError := by
  decide +kernel

end UnsplittableUri

theorem not_authOnly : ¬ ∀ {σ : Type} (S : JtiStore σ) (L : Library) (c : Call) (store : σ),
    AuthOnly S L c store := by
  intro hall
  have hraises := (hall (inMemory 1000.0) ReplayAtExpiry.library UnsplittableUri.call Dict.empty).raises
  have hescaped := UnsplittableUri.escaped
  cases hresult : (verifyWith (inMemory 1000.0) ReplayAtExpiry.library UnsplittableUri.call Dict.empty).result with
  | ok jkt =>
    rw [hresult] at hescaped
    cases hescaped
  | error f =>
    obtain ⟨r, rfl⟩ := hraises f hresult
    rw [hresult] at hescaped
    cases hescaped

end AxiamSdk.Dpop
