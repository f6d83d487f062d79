import AxiamSdk.Lib.Checklist
import AxiamSdk.Ssf.Receiver

/-! # The nine steps of a SET (`ssf/_receiver.py`)

* `verifySet`: steps 1 to 8, then the store.
* `eightSteps`, `nineSteps`: the documented steps, each with its reason.
* `judgeSet_judges`: what the code does is told by the first of its own steps that fails.
* `nine_steps_iff`: the documented steps are followed exactly if no part nests too deeply, no unused bit is set
  where that is forbidden, no infinite or undefined `iat` comes up for acceptance, and no `txn` or event of another
  shape is accepted. -/

namespace AxiamSdk.Ssf
open PyLib Checklist
set_option autoImplicit false

variable {Key κ σ : Type}

/-! ## verify_set -/

/-- `verify_set`, with what is left of the key source and of the store. -/
def verifySet (R : Receiver Key) (keys : KeySource κ Key) (store : ReplayStore σ) (k : κ) (s : σ) (setToken : PyStr) :
    Except Exc SecurityEvent × κ × σ :=
  match judgeSet R keys k setToken none with
  | (.error e, k) => (.error e, k, s)
  | (.ok event, k) => ((record R store s event).1, k, (record R store s event).2)

/-- The store together with the `jti`s it was asked about. -/
def logged (store : ReplayStore σ) : ReplayStore (σ × List PyStr) where
  checkAndRecord s jti window :=
    ((store.checkAndRecord s.1 jti window).1, (store.checkAndRecord s.1 jti window).2, s.2 ++ [jti])

/-! ## The documented steps -/

/-- What the steps read of a SET. -/
structure Documents where
  header : List (PyStr × Json)
  claims : List (PyStr × Json)
  signingInput : Bytes
  signature : Bytes

/-- Strict unpadded base64url, its unused bits zero where `zeroBits` asks for that too. -/
def strictB64 (zeroBits : Bool) (part : PyStr) : Option Bytes :=
  (b64 part).filter (fun bytes => !zeroBits || decide (Base64.urlsafeEncode bytes = part))

def objectOf (zeroBits : Bool) (P : Platform) (part : PyStr) : Option (List (PyStr × Json)) :=
  (strictB64 zeroBits part).bind (fun raw => (P.loads raw).toOption.bind Json.asObj?)

/-- Three base64url parts, a JSON header and payload. -/
def documents (zeroBits : Bool) (P : Platform) (setToken : PyStr) : Option Documents :=
  match splitOn (ch '.') setToken with
  | [header64, payload64, signature64] =>
    match strictB64 zeroBits signature64, objectOf zeroBits P header64, objectOf zeroBits P payload64 with
    | some signature, some header, some claims =>
      some ⟨header, claims, (encodeAscii (header64 ++ ch '.' :: payload64)).getD [], signature⟩
    | _, _, _ => none
  | _ => none

def typOk (header : List (PyStr × Json)) : Bool :=
  ((Json.get header (lit "typ")).asStr?.map lowerAscii).any
    (fun typ => typ = lit "secevent+jwt" || typ = lit "application/secevent+jwt")

def algOk (header : List (PyStr × Json)) : Bool := decide ((Json.get header (lit "alg")).asStr? = some (lit "EdDSA"))

/-- The `kid`; an empty one is none. -/
def kidOf (header : List (PyStr × Json)) : Option PyStr := (Json.get header (lit "kid")).asStr?.filter (!·.isEmpty)

def jtiOf (claims : List (PyStr × Json)) : Option PyStr := (Json.get claims (lit "jti")).asStr?.filter (!·.isEmpty)

def isFinite : Json → Bool
  | .float x => !x.isNaN && !x.isInf
  | _ => true

def oneMember : Json → Bool
  | .obj [_] => true
  | _ => false

/-- No `exp`, no `sub`; a `jti`, a numeric `iat`, an object `sub_id`; one `events` member. The number is finite
where `finite` asks for that. -/
def requestOk (finite : Bool) (claims : List (PyStr × Json)) : Bool :=
  (Assoc.get? claims (lit "exp")).isNone && (Assoc.get? claims (lit "sub")).isNone && (jtiOf claims).isSome &&
    (isNumber (Json.get claims (lit "iat")) && (!finite || isFinite (Json.get claims (lit "iat")))) &&
    (Json.get claims (lit "sub_id")).asObj?.isSome && oneMember (Json.get claims (lit "events"))

section Steps
variable (zeroBits finite : Bool) (R : Receiver Key) (lookup : PyStr → Option Key) (fresh : PyStr → Bool)
  (setToken : PyStr)

/-- The key for the `kid` in the JWKS. -/
def keyOf (d : Documents) : Option Key := (kidOf d.header).bind lookup

/-- Steps 1 to 8. -/
def eightSteps : List (Bool × SetFailureReason) :=
  let d := documents zeroBits R.platform setToken
  [(d.isSome, .malformed),
    (d.any (fun d => typOk d.header), .invalidType),
    (d.any (fun d => algOk d.header), .invalidKey),
    (d.any (fun d => (keyOf lookup d).isSome), .invalidKey),
    (d.any (fun d => (keyOf lookup d).any (fun key => R.isEd25519 key && R.verifies d.signingInput key d.signature)),
      .invalidKey),
    (d.any (fun d => decide ((Json.get d.claims (lit "iss")).asStr? = some R.issuer)), .invalidIssuer),
    (d.any (fun d => namesAudience R.audience (Json.get d.claims (lit "aud"))), .invalidAudience),
    (d.any (fun d => requestOk finite d.claims), .invalidRequest)]

/-- All nine; `fresh` says whether a `jti` is new. -/
def nineSteps : List (Bool × SetFailureReason) :=
  eightSteps zeroBits finite R lookup setToken ++
    [((documents zeroBits R.platform setToken).any (fun d => (jtiOf d.claims).any fresh), .replayed)]

end Steps

/-- The fields of the event are the claims of the SET; a missing `txn` is `None`. -/
structure FieldsOf (claims : List (PyStr × Json)) (event : SecurityEvent) : Prop where
  jti : Json.get claims (lit "jti") = .str event.jti
  iat : Json.get claims (lit "iat") = event.iat
  iss : Json.get claims (lit "iss") = .str event.iss
  aud : Json.get claims (lit "aud") = event.aud
  txn : Json.get claims (lit "txn") = event.txn.elim .null .str
  events : Json.get claims (lit "events") = .obj [(event.eventType, .obj event.event)]
  subId : Json.get claims (lit "sub_id") = .obj event.subId

/-- The result is a refusal with this reason. -/
def Refuses {α : Type} (x : Except Exc α) (reason : SetFailureReason) : Prop :=
  ∃ detail, x = .error (.setVerificationError reason detail)

/-- What the key source answers about a `kid`. -/
def lookupIn (keys : KeySource κ Key) (k : κ) (kid : PyStr) : Option Key := (keys.keyFor k kid).1.toOption.join

/-- The store's answer about a `jti` is that it is new. -/
def freshIn (R : Receiver Key) (store : ReplayStore σ) (s : σ) (jti : PyStr) : Bool :=
  (store.checkAndRecord s jti R.replayWindow).1.toOption.any id

section Follows
variable (zeroBits : Bool) (R : Receiver Key) (keys : KeySource κ Key) (store : ReplayStore σ) (k : κ) (s : σ)
  (setToken : PyStr)

/-- The key lookup answers, if the SET gets as far as to one. -/
def LookupAnswers : Prop :=
  ∀ d kid, documents zeroBits R.platform setToken = some d → typOk d.header = true → algOk d.header = true →
    kidOf d.header = some kid → ∃ key, (keys.keyFor k kid).1 = .ok key

/-- The store answers, if it is to be asked. -/
def StoreAnswers (finite : Bool) : Prop :=
  firstFailing (eightSteps zeroBits finite R (lookupIn keys k) setToken) = none →
    ∀ d jti, documents zeroBits R.platform setToken = some d → jtiOf d.claims = some jti →
      ∃ fresh, (store.checkAndRecord s jti R.replayWindow).1 = .ok fresh

/-- The nine documented steps, with a finite `iat`, are followed on the SET. -/
structure FollowsNineSteps : Prop where
  accepted : (∃ event, (verifySet R keys store k s setToken).1 = .ok event) ↔
    firstFailing (nineSteps zeroBits true R (lookupIn keys k) (freshIn R store s) setToken) = none
  fields : ∀ event d, (verifySet R keys store k s setToken).1 = .ok event →
    documents zeroBits R.platform setToken = some d → FieldsOf d.claims event
  refused : LookupAnswers zeroBits R keys k setToken → StoreAnswers zeroBits R keys store k s setToken true →
    ∀ reason, firstFailing (nineSteps zeroBits true R (lookupIn keys k) (freshIn R store s) setToken) = some reason →
      Refuses (verifySet R keys store k s setToken).1 reason
  asked : firstFailing (eightSteps zeroBits true R (lookupIn keys k) setToken) ≠ none →
    (verifySet R keys store k s setToken).2.2 = s ∧ (verifySet R keys (logged store) k (s, []) setToken).2.2.2 = []

/-- `json.loads` gives up on the part with an exception that is no `ValueError`. -/
def EscapesPart (P : Platform) (part : PyStr) : Prop :=
  ∃ raw e, b64 part = some raw ∧ P.loads raw = .error e ∧ e.isValueError = false

/-- The header or the payload of the SET is nested deeper than `json.loads` can follow. -/
def Escapes (P : Platform) : Prop :=
  ∃ header64 payload64 signature64, splitOn (ch '.') setToken = [header64, payload64, signature64] ∧
    (b64 signature64).isSome = true ∧ (EscapesPart P header64 ∨ EscapesPart P payload64)

/-- A `txn` that is a string, or null, and an event that is an object. -/
def Shaped (claims : List (PyStr × Json)) : Prop :=
  (Json.get claims (lit "txn") = .null ∨ ∃ txn, Json.get claims (lit "txn") = .str txn) ∧
    ∃ name event, Json.get claims (lit "events") = .obj [(name, .obj event)]

/-- Each part is the base64url text of what it decodes to. -/
def Canonical : Prop :=
  ∀ part ∈ splitOn (ch '.') setToken, ∀ bytes, b64 part = some bytes → Base64.urlsafeEncode bytes = part

/-- The key lookup itself refuses the SET as malformed. -/
def LookupMalformed : Prop :=
  ∃ d kid, documents false R.platform setToken = some d ∧ typOk d.header = true ∧ algOk d.header = true ∧
    kidOf d.header = some kid ∧ Refuses (keys.keyFor k kid).1 .malformed

/-- The SETs on which the code follows the nine steps. -/
structure Regular : Prop where
  shallow : ¬ Escapes setToken R.platform
  zeroBits : zeroBits = true → (documents false R.platform setToken).isSome = true →
    Canonical setToken ∨ LookupMalformed R keys k setToken
  finite : ∀ d, documents false R.platform setToken = some d →
    firstFailing (eightSteps false false R (lookupIn keys k) setToken) = none →
      isFinite (Json.get d.claims (lit "iat")) = true
  shaped : ∀ d, documents false R.platform setToken = some d →
    firstFailing (nineSteps false false R (lookupIn keys k) (freshIn R store s) setToken) = none → Shaped d.claims

end Follows

/-! ## Reading the parts -/

section Parts
variable {P : Platform} {part setToken : PyStr}

theorem strictB64_false (part : PyStr) : strictB64 false part = b64 part := by
  unfold strictB64
  cases b64 part with
  | none => rfl
  | some bytes => rfl

theorem strictB64_true {bytes : Bytes} (h : b64 part = some bytes) :
    strictB64 true part = if Base64.urlsafeEncode bytes = part then some bytes else none := by
  unfold strictB64
  rw [h, Option.filter_some]
  simp

theorem strictB64_some {zeroBits : Bool} {bytes : Bytes} (h : strictB64 zeroBits part = some bytes) :
    b64 part = some bytes :=
  (Option.filter_eq_some_iff.1 h).1

theorem jsonObject_eq (h : ¬ EscapesPart P part) : jsonObject P part = .ok (objectOf false P part) := by
  unfold jsonObject objectOf
  rw [strictB64_false]
  cases hraw : b64 part with
  | none => rfl
  | some raw =>
    dsimp only [Option.bind_some]
    cases hloads : P.loads raw with
    | ok v => rfl
    | error e =>
      cases hvalue : e.isValueError with
      | true => simp [hvalue, Except.toOption]
      | false => exact absurd ⟨raw, e, hraw, hloads, hvalue⟩ h

theorem jsonObject_escapes (h : EscapesPart P part) :
    jsonObject P part = .error .recursionError ∧ ∀ zeroBits, objectOf zeroBits P part = none := by
  obtain ⟨raw, e, hraw, hloads, hvalue⟩ := h
  have he : e = .recursionError := by
    obtain hv | he := loads_error hloads
    · rw [hvalue] at hv
      cases hv
    · exact he
  subst he
  constructor
  · rw [jsonObject, hraw]
    dsimp only
    rw [hloads]
    rfl
  · intro zeroBits
    unfold objectOf
    cases hstrict : strictB64 zeroBits part with
    | none => rfl
    | some bytes =>
      obtain rfl := Option.some.inj (hraw.symm.trans (strictB64_some hstrict))
      rw [Option.bind_some, hloads]
      rfl

theorem isAscii_of_isB64Url {c : CodePoint} (h : isB64Url c = true) : isAscii c = true := by
  have hminus : (ch '-').val = 45 := rfl
  have hunder : (ch '_').val = 95 := rfl
  simp only [isB64Url, isLetter, Bool.or_eq_true, decide_eq_true_eq, Fin.ext_iff] at h
  simp only [isAscii, decide_eq_true_eq]
  omega

theorem all_isAscii_of_b64 {bytes : Bytes} (h : b64 part = some bytes) : part.all isAscii = true := by
  unfold b64 at h
  split at h
  · next hall =>
    rw [List.all_eq_true] at hall ⊢
    exact fun c hc => isAscii_of_isB64Url (hall c hc)
  · cases h

theorem b64_of_objectOf {zeroBits : Bool} {members : List (PyStr × Json)} (h : objectOf zeroBits P part = some members) :
    ∃ bytes, b64 part = some bytes := by
  obtain ⟨bytes, hbytes, -⟩ := Option.bind_eq_some_iff.1 h
  exact ⟨bytes, strictB64_some hbytes⟩

/-- `parse` of a SET whose parts are read: the documents, and the checks of the header. -/
theorem parse_some {d : Documents} (hdeep : ¬ Escapes setToken P) (h : documents false P setToken = some d) :
    parse P setToken = (checkHeader d.header).map (fun kid => ⟨kid, d.signingInput, d.signature, d.claims⟩) := by
  unfold documents at h
  split at h
  · next header64 payload64 signature64 hsplit =>
    split at h
    · next signature header claims hsignature hheader hclaims =>
      cases h
      rw [strictB64_false] at hsignature
      have hsome : (b64 signature64).isSome = true := by
        rw [hsignature]
        rfl
      have hno : ¬ EscapesPart P header64 := fun he => hdeep ⟨_, _, _, hsplit, hsome, Or.inl he⟩
      have hno' : ¬ EscapesPart P payload64 := fun he => hdeep ⟨_, _, _, hsplit, hsome, Or.inr he⟩
      obtain ⟨bytes, hbytes⟩ := b64_of_objectOf hheader
      obtain ⟨bytes', hbytes'⟩ := b64_of_objectOf hclaims
      have hascii : (header64 ++ ch '.' :: payload64).all isAscii = true := by
        rw [List.all_append, List.all_cons, all_isAscii_of_b64 hbytes, all_isAscii_of_b64 hbytes']
        decide
      have hencode : encodeAscii (header64 ++ ch '.' :: payload64) =
          some ((header64 ++ ch '.' :: payload64).map (fun c => UInt8.ofNat c.val)) := by
        rw [encodeAscii, if_pos hascii]
      unfold parse
      rw [hsplit]
      dsimp only
      rw [hsignature]
      dsimp only
      rw [jsonObject_eq hno, jsonObject_eq hno', hheader, hclaims, hencode]
      cases hcheck : checkHeader header with
      | error e =>
        show (checkHeader header >>= _) = _
        rw [hcheck]
        rfl
      | ok kid =>
        show (checkHeader header >>= _) = _
        rw [hcheck]
        rfl
    · cases h
  · cases h

/-- `parse` of a SET whose parts are not read. -/
theorem parse_none (hdeep : ¬ Escapes setToken P) (h : documents false P setToken = none) :
    Refuses (parse P setToken) .malformed := by
  unfold parse
  split
  · next header64 payload64 signature64 hsplit =>
    unfold documents at h
    rw [hsplit] at h
    simp only [strictB64_false] at h
    cases hsignature : b64 signature64 with
    | none => exact ⟨_, rfl⟩
    | some signature =>
      have hsome : (b64 signature64).isSome = true := by
        rw [hsignature]
        rfl
      have hno : ¬ EscapesPart P header64 := fun he => hdeep ⟨_, _, _, hsplit, hsome, Or.inl he⟩
      have hno' : ¬ EscapesPart P payload64 := fun he => hdeep ⟨_, _, _, hsplit, hsome, Or.inr he⟩
      rw [hsignature] at h
      dsimp only
      rw [jsonObject_eq hno, jsonObject_eq hno']
      cases hheader : objectOf false P header64 with
      | none => exact ⟨_, rfl⟩
      | some header =>
        cases hclaims : objectOf false P payload64 with
        | none => exact ⟨_, rfl⟩
        | some claims =>
          rw [hheader, hclaims] at h
          cases h
  · exact ⟨_, rfl⟩

/-- A SET that nests too deeply: no documents are read, and `parse` does not refuse it. -/
theorem parse_escapes (h : Escapes setToken P) :
    parse P setToken = .error .recursionError ∧ ∀ zeroBits, documents zeroBits P setToken = none := by
  obtain ⟨header64, payload64, signature64, hsplit, hsome, hpart⟩ := h
  obtain ⟨signature, hsignature⟩ := Option.isSome_iff_exists.1 hsome
  constructor
  · unfold parse
    rw [hsplit]
    dsimp only
    rw [hsignature]
    dsimp only
    by_cases hheader : EscapesPart P header64
    · rw [(jsonObject_escapes hheader).1]
      rfl
    · have hpayload : EscapesPart P payload64 := hpart.resolve_left hheader
      rw [jsonObject_eq hheader, (jsonObject_escapes hpayload).1]
      rfl
  · intro zeroBits
    unfold documents
    rw [hsplit]
    dsimp only
    obtain hheader | hpayload := hpart
    · rw [(jsonObject_escapes hheader).2 zeroBits]
      cases strictB64 zeroBits signature64 <;> rfl
    · rw [(jsonObject_escapes hpayload).2 zeroBits]
      cases strictB64 zeroBits signature64 <;> cases objectOf zeroBits P header64 <;> rfl

end Parts

/-! ## Steps 1 to 8 -/

/-- The reason of a refusal. -/
def reasonOf : Exc → Option SetFailureReason
  | .setVerificationError reason _ => some reason
  | _ => none

theorem judges_refuse {α : Type} (reason : SetFailureReason) (detail : String) :
    Judges reasonOf (refuse reason detail : Except Exc α) (some reason) :=
  ⟨_, rfl, rfl⟩

theorem refuses_of_judges {α : Type} {x : Except Exc α} {reason : SetFailureReason}
    (h : Judges reasonOf x (some reason)) : Refuses x reason := by
  obtain ⟨e, rfl, he⟩ := h
  cases e with
  | setVerificationError r detail =>
    cases he
    exact ⟨detail, rfl⟩
  | _ => cases he

theorem judges_ensure {α : Type} {ok : Bool} {reason : SetFailureReason} {detail : String} {f : Unit → Except Exc α}
    {rest : Option SetFailureReason} (h : ok = true → Judges reasonOf (f ()) rest) :
    Judges reasonOf (ensure ok reason detail >>= f) (if ok then rest else some reason) := by
  cases ok with
  | true => exact h rfl
  | false => exact judges_refuse reason detail

theorem typOk_eq (header : List (PyStr × Json)) : typOk header =
    decide ((Json.get header (lit "typ")).asStr?.map lowerAscii = some (lit "secevent+jwt") ∨
      (Json.get header (lit "typ")).asStr?.map lowerAscii = some (lit "application/secevent+jwt")) := by
  unfold typOk
  cases (Json.get header (lit "typ")).asStr?.map lowerAscii with
  | none => rfl
  | some typ => simp

/-- The checks of the header: its type, its algorithm and its `kid`. -/
theorem checkHeader_judges (header : List (PyStr × Json)) : Judges reasonOf (checkHeader header)
    (firstFailing [(typOk header, .invalidType), (algOk header, .invalidKey), ((kidOf header).isSome, .invalidKey)]) := by
  simp only [checkHeader]
  rw [← typOk_eq]
  refine judges_ensure (fun _ => judges_ensure (fun _ => ?_))
  unfold kidOf
  cases (Json.get header (lit "kid")).asStr? with
  | none => exact judges_refuse _ _
  | some kid =>
    cases kid with
    | nil => exact judges_refuse _ _
    | cons c kid => exact ⟨_, rfl⟩

theorem checkHeader_ok {header : List (PyStr × Json)} {kid : PyStr} (h : checkHeader header = .ok kid) :
    typOk header = true ∧ algOk header = true ∧ kidOf header = some kid := by
  obtain ⟨_, htyp, h⟩ := bind_ok h
  obtain ⟨_, halg, h⟩ := bind_ok h
  refine ⟨?_, ensure_ok halg, ?_⟩
  · rw [typOk_eq]
    exact ensure_ok htyp
  · unfold kidOf
    cases hkid : (Json.get header (lit "kid")).asStr? with
    | none =>
      rw [hkid] at h
      cases h
    | some s =>
      rw [hkid] at h
      cases s with
      | nil => cases h
      | cons c s =>
        cases h
        rfl

theorem checkHeader_eq_ok {header : List (PyStr × Json)} {kid : PyStr} (htyp : typOk header = true)
    (halg : algOk header = true) (hkid : kidOf header = some kid) : checkHeader header = .ok kid := by
  have h := checkHeader_judges header
  simp only [firstFailing, htyp, halg, hkid, Option.isSome_some, if_true] at h
  obtain ⟨kid', hcheck⟩ := h
  obtain ⟨-, -, hkid'⟩ := checkHeader_ok hcheck
  rw [hkid] at hkid'
  cases hkid'
  exact hcheck

/-- The event that is made of the claims; an event that is no object has no members, a `txn` that is no string is none. -/
structure EventOf (iss : PyStr) (claims : List (PyStr × Json)) (event : SecurityEvent) : Prop where
  jti : jtiOf claims = some event.jti
  iat : event.iat = Json.get claims (lit "iat")
  iss : event.iss = iss
  aud : event.aud = Json.get claims (lit "aud")
  txn : event.txn = (Json.get claims (lit "txn")).asStr?
  events : ∃ v, Json.get claims (lit "events") = .obj [(event.eventType, v)] ∧ event.event = v.asObj?.getD []
  subId : Json.get claims (lit "sub_id") = .obj event.subId

theorem asObj?_some {v : Json} {ms : List (PyStr × Json)} (h : v.asObj? = some ms) : v = .obj ms := by
  cases v with
  | obj ms' =>
    cases h
    rfl
  | _ => cases h

theorem readEvent_judges (iss : PyStr) (claims : List (PyStr × Json)) :
    Judges reasonOf (readEvent iss claims none) (if requestOk false claims then none else some .invalidRequest) ∧
      ∀ event, readEvent iss claims none = .ok event → EventOf iss claims event := by
  have hrefused : ∀ detail, requestOk false claims = false → readEvent iss claims none = refuse .invalidRequest detail →
      Judges reasonOf (readEvent iss claims none) (if requestOk false claims then none else some .invalidRequest) ∧
        ∀ event, readEvent iss claims none = .ok event → EventOf iss claims event := by
    intro detail hbad heq
    rw [hbad, heq]
    exact ⟨judges_refuse _ _, by rintro event ⟨⟩⟩
  cases habsent : (Assoc.get? claims (lit "exp")).isNone && (Assoc.get? claims (lit "sub")).isNone with
  | false =>
    refine hrefused "a SET carries no exp and no sub" ?_ ?_
    · simp only [requestOk, habsent, Bool.false_and]
    · simp only [readEvent, habsent]
      rfl
  | true =>
    cases hjti : (Json.get claims (lit "jti")).asStr? with
    | none =>
      refine hrefused "no jti" ?_ ?_
      · simp [requestOk, jtiOf, hjti]
      · simp only [readEvent, habsent, hjti]
        rfl
    | some jti =>
      cases jti with
      | nil =>
        refine hrefused "no jti" ?_ ?_
        · simp [requestOk, jtiOf, hjti, Option.filter_some]
        · simp only [readEvent, habsent, hjti]
          rfl
      | cons c jti =>
        have hjti' : jtiOf claims = some (c :: jti) := by
          rw [jtiOf, hjti]
          rfl
        cases hiat : isNumber (Json.get claims (lit "iat")) with
        | false =>
          refine hrefused "no numeric iat" ?_ ?_
          · simp [requestOk, hiat]
          · simp only [readEvent, habsent, hjti, hiat]
            rfl
        | true =>
          cases hsub : (Json.get claims (lit "sub_id")).asObj? with
          | none =>
            refine hrefused "no sub_id object" ?_ ?_
            · simp [requestOk, hsub]
            · simp only [readEvent, habsent, hjti, hiat, hsub]
              rfl
          | some subId =>
            have hmany : oneMember (Json.get claims (lit "events")) = false →
                readEvent iss claims none = refuse .invalidRequest "events must have exactly one member" →
                Judges reasonOf (readEvent iss claims none) (if requestOk false claims then none else some .invalidRequest) ∧
                  ∀ event, readEvent iss claims none = .ok event → EventOf iss claims event := by
              intro hone heq
              refine hrefused _ ?_ heq
              simp [requestOk, hone]
            cases hevents : Json.get claims (lit "events") with
            | obj ms =>
              rcases ms with _ | ⟨⟨name, v⟩, _ | ⟨q, ms⟩⟩
              · refine hmany (by rw [hevents]; rfl) ?_
                simp only [readEvent, habsent, hjti, hiat, hsub, hevents]
                rfl
              · have hok : requestOk false claims = true := by
                  simp [requestOk, habsent, hjti', hiat, hsub, hevents, oneMember]
                have heq : readEvent iss claims none = .ok ⟨c :: jti, Json.get claims (lit "iat"), iss,
                    Json.get claims (lit "aud"), (Json.get claims (lit "txn")).asStr?, name, v.asObj?.getD [], subId⟩ := by
                  simp only [readEvent, habsent, hjti, hiat, hsub, hevents]
                  rfl
                rw [hok, heq]
                refine ⟨⟨_, rfl⟩, fun event h => ?_⟩
                cases h
                exact ⟨hjti', rfl, rfl, rfl, rfl, ⟨v, hevents, rfl⟩, asObj?_some hsub⟩
              · refine hmany (by rw [hevents]; rfl) ?_
                simp only [readEvent, habsent, hjti, hiat, hsub, hevents]
                rfl
            | _ =>
              refine hmany (by rw [hevents]; rfl) ?_
              simp only [readEvent, habsent, hjti, hiat, hsub, hevents]
              rfl

section Judge
variable {R : Receiver Key} {keys : KeySource κ Key} {k : κ} {setToken : PyStr} {d : Documents}

theorem judge_judges (kid : PyStr) (key : Key) : Judges reasonOf
    (judge R ⟨kid, d.signingInput, d.signature, d.claims⟩ (some key) none)
    (firstFailing [(R.isEd25519 key && R.verifies d.signingInput key d.signature, .invalidKey),
      (decide ((Json.get d.claims (lit "iss")).asStr? = some R.issuer), .invalidIssuer),
      (namesAudience R.audience (Json.get d.claims (lit "aud")), .invalidAudience),
      (requestOk false d.claims, .invalidRequest)]) :=
  judges_ensure (fun _ => judges_ensure (fun _ => judges_ensure (fun _ => (readEvent_judges R.issuer d.claims).1)))

theorem judge_ok {parsed : Parsed} {key : Option Key} {event : SecurityEvent}
    (h : judge R parsed key none = .ok event) : EventOf R.issuer parsed.claims event := by
  unfold judge at h
  split at h
  · cases h
  · obtain ⟨_, _, h⟩ := bind_ok h
    obtain ⟨_, _, h⟩ := bind_ok h
    obtain ⟨_, _, h⟩ := bind_ok h
    exact (readEvent_judges R.issuer parsed.claims).2 event h

theorem eightSteps_some {zeroBits finite : Bool} {lookup : PyStr → Option Key}
    (h : documents zeroBits R.platform setToken = some d) :
    firstFailing (eightSteps zeroBits finite R lookup setToken) =
      firstFailing [(typOk d.header, .invalidType), (algOk d.header, .invalidKey), ((keyOf lookup d).isSome, .invalidKey),
        ((keyOf lookup d).any (fun key => R.isEd25519 key && R.verifies d.signingInput key d.signature), .invalidKey),
        (decide ((Json.get d.claims (lit "iss")).asStr? = some R.issuer), .invalidIssuer),
        (namesAudience R.audience (Json.get d.claims (lit "aud")), .invalidAudience),
        (requestOk finite d.claims, .invalidRequest)] := by
  simp only [eightSteps, h, Option.isSome_some, Option.any_some, firstFailing, if_true]

theorem eightSteps_none {zeroBits finite : Bool} {lookup : PyStr → Option Key}
    (h : documents zeroBits R.platform setToken = none) :
    firstFailing (eightSteps zeroBits finite R lookup setToken) = some .malformed := by
  simp only [eightSteps, h]
  rfl

/-- **Steps 1 to 8** as the code makes them: a SET that passes them all is judged good, any other refused with the
reason of the first that fails, as long as the key lookup answers. -/
theorem judgeSet_judges (hdeep : ¬ Escapes setToken R.platform) (hanswers : LookupAnswers false R keys k setToken) :
    Judges reasonOf (judgeSet R keys k setToken none).1
      (firstFailing (eightSteps false false R (lookupIn keys k) setToken)) := by
  unfold judgeSet
  cases hd : documents false R.platform setToken with
  | none =>
    obtain ⟨detail, hparse⟩ := parse_none hdeep hd
    rw [hparse, eightSteps_none hd]
    exact ⟨_, rfl, rfl⟩
  | some d =>
    rw [parse_some hdeep hd, eightSteps_some hd]
    have hheader := checkHeader_judges d.header
    cases hcheck : checkHeader d.header with
    | error e =>
      rw [hcheck, judges_error] at hheader
      refine (judges_error e _).2 ?_
      cases htyp : typOk d.header with
      | false => simpa [firstFailing, htyp] using hheader
      | true =>
        cases halg : algOk d.header with
        | false => simpa [firstFailing, htyp, halg] using hheader
        | true =>
          cases hkid : kidOf d.header with
          | none => simpa [firstFailing, htyp, halg, hkid, keyOf] using hheader
          | some kid =>
            rw [checkHeader_eq_ok htyp halg hkid] at hcheck
            cases hcheck
    | ok kid =>
      obtain ⟨htyp, halg, hkid⟩ := checkHeader_ok hcheck
      obtain ⟨key, hkey⟩ := hanswers d kid hd htyp halg hkid
      have hlookup : keyOf (lookupIn keys k) d = key := by
        rw [keyOf, hkid, Option.bind_some, lookupIn, hkey]
        rfl
      rw [hlookup]
      simp only [firstFailing, htyp, halg, if_true, Except.map]
      cases hanswer : keys.keyFor k kid with
      | mk result k' =>
        rw [hanswer] at hkey
        simp only at hkey
        subst hkey
        cases key with
        | none => exact judges_refuse _ _
        | some key => exact judge_judges kid key

theorem judgeSet_ok {event : SecurityEvent} (hdeep : ¬ Escapes setToken R.platform)
    (h : (judgeSet R keys k setToken none).1 = .ok event) :
    LookupAnswers false R keys k setToken ∧
      ∃ d, documents false R.platform setToken = some d ∧ EventOf R.issuer d.claims event := by
  unfold judgeSet at h
  cases hd : documents false R.platform setToken with
  | none =>
    obtain ⟨detail, hparse⟩ := parse_none hdeep hd
    rw [hparse] at h
    cases h
  | some d =>
    rw [parse_some hdeep hd] at h
    cases hcheck : checkHeader d.header with
    | error e =>
      rw [hcheck] at h
      cases h
    | ok kid =>
      rw [hcheck] at h
      simp only [Except.map] at h
      cases hanswer : keys.keyFor k kid with
      | mk result k' =>
        rw [hanswer] at h
        cases result with
        | error e => cases h
        | ok key =>
          obtain ⟨-, -, hkid⟩ := checkHeader_ok hcheck
          refine ⟨fun d' kid' hd' _ _ hkid' => ⟨key, ?_⟩, d, rfl, judge_ok h⟩
          cases hd.symm.trans hd'
          cases hkid.symm.trans hkid'
          rw [hanswer]

theorem judgeSet_lookup {kid : PyStr} (hdeep : ¬ Escapes setToken R.platform)
    (hd : documents false R.platform setToken = some d) (htyp : typOk d.header = true) (halg : algOk d.header = true)
    (hkid : kidOf d.header = some kid) : (judgeSet R keys k setToken none).1 =
      (keys.keyFor k kid).1 >>= fun key => judge R ⟨kid, d.signingInput, d.signature, d.claims⟩ key none := by
  unfold judgeSet
  rw [parse_some hdeep hd, checkHeader_eq_ok htyp halg hkid]
  simp only [Except.map]
  cases keys.keyFor k kid with
  | mk result k' =>
    cases result with
    | error e => rfl
    | ok key => rfl

theorem judgeSet_unanswered (hdeep : ¬ Escapes setToken R.platform) (h : ¬ LookupAnswers false R keys k setToken) :
    ∃ d kid e, documents false R.platform setToken = some d ∧ typOk d.header = true ∧ algOk d.header = true ∧
      kidOf d.header = some kid ∧ (keys.keyFor k kid).1 = .error e ∧ (judgeSet R keys k setToken none).1 = .error e := by
  unfold LookupAnswers at h
  push Not at h
  obtain ⟨d, kid, hd, htyp, halg, hkid, hunanswered⟩ := h
  cases hanswer : (keys.keyFor k kid).1 with
  | ok key => exact absurd hanswer (hunanswered key)
  | error e =>
    refine ⟨d, kid, e, hd, htyp, halg, hkid, hanswer, ?_⟩
    rw [judgeSet_lookup hdeep hd htyp halg hkid, hanswer]
    rfl

end Judge

/-! ## Step 9 -/

section Verify
variable {R : Receiver Key} {keys : KeySource κ Key} {store : ReplayStore σ} {k : κ} {s : σ} {setToken : PyStr}

theorem verifySet_error (store : ReplayStore σ) (s : σ) {e : Exc}
    (h : (judgeSet R keys k setToken none).1 = .error e) :
    (verifySet R keys store k s setToken).1 = .error e ∧ (verifySet R keys store k s setToken).2.2 = s := by
  unfold verifySet
  cases hj : judgeSet R keys k setToken none with
  | mk result k' =>
    rw [hj] at h
    simp only at h
    subst h
    exact ⟨rfl, rfl⟩

theorem verifySet_ok {event : SecurityEvent} (h : (judgeSet R keys k setToken none).1 = .ok event) :
    (verifySet R keys store k s setToken).1 = (record R store s event).1 ∧
      (verifySet R keys store k s setToken).2.2 = (record R store s event).2 := by
  unfold verifySet
  cases hj : judgeSet R keys k setToken none with
  | mk result k' =>
    rw [hj] at h
    simp only at h
    subst h
    exact ⟨rfl, rfl⟩

theorem record_iff (event : SecurityEvent) :
    (∃ e, (record R store s event).1 = .ok e) ↔ freshIn R store s event.jti = true := by
  unfold record freshIn
  cases hanswer : store.checkAndRecord s event.jti R.replayWindow with
  | mk result s' =>
    cases result with
    | error e => simp [Except.toOption]
    | ok fresh =>
      cases fresh with
      | true => simp [Except.toOption]
      | false => simp [Except.toOption, refuse]

theorem record_ok {event event' : SecurityEvent} (h : (record R store s event).1 = .ok event') : event' = event := by
  unfold record at h
  split at h
  · cases h
  · cases h
    rfl
  · cases h

theorem record_replayed {event : SecurityEvent} (hanswers : ∃ b, (store.checkAndRecord s event.jti R.replayWindow).1 = .ok b)
    (h : freshIn R store s event.jti = false) : Refuses (record R store s event).1 .replayed := by
  obtain ⟨b, hb⟩ := hanswers
  unfold freshIn at h
  unfold record
  cases hanswer : store.checkAndRecord s event.jti R.replayWindow with
  | mk result s' =>
    rw [hanswer] at hb h
    simp only at hb
    subst hb
    cases b with
    | true => cases h
    | false => exact ⟨_, rfl⟩

theorem logged_ok {event : SecurityEvent} (h : (judgeSet R keys k setToken none).1 = .ok event) :
    (verifySet R keys (logged store) k (s, []) setToken).2.2.2 = [event.jti] := by
  rw [(verifySet_ok h).2]
  unfold record logged
  dsimp only
  cases (store.checkAndRecord s event.jti R.replayWindow).1 with
  | error e => rfl
  | ok fresh =>
    cases fresh with
    | true => rfl
    | false => rfl

end Verify

/-! ## The exact condition -/

section Condition
variable {zeroBits finite : Bool} {R : Receiver Key} {keys : KeySource κ Key} {store : ReplayStore σ} {k : κ} {s : σ}
  {setToken : PyStr} {P : Platform} {d : Documents}

theorem objectOf_mono {part : PyStr} {members : List (PyStr × Json)} (h : objectOf zeroBits P part = some members) :
    objectOf false P part = some members := by
  obtain ⟨raw, hraw, hmembers⟩ := Option.bind_eq_some_iff.1 h
  rw [objectOf, strictB64_false, strictB64_some hraw]
  exact hmembers

/-- What a stricter reading accepts, the reading of the code accepts alike. -/
theorem documents_mono (h : documents zeroBits P setToken = some d) : documents false P setToken = some d := by
  unfold documents at h ⊢
  split at h
  · next header64 payload64 signature64 hsplit =>
    split at h
    · next signature header claims hsignature hheader hclaims =>
      rw [strictB64_false, strictB64_some hsignature, objectOf_mono hheader, objectOf_mono hclaims]
      exact h
    · cases h
  · cases h

theorem strictB64_canonical {part : PyStr} (h : ∀ bytes, b64 part = some bytes → Base64.urlsafeEncode bytes = part) :
    strictB64 zeroBits part = b64 part := by
  cases zeroBits with
  | false => exact strictB64_false part
  | true =>
    cases hpart : b64 part with
    | none =>
      unfold strictB64
      rw [hpart]
      rfl
    | some bytes => rw [strictB64_true hpart, if_pos (h bytes hpart)]

theorem canonical_of_strictB64 {part : PyStr} {bytes : Bytes} (h : strictB64 true part = some bytes) :
    ∀ raw, b64 part = some raw → Base64.urlsafeEncode raw = part := by
  intro raw hraw
  rw [strictB64_true hraw] at h
  split at h
  · assumption
  · cases h

theorem documents_canonical (h : Canonical setToken) : documents zeroBits P setToken = documents false P setToken := by
  unfold documents
  split
  · next header64 payload64 signature64 hsplit =>
    have hpart : ∀ part ∈ [header64, payload64, signature64], ∀ bytes, b64 part = some bytes →
        Base64.urlsafeEncode bytes = part := by
      rw [← hsplit]
      exact h
    have heq : ∀ part ∈ [header64, payload64, signature64], strictB64 zeroBits part = strictB64 false part := by
      intro part hmem
      rw [strictB64_canonical (hpart part hmem), strictB64_false]
    rw [heq signature64 (by simp), objectOf, objectOf, heq header64 (by simp), heq payload64 (by simp)]
    rfl
  · rfl

theorem canonical_of_documents (h : documents true P setToken = some d) : Canonical setToken := by
  unfold documents at h
  split at h
  · next header64 payload64 signature64 hsplit =>
    split at h
    · next signature header claims hsignature hheader hclaims =>
      obtain ⟨_, hheader, -⟩ := Option.bind_eq_some_iff.1 hheader
      obtain ⟨_, hclaims, -⟩ := Option.bind_eq_some_iff.1 hclaims
      intro part hmem
      rw [hsplit] at hmem
      simp only [List.mem_cons, List.not_mem_nil, or_false] at hmem
      obtain rfl | rfl | rfl := hmem
      · exact canonical_of_strictB64 hheader
      · exact canonical_of_strictB64 hclaims
      · exact canonical_of_strictB64 hsignature
    · cases h
  · cases h

theorem eightSteps_passed {lookup : PyStr → Option Key} (hd : documents zeroBits R.platform setToken = some d) :
    firstFailing (eightSteps zeroBits finite R lookup setToken) = none ↔
      typOk d.header = true ∧ algOk d.header = true ∧ (keyOf lookup d).isSome = true ∧
        (keyOf lookup d).any (fun key => R.isEd25519 key && R.verifies d.signingInput key d.signature) = true ∧
        (Json.get d.claims (lit "iss")).asStr? = some R.issuer ∧
        namesAudience R.audience (Json.get d.claims (lit "aud")) = true ∧ requestOk finite d.claims = true := by
  rw [eightSteps_some hd, firstFailing_eq_none]
  simp only [List.forall_mem_cons, List.not_mem_nil, false_implies, implies_true, and_true, decide_eq_true_eq]

theorem lookupAnswers_of_eightSteps
    (h : firstFailing (eightSteps false finite R (lookupIn keys k) setToken) = none) :
    LookupAnswers false R keys k setToken := by
  intro d kid hd _ _ hkid
  obtain ⟨-, -, hkey, -⟩ := (eightSteps_passed hd).1 h
  obtain ⟨key, hkey⟩ := Option.isSome_iff_exists.1 hkey
  rw [keyOf, hkid, Option.bind_some, lookupIn, Option.join_eq_some_iff] at hkey
  cases hanswer : (keys.keyFor k kid).1 with
  | error e =>
    rw [hanswer] at hkey
    cases hkey
  | ok key => exact ⟨key, rfl⟩

theorem asStr?_some {v : Json} {text : PyStr} (h : v.asStr? = some text) : v = .str text := by
  cases v with
  | str text' =>
    cases h
    rfl
  | _ => cases h

theorem requestOk_mono (claims : List (PyStr × Json)) (h : requestOk true claims = true) :
    requestOk false claims = true := by
  simp only [requestOk, Bool.and_eq_true] at h ⊢
  exact ⟨⟨⟨h.1.1.1, h.1.1.2.1, rfl⟩, h.1.2⟩, h.2⟩

/-- The fields of an event are the claims exactly if those have the shapes that an event keeps. -/
theorem fieldsOf_iff {claims : List (PyStr × Json)} {event : SecurityEvent} (h : EventOf R.issuer claims event)
    (hiss : (Json.get claims (lit "iss")).asStr? = some R.issuer) : FieldsOf claims event ↔ Shaped claims := by
  obtain ⟨v, hevents, hevent⟩ := h.events
  constructor
  · intro hfields
    refine ⟨?_, _, _, hfields.events⟩
    have htxn := hfields.txn
    cases ht : event.txn with
    | none =>
      rw [ht] at htxn
      exact Or.inl htxn
    | some txn =>
      rw [ht] at htxn
      exact Or.inr ⟨txn, htxn⟩
  · rintro ⟨htxn, name, members, hshape⟩
    rw [hevents] at hshape
    cases hshape
    refine ⟨asStr?_some (Option.filter_eq_some_iff.1 h.jti).1, h.iat.symm, ?_, h.aud.symm, ?_, ?_, h.subId⟩
    · rw [asStr?_some hiss, h.iss]
    · rw [h.txn]
      obtain hnull | ⟨txn, hstr⟩ := htxn
      · rw [hnull]
        rfl
      · rw [hstr]
        rfl
    · rw [hevents, hevent]
      rfl

/-- The two readings of step 8 agree where the `iat` that comes up is finite. -/
theorem eightSteps_finite (hd : documents false R.platform setToken = some d)
    (hd' : documents zeroBits R.platform setToken = some d)
    (h : firstFailing (eightSteps false false R (lookupIn keys k) setToken) = none →
      isFinite (Json.get d.claims (lit "iat")) = true) :
    firstFailing (eightSteps zeroBits true R (lookupIn keys k) setToken) =
      firstFailing (eightSteps false false R (lookupIn keys k) setToken) := by
  rw [eightSteps_some hd', eightSteps_some hd]
  refine firstFailing_last [_, _, _, _, _, _] (requestOk_mono d.claims) (fun hall => ?_)
  have hpassed := (eightSteps_some hd).trans hall
  have hfinite := h hpassed
  obtain ⟨-, -, -, -, -, -, hlast⟩ := (eightSteps_passed hd).1 hpassed
  simpa [requestOk, hfinite] using hlast

/-! ### The code follows the steps -/

theorem follows_of_refused {e : Exc} {failing : SetFailureReason}
    (h : (judgeSet R keys k setToken none).1 = .error e)
    (hfirst : firstFailing (eightSteps zeroBits true R (lookupIn keys k) setToken) = some failing)
    (hreason : LookupAnswers zeroBits R keys k setToken → reasonOf e = some failing) :
    FollowsNineSteps zeroBits R keys store k s setToken := by
  have hnine : firstFailing (nineSteps zeroBits true R (lookupIn keys k) (freshIn R store s) setToken) =
      some failing := by
    rw [nineSteps, firstFailing_append, hfirst]
    rfl
  have hverify := verifySet_error store s h
  refine ⟨?_, ?_, ?_, ?_⟩
  · rw [hnine, hverify.1]
    exact iff_of_false (fun ⟨event, hevent⟩ => nomatch hevent) (fun hnone => nomatch hnone)
  · intro event d hevent
    rw [hverify.1] at hevent
    cases hevent
  · intro hanswers _ reason hreason'
    rw [hnine] at hreason'
    cases hreason'
    exact refuses_of_judges ⟨e, hverify.1, hreason hanswers⟩
  · intro _
    exact ⟨hverify.2, by rw [(verifySet_error (logged store) (s, []) h).2]⟩

theorem follows_of_judged {event : SecurityEvent} (h : (judgeSet R keys k setToken none).1 = .ok event)
    (hd : documents zeroBits R.platform setToken = some d) (hevent : EventOf R.issuer d.claims event)
    (hfirst : firstFailing (eightSteps zeroBits true R (lookupIn keys k) setToken) = none)
    (hshaped : freshIn R store s event.jti = true → Shaped d.claims) :
    FollowsNineSteps zeroBits R keys store k s setToken := by
  have hnine : firstFailing (nineSteps zeroBits true R (lookupIn keys k) (freshIn R store s) setToken) =
      if freshIn R store s event.jti then none else some .replayed := by
    rw [nineSteps, firstFailing_append, hfirst, hd, Option.any_some, hevent.jti, Option.any_some]
    rfl
  have hiss := ((eightSteps_passed hd).1 hfirst).2.2.2.2.1
  refine ⟨?_, ?_, ?_, ?_⟩
  · rw [hnine, (verifySet_ok h).1, record_iff]
    cases freshIn R store s event.jti <;> simp
  · intro event' d' hok hd'
    rw [(verifySet_ok h).1] at hok
    obtain rfl := record_ok hok
    cases hd.symm.trans hd'
    exact (fieldsOf_iff hevent hiss).2 (hshaped ((record_iff event').1 ⟨_, hok⟩))
  · intro _ hstore reason hreason
    rw [hnine] at hreason
    cases hfresh : freshIn R store s event.jti with
    | true =>
      rw [hfresh] at hreason
      cases hreason
    | false =>
      rw [hfresh] at hreason
      cases hreason
      rw [(verifySet_ok h).1]
      exact record_replayed (hstore hfirst d event.jti hd hevent.jti) hfresh
  · intro hne
    exact absurd hfirst hne

theorem follows_of_regular (h : Regular zeroBits R keys store k s setToken) :
    FollowsNineSteps zeroBits R keys store k s setToken := by
  cases hd : documents false R.platform setToken with
  | none =>
    have hnone : documents zeroBits R.platform setToken = none := by
      cases hd' : documents zeroBits R.platform setToken with
      | none => rfl
      | some d' =>
        rw [documents_mono hd'] at hd
        cases hd
    have hanswers : LookupAnswers false R keys k setToken := by
      intro d kid hd'
      rw [hd] at hd'
      cases hd'
    have hjudged := judgeSet_judges h.shallow hanswers
    rw [eightSteps_none hd] at hjudged
    obtain ⟨e, he, hreason⟩ := hjudged
    exact follows_of_refused he (eightSteps_none hnone) (fun _ => hreason)
  | some d =>
    by_cases hcanonical : documents zeroBits R.platform setToken = some d
    · have height := eightSteps_finite hd hcanonical (h.finite d hd)
      by_cases hanswers : LookupAnswers false R keys k setToken
      · have hjudged := judgeSet_judges h.shallow hanswers
        cases hfirst : firstFailing (eightSteps false false R (lookupIn keys k) setToken) with
        | some failing =>
          rw [hfirst] at hjudged height
          obtain ⟨e, he, hreason⟩ := hjudged
          exact follows_of_refused he height (fun _ => hreason)
        | none =>
          rw [hfirst] at hjudged height
          obtain ⟨event, hevent⟩ := hjudged
          obtain ⟨-, d', hd', hof⟩ := judgeSet_ok h.shallow hevent
          cases hd.symm.trans hd'
          refine follows_of_judged hevent hcanonical hof height (fun hfresh => h.shaped d hd ?_)
          rw [nineSteps, firstFailing_append, hfirst, hd, Option.any_some, hof.jti, Option.any_some, hfresh]
          rfl
      · obtain ⟨-, -, e, -, -, -, -, -, he⟩ := judgeSet_unanswered h.shallow hanswers
        obtain ⟨failing, hfirst⟩ := Option.ne_none_iff_exists'.1 (fun hnone =>
          hanswers (lookupAnswers_of_eightSteps hnone))
        rw [hfirst] at height
        refine follows_of_refused he height (fun hanswers' => absurd ?_ hanswers)
        intro d' kid hd'
        cases hd.symm.trans hd'
        exact hanswers' d kid hcanonical
    · have hlookup : LookupMalformed R keys k setToken := by
        cases zeroBits with
        | false => exact absurd hd hcanonical
        | true =>
          refine (h.zeroBits rfl (by rw [hd]; rfl)).resolve_left (fun hc => hcanonical ?_)
          rw [documents_canonical hc, hd]
      have hnone : documents zeroBits R.platform setToken = none := by
        cases hd' : documents zeroBits R.platform setToken with
        | none => rfl
        | some d' =>
          rw [hd', ← documents_mono hd', hd] at hcanonical
          exact absurd rfl hcanonical
      obtain ⟨d', kid, hd', htyp, halg, hkid, detail, hrefused⟩ := hlookup
      have hjudged : (judgeSet R keys k setToken none).1 = .error (.setVerificationError .malformed detail) := by
        rw [judgeSet_lookup h.shallow hd' htyp halg hkid, hrefused]
        rfl
      exact follows_of_refused hjudged (eightSteps_none hnone) (fun _ => rfl)

/-! ### And only then -/

/-- No refusal as malformed comes of a SET whose parts are read, unless the key lookup makes it. -/
theorem not_malformed (hdeep : ¬ Escapes setToken R.platform) (hd : documents false R.platform setToken = some d)
    (hlookup : ¬ LookupMalformed R keys k setToken) :
    ¬ Refuses (verifySet R keys store k s setToken).1 .malformed := by
  rintro ⟨detail, hverify⟩
  cases hresult : (judgeSet R keys k setToken none).1 with
  | ok event =>
    rw [(verifySet_ok hresult).1] at hverify
    unfold record at hverify
    split at hverify
    · next failure _ _ =>
      have hcases := storeFailure_cases failure
      rw [Except.error.inj hverify] at hcases
      split at hcases
      · next hpasses =>
        rw [← hcases] at hpasses
        cases hpasses
      · obtain ⟨message, after, hcases⟩ := hcases
        cases hcases
    · cases hverify
    · cases hverify
  | error e =>
    rw [(verifySet_error store s hresult).1] at hverify
    cases hverify
    by_cases hanswers : LookupAnswers false R keys k setToken
    · have hjudged := judgeSet_judges hdeep hanswers
      rw [hresult, judges_error, eightSteps_some hd] at hjudged
      have hmem := firstFailing_reason hjudged.2.symm
      simp at hmem
    · obtain ⟨d', kid, e, hd', htyp, halg, hkid, hanswer, he⟩ := judgeSet_unanswered hdeep hanswers
      cases hresult.symm.trans he
      exact hlookup ⟨d', kid, hd', htyp, halg, hkid, detail, hanswer⟩

theorem judged_of_eightSteps (hdeep : ¬ Escapes setToken R.platform)
    (h : firstFailing (eightSteps false false R (lookupIn keys k) setToken) = none) :
    ∃ event d, (judgeSet R keys k setToken none).1 = .ok event ∧ documents false R.platform setToken = some d ∧
      EventOf R.issuer d.claims event := by
  have hjudged := judgeSet_judges hdeep (lookupAnswers_of_eightSteps h)
  rw [h] at hjudged
  obtain ⟨event, hevent⟩ := hjudged
  obtain ⟨-, d, hd, hof⟩ := judgeSet_ok hdeep hevent
  exact ⟨event, d, hevent, hd, hof⟩

theorem regular_of_follows (h : FollowsNineSteps zeroBits R keys store k s setToken) :
    Regular zeroBits R keys store k s setToken := by
  have hmalformed : documents zeroBits R.platform setToken = none →
      Refuses (verifySet R keys store k s setToken).1 .malformed := by
    intro hnone
    have hfirst : ∀ finite, firstFailing (eightSteps zeroBits finite R (lookupIn keys k) setToken) = some .malformed :=
      fun _ => eightSteps_none hnone
    refine h.refused ?_ ?_ .malformed ?_
    · intro d kid hd
      rw [hnone] at hd
      cases hd
    · intro height
      rw [hfirst] at height
      cases height
    · rw [nineSteps, firstFailing_append, hfirst]
      rfl
  have hdeep : ¬ Escapes setToken R.platform := by
    intro hescapes
    obtain ⟨hparse, hnone⟩ := parse_escapes hescapes
    obtain ⟨detail, hrefused⟩ := hmalformed (hnone zeroBits)
    have hjudged : (judgeSet R keys k setToken none).1 = .error .recursionError := by
      rw [judgeSet, hparse]
    rw [(verifySet_error store s hjudged).1] at hrefused
    cases hrefused
  have hread : ∀ d, documents false R.platform setToken = some d → ¬ LookupMalformed R keys k setToken →
      documents zeroBits R.platform setToken = some d := by
    intro d hd hlookup
    cases hd' : documents zeroBits R.platform setToken with
    | none => exact absurd (hmalformed hd') (not_malformed hdeep hd hlookup)
    | some d' => rw [← hd, documents_mono hd']
  have hpassed : firstFailing (eightSteps false false R (lookupIn keys k) setToken) = none →
      ¬ LookupMalformed R keys k setToken := by
    rintro height ⟨d, kid, hd, htyp, halg, hkid, detail, hrefused⟩
    obtain ⟨key, hkey⟩ := lookupAnswers_of_eightSteps height d kid hd htyp halg hkid
    rw [hrefused] at hkey
    cases hkey
  refine ⟨hdeep, ?_, ?_, ?_⟩
  · rintro rfl hsome
    obtain ⟨d, hd⟩ := Option.isSome_iff_exists.1 hsome
    by_cases hlookup : LookupMalformed R keys k setToken
    · exact Or.inr hlookup
    · exact Or.inl (canonical_of_documents (hread d hd hlookup))
  · intro d hd height
    obtain ⟨event, -, hevent, -, -⟩ := judged_of_eightSteps hdeep height
    have hd' := hread d hd (hpassed height)
    by_contra hinfinite
    have hne : firstFailing (eightSteps zeroBits true R (lookupIn keys k) setToken) ≠ none := by
      intro hnone
      have hrequest := ((eightSteps_passed hd').1 hnone).2.2.2.2.2.2
      simp [requestOk, hinfinite] at hrequest
    have hasked := (h.asked hne).2
    rw [logged_ok hevent] at hasked
    cases hasked
  · intro d hd hnine
    rw [nineSteps, firstFailing_append, Option.or_eq_none_iff] at hnine
    obtain ⟨height, hfresh⟩ := hnine
    obtain ⟨event, d', hevent, hd', hof⟩ := judged_of_eightSteps hdeep height
    cases hd.symm.trans hd'
    rw [hd, Option.any_some, hof.jti, Option.any_some, firstFailing_eq_none] at hfresh
    obtain ⟨event', hok⟩ := (record_iff event).2 (hfresh _ List.mem_cons_self)
    rw [← (verifySet_ok hevent).1] at hok
    have hfields := h.fields event' d hok (hread d hd (hpassed height))
    rw [(verifySet_ok hevent).1] at hok
    obtain rfl := record_ok hok
    exact (fieldsOf_iff hof ((eightSteps_passed hd).1 height).2.2.2.2.1).1 hfields

/-- **The nine steps.** For every SET string, key lookup, receiver and store the code follows the documented steps,
in either reading of strict base64url, exactly on the regular SETs. -/
theorem nine_steps_iff (zeroBits : Bool) (R : Receiver Key) (keys : KeySource κ Key) (store : ReplayStore σ) (k : κ)
    (s : σ) (setToken : PyStr) : FollowsNineSteps zeroBits R keys store k s setToken ↔
      Regular zeroBits R keys store k s setToken :=
  ⟨regular_of_follows, follows_of_regular⟩

end Condition

/-! ## An undefined `iat` -/

namespace UndefinedIat
open StoreDenied

/-- A SET signed with an Ed25519 key whose `iat` is NaN. -/
def undefined : PyStr :=
  Base64.urlsafeEncode (asciiBytes "\x7b\"typ\":\"secevent+jwt\",\"alg\":\"EdDSA\",\"kid\":\"k\"\x7d") ++ ch '.' ::
    Base64.urlsafeEncode (asciiBytes
      "\x7b\"iss\":\"i\",\"aud\":\"a\",\"jti\":\"1\",\"iat\":NaN,\"sub_id\":\x7b\x7d,\"events\":\x7b\"e\":\x7b\x7d\x7d\x7d") ++
    ch '.' :: lit "leSRTzFGHScqyKOjSDInEdDrKNGXXInUlsmDwcs0v5P9ERbqPPMkR19u4_1CqSsFDZVKweH3ZJ859UVBpc9ZCA"

/-- The signature of this SET verifies. -/
def signed : Receiver Unit :=
  { receiver with
    verifies := fun input _ signature =>
      decide (input.map (fun o => Fin.ofNat _ o.toNat) ++ ch '.' :: Base64.urlsafeEncode signature = undefined) }

theorem undefined_accepted : (verifySet signed knownKeys denyingStore () false undefined).1.isOk = true := by
  decide +kernel

theorem undefined_refused : ∀ zeroBits,
    firstFailing (nineSteps zeroBits true signed (lookupIn knownKeys ()) (freshIn signed denyingStore false) undefined) =
      some .invalidRequest := by
  decide +kernel

end UndefinedIat

open StoreDenied UndefinedIat in
theorem undefined_not_followed (zeroBits : Bool) :
    ¬ FollowsNineSteps zeroBits signed knownKeys denyingStore () false undefined := by
  intro h
  have hfirst := undefined_refused zeroBits
  cases hresult : (verifySet signed knownKeys denyingStore () false undefined).1 with
  | ok event =>
    rw [h.accepted.1 ⟨event, hresult⟩] at hfirst
    cases hfirst
  | error e =>
    have hok := undefined_accepted
    rw [hresult] at hok
    cases hok

open StoreDenied UndefinedIat in
/-- A SET whose `iat` is NaN is accepted, in either reading of strict base64url. -/
theorem not_follows_nine_steps : ¬ FollowsNineSteps false signed knownKeys denyingStore () false undefined ∧
    ¬ FollowsNineSteps true signed knownKeys denyingStore () false undefined :=
  ⟨undefined_not_followed false, undefined_not_followed true⟩

end AxiamSdk.Ssf
