import AxiamSdk.Errors
import AxiamSdk.Lib.Dict

/-! # The SSF receiver (`ssf/_receiver.py`)

* `parse`, `judge`: steps 1 to 8 of a SET.
* `record`: step 9, the replay store; `storeFailure` is what its exception becomes.
* `poll`: the batch loop, with the log of what the store recorded.
* `poll_keeps_what_it_returns`: when a poll returns with every key named and every recorded
  `jti` in its events. -/

namespace AxiamSdk.Ssf
open PyLib
set_option autoImplicit false

/-! ## What is taken from outside -/

/-- A replay store, with its own state. -/
structure ReplayStore (σ : Type) where
  checkAndRecord : σ → PyStr → Float → Except Exc Bool × σ

/-- The lookup of a `kid`: a key, no key, or an exception. -/
structure KeySource (κ Key : Type) where
  keyFor : κ → PyStr → Except Exc (Option Key) × κ

/-- The configuration, and the two questions asked of a key. -/
structure Receiver (Key : Type) where
  platform : Platform
  issuer : PyStr
  audience : PyStr
  replayWindow : Float
  isEd25519 : Key → Bool
  verifies : Bytes → Key → Bytes → Bool

/-! ## Steps 1 to 8 -/

/-- `SecurityEvent` -/
structure SecurityEvent where
  jti : PyStr
  iat : Json
  iss : PyStr
  aud : Json
  txn : Option PyStr
  eventType : PyStr
  event : List (PyStr × Json)
  subId : List (PyStr × Json)

/-- `_Parsed` -/
structure Parsed where
  kid : PyStr
  signingInput : Bytes
  signature : Bytes
  claims : List (PyStr × Json)

def refuse {α : Type} (reason : SetFailureReason) (detail : String) : Except Exc α :=
  .error (.setVerificationError reason (lit detail))

/-- A test whose failure refuses the SET. -/
def ensure (ok : Bool) (reason : SetFailureReason) (detail : String) : Except Exc Unit :=
  if ok then .ok () else refuse reason detail

def isB64Url (c : CodePoint) : Bool :=
  isLetter c || decide (48 ≤ c.val ∧ c.val ≤ 57) || c = ch '-' || c = ch '_'

/-- `_b64`; `none` is its `ValueError`. -/
def b64 (part : PyStr) : Option Bytes :=
  if part.all isB64Url then Base64.urlsafeDecode (padBase64 (ch '=') part) else none

/-- `_json_object`: an exception that is no `ValueError` escapes. -/
def jsonObject (P : Platform) (part : PyStr) : Except Exc (Option (List (PyStr × Json))) :=
  match b64 part with
  | none => .ok none
  | some raw =>
    match P.loads raw with
    | .ok v => .ok v.asObj?
    | .error e => if e.isValueError then .ok none else .error e

/-- The checks of the header: `typ`, `alg` and the presence of `kid`. -/
def checkHeader (header : List (PyStr × Json)) : Except Exc PyStr := do
  let typ := (Json.get header (lit "typ")).asStr?.map lowerAscii
  ensure (decide (typ = some (lit "secevent+jwt") ∨ typ = some (lit "application/secevent+jwt")))
    .invalidType "typ is not secevent+jwt"
  ensure (decide ((Json.get header (lit "alg")).asStr? = some (lit "EdDSA")))
    .invalidKey "alg is not EdDSA"
  match (Json.get header (lit "kid")).asStr? with
  | none | some [] => refuse .invalidKey "no kid"
  | some kid => .ok kid

/-- `parse` -/
def parse (P : Platform) (setToken : PyStr) : Except Exc Parsed :=
  match splitOn (ch '.') setToken with
  | [header64, payload64, signature64] =>
    match b64 signature64 with
    | none => refuse .malformed "the signature is not base64url"
    | some signature => do
      let header ← jsonObject P header64
      let claims ← jsonObject P payload64
      match header, claims with
      | some header, some claims =>
        let kid ← checkHeader header
        match encodeAscii (header64 ++ ch '.' :: payload64) with
        | none => .error .unicodeEncodeError
        | some signingInput => .ok ⟨kid, signingInput, signature, claims⟩
      | _, _ => refuse .malformed "the header or payload is not a JSON object"
  | _ => refuse .malformed "not three base64url parts"

/-- `aud` is the audience, or an array that holds it. -/
def namesAudience (audience : PyStr) : Json → Bool
  | .str a => decide (a = audience)
  | .arr xs => xs.any (fun a => decide (a.asStr? = some audience))
  | _ => false

def isNumber : Json → Bool
  | .int _ | .float _ => true
  | _ => false

/-- The claims of step 8, once issuer and audience are checked. -/
def readEvent (iss : PyStr) (claims : List (PyStr × Json)) (expectedJti : Option PyStr) :
    Except Exc SecurityEvent := do
  ensure ((Assoc.get? claims (lit "exp")).isNone && (Assoc.get? claims (lit "sub")).isNone)
    .invalidRequest "a SET carries no exp and no sub"
  match (Json.get claims (lit "jti")).asStr? with
  | none | some [] => refuse .invalidRequest "no jti"
  | some jti =>
    let iat := Json.get claims (lit "iat")
    ensure (isNumber iat) .invalidRequest "no numeric iat"
    match (Json.get claims (lit "sub_id")).asObj?, (Json.get claims (lit "events")).asObj? with
    | none, _ => refuse .invalidRequest "no sub_id object"
    | some subId, some [(eventType, event)] =>
      ensure (expectedJti.all (· = jti)) .invalidRequest "the poll key is not the SET's jti"
      .ok ⟨jti, iat, iss, Json.get claims (lit "aud"), (Json.get claims (lit "txn")).asStr?, eventType,
        event.asObj?.getD [], subId⟩
    | some _, _ => refuse .invalidRequest "events must have exactly one member"

variable {Key κ σ : Type}

/-- `judge` -/
def judge (R : Receiver Key) (parsed : Parsed) (key : Option Key) (expectedJti : Option PyStr) :
    Except Exc SecurityEvent :=
  match key with
  | none => refuse .invalidKey "no key for kid in the JWKS"
  | some key => do
    ensure (R.isEd25519 key && R.verifies parsed.signingInput key parsed.signature)
      .invalidKey "the signature does not verify"
    ensure (decide ((Json.get parsed.claims (lit "iss")).asStr? = some R.issuer))
      .invalidIssuer "iss is not the configured issuer"
    ensure (namesAudience R.audience (Json.get parsed.claims (lit "aud")))
      .invalidAudience "aud does not name this receiver"
    readEvent R.issuer parsed.claims expectedJti

/-- `_judge`: steps 1 to 8, the key lookup between them. -/
def judgeSet (R : Receiver Key) (keys : KeySource κ Key) (k : κ) (setToken : PyStr)
    (expectedJti : Option PyStr) : Except Exc SecurityEvent × κ :=
  match parse R.platform setToken with
  | .error e => (.error e, k)
  | .ok parsed =>
    match keys.keyFor k parsed.kid with
    | (.error e, k) => (.error e, k)
    | (.ok key, k) => (judge R parsed key expectedJti, k)

/-! ## Step 9 -/

/-- `_store_failure` -/
def storeFailure (failure : Exc) : Exc :=
  if (failure.isAuthError || failure.isAuthzError || failure.isNetworkError)
      && !failure.isSetVerificationError then failure
  else .networkError (lit "ssf: the replay store could not answer; the SET was not judged") none

/-- `_record`: the event, or why it is not accepted, with the store's next state. -/
def record (R : Receiver Key) (store : ReplayStore σ) (s : σ) (event : SecurityEvent) :
    Except Exc SecurityEvent × σ :=
  match store.checkAndRecord s event.jti R.replayWindow with
  | (.error failure, s) => (.error (storeFailure failure), s)
  | (.ok true, s) => (.ok event, s)
  | (.ok false, s) => (refuse .replayed "jti already seen", s)

/-! ## The batch loop -/

/-- `RefusedSet` -/
structure RefusedSet where
  jti : PyStr
  reason : SetFailureReason

/-- `UnjudgedCategory` -/
inductive UnjudgedCategory
  | keyFetch | replayStore
  deriving DecidableEq

/-- `SsfPollResult` -/
structure SsfPollResult where
  events : List SecurityEvent
  moreAvailable : Bool
  refused : List RefusedSet
  unjudged : List PyStr
  unjudgedError : Option Exc

/-- The loop's variables, the two outside states, and the `jti`s the store answered `True` for. -/
structure PollState (κ σ : Type) where
  result : SsfPollResult
  failure : Option Exc
  category : Option UnjudgedCategory
  keyState : κ
  storeState : σ
  recorded : List PyStr

namespace PollState

def refuse (st : PollState κ σ) (jti : PyStr) (reason : SetFailureReason) : PollState κ σ :=
  { st with result.refused := st.result.refused ++ [⟨jti, reason⟩] }

def leave (st : PollState κ σ) (jtis : List PyStr) : PollState κ σ :=
  { st with result.unjudged := st.result.unjudged ++ jtis }

def accept (st : PollState κ σ) (event : SecurityEvent) : PollState κ σ :=
  { st with result.events := st.result.events ++ [event] }

end PollState

/-- `_judge` of one pair; a SET that is no string is refused without it. -/
def judgePair (R : Receiver Key) (keys : KeySource κ Key) (k : κ) (pair : PyStr × Json) :
    Except Exc SecurityEvent × κ :=
  match pair.2.asStr? with
  | none => (refuse .malformed "not three base64url parts", k)
  | some setToken => judgeSet R keys k setToken (some pair.1)

/-- The log of the store's `True` answers after it was asked about an event. -/
def logAnswer (store : ReplayStore σ) (s : σ) (window : Float) (jti : PyStr) (log : List PyStr) :
    List PyStr :=
  match store.checkAndRecord s jti window with
  | (.ok true, _) => log ++ [jti]
  | _ => log

/-- The loop over the rest of the batch: its last state, and the exception it raised, if any. -/
def pollLoop (R : Receiver Key) (keys : KeySource κ Key) (store : ReplayStore σ) :
    List (PyStr × Json) → PollState κ σ → PollState κ σ × Option Exc
  | [], st => (st, none)
  | pair :: rest, st =>
    match judgePair R keys st.keyState pair with
    | (.error (.setVerificationError reason _), k) =>
      pollLoop R keys store rest ({ st with keyState := k }.refuse pair.1 reason)
    | (.error fetch, k) =>
      ({ st with
          failure := st.failure.or (some fetch)
          category := st.category.or (some .keyFetch)
          keyState := k }.leave (pair.1 :: rest.map Prod.fst), none)
    | (.ok event, k) =>
      let st := { st with keyState := k }
      -- the store failed earlier: it is asked nothing more
      if st.failure.isSome then pollLoop R keys store rest (st.leave [pair.1])
      else
        let log := logAnswer store st.storeState R.replayWindow event.jti st.recorded
        match record R store st.storeState event with
        | (.ok event, s) =>
          pollLoop R keys store rest ({ st with storeState := s, recorded := log }.accept event)
        | (.error (.setVerificationError reason _), s) =>
          pollLoop R keys store rest ({ st with storeState := s, recorded := log }.refuse pair.1 reason)
        | (.error (.networkError message after), s) =>
          pollLoop R keys store rest
            ({ st with
                storeState := s
                recorded := log
                failure := some (.networkError message after)
                category := some .replayStore }.leave [pair.1])
        | (.error e, s) => ({ st with storeState := s, recorded := log }, some e)

/-- `_finish_poll` -/
def finishPoll (st : PollState κ σ) : SsfPollResult :=
  if st.result.unjudged = [] ∨ st.category = none then st.result
  else { st.result with unjudgedError := st.failure }

def PollState.start (moreAvailable : Bool) (k : κ) (s : σ) : PollState κ σ :=
  ⟨⟨[], moreAvailable, [], [], none⟩, none, none, k, s, []⟩

/-- `poll` of a reply's batch: what it returns or raises, and what the store recorded. -/
def poll (R : Receiver Key) (keys : KeySource κ Key) (store : ReplayStore σ) (k : κ) (s : σ)
    (sets : Dict PyStr Json) (moreAvailable : Bool) : Except Exc SsfPollResult × List PyStr :=
  match pollLoop R keys store sets.items (PollState.start moreAvailable k s) with
  | (st, none) => (.ok (finishPoll st), st.recorded)
  | (st, some e) => (.error e, st.recorded)

/-! ## What a poll owes its caller -/

/-- The poll returns; the recorded `jti`s are those of its events; and events, refused and unjudged
together name every key of the batch once. -/
def KeepsWhatItReturns (sets : Dict PyStr Json) (out : Except Exc SsfPollResult × List PyStr) : Prop :=
  ∃ result, out.1 = .ok result ∧
    (∀ jti, jti ∈ out.2 ↔ jti ∈ result.events.map SecurityEvent.jti) ∧
    (result.events.map SecurityEvent.jti ++ result.refused.map RefusedSet.jti ++ result.unjudged).Perm
      sets.keys

/-- An SDK error that `_store_failure` passes on and the loop does not catch: `AuthError` but no
`SetVerificationError`, or `AuthzError`. -/
def passesThrough (e : Exc) : Bool := (e.isAuthError || e.isAuthzError) && !e.isSetVerificationError

/-- The first exception of the store among the calls that the loop makes of it: for the pairs that
pass steps 1 to 8, up to the first failure that is no verdict. -/
def firstStoreFailure (R : Receiver Key) (keys : KeySource κ Key) (store : ReplayStore σ) :
    List (PyStr × Json) → κ → σ → Option Exc
  | [], _, _ => none
  | pair :: rest, k, s =>
    match judgePair R keys k pair with
    | (.error (.setVerificationError _ _), k) => firstStoreFailure R keys store rest k s
    | (.error _, _) => none
    | (.ok event, k) =>
      match store.checkAndRecord s event.jti R.replayWindow with
      | (.error e, _) => some e
      | (.ok _, s) => firstStoreFailure R keys store rest k s

variable {R : Receiver Key} {keys : KeySource κ Key} {store : ReplayStore σ}

/-! ### Judged events -/

theorem ensure_ok {ok : Bool} {reason : SetFailureReason} {detail : String} {u : Unit}
    (h : ensure ok reason detail = .ok u) : ok = true := by
  cases ok with
  | true => rfl
  | false => cases h

theorem readEvent_jti {iss key : PyStr} {claims : List (PyStr × Json)} {event : SecurityEvent}
    (h : readEvent iss claims (some key) = .ok event) : event.jti = key := by
  obtain ⟨_, _, h⟩ := bind_ok h
  split at h
  · cases h
  · cases h
  · next jti _ _ =>
    obtain ⟨_, _, h⟩ := bind_ok h
    split at h
    · cases h
    · obtain ⟨_, hkey, h⟩ := bind_ok h
      obtain rfl := Except.ok.inj h
      have heq := ensure_ok hkey
      simpa using Eq.symm (by simpa using heq)
    · cases h

theorem judgePair_jti {k k' : κ} {pair : PyStr × Json} {event : SecurityEvent}
    (h : judgePair R keys k pair = (.ok event, k')) : event.jti = pair.1 := by
  unfold judgePair judgeSet at h
  split at h
  · cases h
  · split at h
    · cases h
    · split at h
      · cases h
      · next key _ _ =>
        have hj := (Prod.mk.inj h).1
        unfold judge at hj
        split at hj
        · cases hj
        · obtain ⟨_, _, hj⟩ := bind_ok hj
          obtain ⟨_, _, hj⟩ := bind_ok hj
          obtain ⟨_, _, hj⟩ := bind_ok hj
          exact readEvent_jti hj

/-! ### The store's answers -/

/-- What a store's exception becomes: itself if it passes through, else a `NetworkError`. -/
theorem storeFailure_cases (e : Exc) :
    if passesThrough e then storeFailure e = e else ∃ message after, storeFailure e = .networkError message after := by
  cases e <;> simp [passesThrough, storeFailure, Exc.isAuthError, Exc.isAuthzError, Exc.isNetworkError,
    Exc.isSetVerificationError]

/-- The keys named so far, and the record of the store, agree with the events. -/
structure Accounted (st : PollState κ σ) (done : List PyStr) : Prop where
  names : (st.result.events.map SecurityEvent.jti ++ st.result.refused.map RefusedSet.jti ++
    st.result.unjudged).Perm done
  recorded : st.recorded = st.result.events.map SecurityEvent.jti

theorem Accounted.refuse {st : PollState κ σ} {done : List PyStr} (h : Accounted st done) (jti : PyStr)
    (reason : SetFailureReason) : Accounted (st.refuse jti reason) (done ++ [jti]) := by
  refine ⟨?_, h.recorded⟩
  have hnames := h.names.append_right [jti]
  simp only [PollState.refuse, List.map_append, List.map_cons, List.map_nil]
  refine List.Perm.trans ?_ hnames
  simp only [List.append_assoc]
  refine List.Perm.append_left _ (List.Perm.append_left _ ?_)
  exact List.perm_append_comm

theorem Accounted.leave {st : PollState κ σ} {done : List PyStr} (h : Accounted st done)
    (jtis : List PyStr) : Accounted (st.leave jtis) (done ++ jtis) := by
  refine ⟨?_, h.recorded⟩
  have hnames := h.names.append_right jtis
  simpa only [PollState.leave, List.append_assoc] using hnames

theorem Accounted.accept {st : PollState κ σ} {done : List PyStr} (h : Accounted st done)
    (event : SecurityEvent) (s : σ) :
    Accounted (({ st with storeState := s, recorded := st.recorded ++ [event.jti] } : PollState κ σ).accept event)
      (done ++ [event.jti]) := by
  constructor
  · have hnames := h.names.append_right [event.jti]
    simp only [PollState.accept, List.map_append, List.map_cons, List.map_nil]
    refine List.Perm.trans ?_ hnames
    simp only [List.append_assoc]
    refine List.Perm.append_left _ ?_
    rw [← List.append_assoc (List.map RefusedSet.jti st.result.refused)]
    exact List.perm_append_comm
  · simp only [PollState.accept, List.map_append, List.map_cons, List.map_nil]
    rw [h.recorded]

/-! ### The loop -/

/-- What the loop accounted for stays accounted for, whatever follows, unless it raises. -/
theorem pollLoop_accounted {rest : List (PyStr × Json)} {st st' : PollState κ σ} {done : List PyStr}
    (h : Accounted st done) (hrun : pollLoop R keys store rest st = (st', none)) :
    Accounted st' (done ++ rest.map Prod.fst) := by
  induction rest generalizing st done with
  | nil =>
    obtain ⟨rfl, -⟩ := Prod.mk.inj hrun
    simpa using h
  | cons pair rest ih =>
    have happend : done ++ (pair :: rest).map Prod.fst = (done ++ [pair.1]) ++ rest.map Prod.fst := by simp
    rw [pollLoop] at hrun
    split at hrun
    · next k hj =>
      have hk : Accounted { st with keyState := k } done := ⟨h.names, h.recorded⟩
      rw [happend]
      exact ih (hk.refuse _ _) hrun
    · next fetch k _ hj =>
      obtain ⟨rfl, -⟩ := Prod.mk.inj hrun
      have hk : Accounted ({ st with
          failure := st.failure.or (some fetch)
          category := st.category.or (some .keyFetch)
          keyState := k } : PollState κ σ) done := ⟨h.names, h.recorded⟩
      exact hk.leave _
    · next event k hj =>
      have hjti := judgePair_jti hj
      rw [happend]
      dsimp only at hrun
      split at hrun
      · have hk : Accounted { st with keyState := k } done := ⟨h.names, h.recorded⟩
        exact ih (hk.leave _) hrun
      · cases hs : store.checkAndRecord st.storeState event.jti R.replayWindow with
        | mk answer s =>
          have hk : Accounted { st with keyState := k, storeState := s } done := ⟨h.names, h.recorded⟩
          cases answer with
          | error failure =>
            have hcases := storeFailure_cases failure
            simp only [record, logAnswer, hs] at hrun
            split at hcases
            · next hpass =>
              rw [hcases] at hrun
              cases failure <;> simp_all [passesThrough, Exc.isAuthError, Exc.isAuthzError,
                Exc.isSetVerificationError]
            · obtain ⟨message, after, hm⟩ := hcases
              rw [hm] at hrun
              have hf : Accounted ({ st with
                  keyState := k
                  storeState := s
                  failure := some (.networkError message after)
                  category := some .replayStore } : PollState κ σ) done := ⟨h.names, h.recorded⟩
              exact ih (hf.leave _) hrun
          | ok fresh =>
            cases fresh with
            | true =>
              simp only [record, logAnswer, hs] at hrun
              rw [← hjti]
              exact ih (hk.accept event s) hrun
            | false =>
              simp only [record, logAnswer, hs, refuse] at hrun
              exact ih (hk.refuse _ _) hrun

/-- Once the store has failed, nothing is asked of it and nothing is raised. -/
theorem pollLoop_failed {rest : List (PyStr × Json)} {st : PollState κ σ} (h : st.failure.isSome = true) :
    (pollLoop R keys store rest st).2 = none := by
  induction rest generalizing st with
  | nil => rfl
  | cons pair rest ih =>
    rw [pollLoop]
    split
    · exact ih h
    · rfl
    · simp only [h, if_true]
      exact ih h

/-- The loop raises the store's first exception if that passes through, and nothing else. -/
theorem pollLoop_raised {rest : List (PyStr × Json)} {st : PollState κ σ} (h : st.failure = none) :
    (pollLoop R keys store rest st).2 =
      (firstStoreFailure R keys store rest st.keyState st.storeState).filter passesThrough := by
  induction rest generalizing st with
  | nil => rfl
  | cons pair rest ih =>
    rw [pollLoop, firstStoreFailure]
    cases hj : judgePair R keys st.keyState pair with
    | mk judged k =>
      cases judged with
      | error e =>
        cases e with
        | setVerificationError reason detail => exact ih h
        | _ => rfl
      | ok event =>
        simp only [h, Option.isSome_none, Bool.false_eq_true, if_false]
        cases hs : store.checkAndRecord st.storeState event.jti R.replayWindow with
        | mk answer s =>
          cases answer with
          | error failure =>
            have hcases := storeFailure_cases failure
            simp only [record, hs]
            by_cases hpass : passesThrough failure = true
            · rw [if_pos hpass] at hcases
              rw [hcases, Option.filter_some, if_pos hpass]
              cases failure <;> simp_all [passesThrough, Exc.isAuthError, Exc.isAuthzError,
                Exc.isSetVerificationError]
            · rw [if_neg hpass] at hcases
              obtain ⟨message, after, hm⟩ := hcases
              rw [hm, Option.filter_some, if_neg hpass]
              exact pollLoop_failed rfl
          | ok fresh =>
            cases fresh with
            | true =>
              simp only [record, hs]
              exact ih rfl
            | false =>
              simp only [record, hs, refuse]
              exact ih rfl

theorem finishPoll_result (st : PollState κ σ) :
    (finishPoll st).events = st.result.events ∧ (finishPoll st).refused = st.result.refused ∧
      (finishPoll st).unjudged = st.result.unjudged := by
  unfold finishPoll
  split <;> exact ⟨rfl, rfl, rfl⟩

/-- **A poll keeps what it returns.** For every batch, key source and store: the poll returns, names
every key once and has recorded exactly its events, unless the first exception of its store is an
`AuthError` that is no SET refusal, or an `AuthzError`; then it does not. -/
theorem poll_keeps_what_it_returns (R : Receiver Key) (keys : KeySource κ Key) (store : ReplayStore σ)
    (k : κ) (s : σ) (sets : Dict PyStr Json) (moreAvailable : Bool) :
    KeepsWhatItReturns sets (poll R keys store k s sets moreAvailable) ↔
      ∀ e, firstStoreFailure R keys store sets.items k s = some e → passesThrough e = false := by
  have hraised : (pollLoop R keys store sets.items (PollState.start moreAvailable k s)).2 =
      (firstStoreFailure R keys store sets.items k s).filter passesThrough := pollLoop_raised rfl
  unfold poll
  cases hrun : pollLoop R keys store sets.items (PollState.start moreAvailable k s) with
  | mk st raised =>
    rw [hrun] at hraised
    cases raised with
    | some e =>
      obtain ⟨hfirst, hpass⟩ := Option.filter_eq_some_iff.1 hraised.symm
      constructor
      · rintro ⟨result, hok, -⟩
        cases hok
      · intro hall
        rw [hall e hfirst] at hpass
        cases hpass
    | none =>
      have hstart : Accounted (PollState.start moreAvailable k s) [] := ⟨List.Perm.refl _, rfl⟩
      have hdone := pollLoop_accounted hstart hrun
      obtain ⟨hevents, hrefused, hunjudged⟩ := finishPoll_result st
      constructor
      · intro _ e he
        have hno := Option.filter_eq_none_iff.1 hraised.symm e he
        simpa using hno
      · intro _
        refine ⟨finishPoll st, rfl, ?_, ?_⟩
        · intro jti
          show jti ∈ st.recorded ↔ _
          rw [hevents, hdone.recorded]
        · rw [hevents, hrefused, hunjudged]
          exact hdone.names

namespace StoreDenied

/-- A SET signed with an Ed25519 key: issuer i, audience a, `jti` 1. -/
def first : PyStr :=
  [101, 121, 74, 48, 101, 88, 65, 105, 79, 105, 74, 122, 90, 87, 78, 108, 100, 109, 86, 117, 100,
    67, 116, 113, 100, 51, 81, 105, 76, 67, 74, 104, 98, 71, 99, 105, 79, 105, 74, 70, 90, 69, 82,
    84, 81, 83, 73, 115, 73, 109, 116, 112, 90, 67, 73, 54, 73, 109, 115, 105, 102, 81, 46, 101,
    121, 74, 112, 99, 51, 77, 105, 79, 105, 74, 112, 73, 105, 119, 105, 89, 88, 86, 107, 73, 106,
    111, 105, 89, 83, 73, 115, 73, 109, 112, 48, 97, 83, 73, 54, 73, 106, 69, 105, 76, 67, 74, 112,
    89, 88, 81, 105, 79, 106, 69, 115, 73, 110, 78, 49, 89, 108, 57, 112, 90, 67, 73, 54, 101, 51,
    48, 115, 73, 109, 86, 50, 90, 87, 53, 48, 99, 121, 73, 54, 101, 121, 74, 108, 73, 106, 112, 55,
    102, 88, 49, 57, 46, 50, 111, 71, 98, 52, 111, 89, 98, 86, 53, 65, 51, 50, 72, 98, 97, 65, 100,
    71, 116, 57, 122, 122, 85, 57, 85, 53, 118, 57, 85, 79, 52, 107, 108, 97, 78, 56, 89, 73, 109,
    90, 79, 97, 88, 75, 66, 49, 105, 111, 65, 54, 71, 79, 99, 82, 110, 119, 110, 76, 97, 114, 82,
    95, 70, 52, 119, 84, 48, 84, 76, 81, 100, 55, 105, 115, 88, 68, 49, 97, 83, 84, 97, 110, 89,
    66, 103]

/-- The same with `jti` 2. -/
def second : PyStr :=
  [101, 121, 74, 48, 101, 88, 65, 105, 79, 105, 74, 122, 90, 87, 78, 108, 100, 109, 86, 117, 100,
    67, 116, 113, 100, 51, 81, 105, 76, 67, 74, 104, 98, 71, 99, 105, 79, 105, 74, 70, 90, 69, 82,
    84, 81, 83, 73, 115, 73, 109, 116, 112, 90, 67, 73, 54, 73, 109, 115, 105, 102, 81, 46, 101,
    121, 74, 112, 99, 51, 77, 105, 79, 105, 74, 112, 73, 105, 119, 105, 89, 88, 86, 107, 73, 106,
    111, 105, 89, 83, 73, 115, 73, 109, 112, 48, 97, 83, 73, 54, 73, 106, 73, 105, 76, 67, 74, 112,
    89, 88, 81, 105, 79, 106, 69, 115, 73, 110, 78, 49, 89, 108, 57, 112, 90, 67, 73, 54, 101, 51,
    48, 115, 73, 109, 86, 50, 90, 87, 53, 48, 99, 121, 73, 54, 101, 121, 74, 108, 73, 106, 112, 55,
    102, 88, 49, 57, 46, 80, 88, 99, 78, 66, 77, 89, 77, 76, 87, 71, 77, 68, 107, 87, 120, 49, 83,
    117, 50, 104, 78, 80, 120, 65, 84, 84, 122, 109, 81, 120, 107, 80, 120, 72, 112, 119, 109, 84,
    105, 89, 52, 80, 67, 104, 49, 107, 121, 56, 54, 119, 75, 78, 103, 109, 85, 79, 84, 120, 79, 49,
    107, 48, 105, 79, 66, 82, 45, 87, 98, 121, 100, 118, 80, 83, 87, 74, 69, 98, 65, 83, 65, 112,
    115, 68, 119]

/-- A signature verifies when it is that of one of the two SETs. -/
def receiver : Receiver Unit where
  platform := ⟨⟨4300, 990, 990, fun _ => []⟩, fun _ _ => List.replicate 32 0, fun _ => none⟩
  issuer := lit "i"
  audience := lit "a"
  replayWindow := 604800.0
  isEd25519 _ := true
  verifies input _ signature :=
    [first, second].contains (input.map (fun o => Fin.ofNat _ o.toNat) ++ ch '.' ::
      Base64.urlsafeEncode signature)

def knownKeys : KeySource Unit Unit := ⟨fun _ _ => (.ok (some ()), ())⟩

/-- A store that records one `jti` and then is not allowed to record another. -/
def denyingStore : ReplayStore Bool :=
  ⟨fun denied _ _ => if denied then (.error (.authError (lit "denied") none), true) else (.ok true, true)⟩

def sets : Dict PyStr Json := (Dict.empty.set (lit "1") (.str first)).set (lit "2") (.str second)

theorem raised : (poll receiver knownKeys denyingStore () false sets false).1.isOk = false := by
  decide +kernel

theorem first_recorded : (poll receiver knownKeys denyingStore () false sets false).2 = [lit "1"] := by
  decide +kernel

end StoreDenied

open StoreDenied in
/-- A store that records the first SET and raises `AuthError` for the second makes the poll raise: the
`jti` of the first stays recorded and is not returned. -/
theorem not_poll_keeps_what_it_returns :
    (poll receiver knownKeys denyingStore () false sets false).2 = [lit "1"] ∧
    ¬ ∀ (R : Receiver Unit) (keys : KeySource Unit Unit) (store : ReplayStore Bool) (k : Unit) (s : Bool)
      (sets : Dict PyStr Json) (moreAvailable : Bool),
      KeepsWhatItReturns sets (poll R keys store k s sets moreAvailable) := by
  refine ⟨first_recorded, ?_⟩
  intro hall
  obtain ⟨result, hok, -⟩ := hall receiver knownKeys denyingStore () false sets false
  have hraised := raised
  rw [hok] at hraised
  cases hraised

end AxiamSdk.Ssf
