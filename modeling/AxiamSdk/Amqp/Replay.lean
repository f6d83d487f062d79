import AxiamSdk.Errors

/-! # Replay protection (`amqp/_replay.py`)

The seen-set of nonces and the checks a message passes after its MAC: `key_version`, `issued_at`,
`nonce`. `validateFreshness_of_inWindow` is the reading later proofs use. -/

namespace AxiamSdk.Amqp
open PyLib
set_option autoImplicit false

/-- `DEFAULT_SKEW_SECONDS` -/
def defaultSkewSeconds : Float := 300.0

/-- `MIN_KEY_VERSION` -/
def minKeyVersion : ℤ := 2

/-! ## The nonce store -/

/-- `NonceStore`: nonce to expiry on the monotonic clock. -/
structure NonceStore where
  ttlSeconds : Float
  seen : Dict PyStr Float

namespace NonceStore

/-- `NonceStore(ttl_seconds)` -/
def new (ttlSeconds : Float) : NonceStore := ⟨ttlSeconds, Dict.empty⟩

/-- `_prune`: drop the entries whose expiry is at or before `now`. -/
def prune (s : NonceStore) (now : Float) : NonceStore :=
  { s with seen := s.seen.filter (fun p => !decide (p.2 ≤ now)) }

/-- `check_and_record` -/
def checkAndRecord (s : NonceStore) (nonce : PyStr) (now : Float) : Bool × NonceStore :=
  let s := s.prune now
  if s.seen.contains nonce then (false, s)
  else (true, { s with seen := s.seen.set nonce (now + s.ttlSeconds) })

@[simp] theorem prune_ttlSeconds (s : NonceStore) (now : Float) :
    (s.prune now).ttlSeconds = s.ttlSeconds := rfl

theorem get?_prune (s : NonceStore) (now : Float) (n : PyStr) (e : Float) :
    (s.prune now).seen.get? n = some e ↔ s.seen.get? n = some e ∧ ¬ e ≤ now := by
  rw [prune, Dict.get?_filter_eq_some]
  simp

theorem checkAndRecord_fst (s : NonceStore) (n : PyStr) (now : Float) :
    (s.checkAndRecord n now).1 = true ↔ ∀ e, s.seen.get? n = some e → e ≤ now := by
  have hc : (s.prune now).seen.contains n = true ↔ ∃ e, s.seen.get? n = some e ∧ ¬ e ≤ now := by
    rw [Dict.contains_iff]
    simp only [get?_prune]
  unfold checkAndRecord
  by_cases h : (s.prune now).seen.contains n = true
  · obtain ⟨e, he, hle⟩ := hc.1 h
    simp only [h, if_true]
    refine ⟨fun hf => absurd hf (by decide), fun hall => absurd (hall e he) hle⟩
  · simp only [h]
    refine ⟨fun _ e he => ?_, fun _ => rfl⟩
    by_contra hle
    exact h (hc.2 ⟨e, he, hle⟩)

/-- What the store holds after a check: the unexpired entries, and the nonce if it was fresh. -/
theorem get?_checkAndRecord (s : NonceStore) (n : PyStr) (now : Float) (m : PyStr) (e : Float) :
    (s.checkAndRecord n now).2.seen.get? m = some e ↔
      (s.seen.get? m = some e ∧ ¬ e ≤ now) ∨
        ((s.checkAndRecord n now).1 = true ∧ m = n ∧ e = now + s.ttlSeconds) := by
  by_cases h : (s.prune now).seen.contains n = true
  · simp only [checkAndRecord, h, if_true]
    rw [get?_prune]
    simp
  · have hnone : (s.prune now).seen.get? n = none := by
      cases hg : (s.prune now).seen.get? n with
      | none => rfl
      | some v => exact absurd ((Dict.contains_iff _ _).2 ⟨v, hg⟩) h
    have hval : s.checkAndRecord n now =
        (true, { s.prune now with seen := (s.prune now).seen.set n (now + s.ttlSeconds) }) := by
      simp only [checkAndRecord, h, prune_ttlSeconds]
      rfl
    rw [hval]
    simp only [Dict.get?_set]
    by_cases hm : n = m
    · subst hm
      rw [if_pos rfl, ← get?_prune, hnone]
      simp [eq_comm]
    · rw [if_neg hm, get?_prune]
      simp [Ne.symm hm]

end NonceStore

/-! ## Timestamps -/

/-- The text `_parse_rfc3339` hands to `fromisoformat`: a trailing `Z` becomes an offset. -/
def normalizeOffset (value : PyStr) : PyStr :=
  let normalized := strip value
  if normalized.getLast? = some (ch 'Z') ∨ normalized.getLast? = some (ch 'z') then
    normalized.dropLast ++ lit "+00:00"
  else normalized

/-- `_parse_rfc3339`: the instant in microseconds; a timestamp without an offset is UTC. -/
def parseRfc3339 (P : Platform) (value : PyStr) : Option ℤ :=
  (P.fromIsoFormat (normalizeOffset value)).map (fun d => d.micros - d.offset.getD 0)

/-- `abs((reference - issued_at).total_seconds())` -/
def deltaSeconds (reference issuedAt : ℤ) : Float := totalSeconds (reference - issuedAt).natAbs

/-! ## The checks -/

/-- `validate_freshness`: the rejection reason, if any, and the store afterwards. -/
def validateFreshness (P : Platform) (event : List (PyStr × Json)) (nonceStore : NonceStore)
    (skewSeconds : Float) (now : ℤ) (monotonic : Float) : Option PyStr × NonceStore :=
  match (Json.get event (lit "key_version")).asInt? with
  | none => (some (lit "missing or invalid key_version"), nonceStore)
  | some keyVersion =>
    if keyVersion < minKeyVersion then
      (some (lit "unsupported key_version (replay protection unavailable)"), nonceStore)
    else match (Json.get event (lit "issued_at")).asStr? with
      | none => (some (lit "missing or invalid issued_at"), nonceStore)
      | some raw =>
        match parseRfc3339 P raw with
        | none => (some (lit "unparseable issued_at"), nonceStore)
        | some issuedAt =>
          if skewSeconds < deltaSeconds now issuedAt then
            (some (lit "stale issued_at outside allowed clock-skew window"), nonceStore)
          else match (Json.get event (lit "nonce")).asStr? with
            | none => (some (lit "missing or invalid nonce"), nonceStore)
            | some [] => (some (lit "missing or invalid nonce"), nonceStore)
            | some nonce =>
              match nonceStore.checkAndRecord nonce monotonic with
              | (false, s) => (some (lit "replayed nonce"), s)
              | (true, s) => (none, s)

/-- `key_version` is an integer of at least 2 and `issued_at` lies in the skew window. -/
def InWindow (P : Platform) (event : List (PyStr × Json)) (skewSeconds : Float) (now : ℤ) : Prop :=
  (∃ k, (Json.get event (lit "key_version")).asInt? = some k ∧ minKeyVersion ≤ k) ∧
  ∃ raw issuedAt, (Json.get event (lit "issued_at")).asStr? = some raw ∧
    parseRfc3339 P raw = some issuedAt ∧ ¬ skewSeconds < deltaSeconds now issuedAt

def inWindow (P : Platform) (event : List (PyStr × Json)) (skewSeconds : Float) (now : ℤ) : Bool :=
  ((Json.get event (lit "key_version")).asInt?.any (fun k => decide (minKeyVersion ≤ k))) &&
  (((Json.get event (lit "issued_at")).asStr?.bind (parseRfc3339 P)).any
    (fun issuedAt => !decide (skewSeconds < deltaSeconds now issuedAt)))

theorem inWindow_iff (P : Platform) (event : List (PyStr × Json)) (skewSeconds : Float) (now : ℤ) :
    inWindow P event skewSeconds now = true ↔ InWindow P event skewSeconds now := by
  simp only [inWindow, InWindow, Bool.and_eq_true, Option.any_eq_true, Option.bind_eq_some_iff,
    decide_eq_true_eq, Bool.not_eq_true', decide_eq_false_iff_not]
  constructor
  · rintro ⟨⟨k, hk, hk2⟩, issuedAt, ⟨raw, hraw, hparse⟩, hskew⟩
    exact ⟨⟨k, hk, hk2⟩, raw, issuedAt, hraw, hparse, hskew⟩
  · rintro ⟨⟨k, hk, hk2⟩, raw, issuedAt, hraw, hparse, hskew⟩
    exact ⟨⟨k, hk, hk2⟩, issuedAt, ⟨raw, hraw, hparse⟩, hskew⟩

/-- The nonce of an event: a non-empty string. -/
def nonceOf (event : List (PyStr × Json)) : Option PyStr :=
  match (Json.get event (lit "nonce")).asStr? with
  | some [] => none
  | n => n

theorem validateFreshness_of_inWindow {P : Platform} {event : List (PyStr × Json)}
    {store : NonceStore} {skew : Float} {now : ℤ} {mono : Float} (h : InWindow P event skew now) :
    validateFreshness P event store skew now mono =
      match nonceOf event with
      | none => (some (lit "missing or invalid nonce"), store)
      | some n =>
        if (store.checkAndRecord n mono).1 = true then (none, (store.checkAndRecord n mono).2)
        else (some (lit "replayed nonce"), (store.checkAndRecord n mono).2) := by
  obtain ⟨⟨k, hk, hk2⟩, raw, issuedAt, hraw, hparse, hskew⟩ := h
  simp only [validateFreshness, hk, hraw, hparse, if_neg (Int.not_lt.2 hk2), if_neg hskew]
  unfold nonceOf
  rcases (Json.get event (lit "nonce")).asStr? with _ | (_ | ⟨c, cs⟩)
  · rfl
  · rfl
  · cases hcr : store.checkAndRecord (c :: cs) mono with
    | mk fresh s => cases fresh <;> simp [hcr]

/-- Outside the window the message is rejected and the store is left alone. -/
theorem validateFreshness_of_not_inWindow {P : Platform} {event : List (PyStr × Json)} {skew : Float}
    {now : ℤ} (store : NonceStore) (mono : Float) (h : ¬ InWindow P event skew now) :
    ∃ reason, validateFreshness P event store skew now mono = (some reason, store) := by
  unfold validateFreshness
  split
  · exact ⟨_, rfl⟩
  next k hk =>
  split
  · exact ⟨_, rfl⟩
  next hk2 =>
  split
  · exact ⟨_, rfl⟩
  next raw hraw =>
  split
  · exact ⟨_, rfl⟩
  next issuedAt hparse =>
  split
  · exact ⟨_, rfl⟩
  next hskew =>
    exact absurd ⟨⟨k, hk, Int.not_lt.1 hk2⟩, raw, issuedAt, hraw, hparse, hskew⟩ h

end AxiamSdk.Amqp
