import Mathlib.Algebra.Order.Ring.Rat
import Mathlib.Tactic.Linarith
import AxiamSdk.Lib.Dict
import AxiamSdk.Lib.Runs
import AxiamSdk.Lib.Text

/-! # The key lookups of the local verifier (`_jwks.py`)

* `PyJwkClient`: the JWT library's key client, known by what it documents (`Documented`).
* `getSigningKey`: its lookup, and one forced refetch a minute; instants are rational seconds.
* `rate_limited`: fetches are limited, and fetched keys cached, as long as the client's first lookup finds
  every `kid`. -/

namespace AxiamSdk.Jwks
open PyLib
set_option autoImplicit false

/-! ## The key client -/

/-- A key set as the endpoint serves it, by `kid`. -/
abbrev KeySet (Key : Type) := List (PyStr × Key)

/-- `jwk_set_cache`: absent, empty, or holding a key set since an instant. -/
abbrev CacheField (Key : Type) := Option (Option (KeySet Key × ℚ))

/-- What one call of the client meets: when it looks at its cache, and when a first and a second fetch of it
end with which key set. -/
structure Turn (Key : Type) where
  checkedAt : ℚ
  fetchedAt : ℚ
  served : KeySet Key
  refetchedAt : ℚ
  reserved : KeySet Key

def Turn.Ordered {Key : Type} (turn : Turn Key) : Prop :=
  turn.checkedAt ≤ turn.fetchedAt ∧ turn.fetchedAt ≤ turn.refetchedAt

/-- What one call of the client comes to: the key, or a `PyJWTError`; its cache; what it fetched. -/
structure Lookup (Key : Type) where
  key : Option Key
  cache : CacheField Key
  fetches : List (KeySet Key × ℚ)

/-- `PyJWKClient`, with a lifespan of its cache. -/
structure PyJwkClient (Key : Type) where
  lifespan : ℚ
  getSigningKeyFromJwt : CacheField Key → PyStr → Turn Key → Lookup Key

variable {Key : Type}

/-- The key set of a cache that is there, filled and not expired. -/
def usable (lifespan : ℚ) (cache : CacheField Key) (now : ℚ) : Option (KeySet Key) :=
  match cache with
  | some (some (keys, since)) => if since + lifespan < now then none else some keys
  | _ => none

/-- A fetched key set is stored if there is a cache. -/
def stored (cache : CacheField Key) (keys : KeySet Key) (now : ℚ) : CacheField Key :=
  cache.map (fun _ => some (keys, now))

/-- What the client documents: it reads a usable cache and else fetches, fetches once more for a `kid` that a
key set does not hold, and stores what it fetches. -/
structure Documented (C : PyJwkClient Key) : Prop where
  cached : ∀ cache kid turn keys key, usable C.lifespan cache turn.checkedAt = some keys →
    Assoc.get? keys kid = some key → C.getSigningKeyFromJwt cache kid turn = ⟨some key, cache, []⟩
  refreshed : ∀ cache kid turn keys, usable C.lifespan cache turn.checkedAt = some keys → keys ≠ [] →
    Assoc.get? keys kid = none → C.getSigningKeyFromJwt cache kid turn =
      ⟨Assoc.get? turn.reserved kid, stored cache turn.reserved turn.refetchedAt,
        [(turn.reserved, turn.refetchedAt)]⟩
  fetched : ∀ cache kid turn key, usable C.lifespan cache turn.checkedAt = none →
    Assoc.get? turn.served kid = some key → C.getSigningKeyFromJwt cache kid turn =
      ⟨some key, stored cache turn.served turn.fetchedAt, [(turn.served, turn.fetchedAt)]⟩
  fetchedTwice : ∀ cache kid turn, usable C.lifespan cache turn.checkedAt = none → turn.served ≠ [] →
    Assoc.get? turn.served kid = none → C.getSigningKeyFromJwt cache kid turn =
      ⟨Assoc.get? turn.reserved kid, stored cache turn.reserved turn.refetchedAt,
        [(turn.served, turn.fetchedAt), (turn.reserved, turn.refetchedAt)]⟩

/-! ## The verifier -/

/-- `_FORCED_REFETCH_MIN_INTERVAL_SECONDS` -/
def forcedRefetchMinIntervalSeconds : ℚ := 60

/-- A fetch in the record: `forced` if the set fetched last had not expired, `unknown` if it did not hold the
`kid` asked for. -/
structure Fetch (Key : Type) where
  keys : KeySet Key
  since : ℚ
  forced : Bool
  unknown : Bool

/-- The fields of a `JwksVerifier` that a lookup uses, and the record of its fetches (newest first). -/
structure Verifier (Key : Type) where
  jwkSetCache : CacheField Key
  lastForcedRefetch : Option ℚ
  clock : ℚ
  log : List (Fetch Key)

/-- `JwksVerifier.__init__` -/
def Verifier.start (clock : ℚ) : Verifier Key := ⟨some none, none, clock, []⟩

/-- A token presented: its `kid`, what the first and the second call of the client meet, and the reading of
the clock between them. -/
structure Presented (Key : Type) where
  kid : PyStr
  first : Turn Key
  now : ℚ
  second : Turn Key

def logFetch (lifespan : ℚ) (kid : PyStr) (log : List (Fetch Key)) (fetch : KeySet Key × ℚ) : List (Fetch Key) :=
  match log with
  | [] => [⟨fetch.1, fetch.2, false, true⟩]
  | last :: _ =>
    ⟨fetch.1, fetch.2, decide (fetch.2 ≤ last.since + lifespan), (Assoc.get? last.keys kid).isNone⟩ :: log

/-- The verifier after a call of its client. -/
def Verifier.after (lifespan : ℚ) (kid : PyStr) (v : Verifier Key) (lookup : Lookup Key) : Verifier Key :=
  { v with jwkSetCache := lookup.cache, log := lookup.fetches.foldl (logFetch lifespan kid) v.log }

/-- The limit on forced refetches. -/
def rateLimited (lastForcedRefetch : Option ℚ) (now : ℚ) : Bool :=
  lastForcedRefetch.any (fun last => decide (now - last < forcedRefetchMinIntervalSeconds))

/-- `_get_signing_key`, under its lock. -/
def getSigningKey (C : PyJwkClient Key) (v : Verifier Key) (e : Presented Key) : Option Key × Verifier Key :=
  let first := C.getSigningKeyFromJwt v.jwkSetCache e.kid e.first
  let v := v.after C.lifespan e.kid first
  match first.key with
  | some key => (some key, v)
  | none =>
    if rateLimited v.lastForcedRefetch e.now then
      let second := C.getSigningKeyFromJwt v.jwkSetCache e.kid e.second
      (second.key, v.after C.lifespan e.kid second)
    else
      let second := C.getSigningKeyFromJwt none e.kid e.second
      (second.key, { v with lastForcedRefetch := some e.now }.after C.lifespan e.kid second)

/-- One token; the clock never goes back. -/
def step (C : PyJwkClient Key) (v : Verifier Key) (e : Presented Key) (v' : Verifier Key) : Prop :=
  v.clock ≤ e.first.checkedAt ∧ e.first.Ordered ∧ e.first.refetchedAt ≤ e.now ∧ e.now ≤ e.second.checkedAt ∧
    e.second.Ordered ∧ v' = { (getSigningKey C v e).2 with clock := e.second.refetchedAt }

/-! ## The law -/

/-- A fetch that does not find the last fetched set expired is for a `kid` it does not hold, and such fetches
are a minute apart; a token of the last fetched set is verified without a fetch until its lifespan is over. -/
structure Law (C : PyJwkClient Key) (v : Verifier Key) : Prop where
  caused : ∀ f ∈ v.log, f.forced = true → f.unknown = true
  spaced : v.log.Pairwise (fun later earlier => later.forced = true → earlier.forced = true →
    60 ≤ later.since - earlier.since)
  cached : ∀ last, v.log.head? = some last → ∀ e key, Assoc.get? last.keys e.kid = some key →
    v.clock ≤ e.first.checkedAt → e.first.checkedAt ≤ last.since + C.lifespan → getSigningKey C v e = (some key, v)

/-- The refetch of this token's lookup is a minute away from every forced one. -/
def Spaced (v : Verifier Key) (e : Presented Key) : Prop :=
  ∀ f ∈ v.log, f.forced = true → 60 ≤ e.first.refetchedAt - f.since

/-- The client's first call finds the `kid`: in the usable cache, else in what it fetches; or at the cost of a
refetch that the limit allows. -/
def Found (C : PyJwkClient Key) (v : Verifier Key) (e : Presented Key) : Prop :=
  ∃ keys, (usable C.lifespan v.jwkSetCache e.first.checkedAt).getD e.first.served = keys ∧
    ((Assoc.get? keys e.kid).isSome = true ∨
      keys ≠ [] ∧ (Assoc.get? e.first.reserved e.kid).isSome = true ∧ Spaced v e)

/-- The cache is what was fetched last. -/
structure Cached (v : Verifier Key) : Prop where
  cache : v.jwkSetCache = some (v.log.head?.map (fun f => (f.keys, f.since)))
  caused : ∀ f ∈ v.log, f.forced = true → f.unknown = true
  spaced : v.log.Pairwise (fun later earlier => later.forced = true → earlier.forced = true →
    60 ≤ later.since - earlier.since)

theorem cached_start (clock : ℚ) : Cached (Verifier.start clock : Verifier Key) where
  cache := rfl
  caused _ hf := absurd hf List.not_mem_nil
  spaced := List.Pairwise.nil

theorem usable_head {C : PyJwkClient Key} {v : Verifier Key} (h : Cached v) {now : ℚ} {keys : KeySet Key}
    (husable : usable C.lifespan v.jwkSetCache now = some keys) :
    ∃ last rest, v.log = last :: rest ∧ last.keys = keys := by
  rw [h.cache] at husable
  cases hlog : v.log with
  | nil =>
    rw [hlog] at husable
    cases husable
  | cons last rest =>
    rw [hlog] at husable
    refine ⟨last, rest, rfl, ?_⟩
    simp only [List.head?_cons, Option.map_some, usable] at husable
    split at husable
    · cases husable
    · exact Option.some.inj husable

theorem expired_head {C : PyJwkClient Key} {v : Verifier Key} (h : Cached v) {now : ℚ} {last : Fetch Key}
    {rest : List (Fetch Key)} (husable : usable C.lifespan v.jwkSetCache now = none) (hlog : v.log = last :: rest) :
    last.since + C.lifespan < now := by
  rw [h.cache, hlog] at husable
  simp only [List.head?_cons, Option.map_some, usable] at husable
  split at husable
  · next hlt => exact hlt
  · cases husable

theorem head_usable {C : PyJwkClient Key} {v : Verifier Key} (h : Cached v) {now : ℚ} {last : Fetch Key}
    (hlast : v.log.head? = some last) (hnow : now ≤ last.since + C.lifespan) :
    usable C.lifespan v.jwkSetCache now = some last.keys := by
  rw [h.cache, hlast]
  simp only [Option.map_some, usable]
  rw [if_neg (not_lt.2 hnow)]

theorem getSigningKey_first {C : PyJwkClient Key} {v : Verifier Key} {e : Presented Key} {lookup : Lookup Key} {key : Key}
    (h : C.getSigningKeyFromJwt v.jwkSetCache e.kid e.first = lookup) (hkey : lookup.key = some key) :
    getSigningKey C v e = (some key, v.after C.lifespan e.kid lookup) := by
  simp only [getSigningKey, h, hkey]

theorem Cached.fetch {v v' : Verifier Key} (h : Cached v) {f : Fetch Key} (hlog : v'.log = f :: v.log)
    (hcache : v'.jwkSetCache = some (some (f.keys, f.since))) (hunknown : f.forced = true → f.unknown = true)
    (hspaced : f.forced = true → ∀ g ∈ v.log, g.forced = true → 60 ≤ f.since - g.since) : Cached v' where
  cache := by
    rw [hlog, hcache]
    rfl
  caused g hg := by
    rw [hlog, List.mem_cons] at hg
    obtain rfl | hg := hg
    · exact hunknown
    · exact h.caused g hg
  spaced := by
    rw [hlog]
    exact List.pairwise_cons.2 ⟨fun g hg hforced => hspaced hforced g hg, h.spaced⟩

theorem logFetch_expired {C : PyJwkClient Key} {v : Verifier Key} {e : Presented Key} (h : Cached v)
    (hordered : e.first.Ordered) (husable : usable C.lifespan v.jwkSetCache e.first.checkedAt = none) :
    ∃ unknown, logFetch C.lifespan e.kid v.log (e.first.served, e.first.fetchedAt) =
      ⟨e.first.served, e.first.fetchedAt, false, unknown⟩ :: v.log := by
  cases hlog : v.log with
  | nil => exact ⟨true, rfl⟩
  | cons last rest =>
    have hexpired := expired_head h husable hlog
    refine ⟨(Assoc.get? last.keys e.kid).isNone, ?_⟩
    have hfalse : decide (e.first.fetchedAt ≤ last.since + C.lifespan) = false :=
      decide_eq_false (not_le.2 (hexpired.trans_le hordered.1))
    simp only [logFetch, hfalse]

/-- **A lookup that finds its `kid` keeps the record.** -/
theorem cached_getSigningKey {C : PyJwkClient Key} (hC : Documented C) {v : Verifier Key} {e : Presented Key}
    (h : Cached v) (hordered : e.first.Ordered) (hfound : Found C v e) : Cached (getSigningKey C v e).2 := by
  obtain ⟨keys, hkeys, hfound⟩ := hfound
  cases husable : usable C.lifespan v.jwkSetCache e.first.checkedAt with
  | some cachedKeys =>
    rw [husable, Option.getD_some] at hkeys
    subst hkeys
    cases hkey : Assoc.get? cachedKeys e.kid with
    | some key =>
      rw [getSigningKey_first (hC.cached _ e.kid e.first _ key husable hkey) rfl]
      exact ⟨h.cache, h.caused, h.spaced⟩
    | none =>
      rw [hkey] at hfound
      obtain hsome | ⟨hne, hreserved, hspaced⟩ := hfound
      · cases hsome
      obtain ⟨key, hkey'⟩ := Option.isSome_iff_exists.1 hreserved
      rw [getSigningKey_first (hC.refreshed _ e.kid e.first _ husable hne hkey) hkey']
      obtain ⟨last, rest, hlog, rfl⟩ := usable_head h husable
      refine h.fetch (f := ⟨e.first.reserved, e.first.refetchedAt,
        decide (e.first.refetchedAt ≤ last.since + C.lifespan), true⟩) ?_ ?_ (fun _ => rfl) (fun _ => hspaced)
      · simp only [Verifier.after, hlog, List.foldl_cons, List.foldl_nil, logFetch, hkey, Option.isNone_none]
      · show stored v.jwkSetCache _ _ = _
        rw [h.cache]
        rfl
  | none =>
    rw [husable, Option.getD_none] at hkeys
    subst hkeys
    obtain ⟨unknown, hlogged⟩ := logFetch_expired h hordered husable
    have hstored : ∀ keys now, stored v.jwkSetCache keys now = some (some (keys, now)) := by
      intro keys now
      rw [h.cache]
      rfl
    cases hkey : Assoc.get? e.first.served e.kid with
    | some key =>
      rw [getSigningKey_first (hC.fetched _ e.kid e.first key husable hkey) rfl]
      refine h.fetch (f := ⟨e.first.served, e.first.fetchedAt, false, unknown⟩) hlogged (hstored _ _) ?_ ?_
      · intro hforced
        cases hforced
      · intro hforced
        cases hforced
    | none =>
      rw [hkey] at hfound
      obtain hsome | ⟨hne, hreserved, hspaced⟩ := hfound
      · cases hsome
      obtain ⟨key, hkey'⟩ := Option.isSome_iff_exists.1 hreserved
      rw [getSigningKey_first (hC.fetchedTwice _ e.kid e.first husable hne hkey) hkey']
      have hfirst : Cached { v with
          jwkSetCache := some (some (e.first.served, e.first.fetchedAt))
          log := ⟨e.first.served, e.first.fetchedAt, false, unknown⟩ :: v.log } := by
        refine h.fetch rfl rfl ?_ ?_
        · intro hforced
          cases hforced
        · intro hforced
          cases hforced
      refine hfirst.fetch (f := ⟨e.first.reserved, e.first.refetchedAt,
        decide (e.first.refetchedAt ≤ e.first.fetchedAt + C.lifespan), true⟩) ?_ (hstored _ _) (fun _ => rfl) ?_
      · simp only [Verifier.after, List.foldl_cons, List.foldl_nil]
        rw [hlogged]
        simp only [logFetch, hkey, Option.isNone_none]
      · intro _ g hg hforced
        obtain rfl | hg := List.mem_cons.1 hg
        · cases hforced
        · exact hspaced g hg hforced

theorem Cached.law {C : PyJwkClient Key} (hC : Documented C) {v : Verifier Key} (h : Cached v) : Law C v where
  caused := h.caused
  spaced := h.spaced
  cached last hlast e key hkey _ hnow := by
    have husable := head_usable h hlast hnow
    exact getSigningKey_first (hC.cached _ e.kid e.first _ key husable hkey) rfl

/-- **The fetches are limited.** In every run whose lookups find their `kid` in the client's first call, the
law holds in the state reached. -/
theorem rate_limited (C : PyJwkClient Key) (hC : Documented C) (clock : ℚ) (es : List (Presented Key))
    (v : Verifier Key) (h : Run (guarded (step C) (Found C)) (Verifier.start clock) es v) : Law C v := by
  have hcached : Cached v := by
    refine Run.invariant ?_ h (cached_start clock)
    rintro u e w hu ⟨⟨-, hordered, -, -, -, rfl⟩, hfound⟩
    have hnext := cached_getSigningKey hC hu hordered hfound
    exact ⟨hnext.cache, hnext.caused, hnext.spaced⟩
  exact hcached.law hC

/-! ## One unknown `kid` -/

/-- The client as it behaves: a key set without keys is an error at once. -/
def pyJwt (lifespan : ℚ) : PyJwkClient Key where
  lifespan := lifespan
  getSigningKeyFromJwt cache kid turn :=
    let again (fetches : List (KeySet Key × ℚ)) : Lookup Key :=
      ⟨Assoc.get? turn.reserved kid, stored cache turn.reserved turn.refetchedAt,
        fetches ++ [(turn.reserved, turn.refetchedAt)]⟩
    match usable lifespan cache turn.checkedAt with
    | some [] => ⟨none, cache, []⟩
    | some keys =>
      match Assoc.get? keys kid with
      | some key => ⟨some key, cache, []⟩
      | none => again []
    | none =>
      match turn.served, Assoc.get? turn.served kid with
      | served, some key => ⟨some key, stored cache served turn.fetchedAt, [(served, turn.fetchedAt)]⟩
      | [], none => ⟨none, stored cache [] turn.fetchedAt, [([], turn.fetchedAt)]⟩
      | served, none => again [(served, turn.fetchedAt)]

theorem pyJwt_documented (lifespan : ℚ) : Documented (pyJwt lifespan : PyJwkClient Key) where
  cached cache kid turn keys key husable hkey := by
    cases keys with
    | nil => cases hkey
    | cons head tail =>
      have husable' : usable lifespan cache turn.checkedAt = some (head :: tail) := husable
      simp only [pyJwt, husable', hkey]
  refreshed cache kid turn keys husable hne hkey := by
    cases keys with
    | nil => exact absurd rfl hne
    | cons head tail =>
      have husable' : usable lifespan cache turn.checkedAt = some (head :: tail) := husable
      simp only [pyJwt, husable', hkey, List.nil_append]
  fetched cache kid turn key husable hkey := by
    have husable' : usable lifespan cache turn.checkedAt = none := husable
    simp only [pyJwt, husable', hkey]
  fetchedTwice cache kid turn husable hne hkey := by
    have husable' : usable lifespan cache turn.checkedAt = none := husable
    cases hserved : turn.served with
    | nil => exact absurd hserved hne
    | cons head tail =>
      rw [hserved] at hkey
      simp only [pyJwt, husable', hserved, hkey, List.singleton_append]

/-- A token at an instant, the endpoint serving one key `a`. -/
def presentedAt (kid : PyStr) (now : ℚ) : Presented Unit :=
  ⟨kid, ⟨now, now, [(lit "a", ())], now, [(lit "a", ())]⟩, now, ⟨now, now, [(lit "a", ())], now, [(lit "a", ())]⟩⟩

theorem step_presentedAt {C : PyJwkClient Unit} {v : Verifier Unit} (kid : PyStr) {now : ℚ} (h : v.clock ≤ now) :
    step C v (presentedAt kid now) { (getSigningKey C v (presentedAt kid now)).2 with clock := now } :=
  ⟨h, ⟨le_rfl, le_rfl⟩, le_rfl, le_rfl, ⟨le_rfl, le_rfl⟩, rfl⟩

/-- After one token with an unknown `kid` the cache is gone: the next known one is fetched for again. -/
theorem not_rate_limited : ¬ ∀ (C : PyJwkClient Unit), Documented C → ∀ (clock : ℚ) (es : List (Presented Unit))
    (v : Verifier Unit), Run (step C) (Verifier.start clock) es v → Law C v := by
  intro hall
  have hrun := Run.single (step_presentedAt (C := pyJwt 300) (v := Verifier.start 0) (lit "x") (le_refl 0))
  have hspaced := (hall (pyJwt 300) (pyJwt_documented 300) 0 _ _ hrun).spaced
  have hlog : (getSigningKey (pyJwt 300) (Verifier.start 0) (presentedAt (lit "x") 0)).2.log.map
      (fun f => (f.since, f.forced)) = [(0, true), (0, true), (0, true), (0, false)] := by
    decide +kernel
  have hpairs : ([(0, true), (0, true), (0, true), (0, false)] : List (ℚ × Bool)).Pairwise
      (fun later earlier => later.2 = true → earlier.2 = true → 60 ≤ later.1 - earlier.1) := by
    rw [← hlog]
    exact List.pairwise_map.2 hspaced
  have hminute : (60 : ℚ) ≤ 0 - 0 := List.rel_of_pairwise_cons hpairs List.mem_cons_self rfl rfl
  exact absurd hminute (by decide +kernel)

def afterTwo : Verifier Unit :=
  let v := { (getSigningKey (pyJwt 300) (Verifier.start 0) (presentedAt (lit "a") 0)).2 with clock := 0 }
  { (getSigningKey (pyJwt 300) v (presentedAt (lit "a") 10)).2 with clock := 10 }

/-- A key that is served is fetched once, and taken from the cache ten seconds later. -/
theorem afterTwo_limited : afterTwo.log.map Fetch.since = [0] ∧ Law (pyJwt 300) afterTwo := by
  refine ⟨by decide +kernel, ?_⟩
  refine rate_limited (pyJwt 300) (pyJwt_documented 300) 0 [presentedAt (lit "a") 0, presentedAt (lit "a") 10] _ ?_
  refine Run.cons ⟨step_presentedAt _ (le_refl 0), _, rfl, Or.inl (by decide +kernel)⟩ ?_
  exact Run.single ⟨step_presentedAt _ (by decide +kernel), _, rfl, Or.inl (by decide +kernel)⟩

end AxiamSdk.Jwks
