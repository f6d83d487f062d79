import AxiamSdk.Lib.Runs
import AxiamSdk.Lib.FloatOrder
import AxiamSdk.Amqp.Hmac
import AxiamSdk.Amqp.Replay

/-! # The event consumer (`amqp/_consumer.py`)

A `consume()` loop runs `_on_message` once for every delivery, as concurrent tasks over one
`NonceStore`. A delivery has two moments: `intake` (verify, parse, check freshness, up to the
`await` of the handler) and the end of its handler.

* `intake`, `afterHandler`: the two halves of `_on_message`.
* `step`: the loop, with what its history shows: `reached` (nonces that got to the handler, with the
  expiry they were recorded with) and `completed` (nonces whose handler returned).
* `Kept` and `consume_keeps_messages`: when a delivery is lost. -/

namespace AxiamSdk.Amqp
open PyLib
set_option autoImplicit false

/-! ## One delivery -/

/-- How a handler ends: it returns, raises `ErrDrop`, raises another `Exception`, or is left by a
`BaseException` such as a cancellation. -/
inductive HandlerOutcome
  | returned | errDrop | raised | cancelled
  deriving DecidableEq, Repr

inductive Settlement
  | ack | nackRequeue | nackDrop
  deriving DecidableEq, Repr

/-- A `consume()` call. `exitSettlement` is what the AMQP library's `message.process()` does with a
message that is still unsettled when an exception leaves it. -/
structure Consumer where
  signingKey : Bytes
  skewSeconds : Float
  ttlSeconds : Float
  exitSettlement : Option Settlement

/-- A delivery, with the clock readings its checks take. -/
structure Delivery where
  body : Bytes
  now : ℤ
  monotonic : Float

/-- `_on_message` before the handler is awaited. -/
inductive Intake
  | settled (s : Settlement)
  | escaped (e : Exc)
  | handed (event : List (PyStr × Json))

/-- The first half of `_on_message`. -/
def intake (P : Platform) (C : Consumer) (nonceStore : NonceStore) (d : Delivery) :
    Intake × NonceStore :=
  match verifyHmac P C.signingKey d.body with
  | .error e => (.escaped e, nonceStore)
  | .ok false => (.settled .nackDrop, nonceStore)
  | .ok true =>
    match loadsOrNone P d.body with
    | .error e => (.escaped e, nonceStore)
    | .ok (some (.obj msg)) =>
      let event := Assoc.erase msg (lit "hmac_signature")
      match validateFreshness P event nonceStore C.skewSeconds d.now d.monotonic with
      | (some _, s) => (.settled .nackDrop, s)
      | (none, s) => (.handed event, s)
    | .ok _ => (.settled .nackDrop, nonceStore)

/-- The second half: what each end of the handler settles, `none` for nothing. -/
def afterHandler : HandlerOutcome → Option Settlement
  | .returned => some .ack
  | .errDrop => some .nackDrop
  | .raised => some .nackRequeue
  | .cancelled => none

/-! ## The loop -/

structure LoopState where
  nonceStore : NonceStore
  /-- Deliveries whose handler runs, by delivery tag, with their nonce. -/
  running : List (ℕ × PyStr)
  clock : Float
  reached : List (PyStr × Float)
  completed : List PyStr

inductive Event
  | arrive (tag : ℕ) (d : Delivery)
  | finish (tag : ℕ) (outcome : HandlerOutcome)

/-- The loop before its first delivery. -/
def start (C : Consumer) (clock : Float) : LoopState :=
  ⟨NonceStore.new C.ttlSeconds, [], clock, [], []⟩

/-- One event; the monotonic clock never goes back. -/
def step (P : Platform) (C : Consumer) (s : LoopState) : Event → Option LoopState
  | .arrive tag d =>
    if s.clock ≤ d.monotonic ∧ Assoc.get? s.running tag = none then
      match intake P C s.nonceStore d with
      | (.handed event, store) =>
        some { s with
          nonceStore := store
          clock := d.monotonic
          running := Assoc.set s.running tag ((nonceOf event).getD [])
          reached := ((nonceOf event).getD [], d.monotonic + C.ttlSeconds) :: s.reached }
      | (_, store) => some { s with nonceStore := store, clock := d.monotonic }
    else none
  | .finish tag outcome =>
    match Assoc.get? s.running tag with
    | none => none
    | some nonce =>
      some { s with
        running := Assoc.erase s.running tag
        completed := if outcome = .returned then nonce :: s.completed else s.completed }

/-- How the event settles its delivery, `none` while the handler runs. -/
def settlement (P : Platform) (C : Consumer) (s : LoopState) : Event → Option Settlement
  | .arrive _ d =>
    match (intake P C s.nonceStore d).1 with
    | .settled st => some st
    | .escaped _ => C.exitSettlement
    | .handed _ => none
  | .finish _ outcome => (afterHandler outcome).or C.exitSettlement

/-! ## What the loop promises -/

/-- A valid MAC, a parseable body, `key_version >= 2` and `issued_at` inside the window. -/
def Qualified (P : Platform) (C : Consumer) (d : Delivery) (event : List (PyStr × Json)) : Prop :=
  ∃ msg, verifyHmac P C.signingKey d.body = .ok true ∧ P.loads d.body = .ok (.obj msg) ∧
    event = Assoc.erase msg (lit "hmac_signature") ∧ InWindow P event C.skewSeconds d.now

/-- The handler has completed normally for a message with the event's nonce. -/
def CompletedBefore (s : LoopState) (nonce : Option PyStr) : Prop :=
  ∃ n, nonce = some n ∧ n ∈ s.completed

/-- A qualified delivery is dropped only for `ErrDrop` or for a nonce already handled, and otherwise
reaches the handler. -/
def Kept (P : Platform) (C : Consumer) (s : LoopState) : Event → Prop
  | .arrive tag d => ∀ event, Qualified P C d event →
      (settlement P C s (.arrive tag d) = some .nackDrop → CompletedBefore s (nonceOf event)) ∧
      (settlement P C s (.arrive tag d) ≠ some .nackDrop →
        (intake P C s.nonceStore d).1 = .handed event)
  | .finish tag outcome => settlement P C s (.finish tag outcome) = some .nackDrop →
      outcome = .errDrop ∨ CompletedBefore s (Assoc.get? s.running tag)

/-- The event's nonce is a non-empty string that no delivery has brought to the handler within the
time to live, unless the handler has completed for it; and a handler is not cancelled where the
library drops what is unsettled. -/
def NonceFree (P : Platform) (C : Consumer) (s : LoopState) : Event → Prop
  | .arrive _ d => ∀ event, Qualified P C d event →
      ∃ n, nonceOf event = some n ∧
        (n ∈ s.completed ∨ ∀ e, (n, e) ∈ s.reached → e ≤ d.monotonic)
  | .finish tag outcome => outcome = .cancelled → C.exitSettlement = some .nackDrop →
      CompletedBefore s (Assoc.get? s.running tag)

/-! ## Intake -/

/-- The event of a qualified delivery, computed. -/
def qualified? (P : Platform) (C : Consumer) (d : Delivery) : Option (List (PyStr × Json)) :=
  match verifyHmac P C.signingKey d.body, P.loads d.body with
  | .ok true, .ok (.obj msg) =>
    let event := Assoc.erase msg (lit "hmac_signature")
    if inWindow P event C.skewSeconds d.now then some event else none
  | _, _ => none

theorem qualified_of_qualified? {P : Platform} {C : Consumer} {d : Delivery}
    {event : List (PyStr × Json)} (h : qualified? P C d = some event) : Qualified P C d event := by
  unfold qualified? at h
  split at h
  · next msg hmac hloads =>
    simp only at h
    split at h
    · next hwin =>
      cases h
      exact ⟨msg, hmac, hloads, rfl, (inWindow_iff _ _ _ _).1 hwin⟩
    · cases h
  · cases h

theorem qualified?_of_qualified {P : Platform} {C : Consumer} {d : Delivery}
    {event : List (PyStr × Json)} (h : Qualified P C d event) : qualified? P C d = some event := by
  obtain ⟨msg, hmac, hloads, rfl, hwin⟩ := h
  simp only [qualified?, hmac, hloads, (inWindow_iff _ _ _ _).2 hwin, if_true]

theorem loadsOrNone_of_loads {P : Platform} {body : Bytes} {v : Json} (h : P.loads body = .ok v) :
    loadsOrNone P body = .ok (some v) := by
  simp only [loadsOrNone, h]

theorem intake_of_qualified {P : Platform} {C : Consumer} {d : Delivery}
    {event : List (PyStr × Json)} (store : NonceStore) (h : Qualified P C d event) :
    intake P C store d =
      match nonceOf event with
      | none => (.settled .nackDrop, store)
      | some n =>
        if (store.checkAndRecord n d.monotonic).1 = true then
          (.handed event, (store.checkAndRecord n d.monotonic).2)
        else (.settled .nackDrop, (store.checkAndRecord n d.monotonic).2) := by
  obtain ⟨msg, hmac, hloads, rfl, hwin⟩ := h
  simp only [intake, hmac, loadsOrNone_of_loads hloads]
  rw [validateFreshness_of_inWindow hwin]
  cases nonceOf (Assoc.erase msg (lit "hmac_signature")) with
  | none => rfl
  | some n =>
    cases hfresh : (store.checkAndRecord n d.monotonic).1 with
    | true => simp only [if_true, hfresh]
    | false => simp [hfresh]

/-- A delivery that is not qualified is not handed over, and the store is left alone. -/
theorem intake_of_not_qualified {P : Platform} {C : Consumer} {d : Delivery} (store : NonceStore)
    (h : ¬ ∃ event, Qualified P C d event) :
    ∃ i, (∀ event, i ≠ .handed event) ∧ intake P C store d = (i, store) := by
  unfold intake
  cases hmac : verifyHmac P C.signingKey d.body with
  | error e => exact ⟨.escaped e, by simp, rfl⟩
  | ok b =>
    cases b with
    | false => exact ⟨.settled .nackDrop, by simp, rfl⟩
    | true =>
      obtain ⟨msg, hloads⟩ := obj_of_verifyHmac hmac
      have hout : ¬ InWindow P (Assoc.erase msg (lit "hmac_signature")) C.skewSeconds d.now :=
        fun hwin => h ⟨_, msg, hmac, hloads, rfl, hwin⟩
      obtain ⟨reason, hr⟩ := validateFreshness_of_not_inWindow store d.monotonic hout
      simp only [loadsOrNone_of_loads hloads, hr]
      exact ⟨.settled .nackDrop, by simp, rfl⟩

/-- **What an intake can do.** It hands over a qualified event whose nonce it has just recorded, or
it settles or escapes with a store that is as before or has been checked for a replay. -/
theorem intake_cases (P : Platform) (C : Consumer) (store : NonceStore) (d : Delivery) :
    (∃ event n, Qualified P C d event ∧ nonceOf event = some n ∧
      (store.checkAndRecord n d.monotonic).1 = true ∧
      intake P C store d = (.handed event, (store.checkAndRecord n d.monotonic).2)) ∨
    (∃ i, (∀ event, i ≠ .handed event) ∧ (intake P C store d = (i, store) ∨
      ∃ n, (store.checkAndRecord n d.monotonic).1 = false ∧
        intake P C store d = (i, (store.checkAndRecord n d.monotonic).2))) := by
  by_cases hq : ∃ event, Qualified P C d event
  · obtain ⟨event, hq⟩ := hq
    have hi := intake_of_qualified store hq
    cases hn : nonceOf event with
    | none =>
      rw [hn] at hi
      exact Or.inr ⟨.settled .nackDrop, by simp, Or.inl hi⟩
    | some n =>
      rw [hn] at hi
      by_cases hfresh : (store.checkAndRecord n d.monotonic).1 = true
      · simp only [hfresh, if_true] at hi
        exact Or.inl ⟨event, n, hq, hn, hfresh, hi⟩
      · have hfalse : (store.checkAndRecord n d.monotonic).1 = false := by simpa using hfresh
        simp only [hfalse] at hi
        exact Or.inr ⟨.settled .nackDrop, by simp, Or.inr ⟨n, hfalse, hi⟩⟩
  · obtain ⟨i, hi, heq⟩ := intake_of_not_qualified store hq
    exact Or.inr ⟨i, hi, Or.inl heq⟩

/-! ## The invariant of the loop -/

/-- The store remembers exactly the nonces that reached the handler and have not expired. -/
structure Linked (C : Consumer) (s : LoopState) : Prop where
  ttl : s.nonceStore.ttlSeconds = C.ttlSeconds
  recorded : ∀ n e, s.nonceStore.seen.get? n = some e → (n, e) ∈ s.reached
  live : ∀ n e, (n, e) ∈ s.reached → ¬ e ≤ s.clock → s.nonceStore.seen.get? n = some e

theorem linked_start (C : Consumer) (clock : Float) : Linked C (start C clock) :=
  ⟨rfl, fun n e h => by simp [start, NonceStore.new] at h, fun n e h => by simp [start] at h⟩

theorem Linked.live_check {C : Consumer} {s : LoopState} (h : Linked C s) {now : Float}
    (hle : s.clock ≤ now) (m : PyStr) {n : PyStr} {e : Float} (hmem : (n, e) ∈ s.reached)
    (he : ¬ e ≤ now) : (s.nonceStore.checkAndRecord m now).2.seen.get? n = some e := by
  rw [NonceStore.get?_checkAndRecord]
  exact Or.inl ⟨h.live n e hmem (fun hc => he (FloatOrder.le_trans hc hle)), he⟩

theorem checkAndRecord_ttl (s : NonceStore) (n : PyStr) (now : Float) :
    (s.checkAndRecord n now).2.ttlSeconds = s.ttlSeconds := by
  simp only [NonceStore.checkAndRecord]
  split
  · rfl
  · rfl

theorem linked_step {P : Platform} {C : Consumer} {s t : LoopState} {ev : Event}
    (h : Linked C s) (hs : step P C s ev = some t) : Linked C t := by
  cases ev with
  | arrive tag d =>
    simp only [step] at hs
    split at hs
    case isFalse => cases hs
    case isTrue hguard =>
      rcases intake_cases P C s.nonceStore d with
        ⟨event, n, hq, hn, hfresh, hi⟩ | ⟨i, hi, hstore | ⟨n, hstale, hstore⟩⟩
      · rw [hi] at hs
        obtain rfl := Option.some.inj hs
        refine ⟨(checkAndRecord_ttl _ _ _).trans h.ttl, ?_, ?_⟩
        · intro m e hg
          rcases (NonceStore.get?_checkAndRecord _ _ _ _ _).1 hg with ⟨hold, _⟩ | ⟨_, rfl, rfl⟩
          · exact List.mem_cons_of_mem _ (h.recorded m e hold)
          · simp [hn, h.ttl]
        · intro m e hmem he
          rcases List.mem_cons.1 hmem with heq | hmem
          · obtain ⟨rfl, rfl⟩ := Prod.mk.inj heq
            rw [hn, Option.getD_some, NonceStore.get?_checkAndRecord, h.ttl]
            exact Or.inr ⟨hfresh, rfl, rfl⟩
          · exact h.live_check hguard.1 n hmem he
      · rw [hstore] at hs
        have ht : t = { s with nonceStore := s.nonceStore, clock := d.monotonic } := by
          cases i with
          | handed event => exact absurd rfl (hi event)
          | settled _ => exact (Option.some.inj hs).symm
          | escaped _ => exact (Option.some.inj hs).symm
        subst ht
        exact ⟨h.ttl, h.recorded, fun m e hmem he =>
          h.live m e hmem (fun hc => he (FloatOrder.le_trans hc hguard.1))⟩
      · rw [hstore] at hs
        have ht : t = { s with
            nonceStore := (s.nonceStore.checkAndRecord n d.monotonic).2, clock := d.monotonic } := by
          cases i with
          | handed event => exact absurd rfl (hi event)
          | settled _ => exact (Option.some.inj hs).symm
          | escaped _ => exact (Option.some.inj hs).symm
        subst ht
        refine ⟨(checkAndRecord_ttl _ _ _).trans h.ttl, fun m e hg => ?_, fun m e hmem he =>
          h.live_check hguard.1 n hmem he⟩
        rcases (NonceStore.get?_checkAndRecord _ _ _ _ _).1 hg with ⟨hold, _⟩ | ⟨hf, _⟩
        · exact h.recorded m e hold
        · rw [hstale] at hf
          cases hf
  | finish tag outcome =>
    simp only [step] at hs
    split at hs
    · cases hs
    · obtain rfl := Option.some.inj hs
      exact ⟨h.ttl, h.recorded, h.live⟩

/-! ## When a delivery is lost -/

/-- At an arrival, a nonce is fresh for the store exactly when no live delivery brought it. -/
theorem Linked.fresh_iff {C : Consumer} {s : LoopState} (h : Linked C s) {now : Float}
    (hle : s.clock ≤ now) (n : PyStr) :
    (s.nonceStore.checkAndRecord n now).1 = true ↔ ∀ e, (n, e) ∈ s.reached → e ≤ now := by
  rw [NonceStore.checkAndRecord_fst]
  constructor
  · intro hall e hmem
    by_contra he
    exact he (hall e (h.live n e hmem (fun hc => he (FloatOrder.le_trans hc hle))))
  · intro hall e hg
    exact hall e (h.recorded n e hg)

theorem kept_iff_arrive {P : Platform} {C : Consumer} {s t : LoopState} {tag : ℕ} {d : Delivery}
    (h : Linked C s) (hs : step P C s (.arrive tag d) = some t) :
    Kept P C s (.arrive tag d) ↔ NonceFree P C s (.arrive tag d) := by
  have hle : s.clock ≤ d.monotonic := by
    simp only [step] at hs
    split at hs
    · next hguard => exact hguard.1
    · cases hs
  refine forall_congr' fun event => forall_congr' fun hq => ?_
  have hi := intake_of_qualified s.nonceStore hq
  cases hn : nonceOf event with
  | none =>
    rw [hn] at hi
    have hset : settlement P C s (.arrive tag d) = some .nackDrop := by simp only [settlement, hi]
    simp [hset, CompletedBefore]
  | some n =>
    rw [hn] at hi
    have hfree := h.fresh_iff hle n
    by_cases hfresh : (s.nonceStore.checkAndRecord n d.monotonic).1 = true
    · simp only [hfresh, if_true] at hi
      have hset : settlement P C s (.arrive tag d) = none := by simp only [settlement, hi]
      have hall := hfree.1 hfresh
      simp only [hset, hi, CompletedBefore]
      simp
      exact Or.inr hall
    · have hfalse : (s.nonceStore.checkAndRecord n d.monotonic).1 = false := by simpa using hfresh
      simp only [hfalse] at hi
      have hset : settlement P C s (.arrive tag d) = some .nackDrop := by
        simp only [settlement, hi]
        rfl
      have hlive : ¬ ∀ e, (n, e) ∈ s.reached → e ≤ d.monotonic := fun hall => hfresh (hfree.2 hall)
      simp [hset, CompletedBefore, hlive]

theorem kept_iff_finish {P : Platform} {C : Consumer} {s : LoopState} {tag : ℕ}
    {outcome : HandlerOutcome} :
    Kept P C s (.finish tag outcome) ↔ NonceFree P C s (.finish tag outcome) := by
  cases outcome <;> simp [Kept, NonceFree, settlement, afterHandler]

/-- **When the loop loses a message.** Along any run, every delivery is kept exactly when every
arrival's nonce is free in the sense of `NonceFree`. -/
theorem consume_keeps_messages (P : Platform) (C : Consumer) (clock : Float) (events : List Event) :
    Run.Always (fnStep (step P C)) (start C clock) events (Kept P C) ↔
      Run.Always (fnStep (step P C)) (start C clock) events (NonceFree P C) := by
  apply Run.Always.congr (linked_start C clock)
  · intro s ev t h hs
    exact linked_step h hs
  · intro s ev t h hs
    cases ev with
    | arrive tag d => exact kept_iff_arrive h hs
    | finish tag outcome => exact kept_iff_finish

/-! ## A message lost to a transient failure -/

namespace Redelivery

/-- `b"test-signing-key"` -/
def key : Bytes :=
  [116, 101, 115, 116, 45, 115, 105, 103, 110, 105, 110, 103, 45, 107, 101, 121]

/-- The canonical text: `key_version` 2, `nonce` `n-1`, `issued_at` 2026-01-01T00:00:00+00:00. -/
def signed : Bytes :=
  [123, 34, 107, 101, 121, 95, 118, 101, 114, 115, 105, 111, 110, 34, 58, 50, 44, 34, 110, 111,
    110, 99, 101, 34, 58, 34, 110, 45, 49, 34, 44, 34, 105, 115, 115, 117, 101, 100, 95, 97, 116,
    34, 58, 34, 50, 48, 50, 54, 45, 48, 49, 45, 48, 49, 84, 48, 48, 58, 48, 48, 58, 48, 48, 43,
    48, 48, 58, 48, 48, 34, 125]

/-- The HMAC-SHA256 of `signed` under `key`. -/
def digest : Bytes :=
  [202, 225, 199, 178, 243, 250, 192, 2, 55, 229, 158, 140, 248, 125, 65, 139, 54, 185, 136, 172,
    51, 23, 78, 141, 87, 217, 35, 79, 87, 246, 40, 147]

/-- The signed object with its digest in hexadecimal as the last member, `hmac_signature`. -/
def body : Bytes :=
  [123, 34, 107, 101, 121, 95, 118, 101, 114, 115, 105, 111, 110, 34, 58, 50, 44, 34, 110, 111,
    110, 99, 101, 34, 58, 34, 110, 45, 49, 34, 44, 34, 105, 115, 115, 117, 101, 100, 95, 97, 116,
    34, 58, 34, 50, 48, 50, 54, 45, 48, 49, 45, 48, 49, 84, 48, 48, 58, 48, 48, 58, 48, 48, 43,
    48, 48, 58, 48, 48, 34, 44, 34, 104, 109, 97, 99, 95, 115, 105, 103, 110, 97, 116, 117, 114,
    101, 34, 58, 34, 99, 97, 101, 49, 99, 55, 98, 50, 102, 51, 102, 97, 99, 48, 48, 50, 51, 55,
    101, 53, 57, 101, 56, 99, 102, 56, 55, 100, 52, 49, 56, 98, 51, 54, 98, 57, 56, 56, 97, 99,
    51, 51, 49, 55, 52, 101, 56, 100, 53, 55, 100, 57, 50, 51, 52, 102, 53, 55, 102, 54, 50, 56,
    57, 51, 34, 125]

/-- The platform on this input: the digest of `signed` and the instant of its timestamp. -/
def platform : Platform where
  interp := ⟨4300, 990, 990, fun _ => []⟩
  hmacSha256 k m := if k = key ∧ m = signed then digest else List.replicate 32 0
  fromIsoFormat s :=
    if s = lit "2026-01-01T00:00:00+00:00" then some ⟨1767225600000000, some 0⟩ else none

def consumer : Consumer := ⟨key, defaultSkewSeconds, 600.0, some .nackDrop⟩

/-- The message one and then two seconds after it was sent. -/
def first : Delivery := ⟨body, 1767225601000000, 1.0⟩

def second : Delivery := ⟨body, 1767225602000000, 2.0⟩

/-- The first delivery's handler raises, and the broker delivers the message again. -/
def events : List Event := [.arrive 1 first, .finish 1 .raised]

def afterEvents : Option LoopState := exec (step platform consumer) (start consumer 0.0) events

theorem afterEvents_isSome : afterEvents.isSome = true := by decide +kernel

/-- The loop when the message comes back. -/
def state : LoopState := afterEvents.get afterEvents_isSome

/-- The second delivery is qualified and is dropped, with no message completed before it. -/
theorem second_goes : (qualified? platform consumer second).isSome = true ∧
    (step platform consumer state (.arrive 1 second)).isSome = true ∧
    settlement platform consumer state (.arrive 1 second) = some .nackDrop ∧ state.completed = [] := by
  decide +kernel

end Redelivery

open Redelivery in
/-- The loop does lose messages: a message whose handler raised once, nacked with requeue, is dropped
as a replay when the broker delivers it again a second later. -/
theorem not_consume_keeps_messages :
    ¬ ∀ (P : Platform) (C : Consumer) (clock : Float) (events : List Event),
      Run.Always (fnStep (step P C)) (start C clock) events (Kept P C) := by
  intro hall
  obtain ⟨hqualified, hsteps, hdropped, hnone⟩ := second_goes
  have hrun : Run (fnStep (step platform consumer)) (start consumer 0.0) events state :=
    exec_run (Option.some_get afterEvents_isSome).symm
  have hstep : fnStep (step platform consumer) state (.arrive 1 second)
      ((step platform consumer state (.arrive 1 second)).get hsteps) :=
    (Option.some_get hsteps).symm
  have hq : Qualified platform consumer second _ :=
    qualified_of_qualified? (Option.some_get hqualified).symm
  have hkept := hall platform consumer 0.0 (events ++ [.arrive 1 second])
    events (.arrive 1 second) [] state _ rfl hrun hstep
  obtain ⟨n, _, hn⟩ := (hkept _ hq).1 hdropped
  rw [hnone] at hn
  cases hn

end AxiamSdk.Amqp
