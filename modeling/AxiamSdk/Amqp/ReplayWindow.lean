import AxiamSdk.Amqp.Consumer
import AxiamSdk.Amqp.Reactor

/-! # Acceptance of replayed messages (`amqp/_consumer.py`, `amqp/_reactor.py`)

A consumer and a reactor keep one `NonceStore` for all their deliveries, with a time to live of
`2 * skew_seconds` on the monotonic clock. The wall clock bounds the age of a message instead.

* `receive`: a delivery against the store; `receive_eq`: only the nonce is left to decide.
* `step`: the deliveries in order, with the log of what was accepted.
* `Expired` and `accepted_once_iff`: a message is accepted again exactly when it is still in its
  window once `2 * skew_seconds` have passed. -/

namespace AxiamSdk.Amqp.ReplayWindow
open PyLib
set_option autoImplicit false

/-! ## One delivery -/

/-- Which loop the deliveries belong to. -/
inductive Kind
  | consumer | reactor
  deriving DecidableEq, Repr

/-- A `consume()` or `reactor_serve()` call without a `nonce_store` of the caller's. -/
structure Receiver where
  kind : Kind
  signingKey : Bytes
  skewSeconds : Float

/-- `ttl_seconds=2 * skew_seconds` -/
def Receiver.ttlSeconds (R : Receiver) : Float := 2.0 * R.skewSeconds

/-- The call as `consume` sees it; what an unsettled delivery comes to plays no part here. -/
def Receiver.consumer (R : Receiver) : Consumer := ⟨R.signingKey, R.skewSeconds, R.ttlSeconds, none⟩

/-- A message: its nonce and the instant of its `issued_at`. -/
abbrev Message := PyStr × ℤ

/-- The instant of `issued_at`. -/
def issuedAt? (P : Platform) (event : List (PyStr × Json)) : Option ℤ :=
  (Json.get event (lit "issued_at")).asStr?.bind (parseRfc3339 P)

/-- The verified event of a reactor's delivery, before the nonce is checked. -/
def verified? (P : Platform) (R : Receiver) (d : Delivery) : Option ReactorEvent :=
  match P.loads d.body with
  | .ok (.obj body) =>
    match verifyEvent P body R.signingKey d.now R.skewSeconds with
    | .ok (.ok event) => some event
    | _ => none
  | _ => none

/-- The message of a delivery that passes every check but the nonce's. -/
def presented (P : Platform) (R : Receiver) (d : Delivery) : Option Message :=
  match R.kind with
  | .consumer => (qualified? P R.consumer d).bind (fun event =>
      (nonceOf event).bind (fun n => (issuedAt? P event).map (fun i => (n, i))))
  | .reactor => (verified? P R d).bind (fun event =>
      (parseRfc3339 P event.issuedAt).map (fun i => (event.nonce, i)))

/-- Whether a delivery is accepted, and the store afterwards: `_on_message` up to its handler, or
`dispatch_reactor_delivery` up to the nonce check. -/
def receive (P : Platform) (R : Receiver) (store : NonceStore) (d : Delivery) : Bool × NonceStore :=
  match R.kind with
  | .consumer =>
    match intake P R.consumer store d with
    | (.handed _, s) => (true, s)
    | (_, s) => (false, s)
  | .reactor =>
    match verified? P R d with
    | some event => store.checkAndRecord event.nonce d.monotonic
    | none => (false, store)

theorem issuedAt?_of_inWindow {P : Platform} {event : List (PyStr × Json)} {skew : Float} {now : ℤ}
    (h : InWindow P event skew now) :
    ∃ i, issuedAt? P event = some i ∧ ¬ skew < deltaSeconds now i := by
  obtain ⟨_, raw, i, hraw, hparse, hskew⟩ := h
  exact ⟨i, by rw [issuedAt?, hraw]; exact hparse, hskew⟩

theorem parse_of_decodeEvent {P : Platform} {body : List (PyStr × Json)} {k now : ℤ} {skew : Float}
    {e : ReactorEvent} (h : decodeEvent P body k now skew = .ok e) :
    ∃ i, parseRfc3339 P e.issuedAt = some i ∧ deltaSeconds now i ≤ skew := by
  unfold decodeEvent at h
  split at h
  · split at h
    · cases h
    next i hi =>
      split at h
      · next hfresh =>
        cases h
        exact ⟨i, hi, of_decide_eq_true hfresh⟩
      · cases h
  · cases h

theorem parse_of_verifyEvent {P : Platform} {body : List (PyStr × Json)} {key : Bytes} {now : ℤ}
    {skew : Float} {e : ReactorEvent} (h : verifyEvent P body key now skew = .ok (.ok e)) :
    ∃ i, parseRfc3339 P e.issuedAt = some i ∧ deltaSeconds now i ≤ skew := by
  unfold verifyEvent at h
  split at h
  · cases h
  split at h
  · cases h
  split at h
  · cases h
  split at h
  · cases h
  · cases h
  split at h
  · exact parse_of_decodeEvent (Except.ok.inj h)
  · cases h

theorem verified?_eq_some {P : Platform} {R : Receiver} {d : Delivery} {event : ReactorEvent}
    (h : verified? P R d = some event) :
    ∃ body, verifyEvent P body R.signingKey d.now R.skewSeconds = .ok (.ok event) := by
  unfold verified? at h
  split at h
  · next body _ =>
    split at h
    · next hok =>
      obtain rfl := Option.some.inj h
      exact ⟨body, hok⟩
    · cases h
  · cases h

/-- **What is left to decide is the nonce.** -/
theorem receive_eq (P : Platform) (R : Receiver) (store : NonceStore) (d : Delivery) :
    receive P R store d =
      match presented P R d with
      | none => (false, store)
      | some m => store.checkAndRecord m.1 d.monotonic := by
  unfold receive presented
  cases R.kind with
  | consumer =>
    dsimp only
    cases hq : qualified? P R.consumer d with
    | none =>
      have hnot : ¬ ∃ event, Qualified P R.consumer d event := by
        rintro ⟨event, he⟩
        rw [qualified?_of_qualified he] at hq
        cases hq
      obtain ⟨i, hi, heq⟩ := intake_of_not_qualified store hnot
      rw [heq]
      cases i with
      | handed event => exact absurd rfl (hi event)
      | settled st => rfl
      | escaped e => rfl
    | some event =>
      have hqual := qualified_of_qualified? hq
      obtain ⟨msg, _, _, _, hwin⟩ := id hqual
      obtain ⟨i, hi, _⟩ := issuedAt?_of_inWindow hwin
      rw [intake_of_qualified store hqual]
      simp only [Option.bind_some, hi, Option.map_some]
      cases nonceOf event with
      | none => rfl
      | some n =>
        simp only [Option.bind_some]
        rcases store.checkAndRecord n d.monotonic with ⟨_ | _, s⟩ <;> rfl
  | reactor =>
    dsimp only
    cases hv : verified? P R d with
    | none => rfl
    | some event =>
      obtain ⟨body, hok⟩ := verified?_eq_some hv
      obtain ⟨i, hi, _⟩ := parse_of_verifyEvent hok
      simp [hi]

theorem presented_inWindow {P : Platform} {R : Receiver} {d : Delivery} {m : Message}
    (h : presented P R d = some m) : ¬ R.skewSeconds < deltaSeconds d.now m.2 := by
  unfold presented at h
  split at h
  · obtain ⟨event, hq, hm⟩ := Option.bind_eq_some_iff.1 h
    obtain ⟨n, _, hi⟩ := Option.bind_eq_some_iff.1 hm
    obtain ⟨i, hparse, rfl⟩ := Option.map_eq_some_iff.1 hi
    obtain ⟨msg, _, _, _, hwin⟩ := qualified_of_qualified? hq
    obtain ⟨j, hj, hskew⟩ := issuedAt?_of_inWindow hwin
    obtain rfl : i = j := Option.some.inj (hparse.symm.trans hj)
    exact hskew
  · obtain ⟨event, hv, hm⟩ := Option.bind_eq_some_iff.1 h
    obtain ⟨i, hi, rfl⟩ := Option.map_eq_some_iff.1 hm
    obtain ⟨body, hok⟩ := verified?_eq_some hv
    obtain ⟨j, hj, hskew⟩ := parse_of_verifyEvent hok
    obtain rfl : i = j := Option.some.inj (hi.symm.trans hj)
    exact fun hlt => FloatOrder.not_le_of_lt hlt hskew

/-! ## The deliveries in order -/

/-- An accepted message, with the readings of both clocks. -/
structure Acceptance where
  message : Message
  now : ℤ
  monotonic : Float

structure State where
  nonceStore : NonceStore
  now : ℤ
  monotonic : Float
  accepted : List Acceptance

/-- The loop before its first delivery. -/
def start (R : Receiver) (now : ℤ) (monotonic : Float) : State :=
  ⟨NonceStore.new R.ttlSeconds, now, monotonic, []⟩

/-- One delivery; neither clock goes back. -/
def step (P : Platform) (R : Receiver) (s : State) (d : Delivery) : Option State :=
  if s.now ≤ d.now ∧ s.monotonic ≤ d.monotonic then
    some
      { nonceStore := (receive P R s.nonceStore d).2
        now := d.now
        monotonic := d.monotonic
        accepted :=
          if (receive P R s.nonceStore d).1 then
            (presented P R d).toList.map (fun m => ⟨m, d.now, d.monotonic⟩) ++ s.accepted
          else s.accepted }
  else none

/-- The seconds between two readings of the wall clock, the later one second. -/
def elapsed (before after : ℤ) : Float := totalSeconds (after - before).toNat

/-- The clocks advance together: the monotonic clock has gained the time to live between two
deliveries exactly when the wall clock has. -/
def Together (ttlSeconds : Float) (d d' : Delivery) : Prop :=
  d.monotonic + ttlSeconds ≤ d'.monotonic ↔ ttlSeconds ≤ elapsed d.now d'.now

def ClocksTogether (R : Receiver) (ds : List Delivery) : Prop :=
  ds.Pairwise (Together R.ttlSeconds)

/-- No message was accepted twice. -/
def AcceptedOnce (s : State) : Prop := (s.accepted.map Acceptance.message).Nodup

/-- The delivery presents a message that was accepted before, still inside its window, after
`2 * skew_seconds` since every acceptance of its nonce. -/
def Expired (P : Platform) (R : Receiver) (s : State) (d : Delivery) : Prop :=
  ∃ m, presented P R d = some m ∧ m ∈ s.accepted.map Acceptance.message ∧
    ∀ a ∈ s.accepted, a.message.1 = m.1 → R.ttlSeconds ≤ elapsed a.now d.now

/-! ### What a step does -/

/-- The nonce of the delivery's message is fresh. -/
def Fresh (P : Platform) (R : Receiver) (s : State) (d : Delivery) (m : Message) : Prop :=
  presented P R d = some m ∧ (s.nonceStore.checkAndRecord m.1 d.monotonic).1 = true

theorem step_cases {P : Platform} {R : Receiver} {s t : State} {d : Delivery}
    (h : step P R s d = some t) : s.now ≤ d.now ∧ s.monotonic ≤ d.monotonic ∧
      t.now = d.now ∧ t.monotonic = d.monotonic ∧
      ((∃ m, Fresh P R s d m ∧ t.accepted = ⟨m, d.now, d.monotonic⟩ :: s.accepted ∧
          t.nonceStore = (s.nonceStore.checkAndRecord m.1 d.monotonic).2) ∨
        ((∀ m, ¬ Fresh P R s d m) ∧ t.accepted = s.accepted ∧
          (t.nonceStore = s.nonceStore ∨
            ∃ n, (s.nonceStore.checkAndRecord n d.monotonic).1 = false ∧
              t.nonceStore = (s.nonceStore.checkAndRecord n d.monotonic).2))) := by
  unfold step at h
  split at h
  case isFalse => cases h
  case isTrue hguard =>
    obtain rfl := Option.some.inj h
    refine ⟨hguard.1, hguard.2, rfl, rfl, ?_⟩
    simp only [receive_eq, Fresh]
    cases hp : presented P R d with
    | none => exact Or.inr ⟨by simp, by simp, Or.inl rfl⟩
    | some m =>
      cases hf : (s.nonceStore.checkAndRecord m.1 d.monotonic).1 with
      | true => exact Or.inl ⟨m, ⟨rfl, hf⟩, by simp, rfl⟩
      | false =>
        refine Or.inr ⟨?_, by simp, Or.inr ⟨m.1, hf, rfl⟩⟩
        rintro m' ⟨hm', htrue⟩
        obtain rfl := Option.some.inj hm'
        rw [hf] at htrue
        cases htrue

/-! ### What the store remembers -/

/-- The store holds the unexpired acceptances, and nothing else. -/
structure Remembers (R : Receiver) (ds : List Delivery) (s : State) : Prop where
  ttl : s.nonceStore.ttlSeconds = R.ttlSeconds
  recorded : ∀ n e, s.nonceStore.seen.get? n = some e →
    ∃ a ∈ s.accepted, a.message.1 = n ∧ e = a.monotonic + R.ttlSeconds
  live : ∀ a ∈ s.accepted, a.monotonic + R.ttlSeconds ≤ s.monotonic ∨
    s.nonceStore.seen.get? a.message.1 = some (a.monotonic + R.ttlSeconds)
  delivered : ∀ a ∈ s.accepted, ∃ d ∈ ds, a.now = d.now ∧ a.monotonic = d.monotonic
  inside : ∀ a ∈ s.accepted, ¬ R.skewSeconds < deltaSeconds a.now a.message.2

theorem remembers_start (R : Receiver) (now : ℤ) (monotonic : Float) :
    Remembers R [] (start R now monotonic) :=
  ⟨rfl, fun n e h => by simp [start, NonceStore.new] at h, fun a h => by simp [start] at h,
    fun a h => by simp [start] at h, fun a h => by simp [start] at h⟩

theorem Remembers.live_check {R : Receiver} {ds : List Delivery} {s : State}
    (h : Remembers R ds s) {now : Float} (hle : s.monotonic ≤ now) (n : PyStr) :
    ∀ a ∈ s.accepted, a.monotonic + R.ttlSeconds ≤ now ∨
      (s.nonceStore.checkAndRecord n now).2.seen.get? a.message.1 =
        some (a.monotonic + R.ttlSeconds) := by
  intro a ha
  rcases h.live a ha with hexp | hget
  · exact Or.inl (FloatOrder.le_trans hexp hle)
  · by_cases hnow : a.monotonic + R.ttlSeconds ≤ now
    · exact Or.inl hnow
    · right
      rw [NonceStore.get?_checkAndRecord]
      exact Or.inl ⟨hget, hnow⟩

theorem remembers_step {P : Platform} {R : Receiver} {ds : List Delivery} {s t : State} {d : Delivery}
    (h : Remembers R ds s) (hs : step P R s d = some t) : Remembers R (ds ++ [d]) t := by
  obtain ⟨_, hle, _, hmono, hcase⟩ := step_cases hs
  have hold : ∀ a ∈ s.accepted, ∃ d' ∈ ds ++ [d], a.now = d'.now ∧ a.monotonic = d'.monotonic := by
    intro a ha
    obtain ⟨d', hd', heq⟩ := h.delivered a ha
    exact ⟨d', List.mem_append_left _ hd', heq⟩
  rcases hcase with ⟨m, ⟨hm, hfresh⟩, hacc, hstore⟩ | ⟨_, hacc, hstore⟩
  · refine ⟨?_, ?_, ?_, ?_, ?_⟩
    · rw [hstore, checkAndRecord_ttl, h.ttl]
    · intro n e hg
      rw [hstore, NonceStore.get?_checkAndRecord] at hg
      rcases hg with ⟨hg, _⟩ | ⟨_, rfl, rfl⟩
      · obtain ⟨a, ha, han⟩ := h.recorded n e hg
        exact ⟨a, by rw [hacc]; exact List.mem_cons_of_mem _ ha, han⟩
      · exact ⟨_, by rw [hacc]; exact List.mem_cons_self, rfl, by rw [h.ttl]⟩
    · intro a ha
      rw [hacc] at ha
      rw [hmono, hstore]
      rcases List.mem_cons.1 ha with rfl | ha
      · right
        rw [NonceStore.get?_checkAndRecord, h.ttl]
        exact Or.inr ⟨hfresh, rfl, rfl⟩
      · exact h.live_check hle m.1 a ha
    · intro a ha
      rw [hacc] at ha
      rcases List.mem_cons.1 ha with rfl | ha
      · exact ⟨d, by simp, rfl, rfl⟩
      · exact hold a ha
    · intro a ha
      rw [hacc] at ha
      rcases List.mem_cons.1 ha with rfl | ha
      · exact presented_inWindow hm
      · exact h.inside a ha
  · have hin := h.inside
    rw [← hacc] at hold hin
    rcases hstore with hstore | ⟨n, _, hstore⟩
    · refine ⟨by rw [hstore, h.ttl], ?_, ?_, hold, hin⟩
      · rw [hstore, hacc]
        exact h.recorded
      · intro a ha
        rw [hacc] at ha
        rw [hmono, hstore]
        rcases h.live a ha with hexp | hget
        · exact Or.inl (FloatOrder.le_trans hexp hle)
        · exact Or.inr hget
    · next hstale =>
      refine ⟨by rw [hstore, checkAndRecord_ttl, h.ttl], ?_, ?_, hold, hin⟩
      · intro k e hg
        rw [hstore, NonceStore.get?_checkAndRecord] at hg
        rw [hacc]
        rcases hg with ⟨hg, _⟩ | ⟨htrue, _⟩
        · exact h.recorded k e hg
        · rw [hstale] at htrue
          cases htrue
      · intro a ha
        rw [hacc] at ha
        rw [hmono, hstore]
        exact h.live_check hle n a ha

/-- What expires has been in its window at two instants, `2 * skew_seconds` apart: `issued_at` is as
far ahead of the first and as far behind the second as the window allows. -/
theorem Remembers.expired_spans {P : Platform} {R : Receiver} {ds : List Delivery} {s : State}
    {d : Delivery} (h : Remembers R ds s) (hexp : Expired P R s d) :
    ∃ a ∈ s.accepted, presented P R d = some a.message ∧
      ¬ R.skewSeconds < deltaSeconds a.now a.message.2 ∧
      ¬ R.skewSeconds < deltaSeconds d.now a.message.2 ∧ R.ttlSeconds ≤ elapsed a.now d.now := by
  obtain ⟨m, hm, hmem, hall⟩ := hexp
  obtain ⟨a, ha, rfl⟩ := List.mem_map.1 hmem
  exact ⟨a, ha, hm, h.inside a ha, presented_inWindow hm, hall a ha rfl⟩

/-! ## When a message is accepted twice -/

/-- A nonce is fresh once its acceptances have all expired on the wall clock. -/
theorem fresh_iff {P : Platform} {R : Receiver} {ds : List Delivery} {s : State} {d : Delivery}
    (h : Remembers R ds s) (hle : s.monotonic ≤ d.monotonic)
    (hc : ∀ d' ∈ ds, Together R.ttlSeconds d' d) {m : Message} (hm : presented P R d = some m) :
    Fresh P R s d m ↔
      ∀ a ∈ s.accepted, a.message.1 = m.1 → R.ttlSeconds ≤ elapsed a.now d.now := by
  have hexpired : ∀ a ∈ s.accepted,
      (a.monotonic + R.ttlSeconds ≤ d.monotonic ↔ R.ttlSeconds ≤ elapsed a.now d.now) := by
    intro a ha
    obtain ⟨d', hd', hnow, hmono⟩ := h.delivered a ha
    rw [hnow, hmono]
    exact hc d' hd'
  simp only [Fresh, hm, true_and, NonceStore.checkAndRecord_fst]
  constructor
  · intro hall a ha hnonce
    rw [← hexpired a ha]
    rcases h.live a ha with hexp | hget
    · exact FloatOrder.le_trans hexp hle
    · rw [hnonce] at hget
      exact hall _ hget
  · intro hall e he
    obtain ⟨a, ha, hnonce, rfl⟩ := h.recorded _ e he
    exact (hexpired a ha).2 (hall a ha hnonce)

/-- **One delivery** accepts a message again exactly when it presents an expired one. -/
theorem acceptedOnce_step {P : Platform} {R : Receiver} {ds : List Delivery} {s t : State}
    {d : Delivery} (h : Remembers R ds s) (hc : ∀ d' ∈ ds, Together R.ttlSeconds d' d)
    (hs : step P R s d = some t) : AcceptedOnce t ↔ AcceptedOnce s ∧ ¬ Expired P R s d := by
  obtain ⟨_, hle, _, _, hcase⟩ := step_cases hs
  rcases hcase with ⟨m, hfresh, hacc, _⟩ | ⟨hstale, hacc, _⟩
  · have hall := (fresh_iff h hle hc hfresh.1).1 hfresh
    have hexp : Expired P R s d ↔ m ∈ s.accepted.map Acceptance.message := by
      constructor
      · rintro ⟨m', hm', hmem, _⟩
        obtain rfl : m = m' := Option.some.inj (hfresh.1.symm.trans hm')
        exact hmem
      · exact fun hmem => ⟨m, hfresh.1, hmem, hall⟩
    rw [AcceptedOnce, hacc, List.map_cons, List.nodup_cons, hexp, AcceptedOnce, and_comm]
  · have hnot : ¬ Expired P R s d := by
      rintro ⟨m, hm, _, hall⟩
      exact hstale m ((fresh_iff h hle hc hm).2 hall)
    rw [AcceptedOnce, hacc, AcceptedOnce]
    exact ⟨fun hn => ⟨hn, hnot⟩, fun hn => hn.1⟩

/-- **Acceptance.** With clocks that advance together, a run of a consumer or reactor accepts every
message at most once exactly when no accepted message is delivered again, still in its window, once
`2 * skew_seconds` have passed since its nonce was last accepted. -/
theorem accepted_once_iff (P : Platform) (R : Receiver) (now : ℤ) (monotonic : Float)
    {ds : List Delivery} {s : State}
    (h : Run (fnStep (step P R)) (start R now monotonic) ds s) (hc : ClocksTogether R ds) :
    AcceptedOnce s ↔ Run.Always (fnStep (step P R)) (start R now monotonic) ds
      (fun t d => ¬ Expired P R t d) := by
  suffices hboth : Remembers R ds s ∧ (AcceptedOnce s ↔ Run.Always (fnStep (step P R))
      (start R now monotonic) ds (fun t d => ¬ Expired P R t d)) from hboth.2
  induction h with
  | nil =>
    refine ⟨remembers_start R now monotonic, ?_⟩
    simp [AcceptedOnce, start, Run.Always]
  | @snoc s t ds d hrun hstep ih =>
    obtain ⟨hpre, _, hlast⟩ := List.pairwise_append.1 hc
    obtain ⟨hrem, hiff⟩ := ih hpre
    have hd : ∀ d' ∈ ds, Together R.ttlSeconds d' d := fun d' hd' => hlast d' hd' d (by simp)
    refine ⟨remembers_step hrem hstep, ?_⟩
    rw [acceptedOnce_step hrem hd hstep, Run.Always.snoc_iff, ← hiff]
    constructor
    · rintro ⟨honce, hnot⟩
      refine ⟨honce, fun u v hu _ => ?_⟩
      obtain rfl := hrun.unique hu
      exact hnot
    · rintro ⟨honce, hall⟩
      exact ⟨honce, hall s t hrun hstep⟩

/-! ## A message accepted at both ends of its window -/

instance (ttlSeconds : Float) (d d' : Delivery) : Decidable (Together ttlSeconds d d') :=
  inferInstanceAs (Decidable (_ ↔ _))

instance (s : State) : Decidable (AcceptedOnce s) := inferInstanceAs (Decidable (List.Nodup _))

namespace Edge
open Redelivery (key body platform)

/-- A consumer with the default window of 300 seconds. -/
def receiver : Receiver := ⟨.consumer, key, defaultSkewSeconds⟩

/-- A message that comes 300 seconds before its `issued_at`, and again 300 seconds after it. -/
def deliveries : List Delivery :=
  [⟨body, 1767225300000000, 1000.0⟩, ⟨body, 1767225900000000, 1600.0⟩]

def afterDeliveries : Option State :=
  exec (step platform receiver) (start receiver 1767225300000000 1000.0) deliveries

theorem afterDeliveries_isSome : afterDeliveries.isSome = true := by decide +kernel

def state : State := afterDeliveries.get afterDeliveries_isSome

theorem run : Run (fnStep (step platform receiver)) (start receiver 1767225300000000 1000.0)
    deliveries state :=
  exec_run (Option.some_get afterDeliveries_isSome).symm

theorem clocks : ClocksTogether receiver deliveries := by
  show deliveries.Pairwise (Together receiver.ttlSeconds)
  decide +kernel

theorem twice : ¬ AcceptedOnce state := by decide +kernel

end Edge

open Edge in
theorem edge_expires : ¬ Run.Always (fnStep (step Redelivery.platform receiver))
    (start receiver 1767225300000000 1000.0) deliveries
    (fun t d => ¬ Expired Redelivery.platform receiver t d) :=
  fun h => twice ((accepted_once_iff Redelivery.platform receiver 1767225300000000 1000.0 run
    clocks).2 h)

open Edge in
/-- A message stamped `skew_seconds` in the future is accepted again at the far end of its window. -/
theorem not_accepted_once : ¬ ∀ (P : Platform) (R : Receiver) (now : ℤ) (monotonic : Float)
    (ds : List Delivery) (s : State), Run (fnStep (step P R)) (start R now monotonic) ds s →
      ClocksTogether R ds → AcceptedOnce s :=
  fun h => twice (h _ _ _ _ _ _ run clocks)

end AxiamSdk.Amqp.ReplayWindow
