import AxiamSdk.Lib.Expiring
import AxiamSdk.Lib.FloatOrder
import AxiamSdk.Ssf.Receiver

/-! # The replay store in memory (`ssf/_receiver.py`)

* `MemoryReplayStore`: the `jti`s accepted, each with the instant at which it is forgotten.
* `Offer`: a SET that a receiver is offered; `take`: the nine steps, the store being the last.
* `Remembered`: an offer was accepted, and no reading of the clock since has reached the end of its window.
* `accepts_once`: what is accepted after any offers to any receivers on one store. -/

namespace AxiamSdk.Ssf
open PyLib
set_option autoImplicit false

/-! ## The store -/

structure MemoryReplayStore where
  seen : Dict PyStr Float

namespace MemoryReplayStore

def new : MemoryReplayStore := ⟨Dict.empty⟩

/-- `check_and_record`, with the reading of the clock, which is made before the lock is taken. -/
def checkAndRecord (m : MemoryReplayStore) (jti : PyStr) (windowSeconds now : Float) : Bool × MemoryReplayStore :=
  let seen := m.seen.filter (fun p => decide (now < p.2))
  if seen.contains jti then (false, ⟨seen⟩) else (true, ⟨seen.set jti (now + windowSeconds)⟩)

/-- The store at a reading of the clock. -/
def atReading (now : Float) : ReplayStore MemoryReplayStore where
  checkAndRecord m jti windowSeconds :=
    let answer := m.checkAndRecord jti windowSeconds now
    (.ok answer.1, answer.2)

end MemoryReplayStore

/-! ## Offers -/

/-- A SET for a receiver, alone or under a key of a poll's reply, with the answers of the key lookup and the
reading of the store's clock. -/
structure Offer (Key : Type) where
  receiver : Receiver Key
  keyFor : PyStr → Except Exc (Option Key)
  set : Json
  expectedJti : Option PyStr
  now : Float

section Offers
variable {Key : Type}

namespace Offer

/-- Steps 1 to 8. -/
def judged (o : Offer Key) : Except Exc SecurityEvent :=
  match o.set.asStr? with
  | none => refuse .malformed "not three base64url parts"
  | some setToken => (judgeSet o.receiver ⟨fun k kid => (o.keyFor kid, k)⟩ () setToken o.expectedJti).1

def take (o : Offer Key) (m : MemoryReplayStore) : Except Exc SecurityEvent × MemoryReplayStore :=
  match o.judged with
  | .error e => (.error e, m)
  | .ok event => record o.receiver (MemoryReplayStore.atReading o.now) m event

/-- The instant at which an acceptance of the offer is forgotten. -/
def forgottenAt (o : Offer Key) : Float := o.now + o.receiver.replayWindow

end Offer

def afterOffers (offers : List (Offer Key)) : MemoryReplayStore := offers.foldl (fun m o => (o.take m).2) .new

/-- The offer at position `i` was accepted as the event. -/
def Accepted (offers : List (Offer Key)) (i : ℕ) (o : Offer Key) (event : SecurityEvent) : Prop :=
  offers[i]? = some o ∧ (o.take (afterOffers (offers.take i))).1 = .ok event

/-- An offer with the `jti` was accepted, and neither `now` nor the reading of a later offer that passed the first
eight steps has reached the end of its window. -/
def Remembered (offers : List (Offer Key)) (jti : PyStr) (now : Float) : Prop :=
  ∃ i o event, Accepted offers i o event ∧ event.jti = jti ∧ now < o.forgottenAt ∧
    ∀ m f passed, i < m → offers[m]? = some f → f.judged = .ok passed → f.now < o.forgottenAt

/-! ## The store is an expiring dictionary -/

/-- A reading of the clock; it has reached a deadline unless it is before it. -/
structure Reading where
  seconds : Float

instance : LE Reading := ⟨fun deadline now => ¬ now.seconds < deadline.seconds⟩

instance : DecidableLE Reading := fun deadline now => inferInstanceAs (Decidable (¬ now.seconds < deadline.seconds))

theorem not_reached {deadline now : Reading} : ¬ deadline ≤ now ↔ now.seconds < deadline.seconds := not_not

/-- What the offer asks of the store. -/
def Offer.step (o : Offer Key) : Option (Expiring.Step PyStr Unit Reading) :=
  match o.judged with
  | .error _ => none
  | .ok event => some (.claim ⟨o.now⟩ event.jti () ⟨o.forgottenAt⟩)

abbrev Claimed := Expiring.Store PyStr Unit Reading

/-- The store holds what the dictionary holds. -/
def Holds (m : MemoryReplayStore) (d : Claimed) : Prop :=
  ∀ jti expiry, m.seen.get? jti = some expiry ↔ d.get? jti = some ((), ⟨expiry⟩)

theorem holds_contains {m : MemoryReplayStore} {d : Claimed} (h : Holds m d) (jti : PyStr) :
    m.seen.contains jti = d.contains jti := by
  rw [Bool.eq_iff_iff, Dict.contains_iff, Dict.contains_iff]
  constructor
  · rintro ⟨expiry, hexpiry⟩
    exact ⟨_, (h jti expiry).1 hexpiry⟩
  · rintro ⟨⟨⟨⟩, ⟨expiry⟩⟩, hheld⟩
    exact ⟨expiry, (h jti expiry).2 hheld⟩

theorem holds_dropDead {m : MemoryReplayStore} {d : Claimed} (h : Holds m d) (now : Float) :
    Holds ⟨m.seen.filter (fun p => decide (now < p.2))⟩ (Expiring.dropDead ⟨now⟩ d) := by
  intro jti expiry
  rw [Dict.get?_filter_eq_some, Expiring.get?_dropDead, h jti expiry, decide_eq_true_eq, not_reached]

theorem holds_set {m : MemoryReplayStore} {d : Claimed} (h : Holds m d) (jti : PyStr) (expiry : Float) :
    Holds ⟨m.seen.set jti expiry⟩ (d.set jti ((), ⟨expiry⟩)) := by
  intro jti' expiry'
  rw [Dict.get?_set, Dict.get?_set]
  by_cases hsame : jti = jti'
  · simp [hsame]
  · rw [if_neg hsame, if_neg hsame]
    exact h jti' expiry'

/-- The store records exactly if the dictionary stores, and they go on together. -/
theorem holds_checkAndRecord {m : MemoryReplayStore} {d : Claimed} (h : Holds m d) (jti : PyStr)
    (windowSeconds now : Float) :
    (m.checkAndRecord jti windowSeconds now).1 =
        (Expiring.stored d (.claim ⟨now⟩ jti () ⟨now + windowSeconds⟩)).isSome ∧
      Holds (m.checkAndRecord jti windowSeconds now).2
        (Expiring.next d (.claim ⟨now⟩ jti () ⟨now + windowSeconds⟩)) := by
  have hswept := holds_dropDead h now
  have hcontains := holds_contains hswept jti
  unfold MemoryReplayStore.checkAndRecord Expiring.stored Expiring.next
  dsimp only at hcontains ⊢
  rw [hcontains]
  split
  · exact ⟨rfl, hswept⟩
  · exact ⟨rfl, holds_set hswept jti _⟩

theorem record_atReading (R : Receiver Key) (m : MemoryReplayStore) (now : Float) (event : SecurityEvent) :
    (record R (MemoryReplayStore.atReading now) m event).2 = (m.checkAndRecord event.jti R.replayWindow now).2 ∧
      (record R (MemoryReplayStore.atReading now) m event).1 =
        if (m.checkAndRecord event.jti R.replayWindow now).1 then .ok event
        else refuse .replayed "jti already seen" := by
  unfold record MemoryReplayStore.atReading
  dsimp only
  cases (m.checkAndRecord event.jti R.replayWindow now).1 with
  | true => exact ⟨rfl, rfl⟩
  | false => exact ⟨rfl, rfl⟩

theorem afterOffers_snoc (offers : List (Offer Key)) (o : Offer Key) :
    afterOffers (offers ++ [o]) = (o.take (afterOffers offers)).2 := by
  simp [afterOffers]

def claims (offers : List (Offer Key)) : List (Expiring.Step PyStr Unit Reading) := offers.filterMap Offer.step

/-- **The refinement**: after any offers the store holds what the library's claims leave. -/
theorem holds_afterOffers (offers : List (Offer Key)) :
    Holds (afterOffers offers) (Expiring.after (claims offers)) := by
  induction offers using List.reverseRecOn with
  | nil =>
    intro jti expiry
    constructor
    · intro h
      cases h
    · intro h
      cases h
  | append_singleton offers o ih =>
    unfold claims at ih ⊢
    rw [afterOffers_snoc, List.filterMap_append]
    cases hjudged : o.judged with
    | error e =>
      have hstep : o.step = none := by
        simp only [Offer.step, hjudged]
      rw [List.filterMap_cons_none hstep, List.filterMap_nil, List.append_nil]
      simp only [Offer.take, hjudged]
      exact ih
    | ok event =>
      have hstep : o.step = some (.claim ⟨o.now⟩ event.jti () ⟨o.forgottenAt⟩) := by
        simp only [Offer.step, hjudged]
      rw [List.filterMap_cons_some hstep, List.filterMap_nil, Expiring.after_snoc]
      simp only [Offer.take, hjudged]
      rw [(record_atReading o.receiver _ o.now event).1]
      exact (holds_checkAndRecord ih event.jti o.receiver.replayWindow o.now).2

/-! ## What is accepted -/

theorem step_eq_some {o : Offer Key} {e : Expiring.Step PyStr Unit Reading} (h : o.step = some e) :
    ∃ event, o.judged = .ok event ∧ e = .claim ⟨o.now⟩ event.jti () ⟨o.forgottenAt⟩ := by
  unfold Offer.step at h
  split at h
  · cases h
  · next event hjudged => exact ⟨event, hjudged, (Option.some.inj h).symm⟩

theorem take_of_judged {o : Offer Key} {event : SecurityEvent} (h : o.judged = .ok event) (offers : List (Offer Key)) :
    (o.take (afterOffers offers)).1 =
      if (Expiring.stored (Expiring.after (claims offers)) (.claim ⟨o.now⟩ event.jti () ⟨o.forgottenAt⟩)).isSome then
        .ok event
      else refuse .replayed "jti already seen" := by
  unfold Offer.take
  rw [h]
  dsimp only
  rw [(record_atReading _ _ _ _).2, (holds_checkAndRecord (holds_afterOffers offers) _ _ _).1]
  rfl

/-- An offer is accepted exactly if it passes the eight steps and its claim is stored. -/
theorem take_eq_ok {offers : List (Offer Key)} {o : Offer Key} {event : SecurityEvent} :
    (o.take (afterOffers offers)).1 = .ok event ↔ o.judged = .ok event ∧
      Expiring.stored (Expiring.after (claims offers)) (.claim ⟨o.now⟩ event.jti () ⟨o.forgottenAt⟩) =
        some (event.jti, (), ⟨o.forgottenAt⟩) := by
  cases hjudged : o.judged with
  | error e =>
    have htake : (o.take (afterOffers offers)).1 = .error e := by
      simp only [Offer.take, hjudged]
    rw [htake]
    simp
  | ok judged =>
    rw [take_of_judged hjudged, Except.ok.injEq]
    constructor
    · intro h
      split at h
      · next hstored =>
        obtain rfl := Except.ok.inj h
        refine ⟨rfl, ?_⟩
        rw [Expiring.stored_claim] at hstored ⊢
        split at hstored
        · cases hstored
        · next hfree => rw [if_neg hfree]
      · cases h
    · rintro ⟨rfl, hstored⟩
      rw [hstored]
      rfl

/-- What is remembered is what has survived in the dictionary. -/
theorem remembered_iff {offers : List (Offer Key)} {jti : PyStr} {now : Float} :
    Remembered offers jti now ↔
      ∃ deadline : Reading, Expiring.Survives (claims offers) jti () deadline ∧ ¬ deadline ≤ ⟨now⟩ := by
  constructor
  · rintro ⟨i, o, event, ⟨hi, htake⟩, rfl, hnow, hlater⟩
    obtain ⟨hjudged, hstored⟩ := take_eq_ok.1 htake
    have hstep : o.step = some (.claim ⟨o.now⟩ event.jti () ⟨o.forgottenAt⟩) := by
      simp only [Offer.step, hjudged]
    have hsplit := Expiring.split_at hi
    have hlength : (offers.take i).length = i := by
      rw [List.length_take, Nat.min_eq_left]
      exact Nat.le_of_lt (List.getElem?_eq_some_iff.1 hi).1
    refine ⟨⟨o.forgottenAt⟩, ⟨claims (offers.take i), .claim ⟨o.now⟩ event.jti () ⟨o.forgottenAt⟩,
      claims (offers.drop (i + 1)), ?_, hstored, ?_⟩, not_reached.2 hnow⟩
    · unfold claims
      conv_lhs => rw [hsplit]
      rw [List.filterMap_append, List.filterMap_cons_some hstep]
    · intro f hf
      obtain ⟨g, hg, hgstep⟩ := List.mem_filterMap.1 hf
      obtain ⟨passed, hpassed, rfl⟩ := step_eq_some hgstep
      obtain ⟨m, hm, hat⟩ := @Expiring.getElem?_of_mem_split _ (offers.take i) _ _ hg o
      rw [← hsplit] at hat
      rw [hlength] at hm
      exact ⟨rfl, fun _ => not_reached.2 (hlater m g passed hm hat hpassed)⟩
  · rintro ⟨deadline, ⟨pre, e, post, hclaims, hstored, hpost⟩, hnow⟩
    obtain ⟨early, o, late, rfl, rfl, hstep, rfl⟩ := Expiring.filterMap_split hclaims
    obtain ⟨event, hjudged, rfl⟩ := step_eq_some hstep
    have hsame : event.jti = jti ∧ (⟨o.forgottenAt⟩ : Reading) = deadline := by
      rw [Expiring.stored_claim] at hstored
      split at hstored
      · cases hstored
      · simp only [Option.some.injEq, Prod.mk.injEq, true_and] at hstored
        exact hstored
    obtain ⟨rfl, rfl⟩ := hsame
    refine ⟨early.length, o, event, ⟨Expiring.getElem?_split early late o, ?_⟩, rfl, not_reached.1 hnow, ?_⟩
    · rw [List.take_left]
      exact take_eq_ok.2 ⟨hjudged, hstored⟩
    · intro m f passed hm hf hpassed
      have hmem := Expiring.mem_of_getElem?_split hm hf
      have hfstep : f.step = some (.claim ⟨f.now⟩ passed.jti () ⟨f.forgottenAt⟩) := by
        simp only [Offer.step, hpassed]
      have hsurvived := hpost _ (List.mem_filterMap.2 ⟨f, hmem, hfstep⟩)
      have hreached : ¬ (⟨o.forgottenAt⟩ : Reading) ≤ ⟨f.now⟩ := hsurvived.2 rfl
      rw [not_reached] at hreached
      exact hreached

/-- An offer that passes the eight steps is accepted unless its `jti` is remembered. -/
theorem take_iff {o : Offer Key} {event : SecurityEvent} (h : o.judged = .ok event) (offers : List (Offer Key)) :
    (o.take (afterOffers offers)).1 = .ok event ↔ ¬ Remembered offers event.jti o.now := by
  rw [take_eq_ok, and_iff_right h, Expiring.stored_claim_iff, remembered_iff]
  constructor
  · rintro hdead ⟨deadline, hsurvives, halive⟩
    exact halive (hdead () deadline hsurvives)
  · intro hnone v' deadline hsurvives
    by_contra halive
    exact hnone ⟨deadline, hsurvives, halive⟩

/-- **What receivers on one store accept**, in the order in which they take its lock and whatever clock they have
read before: an offer that passes the eight steps, exactly if its `jti` is not remembered; so between two
acceptances of one `jti` a reading has reached the end of the first one's window. -/
theorem accepts_once (offers : List (Offer Key)) :
    (∀ (o : Offer Key) (event : SecurityEvent), o.judged = .ok event →
      ((o.take (afterOffers offers)).1 = .ok event ↔ ¬ Remembered offers event.jti o.now) ∧
      ((o.take (afterOffers offers)).1 = refuse .replayed "jti already seen" ↔
        Remembered offers event.jti o.now)) ∧
    ∀ i j o o' event event', i < j → Accepted offers i o event → Accepted offers j o' event' →
      event.jti = event'.jti → ∃ m f, i < m ∧ m ≤ j ∧ offers[m]? = some f ∧ ¬ f.now < o.forgottenAt := by
  constructor
  · intro o event hjudged
    refine ⟨take_iff hjudged offers, ?_⟩
    rw [← not_iff_not, ← take_iff hjudged offers, take_of_judged hjudged]
    split
    · simp [refuse]
    · simp [refuse]
  · intro i j o o' event event' hij hi hj hjti
    by_contra hnone
    obtain ⟨hjudged', -⟩ := take_eq_ok.1 hj.2
    refine (take_iff hjudged' (offers.take j)).1 hj.2 ?_
    have hreading : ∀ m f, i < m → m ≤ j → offers[m]? = some f → f.now < o.forgottenAt := by
      intro m f him hmj hf
      by_contra hreached
      exact hnone ⟨m, f, him, hmj, hf, hreached⟩
    refine ⟨i, o, event, ⟨?_, ?_⟩, hjti, hreading j o' hij (Nat.le_refl j) hj.1, ?_⟩
    · rw [List.getElem?_take_of_lt hij]
      exact hi.1
    · rw [List.take_take, Nat.min_eq_left (Nat.le_of_lt hij)]
      exact hi.2
    · intro m f passed him hf _
      have hmj : m < j := by
        obtain ⟨hlt, -⟩ := List.getElem?_eq_some_iff.1 hf
        exact Nat.lt_of_lt_of_le hlt (List.length_take_le j offers)
      rw [List.getElem?_take_of_lt hmj] at hf
      exact hreading m f him (Nat.le_of_lt hmj) hf

end Offers

end AxiamSdk.Ssf
