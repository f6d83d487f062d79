import Mathlib.Data.Finset.Max
import Mathlib.Data.Rat.Defs
import Mathlib.Algebra.Order.Ring.Rat
import Mathlib.Tactic.Linarith
import AxiamSdk.Errors
import AxiamSdk.Lib.Runs

/-! # The revocation feed (`_revocation_feed.py`)

* `fetchOnce`: what one fetch makes of the server's answer.
* `act`, `step`: callers between their critical sections; instants are rational seconds.
* `polled_once_per_interval`: fetches keep the poll interval when no check meets another's fetch.
* `never_back_iff`: the installed set is the latest-read one exactly when fetches end in order. -/

namespace AxiamSdk.RevocationFeed
open PyLib
set_option autoImplicit false

/-! ## One fetch -/

/-- The server's answer; `failed` is any exception of the request. -/
inductive FeedAnswer
  | failed
  | answered (status : ℕ) (body : Bytes)

/-- `_SUPPORTED_ALG` -/
def supportedAlg : PyStr := lit "SHA-256"

/-- `MAX_ENTRIES` -/
def maxEntries : ℕ := 100000

/-- The entries of a feed document, if it is usable. -/
def readDocument (members : List (PyStr × Json)) : Option (Finset PyStr) :=
  if (Json.get members (lit "alg")).asStr? ≠ some supportedAlg then none
  else
    match Json.get members (lit "revoked") with
    | .arr revoked => if maxEntries < revoked.length then none else some (revoked.filterMap Json.asStr?).toFinset
    | _ => none

/-- `_fetch_once` -/
def fetchOnce (P : Platform) : FeedAnswer → Option (Finset PyStr)
  | .failed => none
  | .answered status body =>
    if status ≠ 200 then none
    else
      match P.loads body with
      | .error _ => none
      | .ok document => document.asObj?.bind readDocument

/-! ## The feed -/

/-- `MIN_POLL_INTERVAL_SECONDS` -/
def minPollIntervalSeconds : ℚ := 15

/-- A configured feed, with what it takes from outside. -/
structure Feed where
  platform : Platform
  sha256 : Bytes → Bytes
  pollInterval : ℚ

/-- `RevocationFeed.__init__` -/
def Feed.new (platform : Platform) (sha256 : Bytes → Bytes) (pollIntervalSeconds : ℚ) : Feed :=
  ⟨platform, sha256, max pollIntervalSeconds minPollIntervalSeconds⟩

/-- `revocation_entry_for` -/
def Feed.entryFor (F : Feed) (sid : PyStr) : Except Exc PyStr :=
  match encodeUtf8 sid with
  | none => .error .unicodeEncodeError
  | some bytes => .ok (Base64.urlsafeEncode (F.sha256 bytes))

/-- The answer of `is_revoked` from the set it holds. -/
def Feed.isListed (F : Feed) (entries : Option (Finset PyStr)) (sid : PyStr) : Except Exc Bool :=
  match entries with
  | none => .ok false
  | some listed => (F.entryFor sid).map (fun entry => decide (entry ∈ listed))

/-- `due` in `_refresh_if_stale` -/
def Feed.stale (F : Feed) (lastAttempt : Option ℚ) (now : ℚ) : Bool :=
  lastAttempt.all (fun last => decide (F.pollInterval ≤ now - last))

/-! ## Callers -/

inductive Entry
  | isRevoked (sid : PyStr)
  | refresh

/-- Where a caller is: about to fetch, waiting for the server's list, on its way back with what it
read (the how-manieth reading it was), past its refresh, or done. -/
inductive Phase
  | due
  | fetching (start : ℚ)
  | fetched (start : ℚ) (reading : ℕ) (result : Option (Finset PyStr))
  | ready
  | returned

structure Caller where
  entry : Entry
  phase : Phase

/-- A caller of `is_revoked` that found the interval elapsed and has not sent its request. -/
def Caller.due : Caller → Bool
  | ⟨.isRevoked _, .due⟩ => true
  | _ => false

/-- The start of a fetch of `is_revoked` whose attempt is not recorded. -/
def Caller.since : Caller → Option ℚ
  | ⟨.isRevoked _, .fetching start⟩ | ⟨.isRevoked _, .fetched start _ _⟩ => some start
  | _ => none

/-- The fields of the feed, its callers, and what happened: the starts of the fetches made by `is_revoked`
(newest first), the readings, the installed ones (newest first), the answers. -/
structure State where
  entries : Option (Finset PyStr)
  lastAttempt : Option ℚ
  clock : ℚ
  callers : ℕ → Option Caller
  starts : List ℚ
  readings : List (Option (Finset PyStr))
  installs : List (ℕ × Finset PyStr)
  answers : List (PyStr × Except Exc Bool)

def start (clock : ℚ) : State := ⟨none, none, clock, fun _ => none, [], [], [], []⟩

inductive Action
  /-- `is_revoked` reads the last attempt under the lock, and decides. -/
  | check (sid : PyStr)
  /-- `refresh` is called. -/
  | refresh
  /-- The request is sent. -/
  | send
  /-- The server's list is read, or the fetch fails. -/
  | read (answer : FeedAnswer)
  /-- The attempt is recorded and the set installed, under the lock. -/
  | install
  /-- The set is read under the lock, and answered from. -/
  | answer

structure Event where
  caller : ℕ
  now : ℚ
  action : Action

/-- The second critical section of a fetch. -/
def State.record (s : State) (reading : ℕ) : Option (Finset PyStr) → State
  | none => { s with lastAttempt := some s.clock }
  | some listed =>
    { s with
        lastAttempt := some s.clock
        entries := some listed
        installs := (reading, listed) :: s.installs }

/-- What an action makes of its caller and of the feed. -/
def act (F : Feed) (s : State) : Action → Option Caller → Option (Caller × State)
  | .check sid, none => some (⟨.isRevoked sid, if F.stale s.lastAttempt s.clock then .due else .ready⟩, s)
  | .refresh, none => some (⟨.refresh, .due⟩, s)
  | .send, some ⟨.isRevoked sid, .due⟩ =>
    some (⟨.isRevoked sid, .fetching s.clock⟩, { s with starts := s.clock :: s.starts })
  | .send, some ⟨.refresh, .due⟩ => some (⟨.refresh, .fetching s.clock⟩, s)
  | .read answer, some ⟨entry, .fetching start⟩ =>
    some (⟨entry, .fetched start s.readings.length (fetchOnce F.platform answer)⟩,
      { s with readings := s.readings ++ [fetchOnce F.platform answer] })
  | .install, some ⟨entry, .fetched _ reading result⟩ => some (⟨entry, .ready⟩, s.record reading result)
  | .answer, some ⟨.isRevoked sid, .ready⟩ =>
    some (⟨.isRevoked sid, .returned⟩, { s with answers := s.answers ++ [(sid, F.isListed s.entries sid)] })
  | _, _ => none

/-- One event; the clock never goes back. -/
def step (F : Feed) (s : State) (e : Event) : Option State :=
  if s.clock ≤ e.now then
    (act F { s with clock := e.now } e.action (s.callers e.caller)).map (fun r =>
      { r.2 with callers := Function.update s.callers e.caller (some r.1) })
  else none

theorem step_eq {F : Feed} {s t : State} {e : Event} (h : step F s e = some t) :
    s.clock ≤ e.now ∧ ∃ k u, act F { s with clock := e.now } e.action (s.callers e.caller) = some (k, u) ∧
      t = { u with callers := Function.update s.callers e.caller (some k) } := by
  unfold step at h
  split at h
  · next hclock =>
    obtain ⟨⟨k, u⟩, hact, rfl⟩ := Option.map_eq_some_iff.1 h
    exact ⟨hclock, k, u, hact, rfl⟩
  · cases h

/-! ## The rate of the fetches -/

/-- A check that finds the interval elapsed meets no fetch of another caller that is about to start, or
that started less than the interval ago and is not recorded yet. -/
def Lone (F : Feed) (s : State) (e : Event) : Prop :=
  ∀ sid, e.action = .check sid → F.stale s.lastAttempt e.now = true →
    ∀ c k, s.callers c = some k → k.due = false ∧ ∀ t, k.since = some t → F.pollInterval ≤ e.now - t

/-- The fetches so far keep the interval, and a caller about to fetch keeps it too. -/
structure Spaced (F : Feed) (s : State) : Prop where
  started : ∀ t ∈ s.starts, t ≤ s.clock
  spaced : s.starts.Pairwise (fun later earlier => F.pollInterval ≤ later - earlier)
  recorded : ∀ t ∈ s.starts, (∃ c k, s.callers c = some k ∧ k.since = some t) ∨
    ∃ last, s.lastAttempt = some last ∧ t ≤ last
  due : ∀ c k, s.callers c = some k → k.due = true → ∀ t ∈ s.starts, F.pollInterval ≤ s.clock - t
  alone : ∀ c c' k k', s.callers c = some k → s.callers c' = some k' → k.due = true → k'.due = true → c = c'

theorem spaced_start (F : Feed) (clock : ℚ) : Spaced F (start clock) where
  started t ht := absurd ht List.not_mem_nil
  spaced := List.Pairwise.nil
  recorded t ht := absurd ht List.not_mem_nil
  due c k hk := by cases hk
  alone c c' k k' hk := by cases hk

theorem caller_update {f : ℕ → Option Caller} {c c' : ℕ} {k k' : Caller}
    (h : Function.update f c (some k) c' = some k') : c' = c ∧ k' = k ∨ c' ≠ c ∧ f c' = some k' := by
  by_cases hc : c' = c
  · subst hc
    rw [Function.update_self] at h
    exact Or.inl ⟨rfl, (Option.some.inj h).symm⟩
  · rw [Function.update_of_ne hc] at h
    exact Or.inr ⟨hc, h⟩

/-- A step that starts no fetch of `is_revoked`. -/
theorem Spaced.keep {F : Feed} {s t : State} {c : ℕ} {k : Caller} (h : Spaced F s) (hclock : s.clock ≤ t.clock)
    (hstarts : t.starts = s.starts) (hcallers : t.callers = Function.update s.callers c (some k))
    (hlast : t.lastAttempt = s.lastAttempt ∧ (∀ k', s.callers c = some k' → k'.since = none ∨ k.since = k'.since) ∨
      t.lastAttempt = some t.clock)
    (hdue : k.due = true → (∀ b ∈ s.starts, F.pollInterval ≤ t.clock - b) ∧
      ∀ c' k', s.callers c' = some k' → k'.due = false) : Spaced F t where
  started b hb := by
    rw [hstarts] at hb
    exact (h.started b hb).trans hclock
  spaced := by
    rw [hstarts]
    exact h.spaced
  recorded b hb := by
    rw [hstarts] at hb
    obtain ⟨hsame, hsince⟩ | hnow := hlast
    · rw [hsame, hcallers]
      obtain ⟨c', k', hk', hb'⟩ | hlast := h.recorded b hb
      · left
        by_cases hc : c' = c
        · subst hc
          refine ⟨c', k, Function.update_self .., ?_⟩
          obtain hnone | hkeep := hsince k' hk'
          · rw [hb'] at hnone
            cases hnone
          · rw [hkeep, hb']
        · exact ⟨c', k', by rw [Function.update_of_ne hc, hk'], hb'⟩
      · exact Or.inr hlast
    · exact Or.inr ⟨t.clock, hnow, (h.started b hb).trans hclock⟩
  due c' k' hk' hd b hb := by
    rw [hstarts] at hb
    rw [hcallers] at hk'
    obtain ⟨-, rfl⟩ | ⟨-, hk'⟩ := caller_update hk'
    · exact (hdue hd).1 b hb
    · exact (h.due c' k' hk' hd b hb).trans (sub_le_sub_right hclock b)
  alone c₁ c₂ k₁ k₂ h₁ h₂ hd₁ hd₂ := by
    rw [hcallers] at h₁ h₂
    obtain ⟨rfl, rfl⟩ | ⟨-, hold₁⟩ := caller_update h₁
    · obtain ⟨rfl, rfl⟩ | ⟨-, hold₂⟩ := caller_update h₂
      · rfl
      · rw [(hdue hd₁).2 c₂ k₂ hold₂] at hd₂
        cases hd₂
    · obtain ⟨rfl, rfl⟩ | ⟨-, hold₂⟩ := caller_update h₂
      · rw [(hdue hd₂).2 c₁ k₁ hold₁] at hd₁
        cases hd₁
      · exact h.alone c₁ c₂ k₁ k₂ hold₁ hold₂ hd₁ hd₂

theorem Spaced.send {F : Feed} {s t : State} {c : ℕ} {sid : PyStr} (h : Spaced F s) (hclock : s.clock ≤ t.clock)
    (hc : s.callers c = some ⟨.isRevoked sid, .due⟩) (hstarts : t.starts = t.clock :: s.starts)
    (hcallers : t.callers = Function.update s.callers c (some ⟨.isRevoked sid, .fetching t.clock⟩))
    (hlast : t.lastAttempt = s.lastAttempt) : Spaced F t where
  started b hb := by
    rw [hstarts, List.mem_cons] at hb
    obtain rfl | hb := hb
    · exact le_rfl
    · exact (h.started b hb).trans hclock
  spaced := by
    rw [hstarts, List.pairwise_cons]
    refine ⟨fun b hb => ?_, h.spaced⟩
    exact (h.due c _ hc rfl b hb).trans (sub_le_sub_right hclock b)
  recorded b hb := by
    rw [hstarts, List.mem_cons] at hb
    rw [hlast, hcallers]
    obtain rfl | hb := hb
    · exact Or.inl ⟨c, _, Function.update_self .., rfl⟩
    · obtain ⟨c', k', hk', hb'⟩ | hlast := h.recorded b hb
      · have hne : c' ≠ c := by
          intro heq
          subst heq
          obtain rfl := Option.some.inj (hc.symm.trans hk')
          cases hb'
        exact Or.inl ⟨c', k', by rw [Function.update_of_ne hne, hk'], hb'⟩
      · exact Or.inr hlast
  due c' k' hk' hd := by
    rw [hcallers] at hk'
    obtain ⟨-, rfl⟩ | ⟨hne, hk'⟩ := caller_update hk'
    · cases hd
    · exact absurd (h.alone c' c k' _ hk' hc hd rfl) hne
  alone c₁ c₂ k₁ k₂ h₁ h₂ hd₁ hd₂ := by
    rw [hcallers] at h₁ h₂
    obtain ⟨-, rfl⟩ | ⟨-, hold₁⟩ := caller_update h₁
    · cases hd₁
    · obtain ⟨-, rfl⟩ | ⟨-, hold₂⟩ := caller_update h₂
      · cases hd₂
      · exact h.alone c₁ c₂ k₁ k₂ hold₁ hold₂ hd₁ hd₂

@[simp] theorem record_lastAttempt (s : State) (reading : ℕ) (result : Option (Finset PyStr)) :
    (s.record reading result).lastAttempt = some s.clock := by
  cases result <;> rfl

@[simp] theorem record_clock (s : State) (reading : ℕ) (result : Option (Finset PyStr)) :
    (s.record reading result).clock = s.clock := by
  cases result <;> rfl

@[simp] theorem record_starts (s : State) (reading : ℕ) (result : Option (Finset PyStr)) :
    (s.record reading result).starts = s.starts := by
  cases result <;> rfl

/-- A check that finds the interval elapsed finds it elapsed since every start. -/
theorem Spaced.due_of_stale {F : Feed} {s : State} {e : Event} {sid : PyStr} (h : Spaced F s) (hlone : Lone F s e)
    (hcheck : e.action = .check sid) (hstale : F.stale s.lastAttempt e.now = true) :
    (∀ b ∈ s.starts, F.pollInterval ≤ e.now - b) ∧ ∀ c k, s.callers c = some k → k.due = false := by
  have hothers := hlone sid hcheck hstale
  refine ⟨fun b hb => ?_, fun c k hk => (hothers c k hk).1⟩
  obtain ⟨c, k, hk, hsince⟩ | ⟨last, hlast, hle⟩ := h.recorded b hb
  · exact (hothers c k hk).2 b hsince
  · rw [hlast, Feed.stale, Option.all_some, decide_eq_true_eq] at hstale
    exact hstale.trans (sub_le_sub_left hle e.now)

theorem spaced_step {F : Feed} {s t : State} {e : Event} (h : Spaced F s)
    (hstep : guarded (fnStep (step F)) (Lone F) s e t) : Spaced F t := by
  obtain ⟨hstep, hlone⟩ := hstep
  obtain ⟨hclock, k, u, hact, rfl⟩ := step_eq hstep
  generalize haction : e.action = action at hact
  generalize hold : s.callers e.caller = old at hact
  unfold act at hact
  split at hact
  · next sid =>
    cases hact
    refine h.keep hclock rfl rfl (Or.inl ⟨rfl, fun k' hk' => ?_⟩) (fun hd => ?_)
    · rw [hold] at hk'
      cases hk'
    · refine h.due_of_stale hlone haction ?_
      cases hstale : F.stale s.lastAttempt e.now with
      | true => rfl
      | false =>
        simp only [hstale] at hd
        cases hd
  · cases hact
    refine h.keep hclock rfl rfl (Or.inl ⟨rfl, fun k' hk' => ?_⟩) (fun hd => by cases hd)
    rw [hold] at hk'
    cases hk'
  · cases hact
    exact h.send hclock hold rfl rfl rfl
  · cases hact
    refine h.keep hclock rfl rfl (Or.inl ⟨rfl, fun k' hk' => ?_⟩) (fun hd => by cases hd)
    obtain rfl := Option.some.inj (hold.symm.trans hk')
    exact Or.inl rfl
  · next answer entry began =>
    cases hact
    refine h.keep hclock rfl rfl (Or.inl ⟨rfl, fun k' hk' => ?_⟩) (fun hd => ?_)
    · obtain rfl := Option.some.inj (hold.symm.trans hk')
      cases entry <;> exact Or.inr rfl
    · cases entry <;> cases hd
  · next entry began reading result =>
    cases hact
    refine h.keep (k := ⟨entry, .ready⟩) ?_ ?_ rfl (Or.inr ?_) (fun hd => ?_)
    · rw [record_clock]
      exact hclock
    · rw [record_starts]
    · rw [record_lastAttempt, record_clock]
    · cases entry <;> cases hd
  · cases hact
    refine h.keep hclock rfl rfl (Or.inl ⟨rfl, fun k' hk' => ?_⟩) (fun hd => by cases hd)
    obtain rfl := Option.some.inj (hold.symm.trans hk')
    exact Or.inl rfl
  · cases hact

/-- **One fetch per interval.** In every run where each check is `Lone`, the starts of the fetches made by
`is_revoked` (newest first) are the poll interval apart. -/
theorem polled_once_per_interval (F : Feed) (clock : ℚ) (es : List Event) (s : State)
    (h : Run (guarded (fnStep (step F)) (Lone F)) (start clock) es s) :
    s.starts.Pairwise (fun later earlier => F.pollInterval ≤ later - earlier) := by
  have hspaced : Spaced F s :=
    Run.invariant (fun _ _ _ ht hstep => spaced_step ht hstep) h (spaced_start F clock)
  exact hspaced.spaced

/-- The digest of the session `s`. -/
def digestOfS : Bytes :=
  [4, 58, 113, 135, 116, 197, 114, 189, 138, 37, 173, 190, 177, 191, 205, 92, 2, 86, 174, 17, 206,
    207, 159, 156, 63, 146, 93, 14, 82, 190, 175, 137]

/-- A feed polled every thirty seconds. -/
def halfMinute : Feed :=
  Feed.new ⟨⟨4300, 990, 990, fun _ => []⟩, fun _ _ => List.replicate 32 0, fun _ => none⟩
    (fun input => if input = [115] then digestOfS else []) 30

/-- Two callers find the interval elapsed before either records its attempt. -/
def twoChecks : List Event :=
  [⟨0, 0, .check (lit "s")⟩, ⟨1, 0, .check (lit "s")⟩, ⟨0, 0, .send⟩, ⟨1, 0, .send⟩]

theorem twoChecks_starts : (exec (step halfMinute) (start 0) twoChecks).map State.starts = some [0, 0] := by
  decide +kernel

/-- Two callers can fetch at the same instant. -/
theorem not_polled_once_per_interval : ¬ ∀ (F : Feed) (clock : ℚ) (es : List Event) (s : State),
    Run (fnStep (step F)) (start clock) es s →
      s.starts.Pairwise (fun later earlier => F.pollInterval ≤ later - earlier) := by
  intro hall
  obtain ⟨s, hs, hstarts⟩ := Option.map_eq_some_iff.1 twoChecks_starts
  have hspaced := hall halfMinute 0 twoChecks s (exec_run hs)
  rw [hstarts] at hspaced
  have hzero : halfMinute.pollInterval ≤ (0 : ℚ) - 0 := List.rel_of_pairwise_cons hspaced List.mem_cons_self
  exact absurd hzero (by decide +kernel)

/-- One caller after another. -/
def oneByOne : List Event :=
  [⟨0, 0, .check (lit "s")⟩, ⟨0, 0, .send⟩, ⟨0, 1, .read .failed⟩, ⟨0, 2, .install⟩, ⟨1, 32, .check (lit "s")⟩,
    ⟨1, 33, .send⟩]

theorem step_check {F : Feed} {s : State} {c : ℕ} {now : ℚ} {sid : PyStr} (hclock : s.clock ≤ now)
    (hnew : s.callers c = none) (hstale : F.stale s.lastAttempt now = true) :
    step F s ⟨c, now, .check sid⟩ =
      some { s with clock := now, callers := Function.update s.callers c (some ⟨.isRevoked sid, .due⟩) } := by
  simp only [step, hclock, if_true, hnew, act, hstale, Option.map_some]

theorem oneByOne_run : ∃ s, Run (guarded (fnStep (step halfMinute)) (Lone halfMinute)) (start 0) oneByOne s ∧
    s.starts = [33, 0] := by
  apply Exists.intro
  apply And.intro
  · apply Run.cons ⟨rfl, fun _ _ _ c k hk => by cases hk⟩
    apply Run.cons ⟨rfl, fun _ hcheck => by cases hcheck⟩
    apply Run.cons ⟨rfl, fun _ hcheck => by cases hcheck⟩
    apply Run.cons ⟨rfl, fun _ hcheck => by cases hcheck⟩
    have hlone : ∀ c k, Function.update (start 0).callers 0 (some ⟨.isRevoked (lit "s"), .ready⟩) c = some k →
        k.due = false ∧ ∀ t, k.since = some t → halfMinute.pollInterval ≤ 32 - t := by
      intro c k hk
      obtain ⟨-, rfl⟩ | ⟨-, hk⟩ := caller_update hk
      · exact ⟨rfl, fun t ht => by cases ht⟩
      · cases hk
    have hcallers : ∀ k₁ k₂ k₃ k₄ : Caller, Function.update (Function.update (Function.update (Function.update
        (start 0).callers 0 (some k₁)) 0 (some k₂)) 0 (some k₃)) 0 (some k₄) =
        Function.update (start 0).callers 0 (some k₄) := by
      intro k₁ k₂ k₃ k₄
      simp only [Function.update_idem]
    apply Run.cons ⟨step_check (by decide +kernel) rfl (by decide +kernel), fun _ _ _ c k hk =>
      hlone c k ((congrFun (hcallers _ _ _ _) c).symm.trans hk)⟩
    exact Run.cons ⟨rfl, fun _ hcheck => by cases hcheck⟩ (Run.nil _)
  · rfl

/-- A caller that comes after the first has recorded its attempt fetches thirty seconds later. -/
theorem oneByOne_polled : ∃ s : State, s.starts = [33, 0] ∧
    s.starts.Pairwise (fun later earlier => halfMinute.pollInterval ≤ later - earlier) := by
  obtain ⟨s, hrun, hstarts⟩ := oneByOne_run
  exact ⟨s, hstarts, polled_once_per_interval halfMinute 0 oneByOne s hrun⟩

/-! ## The order of the readings -/

/-- The installed set is the list of the latest-read fetch among those installed. -/
def Latest (s : State) : Prop :=
  (s.installs = [] → s.entries = none) ∧
    ∀ i listed, (i, listed) ∈ s.installs → (∀ j other, (j, other) ∈ s.installs → j ≤ i) → s.entries = some listed

/-- A fetch that ends after a later-read one was installed has read the same list. -/
def InOrder (s : State) (e : Event) : Prop :=
  ∀ entry began i listed, e.action = .install → s.callers e.caller = some ⟨entry, .fetched began i (some listed)⟩ →
    ∀ j other, (j, other) ∈ s.installs → (∀ j' other', (j', other') ∈ s.installs → j' ≤ j) → i ≤ j → other = listed

/-- The server's list only grows, from one reading to the next. -/
def Grows (s : State) : Prop :=
  s.readings.Pairwise (fun before after => ∀ l l', before = some l → after = some l' → l ⊆ l')

/-- Once a session has been seen revoked, no later answer is that it is not. -/
def KeepsRevoked (s : State) : Prop :=
  s.answers.Pairwise (fun before after => before.1 = after.1 → before.2 = .ok true → after.2 = .ok true)

/-- Every fetch on its way back, and every installed one, is one of the readings. -/
structure Numbered (s : State) : Prop where
  fetched : ∀ c entry began i result, s.callers c = some ⟨entry, .fetched began i result⟩ →
    s.readings[i]? = some result
  installed : ∀ i listed, (i, listed) ∈ s.installs → s.readings[i]? = some (some listed)
  empty : s.installs = [] → s.entries = none

/-- What an event makes of the set: a fetch that succeeded installs its list, and nothing else does. -/
theorem step_entries {F : Feed} {s t : State} {e : Event} (hstep : step F s e = some t) :
    (∃ entry began i listed, e.action = .install ∧
        s.callers e.caller = some ⟨entry, .fetched began i (some listed)⟩ ∧
        t.entries = some listed ∧ t.installs = (i, listed) :: s.installs) ∨
      t.entries = s.entries ∧ t.installs = s.installs ∧
        ∀ entry began i listed, e.action = .install →
          s.callers e.caller ≠ some ⟨entry, .fetched began i (some listed)⟩ := by
  obtain ⟨-, k, u, hact, rfl⟩ := step_eq hstep
  generalize e.action = action at hact
  generalize s.callers e.caller = old at hact
  unfold act at hact
  split at hact
  case h_6 entry began reading result =>
    cases hact
    cases result with
    | none => exact Or.inr ⟨rfl, rfl, fun _ _ _ _ _ => by simp⟩
    | some listed => exact Or.inl ⟨entry, began, reading, listed, rfl, rfl, rfl, rfl⟩
  case h_8 => cases hact
  all_goals
    cases hact
    refine Or.inr ⟨rfl, rfl, fun _ _ _ _ hinstall => ?_⟩
    cases hinstall

theorem numbered_start (clock : ℚ) : Numbered (start clock) where
  fetched c entry began i result h := by cases h
  installed i listed h := absurd h List.not_mem_nil
  empty _ := rfl

theorem getElem?_append_some {α : Type} {l : List α} (l' : List α) {i : ℕ} {a : α} (h : l[i]? = some a) :
    (l ++ l')[i]? = some a := by
  obtain ⟨hi, -⟩ := List.getElem?_eq_some_iff.1 h
  rw [List.getElem?_append_left hi, h]

/-- What an event makes of the readings and of the callers that are on their way back. -/
theorem step_readings {F : Feed} {s t : State} {e : Event} (hstep : step F s e = some t) :
    (∃ new, t.readings = s.readings ++ new) ∧ ∀ c entry began i result,
      t.callers c = some ⟨entry, .fetched began i result⟩ →
        s.callers c = some ⟨entry, .fetched began i result⟩ ∨ t.readings[i]? = some result := by
  obtain ⟨-, k, u, hact, rfl⟩ := step_eq hstep
  generalize e.action = action at hact
  generalize s.callers e.caller = old at hact
  have hkept : (∀ entry began i result, k ≠ ⟨entry, .fetched began i result⟩) →
      ∀ c entry began i result,
        Function.update s.callers e.caller (some k) c = some ⟨entry, .fetched began i result⟩ →
        s.callers c = some ⟨entry, .fetched began i result⟩ := by
    intro hk c entry began i result hc
    obtain ⟨-, heq⟩ | ⟨-, hc⟩ := caller_update hc
    · exact absurd heq.symm (hk entry began i result)
    · exact hc
  unfold act at hact
  split at hact
  case h_5 answer entry began =>
    cases hact
    refine ⟨⟨_, rfl⟩, fun c entry' began' i result hc => ?_⟩
    obtain ⟨-, heq⟩ | ⟨-, hc⟩ := caller_update hc
    · cases heq
      right
      simp
    · exact Or.inl hc
  case h_1 =>
    cases hact
    refine ⟨⟨[], (List.append_nil _).symm⟩, fun c entry began i result hc => Or.inl ?_⟩
    refine hkept (fun entry' began' i' result' heq => ?_) c entry began i result hc
    split at heq <;> cases heq
  case h_6 entry began reading result =>
    cases hact
    refine ⟨⟨[], ?_⟩, fun c entry began i result hc => Or.inl (hkept (by simp) c entry began i result hc)⟩
    rw [List.append_nil]
    cases result <;> rfl
  case h_8 => cases hact
  all_goals
    cases hact
    exact ⟨⟨[], (List.append_nil _).symm⟩, fun c entry began i result hc =>
      Or.inl (hkept (by simp) c entry began i result hc)⟩

theorem numbered_step {F : Feed} {s t : State} {e : Event} (h : Numbered s) (hstep : step F s e = some t) :
    Numbered t := by
  obtain ⟨⟨new, hreadings⟩, hcallers⟩ := step_readings hstep
  have hentries := step_entries hstep
  have hkeep : ∀ (i : ℕ) (result : Option (Finset PyStr)), s.readings[i]? = some result →
      t.readings[i]? = some result := by
    intro i result hi
    rw [hreadings]
    exact getElem?_append_some _ hi
  refine ⟨fun c entry began i result hc => ?_, fun i listed hi => ?_, fun hnil => ?_⟩
  · obtain hc | hread := hcallers c entry began i result hc
    · exact hkeep i result (h.fetched c entry began i result hc)
    · exact hread
  · obtain ⟨entry, began, j, other, -, hcaller, -, hinstalls⟩ | ⟨-, hinstalls, -⟩ := hentries
    · rw [hinstalls, List.mem_cons] at hi
      obtain heq | hi := hi
      · cases heq
        exact hkeep _ _ (h.fetched e.caller entry began _ _ hcaller)
      · exact hkeep i _ (h.installed i listed hi)
    · rw [hinstalls] at hi
      exact hkeep i _ (h.installed i listed hi)
  · obtain ⟨entry, began, j, other, -, -, -, hinstalls⟩ | ⟨hsame, hinstalls, -⟩ := hentries
    · rw [hinstalls] at hnil
      cases hnil
    · rw [hinstalls] at hnil
      rw [hsame]
      exact h.empty hnil

theorem latest_step {F : Feed} {s t : State} {e : Event} (h : Latest s) (hstep : step F s e = some t) :
    Latest t ↔ InOrder s e := by
  obtain ⟨entry, began, i, listed, haction, hcaller, hentries, hinstalls⟩ | ⟨hentries, hinstalls, hother⟩ :=
    step_entries hstep
  · constructor
    · rintro ⟨-, hlatest⟩ entry' began' i' listed' - hcaller' j other hj hmax hle
      have heq := Option.some.inj (hcaller.symm.trans hcaller')
      cases heq
      have hnow : t.entries = some other := by
        refine hlatest j other (by rw [hinstalls]; exact List.mem_cons_of_mem _ hj) (fun j' other' hj' => ?_)
        rw [hinstalls, List.mem_cons] at hj'
        obtain heq | hj' := hj'
        · cases heq
          exact hle
        · exact hmax j' other' hj'
      exact Option.some.inj (hnow.symm.trans hentries)
    · intro horder
      refine ⟨fun hnil => ?_, fun j other hj hmax => ?_⟩
      · rw [hinstalls] at hnil
        cases hnil
      · rw [hinstalls] at hj hmax
        rw [hentries]
        obtain heq | hj := List.mem_cons.1 hj
        · cases heq
          rfl
        · have hsame := horder entry began i listed haction hcaller j other hj
            (fun j' other' hj' => hmax j' other' (List.mem_cons_of_mem _ hj')) (hmax i listed List.mem_cons_self)
          rw [hsame]
  · constructor
    · intro _ entry began i listed haction hcaller
      exact absurd hcaller (hother entry began i listed haction)
    · intro _
      refine ⟨fun hnil => ?_, fun i listed hi hmax => ?_⟩
      · rw [hentries]
        exact h.1 (hinstalls ▸ hnil)
      · rw [hinstalls] at hi hmax
        rw [hentries]
        exact h.2 i listed hi hmax

/-! ## Answers -/

theorem isListed_mono {F : Feed} {listed listed' : Finset PyStr} {sid : PyStr} (hsub : listed ⊆ listed')
    (h : F.isListed (some listed) sid = .ok true) : F.isListed (some listed') sid = .ok true := by
  unfold Feed.isListed at h ⊢
  cases hentry : F.entryFor sid with
  | error e =>
    rw [hentry] at h
    cases h
  | ok entry =>
    rw [hentry] at h
    have hmem : entry ∈ listed := by simpa [Except.map] using h
    simpa [Except.map] using hsub hmem

/-- The sessions seen revoked are listed still, and stay so in every answer. -/
structure Kept (F : Feed) (s : State) : Prop where
  answers : KeepsRevoked s
  listed : ∀ sid, (sid, .ok true) ∈ s.answers → F.isListed s.entries sid = .ok true

/-- What an event makes of the answers: one more, read from the set, or none. -/
theorem step_answers {F : Feed} {s t : State} {e : Event} (hstep : step F s e = some t) :
    t.answers = s.answers ∨
      t.entries = s.entries ∧ ∃ sid, t.answers = s.answers ++ [(sid, F.isListed s.entries sid)] := by
  obtain ⟨-, k, u, hact, rfl⟩ := step_eq hstep
  unfold act at hact
  split at hact
  case h_6 entry began reading result _ _ =>
    cases hact
    left
    cases result <;> rfl
  case h_7 sid _ _ =>
    cases hact
    exact Or.inr ⟨rfl, sid, rfl⟩
  case h_8 => cases hact
  all_goals
    cases hact
    exact Or.inl rfl

theorem entries_grow {F : Feed} {s t : State} {e : Event} (hnumbered : Numbered s) (hlatest : Latest s)
    (horder : InOrder s e) (hgrows : Grows t) (hstep : step F s e = some t) {sid : PyStr}
    (h : F.isListed s.entries sid = .ok true) : F.isListed t.entries sid = .ok true := by
  obtain ⟨entry, began, i, listed, haction, hcaller, hentries, -⟩ | ⟨hentries, -, -⟩ := step_entries hstep
  · by_cases hnil : s.installs = []
    · rw [hlatest.1 hnil] at h
      cases h
    · obtain ⟨⟨j, other⟩, hj, hmax⟩ := s.installs.toFinset.exists_max_image Prod.fst
        (List.toFinset_nonempty_iff _ |>.2 hnil)
      rw [List.mem_toFinset] at hj
      have hmost : ∀ j' other', (j', other') ∈ s.installs → j' ≤ j := fun j' other' hj' =>
        hmax (j', other') (List.mem_toFinset.2 hj')
      rw [hlatest.2 j other hj hmost] at h
      rw [hentries]
      by_cases hle : i ≤ j
      · rw [← horder entry began i listed haction hcaller j other hj hmost hle]
        exact h
      · obtain ⟨⟨new, hreadings⟩, -⟩ := step_readings hstep
        have hi := getElem?_append_some new (hnumbered.fetched e.caller entry began i _ hcaller)
        have hj' := getElem?_append_some new (hnumbered.installed j other hj)
        rw [← hreadings] at hi hj'
        obtain ⟨hilt, hi⟩ := List.getElem?_eq_some_iff.1 hi
        obtain ⟨hjlt, hj'⟩ := List.getElem?_eq_some_iff.1 hj'
        have hsub := List.pairwise_iff_getElem.1 hgrows j i hjlt hilt (by omega) other listed hj' hi
        exact isListed_mono hsub h
  · rw [hentries]
    exact h

theorem kept_step {F : Feed} {s t : State} {e : Event} (h : Kept F s) (hnumbered : Numbered s)
    (hlatest : Latest s) (horder : InOrder s e) (hgrows : Grows t) (hstep : step F s e = some t) : Kept F t := by
  obtain hsame | ⟨hentries, sid, hnew⟩ := step_answers hstep
  · refine ⟨?_, fun sid hsid => ?_⟩
    · rw [KeepsRevoked, hsame]
      exact h.answers
    · rw [hsame] at hsid
      exact entries_grow hnumbered hlatest horder hgrows hstep (h.listed sid hsid)
  · refine ⟨?_, fun sid' hsid => ?_⟩
    · rw [KeepsRevoked, hnew, List.pairwise_append]
      refine ⟨h.answers, List.pairwise_singleton _ _, ?_⟩
      intro before hbefore after hafter hsession hrevoked
      obtain rfl := List.mem_singleton.1 hafter
      obtain ⟨sid₀, answer₀⟩ := before
      dsimp only at hsession hrevoked ⊢
      subst hsession hrevoked
      exact h.listed _ hbefore
    · rw [hentries]
      rw [hnew, List.mem_append, List.mem_singleton] at hsid
      obtain hsid | hsid := hsid
      · exact h.listed sid' hsid
      · obtain ⟨rfl, hanswer⟩ := Prod.mk.inj hsid
        exact hanswer.symm

/-- In every state reached, the installed set is the latest-read one, and what was seen revoked stays so
if the server's list only grows. -/
structure NeverBack (F : Feed) (clock : ℚ) (es : List Event) : Prop where
  latest : Run.Along (fnStep (step F)) (start clock) es Latest
  keeps : Run.Along (fnStep (step F)) (start clock) es (fun t => Grows t → KeepsRevoked t)

/-- **The feed never goes back** exactly if no fetch installs its list after one that was read later, unless
the two lists are the same. -/
theorem never_back_iff (F : Feed) (clock : ℚ) (es : List Event) :
    NeverBack F clock es ↔ Run.Always (fnStep (step F)) (start clock) es InOrder := by
  have hiff : Run.Along (fnStep (step F)) (start clock) es Latest ↔
      Run.Always (fnStep (step F)) (start clock) es InOrder := by
    refine Run.along_iff_always (I := fun _ => True) trivial ?_ (fun _ _ _ _ _ => trivial) ?_
    · exact ⟨fun _ => rfl, fun i listed hi => absurd hi List.not_mem_nil⟩
    · intro t e u _ hlatest hstep
      exact latest_step hlatest hstep
  constructor
  · intro h
    exact hiff.1 h.latest
  · intro horder
    refine ⟨hiff.2 horder, fun pre post t hes hrun hgrows => ?_⟩
    have hpre : Run.Always (fnStep (step F)) (start clock) pre InOrder := by
      intro pre' e post' u v hpre
      exact horder pre' e (post' ++ post) u v (by rw [hes, hpre, List.append_assoc, List.cons_append])
    have hkept : Numbered t ∧ Latest t ∧ (Grows t → Kept F t) := by
      refine Run.invariant (P := fun s => Numbered s ∧ Latest s ∧ (Grows s → Kept F s)) ?_ (hrun.guard hpre) ?_
      · rintro s e u ⟨hnumbered, hlatest, hkept⟩ ⟨hstep, hin⟩
        refine ⟨numbered_step hnumbered hstep, (latest_step hlatest hstep).2 hin, fun hgrows => ?_⟩
        have hbefore : Grows s := by
          obtain ⟨⟨new, hreadings⟩, -⟩ := step_readings hstep
          rw [Grows, hreadings] at hgrows
          exact (List.pairwise_append.1 hgrows).1
        exact kept_step (hkept hbefore) hnumbered hlatest hin hgrows hstep
      · refine ⟨numbered_start clock, ⟨fun _ => rfl, fun i listed hi => absurd hi List.not_mem_nil⟩, fun _ => ?_⟩
        exact ⟨List.Pairwise.nil, fun sid hsid => absurd hsid List.not_mem_nil⟩
    exact (hkept.2.2 hgrows).answers

/-- A feed document without an entry, and one with that of the session `s`. -/
def emptyFeed : Bytes := asciiBytes "\x7b\"alg\":\"SHA-256\",\"revoked\":[]\x7d"

def feedWithS : Bytes :=
  asciiBytes "\x7b\"alg\":\"SHA-256\",\"revoked\":[\"BDpxh3TFcr2KJa2-sb_NXAJWrhHOz5-cP5JdDlK-r4k\"]\x7d"

/-- Two fetches overlap: the one whose list was read first ends last. -/
def overlapping : List Event :=
  [⟨0, 0, .check (lit "s")⟩, ⟨1, 0, .check (lit "s")⟩, ⟨0, 0, .send⟩, ⟨1, 0, .send⟩,
    ⟨0, 1, .read (.answered 200 emptyFeed)⟩, ⟨1, 2, .read (.answered 200 feedWithS)⟩, ⟨1, 3, .install⟩,
    ⟨1, 3, .answer⟩, ⟨0, 4, .install⟩, ⟨0, 4, .answer⟩]

theorem overlapping_run : (exec (step halfMinute) (start 0) overlapping).map (fun s => (s.readings, s.answers)) =
    some ([some ∅, some {lit "BDpxh3TFcr2KJa2-sb_NXAJWrhHOz5-cP5JdDlK-r4k"}],
      [(lit "s", .ok true), (lit "s", .ok false)]) := by
  decide +kernel

/-- A session that one caller has seen revoked is not revoked for the next. -/
theorem not_never_back : ¬ ∀ (F : Feed) (clock : ℚ) (es : List Event), NeverBack F clock es := by
  intro hall
  obtain ⟨s, hs, hread⟩ := Option.map_eq_some_iff.1 overlapping_run
  obtain ⟨hreadings, hanswers⟩ := Prod.mk.inj hread
  have hkeeps := (hall halfMinute 0 overlapping).keeps overlapping [] s (List.append_nil _).symm (exec_run hs)
  have hgrows : Grows s := by
    rw [Grows, hreadings]
    refine List.pairwise_pair.2 (fun l l' hl hl' => ?_)
    obtain rfl := Option.some.inj hl
    exact Finset.empty_subset _
  have hkept := hkeeps hgrows
  rw [KeepsRevoked, hanswers] at hkept
  have hsame := List.pairwise_pair.1 hkept rfl rfl
  cases hsame

end AxiamSdk.RevocationFeed
