import Mathlib.Data.List.Induction
import AxiamSdk.Lib.Dict
import AxiamSdk.Lib.Runs

/-! # A cache behind a double-checked lock

A call looks into the cache, and if it finds nothing fresh it takes the lock and looks again; if there is still
nothing fresh it fetches and stores before it gives the lock back.

* `step`: the calls' steps, in any order.
* `lastOk`, `Spaced`: the fetches that have ended, and how they are apart.
* `Good`: what every step keeps; `good_run`: it holds in every run; `log_run`: what has been fetched. -/

namespace PyLib.DoubleChecked
set_option autoImplicit false

variable {κ δ τ ε : Type}

/-! ## Calls -/

/-- A fetch that has ended: the reading of the clock at the lookup before it, and the one with which its result
was stored. -/
structure Fetch (κ δ τ ε : Type) where
  call : ℕ
  key : κ
  lookedAt : τ
  outcome : Except ε δ
  endedAt : τ

inductive Phase (κ δ τ ε : Type)
  | idle
  | waiting (k : κ)
  | fetching (k : κ) (lookedAt : τ)
  | served (k : κ) (document : δ) (lookedAt : τ)
  | fetched (k : κ) (outcome : Except ε δ)
  | abandoned

structure State (κ δ τ ε : Type) [DecidableEq κ] where
  held : Dict κ (δ × τ)
  owner : Option ℕ
  phase : ℕ → Phase κ δ τ ε
  log : List (Fetch κ δ τ ε)

/-- A call's first look, its second one when it has taken the lock, the end of its fetch, and its end while it
waits for the lock. -/
inductive Event (κ δ τ ε : Type)
  | look (c : ℕ) (k : κ) (now : τ)
  | acquire (c : ℕ) (now : τ)
  | finish (c : ℕ) (outcome : Except ε δ) (now : τ)
  | abandon (c : ℕ)

section Steps
variable [DecidableEq κ] [LT τ] [DecidableLT τ] (deadline : τ → τ)

def fresh (held : Dict κ (δ × τ)) (k : κ) (now : τ) : Option δ :=
  match held.get? k with
  | none => none
  | some (document, expiry) => if now < expiry then some document else none

namespace State

def new : State κ δ τ ε := ⟨Dict.empty, none, fun _ => .idle, []⟩

def setPhase (s : State κ δ τ ε) (c : ℕ) (p : Phase κ δ τ ε) : State κ δ τ ε :=
  { s with phase := fun d => if d = c then p else s.phase d }

/-- What a fetch leaves in the cache. -/
def stored (s : State κ δ τ ε) (k : κ) (outcome : Except ε δ) (now : τ) : Dict κ (δ × τ) :=
  match outcome with
  | .ok document => s.held.set k (document, deadline now)
  | .error _ => s.held

end State

def step (s : State κ δ τ ε) : Event κ δ τ ε → Option (State κ δ τ ε)
  | .look c k now =>
    match s.phase c with
    | .idle =>
      match fresh s.held k now with
      | some document => some (s.setPhase c (.served k document now))
      | none => some (s.setPhase c (.waiting k))
    | _ => none
  | .acquire c now =>
    match s.phase c, s.owner with
    | .waiting k, none =>
      match fresh s.held k now with
      | some document => some (s.setPhase c (.served k document now))
      | none => some { s.setPhase c (.fetching k now) with owner := some c }
    | _, _ => none
  | .finish c outcome now =>
    match s.phase c with
    | .fetching k lookedAt =>
      some { s.setPhase c (.fetched k outcome) with
        held := s.stored deadline k outcome now
        owner := none
        log := s.log ++ [⟨c, k, lookedAt, outcome, now⟩] }
    | _ => none
  | .abandon c =>
    match s.phase c with
    | .waiting _ => some (s.setPhase c .abandoned)
    | _ => none

/-! ## The fetches that have ended -/

/-- What the fetch gave, and when. -/
def Fetch.given (f : Fetch κ δ τ ε) : Option (δ × τ) := f.outcome.toOption.map fun document => (document, f.endedAt)

/-- What the last fetch for the key that gave a document gave. -/
def lastOk (log : List (Fetch κ δ τ ε)) (k : κ) : Option (δ × τ) :=
  log.foldl (fun last f => if f.key = k then f.given.or last else last) none

/-- Before every fetch the clock has reached the deadline of the last document for its key. -/
def Spaced (log : List (Fetch κ δ τ ε)) : Prop :=
  ∀ pre f post, log = pre ++ f :: post → ∀ document endedAt, lastOk pre f.key = some (document, endedAt) →
    ¬ f.lookedAt < deadline endedAt

theorem given_eq_some {f : Fetch κ δ τ ε} {document : δ} {endedAt : τ} (h : f.given = some (document, endedAt)) :
    f.outcome = .ok document ∧ f.endedAt = endedAt := by
  unfold Fetch.given at h
  cases houtcome : f.outcome with
  | error e =>
    rw [houtcome] at h
    cases h
  | ok found =>
    rw [houtcome] at h
    obtain ⟨rfl, rfl⟩ := Prod.mk.inj (Option.some.inj h)
    exact ⟨rfl, rfl⟩

theorem lastOk_snoc (log : List (Fetch κ δ τ ε)) (f : Fetch κ δ τ ε) (k : κ) :
    lastOk (log ++ [f]) k = if f.key = k then f.given.or (lastOk log k) else lastOk log k := by
  unfold lastOk
  rw [List.foldl_append]
  rfl

theorem lastOk_mem {log : List (Fetch κ δ τ ε)} {k : κ} {document : δ} {endedAt : τ}
    (h : lastOk log k = some (document, endedAt)) :
    ∃ f ∈ log, f.key = k ∧ f.outcome = .ok document ∧ f.endedAt = endedAt := by
  induction log using List.reverseRecOn with
  | nil => cases h
  | append_singleton log f ih =>
    rw [lastOk_snoc] at h
    have hold : lastOk log k = some (document, endedAt) →
        ∃ g ∈ log ++ [f], g.key = k ∧ g.outcome = .ok document ∧ g.endedAt = endedAt := by
      intro h
      obtain ⟨g, hg, hrest⟩ := ih h
      exact ⟨g, List.mem_append_left _ hg, hrest⟩
    split at h
    · next hkey =>
      rw [Option.or_eq_some_iff] at h
      obtain hgiven | ⟨-, h⟩ := h
      · exact ⟨f, by simp, hkey, given_eq_some hgiven⟩
      · exact hold h
    · exact hold h

theorem spaced_snoc {log : List (Fetch κ δ τ ε)} {f : Fetch κ δ τ ε} (h : Spaced deadline log)
    (hf : ∀ document endedAt, lastOk log f.key = some (document, endedAt) → ¬ f.lookedAt < deadline endedAt) :
    Spaced deadline (log ++ [f]) := by
  intro pre g post hlog document endedAt hlast
  cases post using List.reverseRecOn with
  | nil =>
    obtain ⟨rfl, hsame⟩ := List.append_inj' hlog rfl
    obtain rfl := List.singleton_inj.1 hsame
    exact hf document endedAt hlast
  | append_singleton post e =>
    rw [← List.cons_append, ← List.append_assoc] at hlog
    obtain ⟨rfl, -⟩ := List.append_inj' hlog rfl
    exact h pre g post rfl document endedAt hlast

/-! ## What every step keeps -/

/-- The cache holds the last documents with their deadlines, one call at most fetches and it has found nothing
fresh, and a call that is done was served a fresh document of its key or has fetched for itself. -/
structure Good (s : State κ δ τ ε) : Prop where
  held : ∀ k, s.held.get? k = (lastOk s.log k).map fun p => (p.1, deadline p.2)
  owner : ∀ c k t, s.phase c = .fetching k t → s.owner = some c ∧ fresh s.held k t = none
  served : ∀ c k document t, s.phase c = .served k document t →
    ∃ f ∈ s.log, f.key = k ∧ f.outcome = .ok document ∧ t < deadline f.endedAt
  fetched : ∀ c k outcome, s.phase c = .fetched k outcome → ∃ f ∈ s.log, f.call = c ∧ f.key = k ∧ f.outcome = outcome
  spaced : Spaced deadline s.log

variable {deadline}

theorem setPhase_phase (s : State κ δ τ ε) (c d : ℕ) (p : Phase κ δ τ ε) :
    (s.setPhase c p).phase d = if d = c then p else s.phase d :=
  rfl

theorem good_new : Good deadline (State.new : State κ δ τ ε) := by
  refine ⟨fun k => rfl, ?_, ?_, ?_, ?_⟩
  · intro c k t h
    cases h
  · intro c k document t h
    cases h
  · intro c k outcome h
    cases h
  · intro pre f post hlog
    simp [State.new] at hlog

/-- What is fresh was fetched for the key, and its deadline is ahead. -/
theorem fresh_mem {s : State κ δ τ ε} (hs : Good deadline s) {k : κ} {now : τ} {document : δ}
    (h : fresh s.held k now = some document) :
    ∃ f ∈ s.log, f.key = k ∧ f.outcome = .ok document ∧ now < deadline f.endedAt := by
  unfold fresh at h
  rw [hs.held] at h
  cases hlast : lastOk s.log k with
  | none =>
    rw [hlast] at h
    cases h
  | some p =>
    obtain ⟨found, endedAt⟩ := p
    rw [hlast] at h
    simp only [Option.map_some] at h
    split at h
    · next hahead =>
      obtain rfl := Option.some.inj h
      obtain ⟨f, hf, hkey, houtcome, rfl⟩ := lastOk_mem hlast
      exact ⟨f, hf, hkey, houtcome, hahead⟩
    · cases h

/-- A step that moves one call and nothing else. -/
theorem good_setPhase {s : State κ δ τ ε} (hs : Good deadline s) {c : ℕ} {p : Phase κ δ τ ε}
    (hfetching : ∀ k t, p ≠ .fetching k t)
    (hserved : ∀ k document t, p = .served k document t →
      ∃ f ∈ s.log, f.key = k ∧ f.outcome = .ok document ∧ t < deadline f.endedAt)
    (hfetched : ∀ k outcome, p ≠ .fetched k outcome) : Good deadline (s.setPhase c p) := by
  refine ⟨hs.held, ?_, ?_, ?_, hs.spaced⟩
  · intro d k t hd
    rw [setPhase_phase] at hd
    split at hd
    · exact absurd hd (hfetching k t)
    · exact hs.owner d k t hd
  · intro d k document t hd
    rw [setPhase_phase] at hd
    split at hd
    · exact hserved k document t hd
    · exact hs.served d k document t hd
  · intro d k outcome hd
    rw [setPhase_phase] at hd
    split at hd
    · exact absurd hd (hfetched k outcome)
    · exact hs.fetched d k outcome hd

/-- The step that ends a fetch. -/
theorem good_finish {s : State κ δ τ ε} (hs : Good deadline s) {c : ℕ} {k : κ} {lookedAt : τ}
    (hc : s.phase c = .fetching k lookedAt) (outcome : Except ε δ) (now : τ) :
    Good deadline { s.setPhase c (.fetched k outcome) with
      held := s.stored deadline k outcome now
      owner := none
      log := s.log ++ [⟨c, k, lookedAt, outcome, now⟩] } := by
  obtain ⟨howner, hstale⟩ := hs.owner c k lookedAt hc
  refine ⟨?_, ?_, ?_, ?_, ?_⟩
  · intro k'
    change (s.stored deadline k outcome now).get? k' = _
    rw [lastOk_snoc]
    cases outcome with
    | error e =>
      change s.held.get? k' = _
      rw [hs.held]
      split <;> rfl
    | ok document =>
      change (s.held.set k (document, deadline now)).get? k' = _
      rw [Dict.get?_set, hs.held]
      split <;> rfl
  · intro d k' t hd
    change (s.setPhase c _).phase d = _ at hd
    rw [setPhase_phase] at hd
    split at hd
    · cases hd
    · next hother =>
      have hsame := (hs.owner d k' t hd).1
      rw [howner] at hsame
      exact absurd (Option.some.inj hsame).symm hother
  · intro d k' document t hd
    change (s.setPhase c _).phase d = _ at hd
    rw [setPhase_phase] at hd
    split at hd
    · cases hd
    · obtain ⟨f, hf, hrest⟩ := hs.served d k' document t hd
      exact ⟨f, List.mem_append_left _ hf, hrest⟩
  · intro d k' outcome' hd
    change (s.setPhase c _).phase d = _ at hd
    rw [setPhase_phase] at hd
    split at hd
    · next hsame =>
      obtain ⟨rfl, rfl⟩ := Phase.fetched.inj hd
      exact ⟨_, List.mem_append_right _ (List.mem_singleton.2 rfl), hsame.symm, rfl, rfl⟩
    · obtain ⟨f, hf, hrest⟩ := hs.fetched d k' outcome' hd
      exact ⟨f, List.mem_append_left _ hf, hrest⟩
  · refine spaced_snoc deadline hs.spaced ?_
    intro document endedAt hlast hahead
    unfold fresh at hstale
    rw [hs.held, hlast] at hstale
    simp only [Option.map_some] at hstale
    rw [if_pos hahead] at hstale
    cases hstale

theorem good_step {s t : State κ δ τ ε} {e : Event κ δ τ ε} (hs : Good deadline s)
    (h : step deadline s e = some t) : Good deadline t := by
  have hserve : ∀ {c : ℕ} {k : κ} {now : τ} {document : δ}, fresh s.held k now = some document →
      Good deadline (s.setPhase c (.served k document now)) := by
    intro c k now document hfresh
    refine good_setPhase hs (by simp) ?_ (by simp)
    intro k' document' t' heq
    obtain ⟨rfl, rfl, rfl⟩ := Phase.served.inj heq
    exact fresh_mem hs hfresh
  cases e with
  | look c k now =>
    simp only [step] at h
    split at h
    · split at h
      · next document hfresh =>
        obtain rfl := Option.some.inj h
        exact hserve hfresh
      · obtain rfl := Option.some.inj h
        exact good_setPhase hs (by simp) (by simp) (by simp)
    · cases h
  | acquire c now =>
    simp only [step] at h
    split at h
    · next k hwaiting howner =>
      split at h
      · next document hfresh =>
        obtain rfl := Option.some.inj h
        exact hserve hfresh
      · next hstale =>
        obtain rfl := Option.some.inj h
        refine ⟨hs.held, ?_, ?_, ?_, hs.spaced⟩
        · intro d k' t' hd
          change (s.setPhase c _).phase d = _ at hd
          rw [setPhase_phase] at hd
          split at hd
          · next hsame =>
            obtain ⟨rfl, rfl⟩ := Phase.fetching.inj hd
            exact ⟨congrArg some hsame.symm, hstale⟩
          · have hnobody := (hs.owner d k' t' hd).1
            rw [howner] at hnobody
            cases hnobody
        · intro d k' document t' hd
          change (s.setPhase c _).phase d = _ at hd
          rw [setPhase_phase] at hd
          split at hd
          · cases hd
          · exact hs.served d k' document t' hd
        · intro d k' outcome hd
          change (s.setPhase c _).phase d = _ at hd
          rw [setPhase_phase] at hd
          split at hd
          · cases hd
          · exact hs.fetched d k' outcome hd
    · cases h
  | finish c outcome now =>
    simp only [step] at h
    split at h
    · next k lookedAt hfetching =>
      obtain rfl := Option.some.inj h
      exact good_finish hs hfetching outcome now
    · cases h
  | abandon c =>
    simp only [step] at h
    split at h
    · obtain rfl := Option.some.inj h
      exact good_setPhase hs (by simp) (by simp) (by simp)
    · cases h

theorem good_run {s : State κ δ τ ε} {es : List (Event κ δ τ ε)}
    (h : Run (fnStep (step deadline)) State.new es s) : Good deadline s :=
  Run.invariant (fun _ _ _ hs he => good_step hs he) h good_new

/-- A step ends at most one fetch. -/
theorem step_log {s t : State κ δ τ ε} {e : Event κ δ τ ε} (h : step deadline s e = some t) :
    t.log = s.log ∨ ∃ c k lookedAt outcome now, e = .finish c outcome now ∧
      t.log = s.log ++ [⟨c, k, lookedAt, outcome, now⟩] := by
  cases e with
  | look c k now =>
    simp only [step] at h
    split at h
    · split at h
      · exact .inl (by rw [← Option.some.inj h]; rfl)
      · exact .inl (by rw [← Option.some.inj h]; rfl)
    · cases h
  | acquire c now =>
    simp only [step] at h
    split at h
    · split at h
      · exact .inl (by rw [← Option.some.inj h]; rfl)
      · exact .inl (by rw [← Option.some.inj h]; rfl)
    · cases h
  | finish c outcome now =>
    simp only [step] at h
    split at h
    · obtain rfl := Option.some.inj h
      exact .inr ⟨c, _, _, outcome, now, rfl, rfl⟩
    · cases h
  | abandon c =>
    simp only [step] at h
    split at h
    · exact .inl (by rw [← Option.some.inj h]; rfl)
    · cases h

/-- The fetches that have ended are those whose ends have happened. -/
theorem log_run {s : State κ δ τ ε} {es : List (Event κ δ τ ε)}
    (h : Run (fnStep (step deadline)) State.new es s) :
    ∀ f ∈ s.log, .finish f.call f.outcome f.endedAt ∈ es := by
  induction h with
  | nil =>
    intro f hf
    cases hf
  | snoc _ he ih =>
    intro f hf
    obtain hlog | ⟨c, k, lookedAt, outcome, now, rfl, hlog⟩ := step_log he
    · rw [hlog] at hf
      exact List.mem_append_left _ (ih f hf)
    · rw [hlog, List.mem_append, List.mem_singleton] at hf
      obtain hf | rfl := hf
      · exact List.mem_append_left _ (ih f hf)
      · exact List.mem_append_right _ (List.mem_singleton.2 rfl)

end Steps

end PyLib.DoubleChecked
