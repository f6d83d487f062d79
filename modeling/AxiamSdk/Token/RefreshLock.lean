import Mathlib.Logic.Function.Basic
import AxiamSdk.Authz

/-! # The async side of the refresh lock (`token/refresh_guard.py`)

`refresh_if_needed_async` and `run_exclusive_async` have a thread of the executor acquire the lock,
and release it themselves. A task that is cancelled while it awaits the executor leaves its thread
behind.

* `move`, `step`: what one event makes of its task, of the lock and of the guard's cache.
* `Inv`: the lock is held exactly for one task that is in its critical section or whose thread has
  the lock.
* `lock_released_iff`: once everything is quiet the lock is free exactly when no thread was left. -/

namespace AxiamSdk.RefreshLock
open PyLib
set_option autoImplicit false

/-! ## Tasks -/

/-- The async entry points, the first with its `observed_access`. -/
inductive Entry
  | refreshIfNeeded (observed : Option PyStr)
  | runExclusive

/-- The blocking `acquire()`: submitted, taken by a thread, or successful. -/
inductive Job
  | queued | running | acquired
  deriving DecidableEq, Repr

inductive Ending
  | returned | raised | cancelled
  deriving DecidableEq, Repr

/-- A task awaits the executor, or `do_refresh` (`fn`) with the lock held, or has ended. -/
inductive Phase
  | waiting | critical
  | ended (how : Ending)
  deriving DecidableEq, Repr

/-- A task with its acquire, until the task has resumed after it. -/
structure Task where
  entry : Entry
  phase : Phase
  job : Option Job

/-- The lock was acquired for the task and not released since. -/
def Task.holds (k : Task) : Bool := decide (k.phase = .critical) || decide (k.job = some .acquired)

/-- The task has ended, and a thread still is to acquire the lock for it, or has. -/
def Task.leftBehind (k : Task) : Bool :=
  match k.phase, k.job with
  | .ended _, some .running | .ended _, some .acquired => true
  | _, _ => false

/-- What `do_refresh` returns, as `_store_refreshed` reads it. -/
structure RefreshResult where
  access : Option PyStr
  refresh : Option PyStr
  exp : Json

/-- How the awaited `do_refresh()` or `fn()` ends. -/
inductive WorkEnd
  | refreshed (result : RefreshResult)
  | done
  | raised

/-- `_store_refreshed` -/
def storeRefreshed (g : RefreshGuard) (r : RefreshResult) : RefreshGuard where
  cachedAccess := r.access
  cachedRefresh := if r.refresh.any (!·.isEmpty) then r.refresh else g.cachedRefresh
  cachedExp := r.exp
  hasAny := true

/-- `_require_cached_access`, as the end of its caller. -/
def requireCached (g : RefreshGuard) : Ending :=
  match g.requireCachedAccess with
  | .ok _ => .returned
  | .error _ => .raised

/-- After the awaited call: the end of the entry point, and the cache. -/
def afterWork (g : RefreshGuard) : Entry → WorkEnd → Option (Ending × RefreshGuard)
  | .refreshIfNeeded _, .refreshed r => some (requireCached (storeRefreshed g r), storeRefreshed g r)
  | .runExclusive, .done => some (.returned, g)
  | _, .raised => some (.raised, g)
  | _, _ => none

/-! ## Steps -/

structure State where
  locked : Bool
  guard : RefreshGuard
  tasks : ℕ → Option Task

/-- The guard before its first async caller. -/
def start (guard : RefreshGuard) : State := ⟨false, guard, fun _ => none⟩

inductive Event
  /-- A task calls an entry point, which submits the acquire. -/
  | call (t : ℕ) (entry : Entry)
  /-- A thread of the executor takes the acquire. -/
  | take (t : ℕ)
  /-- The thread obtains the lock. -/
  | obtain (t : ℕ)
  /-- The task resumes after the acquire. -/
  | resume (t : ℕ)
  /-- The awaited call ends. -/
  | finish (t : ℕ) (result : WorkEnd)
  | cancel (t : ℕ)

def Event.task : Event → ℕ
  | .call t _ | .take t | .obtain t | .resume t | .finish t _ | .cancel t => t

/-- What an event makes of its task, the lock and the cache. Only an acquire that no thread has
taken yet is cancelled together with its task. -/
def move (locked : Bool) (g : RefreshGuard) : Event → Option Task → Option (Task × Bool × RefreshGuard)
  | .call _ entry, none => some (⟨entry, .waiting, some .queued⟩, locked, g)
  | .take _, some ⟨entry, .waiting, some .queued⟩ => some (⟨entry, .waiting, some .running⟩, locked, g)
  | .obtain _, some ⟨entry, phase, some .running⟩ =>
    if locked then none else some (⟨entry, phase, some .acquired⟩, true, g)
  | .resume _, some ⟨.refreshIfNeeded observed, .waiting, some .acquired⟩ =>
    if observed.any g.shouldSkipRefresh then
      some (⟨.refreshIfNeeded observed, .ended (requireCached g), none⟩, false, g)
    else some (⟨.refreshIfNeeded observed, .critical, none⟩, locked, g)
  | .resume _, some ⟨.runExclusive, .waiting, some .acquired⟩ =>
    some (⟨.runExclusive, .critical, none⟩, locked, g)
  | .finish _ result, some ⟨entry, .critical, none⟩ =>
    (afterWork g entry result).map (fun end_ => (⟨entry, .ended end_.1, none⟩, false, end_.2))
  | .cancel _, some ⟨entry, .waiting, some .queued⟩ =>
    some (⟨entry, .ended .cancelled, none⟩, locked, g)
  | .cancel _, some ⟨entry, .waiting, some job⟩ =>
    some (⟨entry, .ended .cancelled, some job⟩, locked, g)
  | .cancel _, some ⟨entry, .critical, none⟩ => some (⟨entry, .ended .cancelled, none⟩, false, g)
  | _, _ => none

def step (s : State) (e : Event) : Option State :=
  (move s.locked s.guard e (s.tasks e.task)).map (fun r =>
    ⟨r.2.1, r.2.2, Function.update s.tasks e.task (some r.1)⟩)

/-- The event cancels a task whose acquire a thread has taken, before the task has resumed. -/
def Leaks (s : State) (e : Event) : Prop :=
  ∃ t k, e = .cancel t ∧ s.tasks t = some k ∧ k.phase = .waiting ∧
    (k.job = some .running ∨ k.job = some .acquired)

/-- No task waits or is in its critical section, and the executor has no acquire pending. -/
def Quiet (s : State) : Prop :=
  ∀ t k, s.tasks t = some k → (∃ how, k.phase = .ended how) ∧
    k.job ≠ some .queued ∧ k.job ≠ some .running

/-! ### One event -/

/-- **What an event does to the lock**: nothing, or its task gets it, keeps it, or lets go of it. -/
theorem move_holds {locked locked' : Bool} {g g' : RefreshGuard} {e : Event} {old : Option Task}
    {new : Task} (h : move locked g e old = some (new, locked', g')) :
    (new.holds = old.any Task.holds ∧ locked' = locked) ∨
      (locked = false ∧ locked' = true ∧ new.holds = true) ∨
      (old.any Task.holds = true ∧ locked' = false ∧ new.holds = false) := by
  unfold move at h
  split at h
  · cases h
    exact Or.inl ⟨rfl, rfl⟩
  · cases h
    exact Or.inl ⟨rfl, rfl⟩
  · split at h
    · cases h
    next hfree =>
      cases h
      exact Or.inr (Or.inl ⟨by simpa using hfree, rfl, by simp [Task.holds]⟩)
  · split at h
    · cases h
      exact Or.inr (Or.inr ⟨rfl, rfl, rfl⟩)
    · cases h
      exact Or.inl ⟨rfl, rfl⟩
  · cases h
    exact Or.inl ⟨rfl, rfl⟩
  · obtain ⟨r, _, hr⟩ := Option.map_eq_some_iff.1 h
    cases hr
    exact Or.inr (Or.inr ⟨rfl, rfl, rfl⟩)
  · cases h
    exact Or.inl ⟨rfl, rfl⟩
  · cases h
    exact Or.inl ⟨by simp [Task.holds], rfl⟩
  · cases h
    exact Or.inr (Or.inr ⟨rfl, rfl, rfl⟩)
  · cases h

/-- A task that is left behind stays so, and only a cancellation that leaks leaves one. -/
theorem move_leftBehind {s : State} {e : Event} {new : Task} {r : Bool × RefreshGuard}
    (h : move s.locked s.guard e (s.tasks e.task) = some (new, r)) :
    new.leftBehind = true ↔ (s.tasks e.task).any Task.leftBehind = true ∨ Leaks s e := by
  have hcancel : ∀ t k, e = .cancel t → s.tasks t = some k → k.phase = .waiting →
      (Leaks s e ↔ k.job = some .running ∨ k.job = some .acquired) := by
    rintro t k rfl hk hphase
    constructor
    · rintro ⟨t', k', he, hk', _, hjob⟩
      obtain rfl := Event.cancel.inj he
      obtain rfl := Option.some.inj (hk.symm.trans hk')
      exact hjob
    · exact fun hjob => ⟨t, k, rfl, hk, hphase, hjob⟩
  have hother : (∀ t, e ≠ .cancel t) → ¬ Leaks s e := by
    rintro hne ⟨t, _, he, _⟩
    exact hne t he
  unfold move at h
  split at h
  · next hold =>
    cases h
    simp [hold, Task.leftBehind, hother]
  · next hold =>
    cases h
    simp [hold, Task.leftBehind, hother]
  · next phase hold =>
    split at h
    · cases h
    · cases h
      cases phase <;> simp [hold, Task.leftBehind, hother]
  · next hold =>
    split at h <;> cases h <;> simp [hold, Task.leftBehind, hother]
  · next hold =>
    cases h
    simp [hold, Task.leftBehind, hother]
  · next hold =>
    obtain ⟨r, _, hr⟩ := Option.map_eq_some_iff.1 h
    cases hr
    simp [hold, Task.leftBehind, hother]
  · next t entry hold =>
    cases h
    have hk : s.tasks t = some ⟨entry, .waiting, some .queued⟩ := hold
    rw [hcancel t _ rfl hk rfl]
    simp [Event.task, hk, Task.leftBehind]
  · next t entry job hnot hold =>
    cases h
    have hk : s.tasks t = some ⟨entry, .waiting, some job⟩ := hold
    rw [hcancel t _ rfl hk rfl]
    cases job with
    | queued => exact (hnot rfl).elim
    | running => simp [Task.leftBehind]
    | acquired => simp [Task.leftBehind]
  · next t entry hold =>
    cases h
    have hk : s.tasks t = some ⟨entry, .critical, none⟩ := hold
    have hnot : ¬ Leaks s (.cancel t) := by
      rintro ⟨t', k', he, hk', hphase, _⟩
      obtain rfl := Event.cancel.inj he
      obtain rfl := Option.some.inj (hk.symm.trans hk')
      cases hphase
    simp [Event.task, hk, Task.leftBehind, hnot]
  · cases h

theorem step_eq {s s' : State} {e : Event} (h : step s e = some s') :
    ∃ new, move s.locked s.guard e (s.tasks e.task) = some (new, s'.locked, s'.guard) ∧
      s'.tasks = Function.update s.tasks e.task (some new) := by
  obtain ⟨⟨new, locked, g⟩, hmove, rfl⟩ := Option.map_eq_some_iff.1 h
  exact ⟨new, hmove, rfl⟩

theorem run_frame {s s' : State} {es : List Event} (h : Run (fnStep step) s es s') {t : ℕ}
    (ht : ∀ e ∈ es, e.task ≠ t) : s'.tasks t = s.tasks t := by
  induction h with
  | nil => rfl
  | @snoc u v es e _ hstep ih =>
    obtain ⟨new, _, htasks⟩ := step_eq hstep
    have hne : t ≠ e.task := (ht e (by simp)).symm
    rw [htasks, Function.update_of_ne hne]
    exact ih (fun e' he' => ht e' (List.mem_append_left _ he'))

/-! ## The invariant -/

def State.heldBy (s : State) (t : ℕ) : Bool := (s.tasks t).any Task.holds

/-- The lock is held exactly if it was acquired for a task, and never for two. -/
structure Inv (s : State) : Prop where
  owner : s.locked = true ↔ ∃ t, s.heldBy t = true
  alone : ∀ t t', s.heldBy t = true → s.heldBy t' = true → t = t'

theorem inv_start (guard : RefreshGuard) : Inv (start guard) where
  owner := by
    constructor
    · intro h
      cases h
    · rintro ⟨t, ht⟩
      cases ht
  alone := by
    intro t t' ht
    cases ht

theorem heldBy_update {s s' : State} {t : ℕ} {new : Task}
    (h : s'.tasks = Function.update s.tasks t (some new)) (u : ℕ) :
    s'.heldBy u = if u = t then new.holds else s.heldBy u := by
  unfold State.heldBy
  rw [h]
  by_cases hu : u = t
  · subst hu
    simp
  · rw [Function.update_of_ne hu, if_neg hu]

theorem inv_step {s s' : State} {e : Event} (h : Inv s) (hs : step s e = some s') : Inv s' := by
  obtain ⟨new, hmove, htasks⟩ := step_eq hs
  have hheld := heldBy_update htasks
  rcases move_holds hmove with ⟨hnew, hlock⟩ | ⟨hfree, hlock, hnew⟩ | ⟨hold, hlock, hnew⟩
  · have hsame : ∀ u, s'.heldBy u = s.heldBy u := by
      intro u
      rw [hheld, hnew]
      split
      · next hu =>
        rw [hu]
        rfl
      · rfl
    refine ⟨?_, ?_⟩
    · simp only [hsame, hlock, h.owner]
    · simp only [hsame]
      exact h.alone
  · have hnone : ∀ u, s.heldBy u = false := by
      intro u
      by_contra hu
      rw [h.owner.2 ⟨u, by simpa using hu⟩] at hfree
      cases hfree
    refine ⟨?_, ?_⟩
    · rw [hlock]
      exact ⟨fun _ => ⟨e.task, by rw [hheld, if_pos rfl, hnew]⟩, fun _ => rfl⟩
    · intro t t' ht ht'
      rw [hheld, hnone] at ht ht'
      have hu : ∀ u, (if u = e.task then new.holds else false) = true → u = e.task := by
        intro u hu
        by_contra hne
        rw [if_neg hne] at hu
        cases hu
      rw [hu t ht, hu t' ht']
  · have hnone : ∀ u, s'.heldBy u = false := by
      intro u
      rw [hheld, hnew]
      split
      · rfl
      · next hne =>
        by_contra hu
        exact hne (h.alone u e.task (by simpa using hu) hold)
    refine ⟨?_, ?_⟩
    · rw [hlock]
      constructor
      · intro hc
        cases hc
      · rintro ⟨u, hu⟩
        rw [hnone] at hu
        cases hu
    · intro t t' ht
      rw [hnone] at ht
      cases ht

/-! ## The lock once all is quiet -/

/-- A task is left behind. -/
def State.abandoned (s : State) : Prop := ∃ t, (s.tasks t).any Task.leftBehind = true

theorem abandoned_step {s s' : State} {e : Event} (hs : step s e = some s') :
    s'.abandoned ↔ s.abandoned ∨ Leaks s e := by
  obtain ⟨new, hmove, htasks⟩ := step_eq hs
  have hnew := move_leftBehind hmove
  have hupdate : ∀ u, (s'.tasks u).any Task.leftBehind =
      if u = e.task then new.leftBehind else (s.tasks u).any Task.leftBehind := by
    intro u
    rw [htasks]
    by_cases hu : u = e.task
    · subst hu
      simp
    · rw [Function.update_of_ne hu, if_neg hu]
  constructor
  · rintro ⟨u, hu⟩
    rw [hupdate] at hu
    split at hu
    · exact (hnew.1 hu).imp (fun hold => ⟨e.task, hold⟩) id
    · exact Or.inl ⟨u, hu⟩
  · intro hor
    by_cases hn : new.leftBehind = true
    · exact ⟨e.task, by rw [hupdate, if_pos rfl, hn]⟩
    · rcases hor with ⟨u, hu⟩ | hleak
      · have hne : u ≠ e.task := by
          rintro rfl
          exact hn (hnew.2 (Or.inl hu))
        exact ⟨u, by rw [hupdate, if_neg hne, hu]⟩
      · exact absurd (hnew.2 (Or.inr hleak)) hn

/-- In a quiet state the lock is held for a task that was left behind, or it is free. -/
theorem quiet_locked {s : State} (h : Inv s) (hq : Quiet s) : s.locked = true ↔ s.abandoned := by
  rw [h.owner]
  have hiff : ∀ t, s.heldBy t = (s.tasks t).any Task.leftBehind := by
    intro t
    unfold State.heldBy
    cases hk : s.tasks t with
    | none => rfl
    | some k =>
      obtain ⟨⟨how, hphase⟩, hqueued, hrunning⟩ := hq t k hk
      simp only [Option.any_some, Task.holds, Task.leftBehind, hphase]
      cases hj : k.job with
      | none => simp
      | some job =>
        cases job with
        | queued => exact absurd hj hqueued
        | running => exact absurd hj hrunning
        | acquired => simp
  simp only [hiff, State.abandoned]

/-- **The lock is not leaked.** When no task waits or is in its critical section and the executor has
no acquire pending, the lock is free exactly when no task was cancelled after a thread had taken its
acquire and before it resumed. -/
theorem lock_released_iff (guard : RefreshGuard) {es : List Event} {s : State}
    (h : Run (fnStep step) (start guard) es s) (hq : Quiet s) :
    s.locked = false ↔ Run.Always (fnStep step) (start guard) es (fun t e => ¬ Leaks t e) := by
  have hboth : Inv s ∧ (¬ s.abandoned ↔
      Run.Always (fnStep step) (start guard) es (fun t e => ¬ Leaks t e)) := by
    clear hq
    induction h with
    | nil =>
      refine ⟨inv_start guard, ?_⟩
      simp [State.abandoned, start, Run.Always]
    | @snoc s t es e hrun hstep ih =>
      obtain ⟨hinv, hiff⟩ := ih
      refine ⟨inv_step hinv hstep, ?_⟩
      rw [abandoned_step hstep, not_or, hiff, Run.Always.snoc_iff]
      constructor
      · rintro ⟨hall, hnot⟩
        refine ⟨hall, fun u v hu _ => ?_⟩
        obtain rfl := hrun.unique hu
        exact hnot
      · rintro ⟨hall, hlast⟩
        exact ⟨hall, hlast s t hrun hstep⟩
  rw [← hboth.2, ← quiet_locked hboth.1 hq, Bool.not_eq_true]

/-! ## A lock that stays held -/

namespace CancelledWaiter

/-- One caller, cancelled while a thread acquires the lock for it. -/
def events : List Event := [.call 1 .runExclusive, .take 1, .cancel 1, .obtain 1]

def afterEvents : Option State := exec step (start RefreshGuard.new) events

theorem afterEvents_isSome : afterEvents.isSome = true := by decide +kernel

def state : State := afterEvents.get afterEvents_isSome

theorem run : Run (fnStep step) (start RefreshGuard.new) events state :=
  exec_run (Option.some_get afterEvents_isSome).symm

theorem task_one : state.tasks 1 = some ⟨.runExclusive, .ended .cancelled, some .acquired⟩ := rfl

theorem task_other {t : ℕ} (ht : t ≠ 1) : state.tasks t = none := by
  have hother : ∀ e ∈ events, e.task ≠ t := by simpa [events, Event.task] using ht.symm
  rw [run_frame run hother]
  rfl

theorem quiet : Quiet state := by
  intro t k hk
  by_cases ht : t = 1
  · subst ht
    obtain rfl := Option.some.inj (task_one.symm.trans hk)
    exact ⟨⟨_, rfl⟩, by decide, by decide⟩
  · rw [task_other ht] at hk
    cases hk

theorem locked : state.locked = true := rfl

end CancelledWaiter

open CancelledWaiter in
theorem cancelled_waiter_leaks : ¬ Run.Always (fnStep step) (start RefreshGuard.new) events
    (fun t e => ¬ Leaks t e) := by
  intro h
  have hfree := (lock_released_iff RefreshGuard.new run quiet).2 h
  rw [locked] at hfree
  cases hfree

open CancelledWaiter in
/-- A cancelled waiter can leave the lock held for good. -/
theorem not_lock_released : ¬ ∀ (guard : RefreshGuard) (es : List Event) (s : State),
    Run (fnStep step) (start guard) es s → Quiet s → s.locked = false := by
  intro h
  have hfree := h _ _ _ run quiet
  rw [locked] at hfree
  cases hfree

end AxiamSdk.RefreshLock
