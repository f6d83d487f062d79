import AxiamSdk.Token.RefreshLock

/-! # A refresh that yields no token (`token/refresh_guard.py`)

`_store_refreshed` stores what `do_refresh` returned before `_require_cached_access` looks at it.

* `refreshIfNeededSync`: the sync entry point; `finish_iff`: the async one makes the same of its `do_refresh`.
* `Unchanged.eq`: a guard that answers as before is the guard as it was.
* `failed_refresh_iff`: a refresh without a token raises and changes nothing exactly if `do_refresh` raised,
  or returned no more than a guard holds that has lost its token already. -/

namespace AxiamSdk.RefreshLock
open PyLib
set_option autoImplicit false

/-! ## The sync entry point -/

/-- The members of the mapping, or the attributes of the object, that `do_refresh` returns. -/
structure Returned where
  access : Option (Option PyStr)
  refresh : Option (Option PyStr)
  exp : Option Json

/-- `result.get`, or `getattr` with the default `None` -/
def Returned.read (r : Returned) : RefreshResult := ⟨r.access.join, r.refresh.join, r.exp.getD .null⟩

/-- A call of `refresh_if_needed_sync` or `refresh_if_needed_async`. -/
structure Call where
  observed : Option PyStr
  doRefresh : Except Exc Returned

/-- `_should_skip_refresh` -/
def skips (g : RefreshGuard) (observed : Option PyStr) : Bool := observed.any g.shouldSkipRefresh

/-- `refresh_if_needed_sync` -/
def refreshIfNeededSync (g : RefreshGuard) (c : Call) : Except Exc PyStr × RefreshGuard :=
  if skips g c.observed then (g.requireCachedAccess, g)
  else match c.doRefresh with
    | .error e => (.error e, g)
    | .ok result => ((storeRefreshed g result.read).requireCachedAccess, storeRefreshed g result.read)

/-- What the callers that come one after the other are handed. -/
def handed (g : RefreshGuard) : List Call → List (Except Exc PyStr)
  | [] => []
  | c :: cs => (refreshIfNeededSync g c).1 :: handed (refreshIfNeededSync g c).2 cs

/-- How the awaited `do_refresh()` of the call ends. -/
def Call.workEnd (c : Call) : WorkEnd :=
  match c.doRefresh with
  | .error _ => .raised
  | .ok result => .refreshed result.read

/-! ## A refresh without a token -/

def RefreshResult.hasToken (r : RefreshResult) : Bool := r.access.any (!·.isEmpty)

/-- `do_refresh` raises, or returns no access token, or an empty one. -/
def Call.YieldsNoToken (c : Call) : Prop := ∀ result, c.doRefresh = .ok result → result.read.hasToken = false

/-- All that a guard tells its callers is the same. -/
structure Unchanged (g g' : RefreshGuard) : Prop where
  access : g'.cachedAccess = g.cachedAccess
  refresh : g'.cachedRefresh = g.cachedRefresh
  exp : g'.cachedExp = g.cachedExp
  skip : ∀ observed, skips g' observed = skips g observed
  later : ∀ calls, handed g' calls = handed g calls

/-- The result has no access member, and the guard has lost its token to such a result already and holds the
rest of this one. -/
structure Held (g : RefreshGuard) (r : RefreshResult) : Prop where
  noAccess : r.access = none
  hasAny : g.hasAny = true
  access : g.cachedAccess = none
  refresh : r.refresh.any (!·.isEmpty) = true → r.refresh = g.cachedRefresh
  exp : r.exp = g.cachedExp

/-- `do_refresh` raises, or its result is held already. -/
def Call.Harmless (g : RefreshGuard) (c : Call) : Prop := ∀ result, c.doRefresh = .ok result → Held g result.read

section Guard
variable {g g' : RefreshGuard} {r : RefreshResult} {c : Call}

theorem Unchanged.refl (g : RefreshGuard) : Unchanged g g := ⟨rfl, rfl, rfl, fun _ => rfl, fun _ => rfl⟩

/-- There is a token that the guard does not hold, and of it the answer is `_has_any`. -/
theorem exists_skips (access : Option PyStr) :
    ∃ o : PyStr, access ≠ some o ∧ ∀ g : RefreshGuard, g.cachedAccess = access → skips g (some o) = g.hasAny := by
  have hne : ∃ o : PyStr, access ≠ some o := by
    cases access with
    | none => exact ⟨[], by simp⟩
    | some a => exact ⟨ch 'a' :: a, by simp⟩
  obtain ⟨o, ho⟩ := hne
  refine ⟨o, ho, fun g hg => ?_⟩
  subst hg
  simp [skips, RefreshGuard.shouldSkipRefresh, ho]

theorem Unchanged.eq (h : Unchanged g g') : g' = g := by
  obtain ⟨o, _, ho⟩ := exists_skips g.cachedAccess
  have hany : g'.hasAny = g.hasAny := by
    rw [← ho g rfl, ← ho g' h.access]
    exact h.skip (some o)
  obtain ⟨access, refresh, exp, any⟩ := g
  obtain ⟨access', refresh', exp', any'⟩ := g'
  obtain ⟨haccess, hrefresh, hexp, _, _⟩ := h
  simp only at hany haccess hrefresh hexp
  rw [hany, haccess, hrefresh, hexp]

theorem unchanged_iff : Unchanged g g' ↔ g' = g :=
  ⟨Unchanged.eq, fun h => h ▸ Unchanged.refl g⟩

/-- Storing a result without access member leaves the guard as it is exactly if the guard holds it. -/
theorem storeRefreshed_eq_iff (hr : r.access = none) : storeRefreshed g r = g ↔ Held g r := by
  obtain ⟨access, refresh, exp, any⟩ := g
  constructor
  · intro h
    simp only [storeRefreshed, RefreshGuard.mk.injEq] at h
    obtain ⟨haccess, hrefresh, hexp, hany⟩ := h
    refine ⟨hr, hany.symm, ?_, fun ht => ?_, hexp⟩
    · rw [← haccess, hr]
    · rw [if_pos ht] at hrefresh
      exact hrefresh
  · intro h
    have haccess : access = none := h.access
    have hany : any = true := h.hasAny
    have hexp : r.exp = exp := h.exp
    simp only [storeRefreshed, RefreshGuard.mk.injEq]
    refine ⟨by rw [hr, haccess], ?_, hexp, hany.symm⟩
    by_cases ht : r.refresh.any (!·.isEmpty) = true
    · rw [if_pos ht]
      exact h.refresh ht
    · rw [if_neg ht]

theorem requireCachedAccess_store :
    (∃ e, (storeRefreshed g r).requireCachedAccess = .error e) ↔ r.access = none := by
  cases haccess : r.access with
  | none => simp [RefreshGuard.requireCachedAccess, storeRefreshed, haccess]
  | some a => simp [RefreshGuard.requireCachedAccess, storeRefreshed, haccess]

theorem requireCached_store : requireCached (storeRefreshed g r) = .raised ↔ r.access = none := by
  rw [← requireCachedAccess_store (g := g), requireCached]
  cases (storeRefreshed g r).requireCachedAccess with
  | ok a => simp
  | error e => simp

theorem store_iff : (r.access = none ∧ Unchanged g (storeRefreshed g r)) ↔ Held g r := by
  rw [unchanged_iff]
  constructor
  · rintro ⟨hr, h⟩
    exact (storeRefreshed_eq_iff hr).1 h
  · intro h
    exact ⟨h.noAccess, (storeRefreshed_eq_iff h.noAccess).2 h⟩

theorem sync_iff (hcalled : skips g c.observed = false) :
    ((∃ e, (refreshIfNeededSync g c).1 = .error e) ∧ Unchanged g (refreshIfNeededSync g c).2) ↔ c.Harmless g := by
  unfold refreshIfNeededSync Call.Harmless
  rw [hcalled]
  cases hdo : c.doRefresh with
  | error e => simp [Unchanged.refl]
  | ok result =>
    have hstore := store_iff (g := g) (r := result.read)
    rw [← requireCachedAccess_store (g := g)] at hstore
    simpa using hstore

end Guard

/-! ## The async entry point -/

section Async
variable {s s' : State} {t : ℕ} {c : Call}

/-- Only the end of an awaited call changes the guard, and its task holds the lock. -/
theorem move_guard {locked locked' : Bool} {g g' : RefreshGuard} {e : Event} {old : Option Task} {new : Task}
    (h : move locked g e old = some (new, locked', g')) :
    g' = g ∨ ∃ entry result, e = .finish e.task result ∧ old = some ⟨entry, .critical, none⟩ ∧
      (afterWork g entry result).map Prod.snd = some g' := by
  unfold move at h
  split at h
  · cases h
    exact Or.inl rfl
  · cases h
    exact Or.inl rfl
  · split at h
    · cases h
    · cases h
      exact Or.inl rfl
  · split at h
    · cases h
      exact Or.inl rfl
    · cases h
      exact Or.inl rfl
  · cases h
    exact Or.inl rfl
  · next t result entry =>
    obtain ⟨end_, hend, hnew⟩ := Option.map_eq_some_iff.1 h
    cases hnew
    exact Or.inr ⟨entry, result, rfl, rfl, by rw [hend]; rfl⟩
  · cases h
    exact Or.inl rfl
  · cases h
    exact Or.inl rfl
  · cases h
    exact Or.inl rfl
  · cases h

theorem step_guard {e : Event} (hs : step s e = some s') : s'.guard = s.guard ∨
    ∃ entry result, e = .finish e.task result ∧ s.tasks e.task = some ⟨entry, .critical, none⟩ ∧
      (afterWork s.guard entry result).map Prod.snd = some s'.guard := by
  obtain ⟨new, hmove, -⟩ := step_eq hs
  exact move_guard hmove

/-- While a task is in its critical section, the others leave the guard as it is. -/
theorem critical_guard {entry : Entry} (hinv : Inv s) (ht : s.tasks t = some ⟨entry, .critical, none⟩)
    {es : List Event} (hrun : Run (fnStep step) s es s') (hother : ∀ e ∈ es, e.task ≠ t) :
    s'.guard = s.guard := by
  induction hrun with
  | nil => rfl
  | @snoc u v es e hrun hstep ih =>
    have hothers : ∀ e ∈ es, e.task ≠ t := fun e' he' => hother e' (List.mem_append_left _ he')
    rw [← ih hothers]
    obtain hsame | ⟨entry', result, -, htask, -⟩ := step_guard hstep
    · exact hsame
    · have hu : Inv u := hrun.invariant (fun _ _ _ h hs => inv_step h hs) hinv
      have hheld : u.heldBy t = true := by
        rw [State.heldBy, run_frame hrun hothers, ht]
        rfl
      have hheld' : u.heldBy e.task = true := by
        rw [State.heldBy, htask]
        rfl
      exact absurd (hu.alone _ _ hheld' hheld) (hother e (by simp))

/-- `finish` does what the sync entry point does after the test. -/
theorem finish_iff (ht : s.tasks t = some ⟨.refreshIfNeeded c.observed, .critical, none⟩)
    (hs : step s (.finish t c.workEnd) = some s') :
    ((∃ k, s'.tasks t = some k ∧ k.phase = .ended .raised) ∧ Unchanged s.guard s'.guard) ↔
      c.Harmless s.guard := by
  obtain ⟨new, hmove, htasks⟩ := step_eq hs
  simp only [Event.task] at hmove htasks
  rw [ht] at hmove
  have hnew : s'.tasks t = some new := by rw [htasks, Function.update_self]
  rw [hnew]
  unfold Call.Harmless
  cases hdo : c.doRefresh with
  | error e =>
    simp only [Call.workEnd, hdo, move, afterWork, Option.map_some, Option.some.injEq, Prod.mk.injEq] at hmove
    obtain ⟨rfl, -, hguard⟩ := hmove
    rw [← hguard]
    simp [Unchanged.refl]
  | ok result =>
    simp only [Call.workEnd, hdo, move, afterWork, Option.map_some, Option.some.injEq, Prod.mk.injEq] at hmove
    obtain ⟨rfl, -, hguard⟩ := hmove
    have hstore := store_iff (g := s.guard) (r := result.read)
    rw [← requireCached_store (g := s.guard)] at hstore
    rw [← hguard]
    simpa using hstore

/-! ### Callers that come later -/

/-- A caller that is told to skip its refresh is handed a token. -/
def Serves (g : RefreshGuard) : Prop :=
  ∀ observed, skips g observed = true → ∃ token, g.requireCachedAccess = .ok token ∧ token ≠ []

theorem serves_store (g : RefreshGuard) {r : RefreshResult} (h : r.hasToken = true) : Serves (storeRefreshed g r) := by
  intro observed _
  obtain ⟨access, refresh, exp⟩ := r
  cases access with
  | none => cases h
  | some token =>
    refine ⟨token, rfl, ?_⟩
    rintro rfl
    cases h

/-- The event ends a refresh whose result has no token, and the guard does not hold the result already. -/
def Spoils (s : State) (e : Event) : Prop :=
  ∃ t r, e = .finish t (.refreshed r) ∧ r.hasToken = false ∧ ¬ Held s.guard r

theorem serves_step {e : Event} (h : Serves s.guard) (hs : step s e = some s') (he : ¬ Spoils s e) :
    Serves s'.guard := by
  obtain hsame | ⟨entry, result, hev, -, hafter⟩ := step_guard hs
  · rw [hsame]
    exact h
  · cases result with
    | refreshed r =>
      cases entry with
      | runExclusive => cases hafter
      | refreshIfNeeded observed =>
        simp only [afterWork, Option.map_some, Option.some.injEq] at hafter
        rw [← hafter]
        by_cases htoken : r.hasToken = true
        · exact serves_store _ htoken
        · have hheld : Held s.guard r := by
            by_contra hnot
            exact he ⟨e.task, r, hev, by simpa using htoken, hnot⟩
          rw [(storeRefreshed_eq_iff hheld.noAccess).2 hheld]
          exact h
    | done =>
      cases entry with
      | runExclusive =>
        simp only [afterWork, Option.map_some, Option.some.injEq] at hafter
        rw [← hafter]
        exact h
      | refreshIfNeeded observed => cases hafter
    | raised =>
      have hguard : s.guard = s'.guard := by
        cases entry with
        | runExclusive => simpa [afterWork] using hafter
        | refreshIfNeeded observed => simpa [afterWork] using hafter
      rw [← hguard]
      exact h

theorem serves_run {guard : RefreshGuard} (h : Serves guard) {es : List Event}
    (hrun : Run (fnStep step) (start guard) es s)
    (hall : Run.Always (fnStep step) (start guard) es (fun u e => ¬ Spoils u e)) : Serves s.guard := by
  induction hrun with
  | nil => exact h
  | @snoc u v es e hrun hstep ih =>
    rw [Run.Always.snoc_iff] at hall
    exact serves_step (ih hall.1) hstep (hall.2 u v hrun hstep)

end Async

/-! ## A failed refresh -/

/-- **A refresh that yields no token.** The sync call, and the async one over its critical section, raises
and leaves the guard as it was exactly if the result is held already; and callers are served in every run
without another such result. -/
theorem failed_refresh_iff (guard : RefreshGuard) :
    (∀ c : Call, skips guard c.observed = false → c.YieldsNoToken →
      (((∃ e, (refreshIfNeededSync guard c).1 = .error e) ∧ Unchanged guard (refreshIfNeededSync guard c).2) ↔
        c.Harmless guard)) ∧
    (∀ (before during : List Event) (s u v : State) (t : ℕ) (c : Call),
      Run (fnStep step) (start guard) before s →
      s.tasks t = some ⟨.refreshIfNeeded c.observed, .critical, none⟩ →
      Run (fnStep step) s during u → (∀ e ∈ during, e.task ≠ t) →
      step u (.finish t c.workEnd) = some v → c.YieldsNoToken →
      (((∃ k, v.tasks t = some k ∧ k.phase = .ended .raised) ∧ Unchanged s.guard v.guard) ↔
        c.Harmless s.guard)) ∧
    (∀ (es : List Event) (s : State), Serves guard →
      Run (fnStep step) (start guard) es s →
      Run.Always (fnStep step) (start guard) es (fun u e => ¬ Spoils u e) → Serves s.guard) := by
  refine ⟨fun c hcalled _ => sync_iff hcalled, ?_, fun es s h hrun hall => serves_run h hrun hall⟩
  intro before during s u v t c hbefore ht hduring hother hstep _
  have hinv : Inv s := hbefore.invariant (fun _ _ _ h hs => inv_step h hs) (inv_start guard)
  rw [← critical_guard hinv ht hduring hother]
  refine finish_iff ?_ hstep
  rw [run_frame hduring hother]
  exact ht

namespace NoAccessMember

/-- The guard after a sign-in, and a call whose `do_refresh` returns no access member. -/
def guard : RefreshGuard := RefreshGuard.new.seed (lit "a0") (some (lit "r0")) .null

def call : Call := ⟨some (lit "a0"), .ok ⟨none, some (some (lit "r1")), none⟩⟩

theorem yieldsNoToken : call.YieldsNoToken := by
  intro result h
  cases h
  rfl

/-- Its `do_refresh` raises. -/
def raising : Call := ⟨none, .error .runtimeError⟩

theorem raising_yieldsNoToken : raising.YieldsNoToken := by
  intro result h
  cases h

theorem raising_harmless : raising.Harmless guard := by
  intro result h
  cases h

/-- One task up to the call of its `do_refresh`. -/
def events : List Event := [.call 1 (.refreshIfNeeded none), .take 1, .obtain 1, .resume 1]

theorem events_isSome : (exec step (start guard) events).isSome = true := rfl

def called : State := (exec step (start guard) events).get events_isSome

theorem run_called : Run (fnStep step) (start guard) events called := exec_run (Option.some_get events_isSome).symm

end NoAccessMember

open NoAccessMember in
/-- A `do_refresh` that raises, in the sync call and in the async one. -/
theorem failed_refresh_raised :
    ((∃ e, (refreshIfNeededSync guard raising).1 = .error e) ∧
      Unchanged guard (refreshIfNeededSync guard raising).2) ∧
    ∃ v, step called (.finish 1 raising.workEnd) = some v ∧ Unchanged guard v.guard ∧ Serves guard := by
  have hserves : Serves guard := fun _ _ => ⟨lit "a0", rfl, by decide⟩
  refine ⟨((failed_refresh_iff guard).1 raising rfl raising_yieldsNoToken).2 raising_harmless,
    ⟨false, guard, Function.update called.tasks 1 (some ⟨.refreshIfNeeded none, .ended .raised, none⟩)⟩, rfl, ?_, ?_⟩
  · exact (((failed_refresh_iff guard).2.1 events [] called called _ 1 raising run_called rfl (Run.nil _) (by simp) rfl
      raising_yieldsNoToken).2 raising_harmless).2
  · exact (failed_refresh_iff guard).2.2 [] (start guard) hserves (Run.nil _) (by simp [Run.Always])

open NoAccessMember in
/-- A result without access member takes the token from the guard. -/
theorem not_failed_refresh : ¬ ∀ (g : RefreshGuard) (c : Call), skips g c.observed = false → c.YieldsNoToken →
    (∃ e, (refreshIfNeededSync g c).1 = .error e) ∧ Unchanged g (refreshIfNeededSync g c).2 := by
  intro h
  have haccess := (h guard call (by decide) yieldsNoToken).2.access
  cases haccess

end AxiamSdk.RefreshLock
