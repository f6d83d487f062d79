import AxiamSdk.Authz

/-! # Refreshing one expired token from many calls (`_client.py`, `token/refresh_guard.py`)

Calls that were sent with the same access token are answered 401 one by one; each then reads the
token in the jar, enters the guard with it and is sent again.

* `step`: the calls over one session, under every interleaving.
* `Stage`: how the jar and the guard's cache stand to the number of refreshes made.
* `one_refresh_iff`: one refresh is made exactly when no call reads the jar after a refresh has
  replaced the token (`Late`). -/

namespace AxiamSdk.ClientRefresh
open PyLib
set_option autoImplicit false

/-! ## Calls over one session -/

/-- Where a call is: its request is under way, it was answered 401, it is about to enter the guard
with the token it observed, its refresh is under way or answered, or it has left the guard. -/
inductive Phase
  | sent (token : PyStr) (retry : Bool)
  | refused
  | entering (observed : PyStr)
  | posting
  | answered (fresh : Refreshed)
  | left
  | ended

/-- The access token `T` of the calls, and what `_refresh_identifiers` needs besides a token. -/
structure Setting where
  platform : Platform
  resolvedOrgId : Json
  token : PyStr

/-- `refresh` gets as far as the guard with this token in the jar. -/
def Setting.usable (S : Setting) (access : PyStr) : Bool :=
  !access.isEmpty && isOk (refreshIdentifiers S.platform (ClientState.start S.resolvedOrgId) access)

/-- The token in the jar, the guard with the call that holds its lock, the calls, and the number of
refreshes made. -/
structure State where
  access : PyStr
  guard : RefreshGuard
  holder : Option ℕ
  calls : ℕ → Option Phase
  posts : ℕ

inductive Event
  | send (c : ℕ)
  | answer (c : ℕ) (unauthorized : Bool)
  | observe (c : ℕ)
  | enter (c : ℕ)
  | posted (c : ℕ) (fresh : Refreshed)
  | leave (c : ℕ)
  | resend (c : ℕ)

def Event.call : Event → ℕ
  | .send c | .answer c _ | .observe c | .enter c | .posted c _ | .leave c | .resend c => c

def setCall (s : State) (c : ℕ) (phase : Phase) : State :=
  { s with calls := Function.update s.calls c (some phase) }

/-- One step. The calls are those sent while the jar holds `T`, a request with another token is not
answered 401, and a refresh succeeds with a token other than `T`. -/
def step (S : Setting) (s : State) : Event → Option State
  | .send c =>
    match s.calls c with
    | none => if s.access = S.token then some (setCall s c (.sent s.access false)) else none
    | _ => none
  | .answer c unauthorized =>
    match s.calls c with
    | some (.sent token retry) =>
      if unauthorized then
        if token = S.token then some (setCall s c (if retry then .ended else .refused)) else none
      else some (setCall s c .ended)
    | _ => none
  | .observe c =>
    match s.calls c with
    | some .refused => some (setCall s c (if S.usable s.access then .entering s.access else .ended))
    | _ => none
  | .enter c =>
    match s.calls c, s.holder with
    | some (.entering observed), none =>
      if s.guard.shouldSkipRefresh observed then some (setCall s c .left)
      else some { setCall s c .posting with holder := some c, posts := s.posts + 1 }
    | _, _ => none
  | .posted c fresh =>
    match s.calls c with
    | some .posting =>
      if fresh.access = S.token then none
      else some { setCall s c (.answered fresh) with access := fresh.access }
    | _ => none
  | .leave c =>
    match s.calls c with
    | some (.answered fresh) =>
      some { setCall s c .left with
        guard := s.guard.seed fresh.access fresh.refresh fresh.exp, holder := none }
    | _ => none
  | .resend c =>
    match s.calls c with
    | some .left => some (setCall s c (.sent s.access true))
    | _ => none

/-- The session when the first call is sent: the guard is new, or was given `T` with the rest of its
triple at the sign-in or refresh that brought it. -/
def start (S : Setting) (seeded : Option (Option PyStr × Json)) : State where
  access := S.token
  guard := match seeded with
    | none => RefreshGuard.new
    | some (refresh, exp) => RefreshGuard.new.seed S.token refresh exp
  holder := none
  calls := fun _ => none
  posts := 0

/-- A call that was answered 401 reads its baseline after a refresh has replaced the token. -/
def Late (S : Setting) (s : State) (e : Event) : Prop :=
  ∃ c, e = .observe c ∧ s.calls c = some .refused ∧ s.access ≠ S.token ∧ S.usable s.access = true

/-- Every call has ended. -/
def Finished (s : State) : Prop := ∀ c phase, s.calls c = some phase → phase = .ended

/-! ### What a step does -/

/-- Neither about to enter the guard nor in it. -/
def Phase.outside : Phase → Prop
  | .entering _ | .posting | .answered _ => False
  | _ => True

/-- The steps by what they change. -/
inductive Move (S : Setting) (s : State) : Event → State → Prop
  | outside {e : Event} (c : ℕ) (phase : Phase) (hevent : e.call = c) (hnew : phase.outside)
      (hold : ∀ old, s.calls c = some old → old.outside) (hlate : ¬ Late S s e)
      (henter : ∀ c, e ≠ .enter c) : Move S s e (setCall s c phase)
  | observe (c : ℕ) (hcall : s.calls c = some .refused) (husable : S.usable s.access = true) :
      Move S s (.observe c) (setCall s c (.entering s.access))
  | skip (c : ℕ) (o : PyStr) (hcall : s.calls c = some (.entering o)) (hfree : s.holder = none)
      (hskip : s.guard.shouldSkipRefresh o = true) : Move S s (.enter c) (setCall s c .left)
  | post (c : ℕ) (o : PyStr) (hcall : s.calls c = some (.entering o)) (hfree : s.holder = none)
      (hskip : s.guard.shouldSkipRefresh o = false) : Move S s (.enter c)
        { setCall s c .posting with holder := some c, posts := s.posts + 1 }
  | posted (c : ℕ) (fresh : Refreshed) (hcall : s.calls c = some .posting)
      (hfresh : fresh.access ≠ S.token) : Move S s (.posted c fresh)
        { setCall s c (.answered fresh) with access := fresh.access }
  | leave (c : ℕ) (fresh : Refreshed) (hcall : s.calls c = some (.answered fresh)) :
      Move S s (.leave c) { setCall s c .left with
        guard := s.guard.seed fresh.access fresh.refresh fresh.exp, holder := none }

theorem step_move {S : Setting} {s s' : State} {e : Event} (h : step S s e = some s') :
    Move S s e s' := by
  have hlate : (∀ c, e ≠ .observe c) → ¬ Late S s e := by
    rintro hne ⟨c, he, _⟩
    exact hne c he
  have hold : ∀ {c : ℕ} {found : Phase}, s.calls c = some found → found.outside →
      ∀ old, s.calls c = some old → old.outside := by
    intro c found hc hout old ho
    obtain rfl := Option.some.inj (hc.symm.trans ho)
    exact hout
  cases e with
  | send c =>
    simp only [step] at h
    split at h
    · next hc =>
      split at h
      · cases h
        exact .outside c _ rfl trivial (by simp [hc]) (hlate (by simp)) (by simp)
      · cases h
    · cases h
  | answer c unauthorized =>
    simp only [step] at h
    split at h
    · next token retry hc =>
      split at h
      · split at h
        · cases h
          refine .outside c _ rfl ?_ (hold hc trivial) (hlate (by simp)) (by simp)
          cases retry <;> trivial
        · cases h
      · cases h
        exact .outside c _ rfl trivial (hold hc trivial) (hlate (by simp)) (by simp)
    · cases h
  | observe c =>
    simp only [step] at h
    split at h
    · next hc =>
      cases h
      cases hu : S.usable s.access with
      | true => exact .observe c hc hu
      | false =>
        refine .outside c _ rfl trivial (hold hc trivial) ?_ (by simp)
        rintro ⟨_, _, _, _, hu'⟩
        rw [hu] at hu'
        cases hu'
    · cases h
  | enter c =>
    simp only [step] at h
    split at h
    · next o hc hfree =>
      split at h
      · next hskip =>
        cases h
        exact .skip c o hc hfree hskip
      · next hskip =>
        cases h
        exact .post c o hc hfree (by simpa using hskip)
    · cases h
  | posted c fresh =>
    simp only [step] at h
    split at h
    · next hc =>
      split at h
      · cases h
      · next hfresh =>
        cases h
        exact .posted c fresh hc hfresh
    · cases h
  | leave c =>
    simp only [step] at h
    split at h
    · next fresh hc =>
      cases h
      exact .leave c fresh hc
    · cases h
  | resend c =>
    simp only [step] at h
    split at h
    · next hc =>
      cases h
      exact .outside c _ rfl trivial (hold hc trivial) (hlate (by simp)) (by simp)
    · cases h

theorem run_frame {S : Setting} {s s' : State} {es : List Event} (h : Run (fnStep (step S)) s es s')
    {c : ℕ} (hc : ∀ e ∈ es, e.call ≠ c) : s'.calls c = s.calls c := by
  induction h with
  | nil => rfl
  | @snoc u v es e _ hstep ih =>
    have hne : c ≠ e.call := (hc e (by simp)).symm
    have hsame := ih (fun e' he' => hc e' (List.mem_append_left _ he'))
    rw [← hsame]
    cases step_move hstep with
    | outside d phase hevent =>
      subst hevent
      exact Function.update_of_ne hne _ _
    | _ => exact Function.update_of_ne hne _ _

/-! ## The invariant -/

/-- The guard's cache has nothing newer than `T`. -/
def InStep (S : Setting) (g : RefreshGuard) : Prop := g.hasAny = false ∨ g.cachedAccess = some S.token

/-- How far the first refresh is: not made, under way, answered, stored; or there were others. -/
inductive Stage (S : Setting) (s : State) : Prop
  | before (posts : s.posts = 0) (holder : s.holder = none) (access : s.access = S.token)
      (guard : InStep S s.guard)
  | underWay (c : ℕ) (posts : s.posts = 1) (holder : s.holder = some c)
      (call : s.calls c = some .posting) (access : s.access = S.token) (guard : InStep S s.guard)
  | arrived (c : ℕ) (fresh : Refreshed) (posts : s.posts = 1) (holder : s.holder = some c)
      (call : s.calls c = some (.answered fresh)) (same : s.access = fresh.access)
      (access : s.access ≠ S.token) (guard : InStep S s.guard)
  | stored (posts : s.posts = 1) (holder : s.holder = none) (access : s.access ≠ S.token)
      (any : s.guard.hasAny = true) (cached : s.guard.cachedAccess = some s.access)
  | again (posts : 2 ≤ s.posts)

structure Inv (S : Setting) (s : State) : Prop where
  stage : Stage S s
  /-- Only the holder of the lock refreshes. -/
  holder : ∀ c phase, s.calls c = some phase → (phase = .posting ∨ ∃ fresh, phase = .answered fresh) →
    s.holder = some c
  /-- Up to the first refresh a call enters with `T` or with the token in the jar. -/
  observed : s.posts ≤ 1 → ∀ c o, s.calls c = some (.entering o) → o = S.token ∨ o = s.access

theorem inv_start (S : Setting) (seeded : Option (Option PyStr × Json)) : Inv S (start S seeded) where
  stage := by
    refine .before rfl rfl rfl ?_
    cases seeded with
    | none => exact Or.inl rfl
    | some triple => exact Or.inr rfl
  holder := by
    intro c phase hc
    cases hc
  observed := by
    intro _ c o hc
    cases hc

section Steps
variable {S : Setting} {s s' : State} {e : Event}

theorem calls_setCall (s : State) (c d : ℕ) (phase : Phase) :
    (setCall s c phase).calls d = if d = c then some phase else s.calls d := by
  by_cases hd : d = c
  · subst hd
    simp [setCall]
  · rw [if_neg hd]
    exact Function.update_of_ne hd _ _

theorem Stage.setCall_other {c : ℕ} (h : Stage S s) (phase : Phase)
    (hpost : s.calls c ≠ some .posting) (hans : ∀ fresh, s.calls c ≠ some (.answered fresh)) :
    Stage S (setCall s c phase) := by
  cases h with
  | before posts holder access guard => exact .before posts holder access guard
  | underWay d posts holder call access guard =>
    have hne : d ≠ c := by
      rintro rfl
      exact hpost call
    exact .underWay d posts holder (by rw [calls_setCall, if_neg hne, call]) access guard
  | arrived d fresh posts holder call same access guard =>
    have hne : d ≠ c := by
      rintro rfl
      exact hans fresh call
    exact .arrived d fresh posts holder (by rw [calls_setCall, if_neg hne, call]) same access guard
  | stored posts holder access any cached => exact .stored posts holder access any cached
  | again posts => exact .again posts

theorem Inv.setCall_other {c : ℕ} {phase : Phase} (h : Inv S s)
    (hpost : s.calls c ≠ some .posting) (hans : ∀ fresh, s.calls c ≠ some (.answered fresh))
    (hnew : ¬ (phase = .posting ∨ ∃ fresh, phase = .answered fresh))
    (hobs : ∀ o, phase = .entering o → o = S.token ∨ o = s.access) : Inv S (setCall s c phase) where
  stage := h.stage.setCall_other phase hpost hans
  holder := by
    intro d found hd hkind
    rw [calls_setCall] at hd
    split at hd
    · obtain rfl := Option.some.inj hd
      exact absurd hkind hnew
    · exact h.holder d found hd hkind
  observed := by
    intro hposts d o hd
    rw [calls_setCall] at hd
    split at hd
    · exact hobs o (Option.some.inj hd)
    · exact h.observed hposts d o hd

theorem inv_step (h : Inv S s) (hs : step S s e = some s') : Inv S s' := by
  cases step_move hs with
  | outside c phase _ hnew hold =>
    refine h.setCall_other (fun hc => hold _ hc) (fun fresh hc => hold _ hc) ?_ ?_
    · rintro (rfl | ⟨fresh, rfl⟩)
      · exact hnew
      · exact hnew
    · rintro o rfl
      exact hnew.elim
  | observe c hcall =>
    refine h.setCall_other (by simp [hcall]) (by simp [hcall]) (by simp) ?_
    intro o ho
    exact Or.inr (Phase.entering.inj ho).symm
  | skip c o hcall => exact h.setCall_other (by simp [hcall]) (by simp [hcall]) (by simp) (by simp)
  | post c o hcall hfree =>
    refine ⟨?_, ?_, ?_⟩
    · cases h.stage with
      | before posts _ access guard =>
        refine .underWay c ?_ rfl ?_ access guard
        · show s.posts + 1 = 1
          rw [posts]
        · exact (calls_setCall s c c _).trans (if_pos rfl)
      | underWay d _ holder => exact absurd (hfree.symm.trans holder) (by simp)
      | arrived d _ _ holder => exact absurd (hfree.symm.trans holder) (by simp)
      | stored posts =>
        refine .again ?_
        show 2 ≤ s.posts + 1
        omega
      | again posts =>
        refine .again ?_
        show 2 ≤ s.posts + 1
        omega
    · intro d found hd hkind
      have hd' := (calls_setCall s c d _).symm.trans hd
      split at hd'
      · next hdc => rw [hdc]
      · have hholder := h.holder d found hd' hkind
        rw [hfree] at hholder
        cases hholder
    · intro hposts d o hd
      have hd' := (calls_setCall s c d _).symm.trans hd
      have hle : s.posts + 1 ≤ 1 := hposts
      split at hd'
      · cases hd'
      · exact h.observed (by omega) d o hd'
  | posted c fresh hcall hfresh =>
    have hheld := h.holder c _ hcall (Or.inl rfl)
    refine ⟨?_, ?_, ?_⟩
    · cases h.stage with
      | before _ holder => exact absurd (hheld.symm.trans holder) (by simp)
      | underWay d posts holder call access guard =>
        exact .arrived c fresh posts hheld ((calls_setCall s c c _).trans (if_pos rfl)) rfl hfresh guard
      | arrived d other _ holder call =>
        obtain rfl := Option.some.inj (hheld.symm.trans holder)
        exact absurd (hcall.symm.trans call) (by simp)
      | stored _ holder => exact absurd (hheld.symm.trans holder) (by simp)
      | again posts => exact .again posts
    · intro d found hd hkind
      have hd' := (calls_setCall s c d _).symm.trans hd
      split at hd'
      · next hdc => exact hdc ▸ hheld
      · exact h.holder d found hd' hkind
    · intro hposts d o hd
      have hd' := (calls_setCall s c d _).symm.trans hd
      split at hd'
      · cases hd'
      · have hold := h.observed hposts d o hd'
        cases h.stage with
        | before _ holder => exact absurd (hheld.symm.trans holder) (by simp)
        | underWay _ _ _ _ access => exact Or.inl (hold.elim id (fun ho => ho.trans access))
        | arrived d' other _ holder call =>
          obtain rfl := Option.some.inj (hheld.symm.trans holder)
          exact absurd (hcall.symm.trans call) (by simp)
        | stored _ holder => exact absurd (hheld.symm.trans holder) (by simp)
        | again posts =>
          have hle : s.posts ≤ 1 := hposts
          omega
  | leave c fresh hcall =>
    have hheld := h.holder c _ hcall (Or.inr ⟨fresh, rfl⟩)
    refine ⟨?_, ?_, ?_⟩
    · cases h.stage with
      | before _ holder => exact absurd (hheld.symm.trans holder) (by simp)
      | underWay d _ holder call =>
        obtain rfl := Option.some.inj (hheld.symm.trans holder)
        exact absurd (hcall.symm.trans call) (by simp)
      | arrived d other posts holder call same access =>
        obtain rfl := Option.some.inj (hheld.symm.trans holder)
        obtain rfl : fresh = other := by simpa using hcall.symm.trans call
        exact .stored posts rfl access rfl (by rw [show (setCall s c .left).access = fresh.access from same]; rfl)
      | stored _ holder => exact absurd (hheld.symm.trans holder) (by simp)
      | again posts => exact .again posts
    · intro d found hd hkind
      have hd' := (calls_setCall s c d _).symm.trans hd
      split at hd'
      · obtain rfl := Option.some.inj hd'
        rcases hkind with hk | ⟨_, hk⟩ <;> cases hk
      · next hdc =>
        have hholder := h.holder d found hd' hkind
        exact absurd (Option.some.inj (hheld.symm.trans hholder)).symm hdc
    · intro hposts d o hd
      have hd' := (calls_setCall s c d _).symm.trans hd
      split at hd'
      · cases hd'
      · exact h.observed hposts d o hd'

/-! ## A second refresh -/

/-- A second refresh was made, or a call is about to enter the guard with another token than `T`. -/
def Marked (S : Setting) (s : State) : Prop :=
  2 ≤ s.posts ∨ ∃ c o, s.calls c = some (.entering o) ∧ o ≠ S.token

/-- A call that does not enter the guard and was not about to leaves the mark as it is. -/
theorem marked_other (c : ℕ) (phase : Phase) (hold : ∀ o, s.calls c ≠ some (.entering o))
    (hnew : ∀ o, phase ≠ .entering o) (hposts : s'.posts = s.posts)
    (hcalls : s'.calls = (setCall s c phase).calls) : Marked S s' ↔ Marked S s := by
  have hiff : ∀ d o, s'.calls d = some (.entering o) ↔ s.calls d = some (.entering o) := by
    intro d o
    rw [hcalls, calls_setCall]
    split
    · next hd =>
      rw [hd]
      simp [hold o, hnew o]
    · rfl
  simp only [Marked, hposts, hiff]

theorem shouldSkip_eq (g : RefreshGuard) (o : PyStr) :
    g.shouldSkipRefresh o = true ↔ g.hasAny = true ∧ g.cachedAccess ≠ some o := by
  simp [RefreshGuard.shouldSkipRefresh]

/-- **One step** marks the state exactly when a call reads the jar late. -/
theorem marked_step (h : Inv S s) (hs : step S s e = some s') :
    Marked S s' ↔ Marked S s ∨ Late S s e := by
  have hnever : (∀ c, e ≠ .observe c) → ¬ Late S s e := by
    rintro hne ⟨c, he, _⟩
    exact hne c he
  cases step_move hs with
  | outside c phase _ hnew hold hlate =>
    have hnot : ∀ o, phase ≠ .entering o := by
      rintro o rfl
      exact hnew
    have hsame : Marked S (setCall s c phase) ↔ Marked S s :=
      marked_other c phase (fun o hc => hold _ hc) hnot rfl rfl
    simp [hsame, hlate]
  | observe c hcall husable =>
    have hl : Late S s (.observe c) ↔ s.access ≠ S.token := by
      constructor
      · rintro ⟨_, _, _, hne, _⟩
        exact hne
      · exact fun hne => ⟨c, rfl, hcall, hne, husable⟩
    rw [hl]
    constructor
    · rintro (hposts | ⟨d, o, hd, ho⟩)
      · exact Or.inl (Or.inl hposts)
      · rw [calls_setCall] at hd
        split at hd
        · obtain rfl := Phase.entering.inj (Option.some.inj hd)
          exact Or.inr ho
        · exact Or.inl (Or.inr ⟨d, o, hd, ho⟩)
    · rintro ((hposts | ⟨d, o, hd, ho⟩) | hne)
      · exact Or.inl hposts
      · have hdc : d ≠ c := by
          rintro rfl
          rw [hcall] at hd
          cases hd
        exact Or.inr ⟨d, o, by rw [calls_setCall, if_neg hdc, hd], ho⟩
      · exact Or.inr ⟨c, s.access, by rw [calls_setCall, if_pos rfl], hne⟩
  | skip c o hcall hfree hskip =>
    have hl : ¬ Late S s (.enter c) := hnever (by simp)
    simp only [hl, or_false]
    constructor
    · rintro (hposts | ⟨d, o', hd, ho'⟩)
      · exact Or.inl hposts
      · rw [calls_setCall] at hd
        split at hd
        · cases hd
        · exact Or.inr ⟨d, o', hd, ho'⟩
    · rintro (hposts | ⟨d, o', hd, ho'⟩)
      · exact Or.inl hposts
      · by_cases hdc : d = c
        · subst hdc
          obtain rfl : o = o' := by simpa using hcall.symm.trans hd
          -- a call that reads the jar after the first refresh finds its own token in the cache
          left
          show 2 ≤ s.posts
          by_contra hlt
          have hobs := (h.observed (by omega) d o hd).resolve_left ho'
          obtain ⟨_, hcached⟩ := (shouldSkip_eq _ _).1 hskip
          cases h.stage with
          | before _ _ access => exact ho' (hobs.trans access)
          | underWay _ _ holder => exact absurd (hfree.symm.trans holder) (by simp)
          | arrived _ _ _ holder => exact absurd (hfree.symm.trans holder) (by simp)
          | stored _ _ _ _ cached => exact hcached (by rw [cached, hobs])
          | again posts => exact hlt posts
        · exact Or.inr ⟨d, o', by rw [calls_setCall, if_neg hdc, hd], ho'⟩
  | post c o hcall hfree hskip =>
    have hl : ¬ Late S s (.enter c) := hnever (by simp)
    simp only [hl, or_false]
    have hkept : ∀ d o', (setCall s c .posting).calls d = some (.entering o') →
        s.calls d = some (.entering o') := by
      intro d o' hd
      rw [calls_setCall] at hd
      split at hd
      · cases hd
      · exact hd
    constructor
    · rintro (hposts | ⟨d, o', hd, ho'⟩)
      · have hle : 2 ≤ s.posts + 1 := hposts
        cases h.stage with
        | before posts => omega
        | underWay _ _ holder => exact absurd (hfree.symm.trans holder) (by simp)
        | arrived _ _ _ holder => exact absurd (hfree.symm.trans holder) (by simp)
        | stored posts _ access any cached =>
          have hsame : s.guard.cachedAccess = some o := by
            by_contra hne
            rw [(shouldSkip_eq _ _).2 ⟨any, hne⟩] at hskip
            cases hskip
          obtain rfl : s.access = o := Option.some.inj (cached.symm.trans hsame)
          exact Or.inr ⟨c, s.access, hcall, access⟩
        | again posts => exact Or.inl posts
      · exact Or.inr ⟨d, o', hkept d o' hd, ho'⟩
    · rintro (hposts | ⟨d, o', hd, ho'⟩)
      · left
        show 2 ≤ s.posts + 1
        omega
      · by_cases hp : 1 ≤ s.posts
        · left
          show 2 ≤ s.posts + 1
          omega
        · have hobs := (h.observed (by omega) d o' hd).resolve_left ho'
          cases h.stage with
          | before _ _ access => exact absurd (hobs.trans access) ho'
          | underWay _ posts => omega
          | arrived _ _ posts => omega
          | stored posts => omega
          | again posts => omega
  | posted c fresh hcall =>
    have hl : ¬ Late S s (.posted c fresh) := hnever (by simp)
    simp only [hl, or_false]
    exact marked_other c (.answered fresh) (by simp [hcall]) (by simp) rfl rfl
  | leave c fresh hcall =>
    have hl : ¬ Late S s (.leave c) := hnever (by simp)
    simp only [hl, or_false]
    exact marked_other c .left (by simp [hcall]) (by simp) rfl rfl

/-- A call that enters the guard finds that a refresh was made, or makes one. -/
theorem posts_pos (h : Inv S s) (hs : step S s e = some s') :
    s.posts ≤ s'.posts ∧ ∀ c, e = .enter c → 1 ≤ s'.posts := by
  cases step_move hs with
  | outside c phase _ _ _ _ henter => exact ⟨Nat.le_refl _, fun d hd => absurd hd (henter d)⟩
  | observe c => exact ⟨Nat.le_refl _, by simp⟩
  | skip c o hcall hfree hskip =>
    refine ⟨Nat.le_refl _, fun _ _ => ?_⟩
    show 1 ≤ s.posts
    obtain ⟨hany, hcached⟩ := (shouldSkip_eq _ _).1 hskip
    by_contra hlt
    cases h.stage with
    | before posts _ access guard =>
      have hobs : o = S.token := (h.observed (by omega) c o hcall).elim id (fun ho => ho.trans access)
      rcases guard with hnone | hsome
      · rw [hnone] at hany
        cases hany
      · exact hcached (by rw [hsome, hobs])
    | underWay _ posts => omega
    | arrived _ _ posts => omega
    | stored posts => omega
    | again posts => omega
  | post c =>
    refine ⟨Nat.le_succ _, fun _ _ => ?_⟩
    show 1 ≤ s.posts + 1
    omega
  | posted c => exact ⟨Nat.le_refl _, by simp⟩
  | leave c => exact ⟨Nat.le_refl _, by simp⟩

end Steps

/-- What a run keeps: the invariant, the mark, and a refresh once a call has entered the guard. -/
theorem run_kept (S : Setting) (seeded : Option (Option PyStr × Json)) {es : List Event} {s : State}
    (h : Run (fnStep (step S)) (start S seeded) es s) :
    Inv S s ∧ (Marked S s ↔ ¬ Run.Always (fnStep (step S)) (start S seeded) es
      (fun t e => ¬ Late S t e)) ∧ ∀ c, Event.enter c ∈ es → 1 ≤ s.posts := by
  induction h with
  | nil =>
    refine ⟨inv_start S seeded, ?_, by simp⟩
    simp [Marked, start, Run.Always]
  | @snoc s t es e hrun hstep ih =>
    obtain ⟨hinv, hiff, hpos⟩ := ih
    obtain ⟨hle, henter⟩ := posts_pos hinv hstep
    refine ⟨inv_step hinv hstep, ?_, ?_⟩
    · rw [marked_step hinv hstep, hiff, Run.Always.snoc_iff, not_and_or]
      have hlast : Late S s e ↔ ¬ ∀ u v, Run (fnStep (step S)) (start S seeded) es u →
          fnStep (step S) u e v → ¬ Late S u e := by
        constructor
        · exact fun hlate hall => hall s t hrun hstep hlate
        · intro hnot
          by_contra hlate
          refine hnot (fun u v hu _ => ?_)
          obtain rfl := hrun.unique hu
          exact hlate
      rw [hlast]
    · intro c hc
      rcases List.mem_append.1 hc with hc | hc
      · exact (hpos c hc).trans hle
      · exact henter c (List.mem_singleton.1 hc).symm

/-- **One refresh for one expired token.** Once a call has entered the guard, exactly one refresh is
made as long as no call that was answered 401 reads the jar after a refresh has replaced the token;
and when every call has ended, only then. -/
theorem one_refresh_iff (S : Setting) (seeded : Option (Option PyStr × Json)) {es : List Event}
    {s : State} (h : Run (fnStep (step S)) (start S seeded) es s) {c : ℕ}
    (henter : Event.enter c ∈ es) :
    (Run.Always (fnStep (step S)) (start S seeded) es (fun t e => ¬ Late S t e) → s.posts = 1) ∧
      (Finished s → s.posts = 1 →
        Run.Always (fnStep (step S)) (start S seeded) es (fun t e => ¬ Late S t e)) := by
  obtain ⟨_, hmark, hpos⟩ := run_kept S seeded h
  have hge := hpos c henter
  constructor
  · intro hall
    have hnot : ¬ 2 ≤ s.posts := fun hposts => hmark.1 (Or.inl hposts) hall
    omega
  · intro hdone hone
    by_contra hlate
    rcases hmark.2 hlate with hposts | ⟨d, o, hd, _⟩
    · omega
    · cases hdone d _ hd

/-! ## A late 401 -/

namespace LateCall

/-- A token with the claims `tenant_id` and `org_id`, told apart by its signature. -/
def token (signature : PyStr) : PyStr :=
  lit "h.eyJ0ZW5hbnRfaWQiOiJ0LTEiLCJvcmdfaWQiOiJvLTEifQ." ++ signature

def fresh (signature : PyStr) : Refreshed := ⟨token signature, none, .null⟩

def platform : Platform := ⟨⟨4300, 990, 990, fun _ => []⟩, fun _ _ => [], fun _ => none⟩

def setting : Setting := ⟨platform, .null, token (lit "0")⟩

/-- Two calls are answered 401; the second is processed after the first has refreshed. -/
def events : List Event :=
  [.send 1, .send 2, .answer 1 true, .answer 2 true, .observe 1, .enter 1, .posted 1 (fresh (lit "1")),
    .leave 1, .resend 1, .answer 1 false, .observe 2, .enter 2, .posted 2 (fresh (lit "2")), .leave 2,
    .resend 2, .answer 2 false]

def afterEvents : Option State := exec (step setting) (start setting (some (none, .null))) events

theorem afterEvents_isSome : afterEvents.isSome = true := by decide +kernel

def state : State := afterEvents.get afterEvents_isSome

theorem run : Run (fnStep (step setting)) (start setting (some (none, .null))) events state :=
  exec_run (Option.some_get afterEvents_isSome).symm

/-- The call has ended. -/
def endedAt (s : State) (c : ℕ) : Bool :=
  match s.calls c with
  | some .ended => true
  | _ => false

theorem both_ended : endedAt state 1 = true ∧ endedAt state 2 = true := by decide +kernel

theorem ended_of_endedAt {s : State} {c : ℕ} {phase : Phase} (h : endedAt s c = true)
    (hc : s.calls c = some phase) : phase = .ended := by
  unfold endedAt at h
  rw [hc] at h
  cases phase with
  | ended => rfl
  | _ => cases h

theorem finished : Finished state := by
  intro c phase hc
  by_cases h1 : c = 1
  · subst h1
    exact ended_of_endedAt both_ended.1 hc
  by_cases h2 : c = 2
  · subst h2
    exact ended_of_endedAt both_ended.2 hc
  have hother : ∀ e ∈ events, e.call ≠ c := by
    simp only [events, List.forall_mem_cons, Event.call]
    simp [Ne.symm h1, Ne.symm h2]
  rw [run_frame run hother] at hc
  cases hc

theorem posts : state.posts = 2 := by decide +kernel

end LateCall

open LateCall in
theorem late_call_observes : ¬ Run.Always (fnStep (step setting)) (start setting (some (none, .null)))
    events (fun t e => ¬ Late setting t e) := by
  intro h
  have henter : Event.enter 1 ∈ events := by simp [events]
  have hone := (one_refresh_iff setting (some (none, .null)) run henter).1 h
  rw [posts] at hone
  cases hone

open LateCall in
/-- A call whose 401 is processed after another call's refresh makes a second one. -/
theorem not_one_refresh : ¬ ∀ (S : Setting) (seeded : Option (Option PyStr × Json)) (es : List Event)
    (s : State) (c : ℕ), Run (fnStep (step S)) (start S seeded) es s → Finished s →
      Event.enter c ∈ es → s.posts = 1 := by
  intro h
  have hone := h _ _ _ _ 1 run finished (by simp [events])
  rw [posts] at hone
  cases hone

end AxiamSdk.ClientRefresh
