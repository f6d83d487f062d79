import Mathlib.Data.List.Induction
import Mathlib.Order.Defs.Unbundled
import AxiamSdk.Lib.Dict

/-! # Dictionaries whose entries expire

Every entry has a deadline and is dead from then on. Dead entries are dropped by some of the operations.

* `Step`: an operation with its reading of the clock; `next`, `after`: what operations leave.
* `get?_after_iff`: what is held under a key, for any readings of the clock.
* `stored_claim_iff`: when a key can be claimed.
* `taken_after_iff`: what is taken, by a clock that never goes back. -/

namespace PyLib.Expiring
set_option autoImplicit false

variable {κ ν τ : Type*}

/-- `put` and `claim` drop the dead entries first; `claim` stores only under a key that is not held then. -/
inductive Step (κ ν τ : Type*)
  | put (now : τ) (k : κ) (v : ν) (deadline : τ)
  | claim (now : τ) (k : κ) (v : ν) (deadline : τ)
  | take (now : τ) (k : κ)
  | sweep (now : τ)

namespace Step

def now : Step κ ν τ → τ
  | .put now _ _ _ | .claim now _ _ _ | .take now _ | .sweep now => now

/-- The operation drops the dead entries. -/
def sweeps : Step κ ν τ → Bool
  | .take _ _ => false
  | _ => true

variable [DecidableEq κ]

/-- Whatever is held under the key is not held after the operation. -/
def replaces (k : κ) : Step κ ν τ → Bool
  | .put _ k' _ _ | .take _ k' => decide (k' = k)
  | _ => false

end Step

variable [DecidableEq κ] [LE τ] [DecidableLE τ]

abbrev Store (κ ν τ : Type*) [DecidableEq κ] := Dict κ (ν × τ)

def dropDead (now : τ) (d : Store κ ν τ) : Store κ ν τ := d.filter (fun p => !decide (p.2.2 ≤ now))

def next (d : Store κ ν τ) : Step κ ν τ → Store κ ν τ
  | .put now k v deadline => (dropDead now d).set k (v, deadline)
  | .claim now k v deadline =>
    if (dropDead now d).contains k then dropDead now d else (dropDead now d).set k (v, deadline)
  | .take _ k => d.erase k
  | .sweep now => dropDead now d

def after (es : List (Step κ ν τ)) : Store κ ν τ := es.foldl next Dict.empty

/-- What the operation stores, and under which key. -/
def stored (d : Store κ ν τ) : Step κ ν τ → Option (κ × ν × τ)
  | .put _ k v deadline => some (k, v, deadline)
  | .claim now k v deadline => if (dropDead now d).contains k then none else some (k, v, deadline)
  | _ => none

/-! ## One operation -/

theorem get?_dropDead (now : τ) (d : Store κ ν τ) (k : κ) (v : ν) (deadline : τ) :
    (dropDead now d).get? k = some (v, deadline) ↔ d.get? k = some (v, deadline) ∧ ¬ deadline ≤ now := by
  unfold dropDead
  rw [Dict.get?_filter_eq_some, Bool.not_eq_true', decide_eq_false_iff_not]

/-- What is held after an operation was stored by it, or was held before and has survived. -/
theorem get?_next (d : Store κ ν τ) (e : Step κ ν τ) (k : κ) (v : ν) (deadline : τ) :
    (next d e).get? k = some (v, deadline) ↔
      stored d e = some (k, v, deadline) ∨
        (d.get? k = some (v, deadline) ∧ e.replaces k = false ∧ (e.sweeps = true → ¬ deadline ≤ e.now)) := by
  cases e with
  | put now k' v' deadline' =>
    simp only [next, stored, Step.replaces, Step.sweeps, Step.now, Option.some.injEq, Prod.mk.injEq,
      decide_eq_false_iff_not, forall_const]
    rw [Dict.get?_set]
    by_cases hk : k' = k
    · simp [hk]
    · rw [if_neg hk, get?_dropDead]
      simp [hk]
  | claim now k' v' deadline' =>
    simp only [next, stored, Step.replaces, Step.sweeps, Step.now, true_and, forall_const]
    by_cases hheld : (dropDead now d).contains k' = true
    · rw [if_pos hheld, if_pos hheld, get?_dropDead]
      simp
    · rw [if_neg hheld, if_neg hheld, Dict.get?_set]
      by_cases hk : k' = k
      · subst hk
        have hnone : ¬ (d.get? k' = some (v, deadline) ∧ ¬ deadline ≤ now) := by
          intro h
          exact hheld ((Dict.contains_iff _ _).2 ⟨_, (get?_dropDead now d k' v deadline).2 h⟩)
        simp [hnone]
      · rw [if_neg hk, get?_dropDead]
        simp [hk]
  | take now k' =>
    simp only [next, stored, Step.replaces, Step.sweeps, decide_eq_false_iff_not]
    rw [Dict.get?_erase]
    by_cases hk : k' = k <;> simp [hk]
  | sweep now =>
    simp only [next, stored, Step.replaces, Step.sweeps, Step.now, true_and, forall_const]
    rw [get?_dropDead]
    simp

/-! ## Histories -/

theorem after_snoc (es : List (Step κ ν τ)) (e : Step κ ν τ) : after (es ++ [e]) = next (after es) e := by
  simp [after]

/-- The entry was stored by one of the operations, none since has replaced it, and none that drops the dead
entries has found it dead. -/
def Survives (es : List (Step κ ν τ)) (k : κ) (v : ν) (deadline : τ) : Prop :=
  ∃ pre e post, es = pre ++ e :: post ∧ stored (after pre) e = some (k, v, deadline) ∧
    ∀ f ∈ post, f.replaces k = false ∧ (f.sweeps = true → ¬ deadline ≤ f.now)

theorem survives_snoc (es : List (Step κ ν τ)) (e : Step κ ν τ) (k : κ) (v : ν) (deadline : τ) :
    Survives (es ++ [e]) k v deadline ↔
      stored (after es) e = some (k, v, deadline) ∨
        (Survives es k v deadline ∧ e.replaces k = false ∧ (e.sweeps = true → ¬ deadline ≤ e.now)) := by
  constructor
  · rintro ⟨pre, f, post, hes, hstored, hpost⟩
    cases post using List.reverseRecOn with
    | nil =>
      obtain ⟨rfl, hlast⟩ := List.append_inj' hes rfl
      obtain rfl := List.singleton_inj.1 hlast
      exact .inl hstored
    | append_singleton post g =>
      rw [← List.cons_append, ← List.append_assoc] at hes
      obtain ⟨rfl, hlast⟩ := List.append_inj' hes rfl
      obtain rfl := List.singleton_inj.1 hlast
      refine .inr ⟨⟨pre, f, post, rfl, hstored, fun h hh => hpost h (by simp [hh])⟩, hpost e (by simp)⟩
  · rintro (hstored | ⟨⟨pre, f, post, rfl, hstored, hpost⟩, he⟩)
    · exact ⟨es, e, [], rfl, hstored, by simp⟩
    · refine ⟨pre, f, post ++ [e], by simp, hstored, ?_⟩
      intro g hg
      rw [List.mem_append, List.mem_singleton] at hg
      obtain hg | rfl := hg
      · exact hpost g hg
      · exact he

/-- **What is held**, whatever the readings of the clock. -/
theorem get?_after_iff (es : List (Step κ ν τ)) (k : κ) (v : ν) (deadline : τ) :
    (after es).get? k = some (v, deadline) ↔ Survives es k v deadline := by
  induction es using List.reverseRecOn with
  | nil =>
    refine iff_of_false (by simp [after]) ?_
    rintro ⟨pre, e, post, hes, -, -⟩
    simp at hes
  | append_singleton es e ih => rw [after_snoc, get?_next, ih, survives_snoc]

/-! ## Claiming -/

theorem stored_claim (d : Store κ ν τ) (now : τ) (k : κ) (v : ν) (deadline : τ) :
    stored d (.claim now k v deadline) = if (dropDead now d).contains k then none else some (k, v, deadline) := rfl

/-- **A key can be claimed** unless an entry under it has survived and is alive. -/
theorem stored_claim_iff (es : List (Step κ ν τ)) (now : τ) (k : κ) (v : ν) (deadline : τ) :
    stored (after es) (.claim now k v deadline) = some (k, v, deadline) ↔
      ∀ v' deadline', Survives es k v' deadline' → deadline' ≤ now := by
  have hheld : (dropDead now (after es)).contains k = true ↔
      ∃ v' deadline', Survives es k v' deadline' ∧ ¬ deadline' ≤ now := by
    rw [Dict.contains_iff]
    constructor
    · rintro ⟨⟨v', deadline'⟩, h⟩
      rw [get?_dropDead, get?_after_iff] at h
      exact ⟨v', deadline', h⟩
    · rintro ⟨v', deadline', h⟩
      refine ⟨(v', deadline'), ?_⟩
      rw [get?_dropDead, get?_after_iff]
      exact h
  rw [stored_claim]
  by_cases hc : (dropDead now (after es)).contains k = true
  · obtain ⟨v', deadline', hsurvives, halive⟩ := hheld.1 hc
    rw [if_pos hc]
    exact iff_of_false (by simp) (fun h => halive (h v' deadline' hsurvives))
  · rw [if_neg hc]
    refine iff_of_true rfl fun v' deadline' hsurvives => ?_
    by_contra halive
    exact hc (hheld.2 ⟨v', deadline', hsurvives, halive⟩)

/-! ## Taking -/

/-- What is taken: the entry under the key, unless it is dead. -/
def taken (d : Store κ ν τ) (now : τ) (k : κ) : Option ν :=
  match d.get? k with
  | none => none
  | some (v, deadline) => if deadline ≤ now then none else some v

theorem taken_iff (d : Store κ ν τ) (now : τ) (k : κ) (v : ν) :
    taken d now k = some v ↔ ∃ deadline, d.get? k = some (v, deadline) ∧ ¬ deadline ≤ now := by
  unfold taken
  cases hget : d.get? k with
  | none => simp
  | some p =>
    obtain ⟨v', deadline⟩ := p
    by_cases hdead : deadline ≤ now
    · simp [hdead]
    · simp [hdead, and_comm]

/-- The operation stored the entry, and none after it has replaced it. -/
def LastStored (es : List (Step κ ν τ)) (k : κ) (v : ν) (deadline : τ) : Prop :=
  ∃ pre e post, es = pre ++ e :: post ∧ stored (after pre) e = some (k, v, deadline) ∧
    ∀ f ∈ post, f.replaces k = false

/-- **What is taken**, by a clock that never goes back: the dropping of dead entries is invisible. -/
theorem taken_after_iff [IsTrans τ (· ≤ ·)] {es : List (Step κ ν τ)} {now : τ} (hclock : ∀ e ∈ es, e.now ≤ now)
    (k : κ) (v : ν) :
    taken (after es) now k = some v ↔ ∃ deadline, LastStored es k v deadline ∧ ¬ deadline ≤ now := by
  rw [taken_iff]
  refine exists_congr fun deadline => and_congr_left fun halive => ?_
  rw [get?_after_iff]
  constructor
  · rintro ⟨pre, e, post, hes, hstored, hpost⟩
    exact ⟨pre, e, post, hes, hstored, fun f hf => (hpost f hf).1⟩
  · rintro ⟨pre, e, post, hes, hstored, hpost⟩
    refine ⟨pre, e, post, hes, hstored, fun f hf => ⟨hpost f hf, fun _ hdead => halive ?_⟩⟩
    have hle : f.now ≤ now := hclock f (by simp [hes, hf])
    exact IsTrans.trans _ _ _ hdead hle

/-! ## Histories inside a run -/

section Positions
variable {α β : Type*}

/-- A step of what a run does is done by one of its events. -/
theorem filterMap_split {f : α → Option β} {as : List α} {pre post : List β} {b : β}
    (h : as.filterMap f = pre ++ b :: post) :
    ∃ early a late, as = early ++ a :: late ∧ early.filterMap f = pre ∧ f a = some b ∧ late.filterMap f = post := by
  obtain ⟨first, rest, rfl, hfirst, hrest⟩ := List.filterMap_eq_append_iff.1 h
  obtain ⟨silent, a, late, rfl, hsilent, ha, hlate⟩ := List.filterMap_eq_cons_iff.1 hrest
  refine ⟨first ++ silent, a, late, (List.append_assoc ..).symm, ?_, ha, hlate⟩
  rw [List.filterMap_append, hfirst, List.filterMap_eq_nil_iff.2 hsilent, List.append_nil]

theorem split_at {as : List α} {i : ℕ} {a : α} (h : as[i]? = some a) : as = as.take i ++ a :: as.drop (i + 1) := by
  obtain ⟨hlt, rfl⟩ := List.getElem?_eq_some_iff.1 h
  rw [← List.drop_eq_getElem_cons hlt, List.take_append_drop]

theorem getElem?_split (early late : List α) (a : α) : (early ++ a :: late)[early.length]? = some a := by
  rw [List.getElem?_append_right (Nat.le_refl _), Nat.sub_self]
  rfl

theorem mem_of_getElem?_split {early late : List α} {a b : α} {m : ℕ} (hm : early.length < m)
    (h : (early ++ a :: late)[m]? = some b) : b ∈ late := by
  rw [List.getElem?_append_right (Nat.le_of_lt hm)] at h
  obtain ⟨n, hn⟩ : ∃ n, m - early.length = n + 1 := ⟨m - early.length - 1, by omega⟩
  rw [hn, List.getElem?_cons_succ] at h
  exact List.mem_of_getElem? h

theorem getElem?_of_mem_split {early late : List α} {b : α} (h : b ∈ late) (a : α) :
    ∃ m, early.length < m ∧ (early ++ a :: late)[m]? = some b := by
  obtain ⟨n, hn⟩ := List.getElem?_of_mem h
  refine ⟨early.length + (n + 1), by omega, ?_⟩
  rw [List.getElem?_append_right (Nat.le_add_right _ _), Nat.add_sub_cancel_left, List.getElem?_cons_succ]
  exact hn

end Positions

end PyLib.Expiring
