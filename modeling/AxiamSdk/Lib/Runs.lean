import Mathlib.Data.List.Induction

/-! # Runs of a transition system

A system is a relation `step s e t`: in state `s` the event `e` may happen and leads to `t`.

* `Run step s es t`: the events `es`, in order, lead from `s` to `t`.
* `Run.invariant`: what the first state has and every step keeps holds after every run.
* `Run.mono`: a run of a restricted system is a run of the full one.
* `Run.simulate`: a run seen as one of another system.
* `Run.collects`: a table that grows ends with the row of every event.
* `Run.targets`: what a run makes of views that its events change one by one.
* `exec`: the executable reading of a deterministic system; `exec_run` turns it into a run. -/

namespace PyLib
set_option autoImplicit false

variable {σ ε : Type*}

/-! ## The run relation -/

/-- The events `es` lead from the first state to the last. -/
inductive Run (step : σ → ε → σ → Prop) : σ → List ε → σ → Prop
  | nil (s : σ) : Run step s [] s
  | snoc {s t u : σ} {es : List ε} {e : ε} :
      Run step s es t → step t e u → Run step s (es ++ [e]) u

namespace Run
variable {step step' : σ → ε → σ → Prop} {s t u : σ} {es fs : List ε} {e : ε}

theorem single (h : step s e t) : Run step s [e] t := by
  have h' := Run.snoc (Run.nil s) h
  simpa using h'

theorem append (h₁ : Run step s es t) (h₂ : Run step t fs u) : Run step s (es ++ fs) u := by
  induction h₂ with
  | nil => simpa using h₁
  | snoc _ hs ih =>
    have h := Run.snoc ih hs
    simpa only [List.append_assoc] using h

theorem cons (h : step s e t) (h' : Run step t es u) : Run step s (e :: es) u :=
  append (single h) h'

/-- **The invariant rule.** -/
theorem invariant {P : σ → Prop} (hstep : ∀ s e t, P s → step s e t → P t) (h : Run step s es t)
    (hs : P s) : P t := by
  induction h with
  | nil => exact hs
  | snoc _ he ih => exact hstep _ _ _ ih he

theorem mono (hle : ∀ s e t, step s e t → step' s e t) (h : Run step s es t) :
    Run step' s es t := by
  induction h with
  | nil => exact Run.nil _
  | snoc _ he ih => exact Run.snoc ih (hle _ _ _ he)

theorem snoc_inv (h : Run step s (es ++ [e]) u) : ∃ t, Run step s es t ∧ step t e u := by
  generalize hfs : es ++ [e] = fs at h
  cases h with
  | nil => simp at hfs
  | snoc h he =>
    obtain ⟨rfl, hee⟩ := List.append_inj' hfs rfl
    obtain rfl : e = _ := by simpa using hee
    exact ⟨_, h, he⟩

theorem nil_inv (h : Run step s [] t) : t = s := by
  generalize hnil : ([] : List ε) = fs at h
  cases h with
  | nil => rfl
  | snoc _ _ => simp at hnil

theorem single_inv (h : Run step s [e] t) : step s e t := by
  rw [← List.nil_append [e]] at h
  obtain ⟨u, hu, he⟩ := snoc_inv h
  rw [nil_inv hu] at he
  exact he

/-- A run over `es ++ fs` passes through a state reached by `es`. -/
theorem append_inv (h : Run step s (es ++ fs) u) : ∃ t, Run step s es t ∧ Run step t fs u := by
  induction fs using List.reverseRecOn generalizing u with
  | nil => exact ⟨u, by simpa using h, Run.nil u⟩
  | append_singleton gs g ih =>
    rw [← List.append_assoc] at h
    obtain ⟨v, hv, hg⟩ := snoc_inv h
    obtain ⟨t, ht, htv⟩ := ih hv
    exact ⟨t, ht, Run.snoc htv hg⟩

/-- **The simulation rule**: where the events of a run stand for those of another system, so does the run. -/
theorem simulate {σ' ε' : Type*} {next : σ' → ε' → σ' → Prop} (g : σ → σ') (f : ε' → ε) {as : List ε'}
    (hstep : ∀ s a t, a ∈ as → step s (f a) t → next (g s) a (g t)) (h : Run step s (as.map f) t) :
    Run next (g s) as (g t) := by
  induction as using List.reverseRecOn generalizing t with
  | nil =>
    rw [nil_inv h]
    exact Run.nil _
  | append_singleton as a ih =>
    rw [List.map_append, List.map_singleton] at h
    obtain ⟨u, hu, ha⟩ := snoc_inv h
    exact Run.snoc (ih (fun s b t hb => hstep s b t (List.mem_append_left _ hb)) hu) (hstep u a t (by simp) ha)

/-- **The collection rule**: where a table only grows and every event finds its row at the start or adds it, all
rows are there at the end. -/
theorem collects {α ρ : Type*} {f : α → ε} {as : List α} (table : σ → List ρ) (good : α → ρ → Prop)
    (hgrow : ∀ s a t, a ∈ as → step s (f a) t → ∀ row ∈ table s, row ∈ table t)
    (hdone : ∀ s a t, a ∈ as → step s (f a) t → (∃ row ∈ table u, good a row) ∨ ∃ row ∈ table t, good a row)
    (h : Run step u (as.map f) t) :
    (∀ row ∈ table u, row ∈ table t) ∧ ∀ a ∈ as, ∃ row ∈ table t, good a row := by
  induction as using List.reverseRecOn generalizing t with
  | nil =>
    rw [nil_inv h]
    exact ⟨fun _ hrow => hrow, by simp⟩
  | append_singleton as a ih =>
    rw [List.map_append, List.map_singleton] at h
    obtain ⟨v, hv, ha⟩ := snoc_inv h
    obtain ⟨hkept, hall⟩ := ih (fun s b t hb => hgrow s b t (List.mem_append_left _ hb))
      (fun s b t hb => hdone s b t (List.mem_append_left _ hb)) hv
    have hlast := hgrow v a t (by simp) ha
    refine ⟨fun row hrow => hlast row (hkept row hrow), ?_⟩
    intro b hb
    rw [List.mem_append, List.mem_singleton] at hb
    obtain hb | rfl := hb
    · obtain ⟨row, hrow, hgood⟩ := hall b hb
      exact ⟨row, hlast row hrow, hgood⟩
    · obtain ⟨row, hrow, hgood⟩ | hrow := hdone v b t (by simp) ha
      · exact ⟨row, hlast row (hkept row hrow), hgood⟩
      · exact hrow

/-- Every step of the event sequence, where it can be taken, has `P`. -/
def Always (step : σ → ε → σ → Prop) (s : σ) (es : List ε) (P : σ → ε → Prop) : Prop :=
  ∀ pre e post t u, es = pre ++ e :: post → Run step s pre t → step t e u → P t e

/-- Properties of single steps that agree wherever the invariant holds agree along every run. -/
theorem Always.congr {I : σ → Prop} {P Q : σ → ε → Prop} (hs : I s)
    (hstep : ∀ t e u, I t → step t e u → I u)
    (h : ∀ t e u, I t → step t e u → (P t e ↔ Q t e)) :
    Always step s es P ↔ Always step s es Q := by
  constructor
  · intro hP pre e post t u hes hrun he
    exact (h t e u (invariant hstep hrun hs) he).1 (hP pre e post t u hes hrun he)
  · intro hQ pre e post t u hes hrun he
    exact (h t e u (invariant hstep hrun hs) he).2 (hQ pre e post t u hes hrun he)

/-- Along one more event: the earlier steps have `P`, and so does the last. -/
theorem Always.snoc_iff {P : σ → ε → Prop} : Always step s (es ++ [e]) P ↔
    Always step s es P ∧ ∀ t u, Run step s es t → step t e u → P t e := by
  constructor
  · intro h
    refine ⟨fun pre f post t u hes => ?_, fun t u => h es e [] t u rfl⟩
    exact h pre f (post ++ [e]) t u (by rw [hes, List.append_assoc, List.cons_append])
  · rintro ⟨h, hlast⟩ pre f post t u hes hrun hf
    rcases List.eq_nil_or_concat post with rfl | ⟨post, g, rfl⟩
    · obtain ⟨rfl, hee⟩ := List.append_inj' hes rfl
      obtain rfl : e = f := by simpa using hee
      exact hlast t u hrun hf
    · have hes' : es ++ [e] = (pre ++ f :: post) ++ [g] := by
        rw [hes, List.concat_eq_append, List.append_assoc, List.cons_append]
      obtain ⟨rfl, _⟩ := List.append_inj' hes' rfl
      exact h pre f post t u rfl hrun hf

theorem Always.append {P : σ → ε → Prop} (h₁ : Always step s es P)
    (h₂ : ∀ t, Run step s es t → Always step t fs P) : Always step s (es ++ fs) P := by
  induction fs using List.reverseRecOn with
  | nil => rwa [List.append_nil]
  | append_singleton fs e ih =>
    rw [← List.append_assoc, Always.snoc_iff]
    refine ⟨ih fun t ht => (Always.snoc_iff.1 (h₂ t ht)).1, ?_⟩
    intro t u ht hu
    obtain ⟨v, hv, hvt⟩ := append_inv ht
    exact (Always.snoc_iff.1 (h₂ v hv)).2 t u hvt hu

theorem invariant_mem {P : σ → Prop} (hstep : ∀ s e t, e ∈ es → P s → step s e t → P t)
    (h : Run step s es t) (hs : P s) : P t := by
  induction h with
  | nil => exact hs
  | snoc _ he ih =>
    exact hstep _ _ _ (by simp) (ih fun s f t hf => hstep s f t (List.mem_append_left _ hf)) he

section Targets
variable {α κ ν : Type*} {f : α → ε} {I : σ → Prop} {P : σ → ε → Prop} (view : κ → σ → ν) (target : α → κ)
  (start : α → ν) (good : α → ν → Prop) {as : List α}

theorem targets_run
    (hstep : ∀ s a t, a ∈ as → I s → view (target a) s = start a → step s (f a) t →
      I t ∧ P s (f a) ∧ good a (view (target a) t) ∧ ∀ k, k ≠ target a → view k t = view k s)
    (hs : I s) (hstart : ∀ a ∈ as, view (target a) s = start a) (hnodup : (as.map target).Nodup)
    (h : Run step s (as.map f) t) :
    I t ∧ (∀ a ∈ as, good a (view (target a) t)) ∧ ∀ k, k ∉ as.map target → view k t = view k s := by
  induction as using List.reverseRecOn generalizing t with
  | nil =>
    obtain rfl := nil_inv h
    exact ⟨hs, by simp, fun k _ => rfl⟩
  | append_singleton as a ih =>
    rw [List.map_append, List.map_singleton, List.nodup_append] at hnodup
    obtain ⟨hnodup, -, hdisjoint⟩ := hnodup
    have hnew : target a ∉ as.map target := fun hmem =>
      hdisjoint _ hmem _ (List.mem_singleton_self _) rfl
    rw [List.map_append, List.map_singleton] at h
    obtain ⟨u, hu, he⟩ := snoc_inv h
    obtain ⟨hI, hdone, hrest⟩ := ih (fun s b t hb => hstep s b t (List.mem_append_left _ hb))
      (fun b hb => hstart b (List.mem_append_left _ hb)) hnodup hu
    have hview : view (target a) u = start a := (hrest _ hnew).trans (hstart a (by simp))
    obtain ⟨hI', -, hgood, hframe⟩ := hstep u a t (by simp) hI hview he
    refine ⟨hI', ?_, ?_⟩
    · intro b hb
      rw [List.mem_append, List.mem_singleton] at hb
      obtain hb | rfl := hb
      · have hne : target b ≠ target a := fun heq => hnew (heq ▸ List.mem_map_of_mem hb)
        rw [hframe _ hne]
        exact hdone b hb
      · exact hgood
    · intro k hk
      rw [List.map_append, List.map_singleton, List.mem_append, List.mem_singleton, not_or] at hk
      rw [hframe k hk.2, hrest k hk.1]

/-- **The frame rule for targets.** Every event changes one view, its own, and no two have the same
one: then every event finds its view as it was at the start, and no later one changes what it made of
it. -/
theorem targets
    (hstep : ∀ s a t, a ∈ as → I s → view (target a) s = start a → step s (f a) t →
      I t ∧ P s (f a) ∧ good a (view (target a) t) ∧ ∀ k, k ≠ target a → view k t = view k s)
    (hs : I s) (hstart : ∀ a ∈ as, view (target a) s = start a) (hnodup : (as.map target).Nodup) :
    (∀ t, Run step s (as.map f) t →
      I t ∧ (∀ a ∈ as, good a (view (target a) t)) ∧ ∀ k, k ∉ as.map target → view k t = view k s) ∧
    Always step s (as.map f) P := by
  refine ⟨fun t h => targets_run view target start good hstep hs hstart hnodup h, ?_⟩
  intro pre e post t u hes hrun he
  obtain ⟨before, after, rfl, rfl, hafter⟩ := List.map_eq_append_iff.1 hes
  obtain ⟨a, after, rfl, rfl, rfl⟩ := List.map_eq_cons_iff.1 hafter
  rw [List.map_append, List.map_cons, List.nodup_append] at hnodup
  obtain ⟨hnodup, -, hdisjoint⟩ := hnodup
  have hnew : target a ∉ before.map target := fun hmem => hdisjoint _ hmem _ List.mem_cons_self rfl
  obtain ⟨hI, -, hrest⟩ := targets_run view target start good
    (fun s b t hb => hstep s b t (List.mem_append_left _ hb)) hs
    (fun b hb => hstart b (List.mem_append_left _ hb)) hnodup hrun
  exact (hstep t a u (by simp) hI ((hrest _ hnew).trans (hstart a (by simp))) he).2.1

end Targets

/-- Every state reached along the events has `P`. -/
def Along (step : σ → ε → σ → Prop) (s : σ) (es : List ε) (P : σ → Prop) : Prop :=
  ∀ pre post t, es = pre ++ post → Run step s pre t → P t

/-- Along one more event: the earlier states have `P`, and so does the last. -/
theorem Along.snoc_iff {P : σ → Prop} : Along step s (es ++ [e]) P ↔
    Along step s es P ∧ ∀ u, Run step s (es ++ [e]) u → P u := by
  constructor
  · intro h
    refine ⟨fun pre post t hes => ?_, fun u hu => h (es ++ [e]) [] u (by simp) hu⟩
    exact h pre (post ++ [e]) t (by rw [hes, List.append_assoc])
  · rintro ⟨h, hlast⟩ pre post t hes hrun
    rcases List.eq_nil_or_concat post with rfl | ⟨post, g, rfl⟩
    · rw [List.append_nil] at hes
      subst hes
      exact hlast t hrun
    · have hes' : es ++ [e] = (pre ++ post) ++ [g] := by
        rw [hes, List.concat_eq_append, List.append_assoc]
      obtain ⟨rfl, _⟩ := List.append_inj' hes' rfl
      exact h pre post t rfl hrun

/-- Where a step keeps `P` exactly if it has `Q`, all states have `P` exactly if all steps have `Q`. -/
theorem along_iff_always {I P : σ → Prop} {Q : σ → ε → Prop} (hs : I s) (hP : P s)
    (hstep : ∀ t e u, I t → step t e u → I u)
    (h : ∀ t e u, I t → P t → step t e u → (P u ↔ Q t e)) :
    Along step s es P ↔ Always step s es Q := by
  induction es using List.reverseRecOn with
  | nil =>
    constructor
    · intro _ pre e post t u hes
      exact absurd hes (by simp)
    · intro _ pre post t hes hrun
      obtain ⟨rfl, -⟩ := List.append_eq_nil_iff.1 hes.symm
      rw [nil_inv hrun]
      exact hP
  | append_singleton es e ih =>
    rw [Along.snoc_iff, Always.snoc_iff, ih]
    constructor
    · rintro ⟨hall, hlast⟩
      refine ⟨hall, fun t u ht hu => ?_⟩
      have hPt : P t := ih.2 hall es [] t (by simp) ht
      exact (h t e u (invariant hstep ht hs) hPt hu).1 (hlast u (Run.snoc ht hu))
    · rintro ⟨hall, hlast⟩
      refine ⟨hall, fun u hu => ?_⟩
      obtain ⟨t, ht, hu⟩ := hu.snoc_inv
      have hPt : P t := ih.2 hall es [] t (by simp) ht
      exact (h t e u (invariant hstep ht hs) hPt hu).2 (hlast t u ht hu)

end Run

/-! ## Restricted systems -/

/-- The steps of `step` that meet `guard`. -/
def guarded (step : σ → ε → σ → Prop) (guard : σ → ε → Prop) (s : σ) (e : ε) (t : σ) : Prop :=
  step s e t ∧ guard s e

/-- A run whose steps all meet the guard is a run of the restricted system. -/
theorem Run.guard {step : σ → ε → σ → Prop} {guard : σ → ε → Prop} {s t : σ} {es : List ε}
    (h : Run step s es t) (hall : Run.Always step s es guard) : Run (guarded step guard) s es t := by
  induction h with
  | nil => exact Run.nil _
  | snoc hrun he ih =>
    obtain ⟨hearlier, hlast⟩ := Run.Always.snoc_iff.1 hall
    exact Run.snoc (ih hearlier) ⟨he, hlast _ _ hrun he⟩

/-! ## Deterministic systems -/

/-- The step relation of a partial step function. -/
def fnStep (next : σ → ε → Option σ) (s : σ) (e : ε) (t : σ) : Prop := next s e = some t

theorem Run.unique {next : σ → ε → Option σ} {s t u : σ} {es : List ε}
    (ht : Run (fnStep next) s es t) (hu : Run (fnStep next) s es u) : t = u := by
  induction ht generalizing u with
  | nil => exact hu.nil_inv.symm
  | snoc _ he ih =>
    obtain ⟨v, hv, hve⟩ := hu.snoc_inv
    obtain rfl := ih hv
    exact Option.some.inj (he.symm.trans hve)

/-- Run the step function over a list of events. -/
def exec (next : σ → ε → Option σ) (s : σ) : List ε → Option σ
  | [] => some s
  | e :: es => (next s e).bind (fun t => exec next t es)

theorem exec_run {next : σ → ε → Option σ} {s t : σ} {es : List ε} (h : exec next s es = some t) :
    Run (fnStep next) s es t := by
  induction es generalizing s with
  | nil =>
    obtain rfl : s = t := by simpa [exec] using h
    exact Run.nil s
  | cons e es ih =>
    obtain ⟨u, hu, hut⟩ := Option.bind_eq_some_iff.1 h
    exact Run.cons hu (ih hut)

end PyLib
