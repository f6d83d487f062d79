import AxiamSdk.Lib.Dict
import AxiamSdk.Lib.Runs

/-! # Catalogues reconciled with specs

A catalogue is a list of objects with ids, each named within its parent. A spec names an object through
the keys of a dictionary that resolves them to ids; reconciling takes the specs in order, parents first,
and creates or changes one object for each.

* `Naming.Step`: one spec: a new object under a fresh id, or the one found, changed or kept.
* `Naming.Inv`: what holds between two specs.
* `Naming.Start.run`: at the end every spec finds its object. -/

namespace PyLib
set_option autoImplicit false
set_option linter.unusedSectionVars false

variable {Spec Obj κ ι ν : Type*} [DecidableEq κ] [DecidableEq ι] [DecidableEq ν]

/-- How specs and objects are named. -/
structure Naming (Spec Obj κ ι ν : Type*) where
  key : Spec → κ
  parent : Spec → Option κ
  name : Spec → ν
  id : Obj → ι
  parentId : Obj → Option ι
  nameOf : Obj → ν

namespace Naming
variable (c : Naming Spec Obj κ ι ν)

/-- The id of the parent that a spec states. -/
def parentOf (d : Dict κ ι) (s : Spec) : Option ι := (c.parent s).bind d.get?

/-- The object has the name and the parent of the spec. -/
def Matches (d : Dict κ ι) (s : Spec) (o : Obj) : Prop :=
  c.nameOf o = c.name s ∧ c.parentId o = c.parentOf d s

instance (d : Dict κ ι) (s : Spec) : DecidablePred (c.Matches d s) :=
  fun o => inferInstanceAs (Decidable (_ ∧ _))

/-- The first object that a spec matches. -/
def find (d : Dict κ ι) (l : List Obj) (s : Spec) : Option Obj := l.find? (fun o => c.Matches d s o)

/-- The parent that a spec states is resolved. -/
def Ready (d : Dict κ ι) (s : Spec) : Prop := ∀ p, c.parent s = some p → (d.get? p).isSome

/-- A change that keeps the naming. -/
structure Keeps (f : Obj → Obj) : Prop where
  id : ∀ o, c.id (f o) = c.id o
  nameOf : ∀ o, c.nameOf (f o) = c.nameOf o
  parentId : ∀ o, c.parentId (f o) = c.parentId o

/-- The object with the given id, changed. -/
def changeAt (i : ι) (f : Obj → Obj) (o : Obj) : Obj := if c.id o = i then f o else o

/-- **One spec**, given what it was found to match: `post` says what its object is afterwards. -/
inductive Step (post : Spec → Option Obj → Obj → Prop) (s : Spec) :
    Option Obj → List Obj × Dict κ ι → List Obj × Dict κ ι → Prop
  | create {l : List Obj} {d : Dict κ ι} {o : Obj} (hmatches : c.Matches d s o)
      (hfresh : c.id o ∉ l.map c.id) (hparents : ∀ a ∈ l, c.parentId a ≠ some (c.id o))
      (hpost : post s none o) : Step post s none (l, d) (l ++ [o], d.set (c.key s) (c.id o))
  | change {l : List Obj} {d : Dict κ ι} {e : Obj} {i : ι} {f : Obj → Obj} (hi : d.get? (c.key s) = some i)
      (hf : c.Keeps f) (hpost : post s (some e) (f e)) :
      Step post s (some e) (l, d) (l.map (c.changeAt i f), d)
  | keep {x : List Obj × Dict κ ι} {e : Obj} (hpost : post s (some e) e) : Step post s (some e) x x

/-- The spec's object, after its step. -/
structure Settled (post : Spec → Option Obj → Obj → Prop) (found : Spec → Option Obj) (x : List Obj × Dict κ ι)
    (s : Spec) (o : Obj) : Prop where
  find : c.find x.2 x.1 s = some o
  resolved : x.2.get? (c.key s) = some (c.id o)
  post : post s (found s) o
  id : ∀ e, found s = some e → c.id o = c.id e

/-- What holds between two specs: those of `done` have their object, those of `todo` are as found. -/
structure Inv (post : Spec → Option Obj → Obj → Prop) (found : Spec → Option Obj) (done todo : List Spec)
    (x : List Obj × Dict κ ι) : Prop where
  ids : (x.1.map c.id).Nodup
  values : ∀ s ∈ done ++ todo, ∀ i, x.2.get? (c.key s) = some i → i ∈ x.1.map c.id
  inj : ∀ s ∈ done ++ todo, ∀ s' ∈ done ++ todo, ∀ i, x.2.get? (c.key s) = some i →
    x.2.get? (c.key s') = some i → s = s'
  settled : ∀ s ∈ done, ∃ o, c.Settled post found x s o
  unchanged : ∀ s ∈ todo, x.2.get? (c.key s) = (found s).map c.id
  ready : ∀ s ∈ todo, c.Ready x.2 s → c.find x.2 x.1 s = found s
  pending : ∀ s ∈ todo, ¬ c.Ready x.2 s → found s = none

/-- What the specs themselves must satisfy. -/
structure Ordered (specs : List Spec) : Prop where
  keys : (specs.map c.key).Nodup
  natural : (specs.map (fun s => (c.parent s, c.name s))).Nodup
  first : ∀ pre s post, specs = pre ++ s :: post → ∀ p, c.parent s = some p → p ∈ pre.map c.key

variable {c} {post : Spec → Option Obj → Obj → Prop} {found : Spec → Option Obj}
  {l : List Obj} {d : Dict κ ι} {done todo : List Spec} {s s' : Spec}

theorem find_some {o : Obj} (h : c.find d l s = some o) : o ∈ l ∧ c.Matches d s o := by
  refine ⟨List.mem_of_find?_eq_some h, ?_⟩
  have hmatches := List.find?_some h
  exact of_decide_eq_true hmatches

theorem Keeps.matches_iff {f : Obj → Obj} (hf : c.Keeps f) (i : ι) (o : Obj) :
    c.Matches d s (c.changeAt i f o) ↔ c.Matches d s o := by
  rw [changeAt]
  split
  · rw [Matches, Matches, hf.nameOf, hf.parentId]
  · rfl

theorem Keeps.id_changeAt {f : Obj → Obj} (hf : c.Keeps f) (i : ι) (o : Obj) :
    c.id (c.changeAt i f o) = c.id o := by
  rw [changeAt]
  split
  · exact hf.id o
  · rfl

theorem Keeps.nameOf_changeAt {f : Obj → Obj} (hf : c.Keeps f) (i : ι) (o : Obj) :
    c.nameOf (c.changeAt i f o) = c.nameOf o := by
  rw [changeAt]
  split
  · exact hf.nameOf o
  · rfl

theorem Keeps.ids {f : Obj → Obj} (hf : c.Keeps f) (i : ι) (l : List Obj) :
    (l.map (c.changeAt i f)).map c.id = l.map c.id := by
  rw [List.map_map]
  exact List.map_congr_left fun o _ => hf.id_changeAt i o

theorem find_changeAt {f : Obj → Obj} (hf : c.Keeps f) (i : ι) :
    c.find d (l.map (c.changeAt i f)) s = (c.find d l s).map (c.changeAt i f) := by
  rw [find, List.find?_map, find]
  congr 2
  funext o
  exact decide_eq_decide.2 (hf.matches_iff i o)

theorem find_congr {d' : Dict κ ι} (h : c.parentOf d s = c.parentOf d' s) : c.find d l s = c.find d' l s := by
  rw [find, find]
  congr 1
  funext o
  exact decide_eq_decide.2 (by rw [Matches, Matches, h])

theorem parentOf_set {k : κ} (i : ι) (h : c.parent s ≠ some k) : c.parentOf (d.set k i) s = c.parentOf d s := by
  rw [parentOf, parentOf]
  cases hp : c.parent s with
  | none => rfl
  | some p =>
    rw [hp] at h
    have hne : k ≠ p := fun he => h (by rw [he])
    exact Dict.get?_set_ne d i hne

theorem ready_set {k : κ} (i : ι) (h : c.parent s ≠ some k) : c.Ready (d.set k i) s ↔ c.Ready d s := by
  refine forall_congr' fun p => forall_congr' fun hp => ?_
  have hne : k ≠ p := fun he => h (by rw [hp, he])
  rw [Dict.get?_set_ne d i hne]

/-! ## Specs in order -/

theorem Ordered.key_ne (h : c.Ordered (done ++ s :: todo)) (hs : s' ∈ done ∨ s' ∈ todo) :
    c.key s' ≠ c.key s := by
  have hkeys := h.keys
  rw [List.map_append, List.map_cons, List.nodup_append, List.nodup_cons] at hkeys
  obtain ⟨-, ⟨htodo, -⟩, hdone⟩ := hkeys
  obtain hs | hs := hs
  · exact hdone _ (List.mem_map_of_mem hs) _ List.mem_cons_self
  · intro he
    exact htodo (he ▸ List.mem_map_of_mem hs)

theorem Ordered.parent_done (h : c.Ordered (done ++ s :: todo)) {p : κ} (hp : c.parent s = some p) :
    p ∈ done.map c.key := h.first done s todo rfl p hp

/-- The head of the rest is no parent of a spec that is done, nor its own. -/
theorem Ordered.parent_ne (h : c.Ordered (done ++ s :: todo)) (hs : s' ∈ done ∨ s' = s) :
    c.parent s' ≠ some (c.key s) := by
  intro hp
  have hmem : c.key s ∈ done.map c.key := by
    obtain hs | rfl := hs
    · obtain ⟨pre, post, rfl⟩ := List.append_of_mem hs
      have hfirst := h.first pre s' (post ++ s :: todo) (by simp) _ hp
      rw [List.map_append]
      exact List.mem_append_left _ hfirst
    · exact h.parent_done hp
  obtain ⟨a, ha, he⟩ := List.mem_map.1 hmem
  exact h.key_ne (.inl ha) he

theorem Ordered.parent_mem {specs : List Spec} (h : c.Ordered specs) (hs : s ∈ specs) {p : κ}
    (hp : c.parent s = some p) : ∃ a ∈ specs, c.key a = p := by
  obtain ⟨pre, post, rfl⟩ := List.append_of_mem hs
  obtain ⟨a, ha, he⟩ := List.mem_map.1 (h.first pre s post rfl p hp)
  exact ⟨a, List.mem_append_left _ ha, he⟩

/-- Keys resolved to one id are those of one spec. -/
def Injective (c : Naming Spec Obj κ ι ν) (d : Dict κ ι) (specs : List Spec) : Prop :=
  ∀ s ∈ specs, ∀ s' ∈ specs, ∀ i, d.get? (c.key s) = some i → d.get? (c.key s') = some i → s = s'

/-- Two specs that match one object are the same, once their parents' keys tell the parents apart. -/
theorem Ordered.eq_of_matches {specs : List Spec} (h : c.Ordered specs)
    (hs : s ∈ specs) (hs' : s' ∈ specs) (hr : c.Ready d s) (hr' : c.Ready d s')
    (hinj : ∀ p p' i, c.parent s = some p → c.parent s' = some p' → d.get? p = some i → d.get? p' = some i →
      p = p') {o : Obj} (ho : c.Matches d s o) (ho' : c.Matches d s' o) : s = s' := by
  have hname : c.name s = c.name s' := ho.1.symm.trans ho'.1
  have hparent : c.parentOf d s = c.parentOf d s' := ho.2.symm.trans ho'.2
  have hparents : c.parent s = c.parent s' := by
    rw [parentOf, parentOf] at hparent
    cases hp : c.parent s with
    | none =>
      cases hp' : c.parent s' with
      | none => rfl
      | some p' =>
        have hsome := hr' p' hp'
        rw [hp, hp'] at hparent
        have hnone : d.get? p' = none := hparent.symm
        rw [hnone] at hsome
        cases hsome
    | some p =>
      cases hp' : c.parent s' with
      | none =>
        have hsome := hr p hp
        rw [hp, hp'] at hparent
        have hnone : d.get? p = none := hparent
        rw [hnone] at hsome
        cases hsome
      | some p' =>
        obtain ⟨i, hi⟩ := Option.isSome_iff_exists.1 (hr p hp)
        rw [hp, hp'] at hparent
        exact congrArg some (hinj p p' i hp hp' hi (hparent.symm.trans hi))
  exact List.inj_on_of_nodup_map h.natural hs hs' (Prod.ext hparents hname)

/-! ## One spec -/

section Head
variable (hord : c.Ordered (done ++ s :: todo)) (h : c.Inv post found done (s :: todo) (l, d))
include hord h

theorem Inv.parents_inj {a b : Spec} (ha : a ∈ done ++ s :: todo) (hb : b ∈ done ++ s :: todo) {p p' : κ} {i : ι}
    (hp : c.parent a = some p) (hp' : c.parent b = some p') (hi : d.get? p = some i) (hi' : d.get? p' = some i) :
    p = p' := by
  obtain ⟨a', ha', rfl⟩ := hord.parent_mem ha hp
  obtain ⟨b', hb', rfl⟩ := hord.parent_mem hb hp'
  rw [h.inj a' ha' b' hb' i hi hi']

theorem Inv.eq_of_matches {a b : Spec} (ha : a ∈ done ++ s :: todo) (hb : b ∈ done ++ s :: todo)
    (hr : c.Ready d a) (hr' : c.Ready d b) {o : Obj} (ho : c.Matches d a o) (ho' : c.Matches d b o) : a = b :=
  hord.eq_of_matches ha hb hr hr' (fun _ _ _ hp hp' hi hi' => h.parents_inj hord ha hb hp hp' hi hi') ho ho'

theorem Inv.head_ready : c.Ready d s := by
  intro p hp
  obtain ⟨a, ha, rfl⟩ := List.mem_map.1 (hord.parent_done hp)
  obtain ⟨o, ho⟩ := h.settled a ha
  have hresolved : d.get? (c.key a) = some (c.id o) := ho.resolved
  rw [hresolved]
  rfl

theorem Inv.head_find : c.find d l s = found s := h.ready s List.mem_cons_self (h.head_ready hord)

theorem Inv.create {o : Obj} (hnone : found s = none) (hmatches : c.Matches d s o) (hfresh : c.id o ∉ l.map c.id)
    (hparents : ∀ a ∈ l, c.parentId a ≠ some (c.id o)) (hpost : post s none o) :
    c.Inv post found (done ++ [s]) todo (l ++ [o], d.set (c.key s) (c.id o)) := by
  have hmem : ∀ a, a ∈ done ++ [s] ++ todo ↔ a ∈ done ++ s :: todo := fun a => by simp
  have hs : s ∈ done ++ s :: todo := by simp
  have hother : ∀ a ∈ done ++ s :: todo, ∀ i, (d.set (c.key s) (c.id o)).get? (c.key a) = some i →
      (a = s ∧ i = c.id o) ∨ d.get? (c.key a) = some i := by
    intro a ha i hi
    by_cases he : c.key s = c.key a
    · rw [← he, Dict.get?_set_self, Option.some.injEq] at hi
      have ha' := List.inj_on_of_nodup_map hord.keys hs ha he
      exact .inl ⟨ha'.symm, hi.symm⟩
    · rw [Dict.get?_set_ne d _ he] at hi
      exact .inr hi
  have hparentId : ∀ i, c.parentId o = some i → i ∈ l.map c.id := by
    intro i hi
    rw [hmatches.2, parentOf, Option.bind_eq_some_iff] at hi
    obtain ⟨p, hp, hi⟩ := hi
    obtain ⟨a, ha, rfl⟩ := hord.parent_mem hs hp
    exact h.values a ha i hi
  have hset : ∀ a, a ∈ done ∨ a ∈ todo → (d.set (c.key s) (c.id o)).get? (c.key a) = d.get? (c.key a) :=
    fun a ha => Dict.get?_set_ne d _ (Ne.symm (hord.key_ne ha))
  constructor
  case ids =>
    rw [List.map_append, List.nodup_append]
    refine ⟨h.ids, List.nodup_singleton _, fun i hi i' hi' he => ?_⟩
    rw [List.map_singleton, List.mem_singleton] at hi'
    exact hfresh (hi' ▸ he ▸ hi)
  case values =>
    intro a ha i hi
    rw [List.map_append, List.mem_append]
    obtain ⟨-, rfl⟩ | hi := hother a ((hmem a).1 ha) i hi
    · exact .inr (List.mem_singleton_self _)
    · exact .inl (h.values a ((hmem a).1 ha) i hi)
  case inj =>
    intro a ha b hb i hi hi'
    have ha := (hmem a).1 ha
    have hb := (hmem b).1 hb
    obtain ⟨rfl, rfl⟩ | hold := hother a ha i hi
    · obtain ⟨rfl, -⟩ | hold' := hother b hb _ hi'
      · rfl
      · exact absurd (h.values b hb _ hold') hfresh
    · obtain ⟨rfl, rfl⟩ | hold' := hother b hb i hi'
      · exact absurd (h.values a ha _ hold) hfresh
      · exact h.inj a ha b hb i hold hold'
  case settled =>
    intro a ha
    rw [List.mem_append, List.mem_singleton] at ha
    have hparent := hord.parent_ne ha
    obtain ha | rfl := ha
    · obtain ⟨o', ho'⟩ := h.settled a ha
      refine ⟨o', ?_, (hset a (.inl ha)).trans ho'.resolved, ho'.post, ho'.id⟩
      have hfind : c.find d l a = some o' := ho'.find
      rw [find_congr (parentOf_set _ hparent), find, List.find?_append]
      rw [find] at hfind
      rw [hfind]
      rfl
    · refine ⟨o, ?_, Dict.get?_set_self d _ _, hnone ▸ hpost, fun e he => ?_⟩
      · have hfind := h.head_find hord
        rw [hnone] at hfind
        rw [find_congr (parentOf_set _ hparent), find, List.find?_append]
        rw [find] at hfind
        rw [hfind, Option.none_or, List.find?_singleton, if_pos (decide_eq_true hmatches)]
      · rw [hnone] at he
        cases he
  case unchanged =>
    intro a ha
    rw [hset a (.inr ha)]
    exact h.unchanged a (List.mem_cons_of_mem _ ha)
  case ready =>
    intro a ha hready
    have ha' : a ∈ done ++ s :: todo := by simp [ha]
    by_cases hp : c.parent a = some (c.key s)
    · -- the parent is new, so that nothing lies below it
      have hpending : ¬ c.Ready d a := by
        intro hr
        have hsome := hr _ hp
        have hkey : d.get? (c.key s) = none := by rw [h.unchanged s List.mem_cons_self, hnone]; rfl
        rw [hkey] at hsome
        cases hsome
      rw [h.pending a (List.mem_cons_of_mem _ ha) hpending]
      refine List.find?_eq_none.2 fun b hb hmatch => ?_
      have hmatch := (of_decide_eq_true hmatch).2
      rw [parentOf, hp, Option.bind_some, Dict.get?_set_self] at hmatch
      rw [List.mem_append, List.mem_singleton] at hb
      obtain hb | rfl := hb
      · exact hparents b hb hmatch
      · exact hfresh (hparentId _ hmatch)
    · have hready' := (ready_set (c.id o) hp).1 hready
      have hfind := h.ready a (List.mem_cons_of_mem _ ha) hready'
      have hno : ¬ c.Matches d a o := by
        intro hm
        have he := h.eq_of_matches hord ha' hs hready' (h.head_ready hord) hm hmatches
        exact hord.key_ne (.inr ha) (he ▸ rfl)
      rw [find_congr (parentOf_set _ hp), find, List.find?_append]
      rw [find] at hfind
      rw [hfind, List.find?_singleton, if_neg (by rwa [decide_eq_true_eq]), Option.or_none]
  case pending =>
    intro a ha hready
    by_cases hp : c.parent a = some (c.key s)
    · refine h.pending a (List.mem_cons_of_mem _ ha) fun hr => hready fun p hp' => ?_
      rw [hp, Option.some.injEq] at hp'
      rw [← hp', Dict.get?_set_self]
      rfl
    · exact h.pending a (List.mem_cons_of_mem _ ha) fun hr => hready ((ready_set (c.id o) hp).2 hr)

theorem Inv.change {e : Obj} {i : ι} {f : Obj → Obj} (hfound : found s = some e) (hi : d.get? (c.key s) = some i)
    (hf : c.Keeps f) (hpost : post s (some e) (f e)) :
    c.Inv post found (done ++ [s]) todo (l.map (c.changeAt i f), d) := by
  have hmem : ∀ a, a ∈ done ++ [s] ++ todo ↔ a ∈ done ++ s :: todo := fun a => by simp
  have hs : s ∈ done ++ s :: todo := by simp
  have hid : i = c.id e := by
    rw [h.unchanged s List.mem_cons_self, hfound] at hi
    exact (Option.some.inj hi).symm
  subst hid
  -- another spec's object is not the one that changes
  have hother : ∀ a, a ∈ done ∨ a ∈ todo → ∀ o, d.get? (c.key a) = some (c.id o) →
      c.changeAt (c.id e) f o = o := by
    intro a ha o ho
    refine if_neg fun he => hord.key_ne ha ?_
    rw [he] at ho
    have ha' : a ∈ done ++ s :: todo := by
      obtain ha | ha := ha
      · exact List.mem_append_left _ ha
      · simp [ha]
    rw [h.inj a ha' s hs _ ho hi]
  constructor
  case ids =>
    show ((l.map (c.changeAt (c.id e) f)).map c.id).Nodup
    rw [hf.ids]
    exact h.ids
  case values =>
    show ∀ a ∈ done ++ [s] ++ todo, ∀ j, d.get? (c.key a) = some j → j ∈ (l.map (c.changeAt (c.id e) f)).map c.id
    rw [hf.ids]
    exact fun a ha => h.values a ((hmem a).1 ha)
  case inj => exact fun a ha b hb => h.inj a ((hmem a).1 ha) b ((hmem b).1 hb)
  case settled =>
    intro a ha
    rw [List.mem_append, List.mem_singleton] at ha
    obtain ha | rfl := ha
    · obtain ⟨o, ho⟩ := h.settled a ha
      refine ⟨o, ?_, ho.resolved, ho.post, ho.id⟩
      have hfind : c.find d l a = some o := ho.find
      rw [find_changeAt hf, hfind, Option.map_some, hother a (.inl ha) o ho.resolved]
    · have hchange : c.changeAt (c.id e) f e = f e := if_pos rfl
      refine ⟨f e, ?_, ?_, hfound ▸ hpost, fun e' he' => ?_⟩
      · rw [find_changeAt hf, h.head_find hord, hfound, Option.map_some, hchange]
      · rw [hf.id]
        exact hi
      · rw [hfound, Option.some.injEq] at he'
        rw [hf.id, he']
  case unchanged => exact fun a ha => h.unchanged a (List.mem_cons_of_mem _ ha)
  case ready =>
    intro a ha hready
    have hfind := h.ready a (List.mem_cons_of_mem _ ha) hready
    have hget := h.unchanged a (List.mem_cons_of_mem _ ha)
    rw [find_changeAt hf, hfind]
    cases hfa : found a with
    | none => rfl
    | some o =>
      rw [hfa] at hget
      rw [Option.map_some, hother a (.inr ha) o hget]
  case pending => exact fun a ha => h.pending a (List.mem_cons_of_mem _ ha)

theorem Inv.keep {e : Obj} (hfound : found s = some e) (hpost : post s (some e) e) :
    c.Inv post found (done ++ [s]) todo (l, d) := by
  have hi : d.get? (c.key s) = some (c.id e) := by
    rw [h.unchanged s List.mem_cons_self, hfound]
    rfl
  have hsame : l.map (c.changeAt (c.id e) (fun o => o)) = l :=
    (List.map_congr_left fun o _ => ite_self o).trans (List.map_id l)
  have hchange := h.change hord hfound hi ⟨fun _ => rfl, fun _ => rfl, fun _ => rfl⟩ hpost
  rwa [hsame] at hchange

theorem Inv.step {y : List Obj × Dict κ ι} (hstep : c.Step post s (found s) (l, d) y) :
    c.Inv post found (done ++ [s]) todo y := by
  generalize hfound : found s = e? at hstep
  cases hstep with
  | create hmatches hfresh hparents hpost => exact h.create hord hfound hmatches hfresh hparents hpost
  | change hi hf hpost => exact h.change hord hfound hi hf hpost
  | keep hpost => exact h.keep hord hfound hpost

end Head

/-- The names of the objects: one more for a spec that was found to match none. -/
theorem Step.names {e? : Option Obj} {x y : List Obj × Dict κ ι} (h : c.Step post s e? x y) :
    y.1.map c.nameOf = x.1.map c.nameOf ++ if e?.isNone then [c.name s] else [] := by
  cases h with
  | create hmatches hfresh hparents hpost =>
    rw [List.map_append, List.map_singleton, hmatches.1]
    rfl
  | change hi hf hpost =>
    simp [hf.nameOf_changeAt]
  | keep hpost => simp

theorem run_names {specs : List Spec} {x y : List Obj × Dict κ ι}
    (h : Run (fun x s y => c.Step post s (found s) x y) x specs y) :
    y.1.map c.nameOf = x.1.map c.nameOf ++ (specs.filter (fun s => (found s).isNone)).map c.name := by
  induction specs using List.reverseRecOn generalizing y with
  | nil =>
    rw [h.nil_inv]
    simp
  | append_singleton specs s ih =>
    obtain ⟨z, hz, hstep⟩ := h.snoc_inv
    rw [hstep.names, ih hz, List.filter_append, List.map_append, List.append_assoc]
    cases hs : (found s).isNone <;> simp [hs]

/-! ## All specs -/

/-- What the specs have been found to match in a catalogue. -/
structure Start (c : Naming Spec Obj κ ι ν) (found : Spec → Option Obj) (specs : List Spec)
    (x : List Obj × Dict κ ι) : Prop where
  ids : (x.1.map c.id).Nodup
  unchanged : ∀ s ∈ specs, x.2.get? (c.key s) = (found s).map c.id
  ready : ∀ s ∈ specs, c.Ready x.2 s → c.find x.2 x.1 s = found s
  pending : ∀ s ∈ specs, ¬ c.Ready x.2 s → found s = none

theorem Start.found_some {specs : List Spec} {x : List Obj × Dict κ ι} (h : Start c found specs x)
    (hs : s ∈ specs) {e : Obj} (he : found s = some e) :
    c.Ready x.2 s ∧ e ∈ x.1 ∧ c.Matches x.2 s e := by
  have hready : c.Ready x.2 s := by
    by_contra hno
    rw [h.pending s hs hno] at he
    cases he
  exact ⟨hready, find_some ((h.ready s hs hready).trans he)⟩

theorem Start.injective {specs : List Spec} {x : List Obj × Dict κ ι} (hord : c.Ordered specs)
    (h : Start c found specs x) : c.Injective x.2 specs := by
  -- by induction on the specs in order: a parent comes before its children
  have hall : ∀ pre post, specs = pre ++ post → ∀ s ∈ pre, ∀ s' ∈ specs, ∀ i, x.2.get? (c.key s) = some i →
      x.2.get? (c.key s') = some i → s = s' := by
    intro pre
    induction pre using List.reverseRecOn with
    | nil => intro post _ s hs; cases hs
    | append_singleton pre a ih =>
      intro post hsplit s hs s' hs' i hi hi'
      have hsplit' : specs = pre ++ a :: post := by rw [hsplit]; simp
      rw [List.mem_append, List.mem_singleton] at hs
      obtain hs | rfl := hs
      · exact ih (a :: post) hsplit' s hs s' hs' i hi hi'
      · have hs : s ∈ specs := by rw [hsplit]; simp
        rw [h.unchanged s hs] at hi
        rw [h.unchanged s' hs'] at hi'
        obtain ⟨e, he, rfl⟩ := Option.map_eq_some_iff.1 hi
        obtain ⟨e', he', hid⟩ := Option.map_eq_some_iff.1 hi'
        obtain ⟨hready, hmem, hmatches⟩ := h.found_some hs he
        obtain ⟨hready', hmem', hmatches'⟩ := h.found_some hs' he'
        have hee := List.inj_on_of_nodup_map h.ids hmem' hmem hid
        subst hee
        refine hord.eq_of_matches hs hs' hready hready' ?_ hmatches hmatches'
        intro p p' j hp hp' hj hj'
        obtain ⟨b, hb, rfl⟩ := List.mem_map.1 (hord.first pre s post hsplit' p hp)
        obtain ⟨b', hb', rfl⟩ := hord.parent_mem hs' hp'
        rw [ih (s :: post) hsplit' b hb b' hb' j hj hj']
  intro s hs s' hs'
  exact hall specs [] (by simp) s hs s' hs'

theorem Start.inv {specs : List Spec} {x : List Obj × Dict κ ι} (hord : c.Ordered specs)
    (h : Start c found specs x) : c.Inv post found [] specs x where
  ids := h.ids
  values s hs i hi := by
    rw [h.unchanged s hs] at hi
    obtain ⟨e, he, rfl⟩ := Option.map_eq_some_iff.1 hi
    exact List.mem_map_of_mem (h.found_some hs he).2.1
  inj := h.injective hord
  settled s hs := by cases hs
  unchanged := h.unchanged
  ready := h.ready
  pending := h.pending

/-- **The run**: reconciling all specs leaves each with its object. -/
theorem Start.run {specs : List Spec} {x y : List Obj × Dict κ ι} (hord : c.Ordered specs)
    (h : Start c found specs x) (hrun : Run (fun x s y => c.Step post s (found s) x y) x specs y) :
    c.Inv post found specs [] y := by
  have hinv : ∀ pre todo, specs = pre ++ todo → ∀ z, Run (fun x s y => c.Step post s (found s) x y) x pre z →
      c.Inv post found pre todo z := by
    intro pre
    induction pre using List.reverseRecOn with
    | nil =>
      intro todo hsplit z hz
      rw [List.nil_append] at hsplit
      rw [hz.nil_inv]
      exact hsplit ▸ h.inv hord
    | append_singleton pre s ih =>
      intro todo hsplit z hz
      have hsplit' : specs = pre ++ s :: todo := by rw [hsplit, List.append_assoc, List.singleton_append]
      obtain ⟨w, hw, hstep⟩ := hz.snoc_inv
      exact (ih (s :: todo) hsplit' w hw).step (hsplit' ▸ hord) hstep
  exact hinv specs [] (List.append_nil specs).symm y hrun

/-- An id that was resolved at the start still is. -/
theorem Inv.kept {specs : List Spec} {y : List Obj × Dict κ ι} (h : c.Inv post found specs [] y) (hs : s ∈ specs)
    {i : ι} (hi : (found s).map c.id = some i) : y.2.get? (c.key s) = some i := by
  obtain ⟨o, ho⟩ := h.settled s hs
  obtain ⟨e, he, rfl⟩ := Option.map_eq_some_iff.1 hi
  rw [ho.resolved, ho.id e he]

/-- Specs whose keys stand for one id are the same. -/
theorem Inv.eq_of_get? {specs : List Spec} {y : List Obj × Dict κ ι} (h : c.Inv post found specs [] y)
    (hs : s ∈ specs) (hs' : s' ∈ specs) {i : ι} (hi : y.2.get? (c.key s) = some i)
    (hi' : y.2.get? (c.key s') = some i) : s = s' :=
  h.inj s (by simpa using hs) s' (by simpa using hs') i hi hi'

end Naming

end PyLib
