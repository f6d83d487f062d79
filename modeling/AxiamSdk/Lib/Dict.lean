import Mathlib.Data.List.Nodup

/-! # Insertion-ordered dictionaries

Python's `dict` as an association list: looking a key up, storing under a key (which keeps the
position of a key that is already there), deleting a key, and the items in insertion order.

* `Assoc`: the operations on plain lists of pairs.
* `Dict`: a list of pairs together with the fact that no key occurs twice. -/

namespace PyLib
set_option autoImplicit false

variable {κ ν : Type*} [DecidableEq κ]

/-! ## Association lists -/

namespace Assoc

/-- `d.get(k)`. -/
def get? : List (κ × ν) → κ → Option ν
  | [], _ => none
  | (k', v) :: d, k => if k' = k then some v else get? d k

/-- `d[k] = v`: in place when `k` is there, at the end otherwise. -/
def set : List (κ × ν) → κ → ν → List (κ × ν)
  | [], k, v => [(k, v)]
  | (k', v') :: d, k, v => if k' = k then (k', v) :: d else (k', v') :: set d k v

/-- `del d[k]`; also what `d.pop(k, None)` leaves. -/
def erase (d : List (κ × ν)) (k : κ) : List (κ × ν) := d.filter (fun p => p.1 ≠ k)

@[simp] theorem get?_nil (k : κ) : get? ([] : List (κ × ν)) k = none := rfl

theorem get?_cons (k' k : κ) (v : ν) (d : List (κ × ν)) :
    get? ((k', v) :: d) k = if k' = k then some v else get? d k := rfl

theorem get?_set (d : List (κ × ν)) (k k' : κ) (v : ν) :
    get? (set d k v) k' = if k = k' then some v else get? d k' := by
  induction d with
  | nil => rfl
  | cons p d ih =>
    obtain ⟨a, b⟩ := p
    by_cases hak : a = k
    · subst hak
      by_cases hk : a = k' <;> simp [set, get?_cons, hk]
    · by_cases hk : a = k'
      · subst hk
        simp [set, get?_cons, hak, Ne.symm hak]
      · simp [set, get?_cons, hak, hk, ih]

@[simp] theorem get?_set_self (d : List (κ × ν)) (k : κ) (v : ν) : get? (set d k v) k = some v := by
  rw [get?_set, if_pos rfl]

theorem get?_set_ne (d : List (κ × ν)) {k k' : κ} (v : ν) (h : k ≠ k') :
    get? (set d k v) k' = get? d k' := by
  rw [get?_set, if_neg h]

/-- A filter that drops only other keys does not change what `k` maps to. -/
theorem get?_filter (p : κ × ν → Bool) (d : List (κ × ν)) (k : κ) (h : ∀ v, p (k, v) = true) :
    get? (d.filter p) k = get? d k := by
  induction d with
  | nil => rfl
  | cons q d ih =>
    obtain ⟨a, b⟩ := q
    by_cases hak : a = k
    · subst hak
      simp [h b, get?_cons]
    · by_cases hp : p (a, b) = true <;> simp [hp, get?_cons, hak, ih]

theorem get?_erase (d : List (κ × ν)) (k k' : κ) :
    get? (erase d k) k' = if k = k' then none else get? d k' := by
  split
  · next hk =>
    subst hk
    induction d with
    | nil => rfl
    | cons q d ih =>
      by_cases hak : q.1 = k
      · simpa [erase, hak] using ih
      · obtain ⟨a, b⟩ := q
        have hak' : a ≠ k := hak
        have h : erase ((a, b) :: d) k = (a, b) :: erase d k := by simp [erase, hak']
        rw [h, get?_cons, if_neg hak']
        exact ih
  · next hk => exact get?_filter _ d k' (fun _ => by simpa using Ne.symm hk)

theorem mem_of_get? {d : List (κ × ν)} {k : κ} {v : ν} (h : get? d k = some v) : (k, v) ∈ d := by
  induction d with
  | nil => cases h
  | cons q d ih =>
    obtain ⟨a, b⟩ := q
    rw [get?_cons] at h
    split at h
    · next hak => subst hak; cases h; exact List.mem_cons_self
    · exact List.mem_cons_of_mem _ (ih h)

theorem get?_eq_none_iff {d : List (κ × ν)} {k : κ} : get? d k = none ↔ k ∉ d.map Prod.fst := by
  induction d with
  | nil => simp
  | cons q d ih =>
    obtain ⟨a, b⟩ := q
    by_cases hak : a = k
    · simp [get?_cons, hak]
    · simp [get?_cons, hak, ih, Ne.symm hak]

theorem get?_of_mem {d : List (κ × ν)} (hd : (d.map Prod.fst).Nodup) {k : κ} {v : ν}
    (h : (k, v) ∈ d) : get? d k = some v := by
  induction d with
  | nil => cases h
  | cons q d ih =>
    obtain ⟨a, b⟩ := q
    rw [List.map_cons, List.nodup_cons] at hd
    rw [get?_cons]
    rcases List.mem_cons.1 h with heq | hmem
    · cases heq; rw [if_pos rfl]
    · have hak : a ≠ k := fun hak => hd.1 (List.mem_map.2 ⟨(k, v), hmem, hak.symm⟩)
      rw [if_neg hak]
      exact ih hd.2 hmem

theorem keys_set (d : List (κ × ν)) (k : κ) (v : ν) :
    (set d k v).map Prod.fst = if k ∈ d.map Prod.fst then d.map Prod.fst else d.map Prod.fst ++ [k] := by
  induction d with
  | nil => simp [set]
  | cons q d ih =>
    obtain ⟨a, b⟩ := q
    by_cases hak : a = k
    · simp [set, hak]
    · by_cases hk : k ∈ d.map Prod.fst
      · rw [if_pos hk] at ih
        simp only [set, if_neg hak, List.map_cons, ih]
        rw [if_pos (List.mem_cons_of_mem _ hk)]
      · rw [if_neg hk] at ih
        simp only [set, if_neg hak, List.map_cons, ih]
        rw [if_neg (by simpa [Ne.symm hak] using hk)]
        rfl

theorem nodup_set {d : List (κ × ν)} (hd : (d.map Prod.fst).Nodup) (k : κ) (v : ν) :
    ((set d k v).map Prod.fst).Nodup := by
  rw [keys_set]
  split
  · exact hd
  · next hk => exact List.nodup_append.2 ⟨hd, List.nodup_singleton k, by
      intro a ha b hb hab
      rw [List.mem_singleton.1 hb] at hab
      exact hk (hab ▸ ha)⟩

theorem set_absent {d : List (κ × ν)} {k : κ} (hk : k ∉ d.map Prod.fst) (v : ν) :
    set d k v = d ++ [(k, v)] := by
  induction d with
  | nil => rfl
  | cons q d ih =>
    obtain ⟨a, b⟩ := q
    rw [List.map_cons, List.mem_cons, not_or] at hk
    rw [set, if_neg (Ne.symm hk.1), ih hk.2]
    rfl

theorem set_append_last (d : List (κ × ν)) {k : κ} (hk : k ∉ d.map Prod.fst) (v w : ν) :
    set (d ++ [(k, w)]) k v = d ++ [(k, v)] := by
  induction d with
  | nil => simp [set]
  | cons q d ih =>
    obtain ⟨a, b⟩ := q
    rw [List.map_cons, List.mem_cons, not_or] at hk
    rw [List.cons_append, set, if_neg (Ne.symm hk.1), ih hk.2]
    rfl

omit [DecidableEq κ] in
theorem nodup_filter {d : List (κ × ν)} (hd : (d.map Prod.fst).Nodup) (p : κ × ν → Bool) :
    ((d.filter p).map Prod.fst).Nodup :=
  hd.sublist (List.filter_sublist.map _)

end Assoc

/-! ## Dictionaries -/

/-- A Python `dict`: its items in insertion order, no key twice. -/
structure Dict (κ ν : Type*) where
  items : List (κ × ν)
  nodup : (items.map Prod.fst).Nodup

namespace Dict

/-- `{}`. -/
def empty : Dict κ ν := ⟨[], List.nodup_nil⟩

def get? (d : Dict κ ν) (k : κ) : Option ν := Assoc.get? d.items k

/-- `k in d`. -/
def contains (d : Dict κ ν) (k : κ) : Bool := (d.get? k).isSome

def set (d : Dict κ ν) (k : κ) (v : ν) : Dict κ ν :=
  ⟨Assoc.set d.items k v, Assoc.nodup_set d.nodup k v⟩

/-- The items that meet `p`, in their order. -/
def filter (d : Dict κ ν) (p : κ × ν → Bool) : Dict κ ν :=
  ⟨d.items.filter p, Assoc.nodup_filter d.nodup p⟩

def erase (d : Dict κ ν) (k : κ) : Dict κ ν := d.filter (fun p => p.1 ≠ k)

def keys (d : Dict κ ν) : List κ := d.items.map Prod.fst

def size (d : Dict κ ν) : ℕ := d.items.length

@[simp] theorem get?_empty (k : κ) : (empty : Dict κ ν).get? k = none := rfl

theorem get?_set (d : Dict κ ν) (k k' : κ) (v : ν) :
    (d.set k v).get? k' = if k = k' then some v else d.get? k' :=
  Assoc.get?_set d.items k k' v

@[simp] theorem get?_set_self (d : Dict κ ν) (k : κ) (v : ν) : (d.set k v).get? k = some v :=
  Assoc.get?_set_self d.items k v

theorem get?_set_ne (d : Dict κ ν) {k k' : κ} (v : ν) (h : k ≠ k') :
    (d.set k v).get? k' = d.get? k' :=
  Assoc.get?_set_ne d.items v h

theorem get?_erase (d : Dict κ ν) (k k' : κ) :
    (d.erase k).get? k' = if k = k' then none else d.get? k' :=
  Assoc.get?_erase d.items k k'

theorem mem_iff_get? (d : Dict κ ν) (k : κ) (v : ν) : (k, v) ∈ d.items ↔ d.get? k = some v :=
  ⟨Assoc.get?_of_mem d.nodup, Assoc.mem_of_get?⟩

/-- What a filter leaves under `k`. -/
theorem get?_filter_eq_some (d : Dict κ ν) (p : κ × ν → Bool) (k : κ) (v : ν) :
    (d.filter p).get? k = some v ↔ d.get? k = some v ∧ p (k, v) = true := by
  rw [← mem_iff_get?, ← mem_iff_get?]
  exact List.mem_filter

theorem contains_iff (d : Dict κ ν) (k : κ) : d.contains k = true ↔ ∃ v, d.get? k = some v :=
  Option.isSome_iff_exists

end Dict

end PyLib
