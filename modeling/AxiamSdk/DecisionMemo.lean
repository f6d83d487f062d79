import AxiamSdk.Errors
import AxiamSdk.Lib.Dict
import AxiamSdk.Lib.FloatOrder

/-! # The decision memo (`_decision_memo.py`)

* `memoKey`: the five components of a question, joined.
* `DecisionMemo`: entries with the time they were stored, at most 1024 of them.
* `get_entries`, `set_entries`, `set_self`: what is stored after a lookup and after a store.
* `expired_self`: an entry is not expired when it is stored. -/

namespace AxiamSdk
open PyLib
set_option autoImplicit false

/-! ## The key -/

/-- `_SEP` -/
def memoSep : CodePoint := ch '\x1f'

/-- `_ABSENT` -/
def memoAbsent : PyStr := [0]

/-- The `str` that `join` takes; anything else is its `TypeError`. -/
def strOf (v : Json) : Except Exc PyStr :=
  match v.asStr? with
  | some s => .ok s
  | none => .error .typeError

/-- `memo_key`, for a subject that may be any value of a claim. -/
def memoKey (action resourceId : PyStr) (scope : Option PyStr) (subjectId : Option Json)
    (actingTenant : Option PyStr) : Except Exc PyStr := do
  let subject ← (subjectId.map strOf).getD (.ok memoAbsent)
  return List.intercalate [memoSep]
    [subject, resourceId, action, scope.getD memoAbsent, actingTenant.getD memoAbsent]

theorem memoKey_error {action resourceId : PyStr} {scope : Option PyStr} {subjectId : Option Json}
    {actingTenant : Option PyStr} {e : Exc}
    (h : memoKey action resourceId scope subjectId actingTenant = .error e) :
    e = .typeError ∧ ∃ v, subjectId = some v ∧ v.asStr? = none := by
  cases subjectId with
  | none => cases h
  | some v =>
    cases hv : v.asStr? with
    | some s =>
      simp only [memoKey, Option.map_some, Option.getD_some, strOf, hv] at h
      cases h
    | none =>
      simp only [memoKey, Option.map_some, Option.getD_some, strOf, hv] at h
      cases h
      exact ⟨rfl, v, rfl, hv⟩

/-- `MAX_TTL_MS` -/
def maxTtlMs : Float := 5000.0

/-- `_MAX_ENTRIES` -/
def maxEntries : ℕ := 1024

/-- The TTL after clamping: `min(max(ttl, 0.0), MAX_TTL_MS)`. -/
def clampTtl (ttlMs : Float) : Float :=
  let floored := if ttlMs < 0.0 then 0.0 else ttlMs
  if maxTtlMs < floored then maxTtlMs else floored

/-- `DecisionMemo`: the TTL and the entries, oldest first, with the clock at which each was stored. -/
structure DecisionMemo (δ : Type) where
  ttlMs : Float
  entries : Dict PyStr (δ × Float)

namespace DecisionMemo
variable {δ : Type}

def new (ttlMs : Float) : DecisionMemo δ := ⟨clampTtl ttlMs, Dict.empty⟩

/-- `enabled` -/
def enabled (m : DecisionMemo δ) : Bool := decide (0.0 < m.ttlMs)

/-- The entry stored at `storedAt` is older than the TTL. -/
def expired (m : DecisionMemo δ) (now storedAt : Float) : Bool :=
  decide (m.ttlMs ≤ (now - storedAt) * 1000.0)

/-- `get`: the decision, and the memo without the entry if it has expired. -/
def get (m : DecisionMemo δ) (key : PyStr) (now : Float) : Option δ × DecisionMemo δ :=
  if m.enabled then
    match m.entries.get? key with
    | none => (none, m)
    | some (decision, storedAt) =>
      if m.expired now storedAt then (none, { m with entries := m.entries.erase key })
      else (some decision, m)
  else (none, m)

/-- The newest `maxEntries` entries. -/
def evict (entries : Dict PyStr (δ × Float)) : Dict PyStr (δ × Float) where
  items := entries.items.drop (entries.size - maxEntries)
  nodup := by
    rw [List.map_drop]
    exact entries.nodup.sublist (List.drop_sublist _ _)

/-- `set` -/
def set (m : DecisionMemo δ) (key : PyStr) (decision : δ) (now : Float) : DecisionMemo δ :=
  if m.enabled then
    { m with entries := evict ((m.entries.erase key).set key (decision, now)) }
  else m

/-- `clear` -/
def clear (m : DecisionMemo δ) : DecisionMemo δ := { m with entries := Dict.empty }

theorem get?_evict {entries : Dict PyStr (δ × Float)} {key : PyStr} {entry : δ × Float}
    (h : (evict entries).get? key = some entry) : entries.get? key = some entry := by
  rw [← Dict.mem_iff_get?] at h ⊢
  simp only [evict] at h
  exact List.mem_of_mem_drop h

theorem get_entries {m : DecisionMemo δ} {key key' : PyStr} {now : Float} {entry : δ × Float}
    (h : (m.get key now).2.entries.get? key' = some entry) : m.entries.get? key' = some entry := by
  unfold get at h
  split at h
  · split at h
    · exact h
    · split at h
      · rw [Dict.get?_erase] at h
        split at h
        · cases h
        · exact h
      · exact h
  · exact h

theorem set_entries {m : DecisionMemo δ} {key key' : PyStr} {now : Float} {decision : δ}
    {entry : δ × Float} (h : (m.set key decision now).entries.get? key' = some entry) :
    m.entries.get? key' = some entry ∨ key' = key ∧ entry = (decision, now) := by
  unfold set at h
  split at h
  · have hset := get?_evict h
    rw [Dict.get?_set] at hset
    split at hset
    · next hk => exact Or.inr ⟨hk.symm, (Option.some.inj hset).symm⟩
    · rw [Dict.get?_erase] at hset
      split at hset
      · cases hset
      · exact Or.inl hset
  · exact Or.inl h

@[simp] theorem clear_entries (m : DecisionMemo δ) (key : PyStr) : m.clear.entries.get? key = none := rfl

@[simp] theorem get_ttlMs (m : DecisionMemo δ) (key : PyStr) (now : Float) : (m.get key now).2.ttlMs = m.ttlMs := by
  unfold get
  split
  · split
    · rfl
    · split <;> rfl
  · rfl

@[simp] theorem set_ttlMs (m : DecisionMemo δ) (key : PyStr) (decision : δ) (now : Float) :
    (m.set key decision now).ttlMs = m.ttlMs := by
  unfold set
  split <;> rfl

@[simp] theorem clear_ttlMs (m : DecisionMemo δ) : m.clear.ttlMs = m.ttlMs := rfl

theorem get?_evict_append {entries : Dict PyStr (δ × Float)} {items : List (PyStr × δ × Float)} {key : PyStr}
    {entry : δ × Float} (h : entries.items = items ++ [(key, entry)]) :
    (evict entries).get? key = some entry := by
  rw [← Dict.mem_iff_get?]
  have hle : entries.size - maxEntries ≤ items.length := by
    simp only [Dict.size, h, List.length_append, List.length_singleton, maxEntries]
    omega
  simp only [evict, h]
  rw [List.drop_append_of_le_length hle]
  exact List.mem_append_right _ (List.mem_singleton.2 rfl)

theorem set_self {m : DecisionMemo δ} {key : PyStr} {decision : δ} {now : Float} (h : m.enabled = true) :
    (m.set key decision now).entries.get? key = some (decision, now) := by
  unfold set
  rw [if_pos h]
  have habsent : key ∉ (m.entries.erase key).items.map Prod.fst := by
    intro hmem
    obtain ⟨⟨k, entry⟩, hk, rfl⟩ := List.mem_map.1 hmem
    rw [Dict.mem_iff_get?, Dict.get?_erase, if_pos rfl] at hk
    cases hk
  exact get?_evict_append (Assoc.set_absent habsent (decision, now))

theorem expired_self {m : DecisionMemo δ} (h : m.enabled = true) (now : Float) :
    m.expired now now = false := by
  have hpos : (0.0 : Float) < m.ttlMs := of_decide_eq_true h
  refine decide_eq_false fun hle => ?_
  rcases FloatOrder.sub_self_eq now with hzero | hnan
  · have hmul : (0.0 : Float) * 1000.0 = 0.0 := by decide +kernel
    rw [hzero, hmul] at hle
    exact FloatOrder.not_le_of_lt hpos hle
  · have hnumber := (FloatOrder.not_isNaN_of_le hle).2
    rw [FloatOrder.isNaN_mul _ hnan] at hnumber
    cases hnumber

theorem get_live {m : DecisionMemo δ} {key : PyStr} {now storedAt : Float} {decision : δ}
    (henabled : m.enabled = true) (h : m.entries.get? key = some (decision, storedAt))
    (hlive : m.expired now storedAt = false) : m.get key now = (some decision, m) := by
  simp [get, henabled, h, hlive]

theorem get_some {m : DecisionMemo δ} {key : PyStr} {now : Float} {decision : δ}
    (h : (m.get key now).1 = some decision) : m.enabled = true ∧ ∃ storedAt,
      m.entries.get? key = some (decision, storedAt) ∧ m.expired now storedAt = false := by
  unfold get at h
  split at h
  · next henabled =>
    split at h
    · cases h
    · next d storedAt he =>
      split at h
      · cases h
      · next hlive =>
        obtain rfl := Option.some.inj h
        exact ⟨henabled, storedAt, he, by simpa using hlive⟩
  · cases h

end DecisionMemo

end AxiamSdk
