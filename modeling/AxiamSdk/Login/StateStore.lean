import AxiamSdk.Lib.Expiring
import AxiamSdk.Lib.FloatOrder
import AxiamSdk.Lib.Text

/-! # The store of logins under way (`_oidc_state.py`)

* `MemoryOidcStateStore`: entries under their state, each with the instant from which it is dead.
* `Op`, `after`: what callers do to one store, in the order in which they hold its lock.
* `consume_iff`: an entry is handed out exactly to the first `consume` after its last `save`, within its time
  to live.
* `store_holds_pending`: the store hands out, once, and counts what is pending, and nothing else. -/

namespace AxiamSdk.Login
open PyLib
set_option autoImplicit false

/-- `OIDC_STATE_TTL_SECONDS` -/
def oidcStateTtlSeconds : Float := 600.0

structure OidcStateEntry where
  state : PyStr
  nonce : PyStr
  codeVerifier : PyStr
  redirectUri : PyStr
  returnTo : Option PyStr
  deriving DecidableEq

structure MemoryOidcStateStore where
  ttlSeconds : Float
  entries : Dict PyStr (OidcStateEntry × Float)

namespace MemoryOidcStateStore

/-- `min(ttl_seconds, OIDC_STATE_TTL_SECONDS)` -/
def ttlOf (ttlSeconds : Float) : Float :=
  if oidcStateTtlSeconds < ttlSeconds then oidcStateTtlSeconds else ttlSeconds

def new (ttlSeconds : Float) : MemoryOidcStateStore := ⟨ttlOf ttlSeconds, Dict.empty⟩

variable (m : MemoryOidcStateStore)

/-- `_sweep_locked` -/
def sweepLocked (now : Float) : MemoryOidcStateStore :=
  { m with entries := m.entries.filter (fun p => !decide (p.2.2 ≤ now)) }

def size (now : Float) : ℕ × MemoryOidcStateStore := ((m.sweepLocked now).entries.size, m.sweepLocked now)

/-- The clock is read for the sweep and again for the deadline. -/
def save (entry : OidcStateEntry) (sweptAt savedAt : Float) : MemoryOidcStateStore :=
  { m.sweepLocked sweptAt with
    entries := (m.sweepLocked sweptAt).entries.set entry.state (entry, savedAt + m.ttlSeconds) }

def consume (state : PyStr) (now : Float) : Option OidcStateEntry × MemoryOidcStateStore :=
  let popped := { m with entries := m.entries.erase state }
  match m.entries.get? state with
  | none => (none, popped)
  | some (entry, expiresAt) => (if expiresAt ≤ now then none else some entry, popped)

end MemoryOidcStateStore

/-! ## Histories -/

inductive Op
  | save (entry : OidcStateEntry) (sweptAt savedAt : Float)
  | consume (state : PyStr) (now : Float)
  | size (now : Float)

namespace Op

def apply (m : MemoryOidcStateStore) : Op → MemoryOidcStateStore
  | .save entry sweptAt savedAt => m.save entry sweptAt savedAt
  | .consume state now => (m.consume state now).2
  | .size now => (m.size now).2

/-- The readings that the operation makes of the clock. -/
def readings : Op → List Float
  | .save _ sweptAt savedAt => [sweptAt, savedAt]
  | .consume _ now | .size now => [now]

/-- The operation stores under the state, or takes what is there. -/
def touches (state : PyStr) : Op → Bool
  | .save entry _ _ => decide (entry.state = state)
  | .consume state' _ => decide (state' = state)
  | .size _ => false

def saves (state : PyStr) : Op → Bool
  | .save entry _ _ => decide (entry.state = state)
  | _ => false

end Op

def after (ttlSeconds : Float) (ops : List Op) : MemoryOidcStateStore :=
  ops.foldl Op.apply (.new ttlSeconds)

/-- The entry was saved by an operation, none since has touched its state, and its time to live is not over. -/
def Pending (ttl : Float) (ops : List Op) (entry : OidcStateEntry) (now : Float) : Prop :=
  ∃ before sweptAt savedAt rest, ops = before ++ .save entry sweptAt savedAt :: rest ∧
    (∀ op ∈ rest, op.touches entry.state = false) ∧
    ¬ savedAt + ttl ≤ now

/-! ## The store is an expiring dictionary -/

instance float_isTrans : IsTrans Float (· ≤ ·) := ⟨fun _ _ _ => FloatOrder.le_trans⟩

def Op.toStep (ttl : Float) : Op → Expiring.Step PyStr OidcStateEntry Float
  | .save entry sweptAt savedAt => .put sweptAt entry.state entry (savedAt + ttl)
  | .consume state now => .take now state
  | .size now => .sweep now

open MemoryOidcStateStore

theorem apply_entries (m : MemoryOidcStateStore) (op : Op) :
    (op.apply m).ttlSeconds = m.ttlSeconds ∧
      (op.apply m).entries = Expiring.next m.entries (op.toStep m.ttlSeconds) := by
  cases op with
  | save entry sweptAt savedAt => exact ⟨rfl, rfl⟩
  | consume state now =>
    simp only [Op.apply, Op.toStep, Expiring.next, MemoryOidcStateStore.consume]
    cases m.entries.get? state with
    | none => exact ⟨rfl, rfl⟩
    | some held => exact ⟨rfl, rfl⟩
  | size now => exact ⟨rfl, rfl⟩

theorem after_snoc (ttlSeconds : Float) (ops : List Op) (op : Op) :
    after ttlSeconds (ops ++ [op]) = op.apply (after ttlSeconds ops) := by
  simp [after]

/-- **The refinement**: the store's dictionary is what the library's operations leave. -/
theorem after_entries (ttlSeconds : Float) (ops : List Op) :
    (after ttlSeconds ops).ttlSeconds = ttlOf ttlSeconds ∧
      (after ttlSeconds ops).entries = Expiring.after (ops.map (Op.toStep (ttlOf ttlSeconds))) := by
  induction ops using List.reverseRecOn with
  | nil => exact ⟨rfl, rfl⟩
  | append_singleton ops op ih =>
    obtain ⟨httl, hentries⟩ := ih
    obtain ⟨httl', hentries'⟩ := apply_entries (after ttlSeconds ops) op
    rw [after_snoc, List.map_append, List.map_cons, List.map_nil, Expiring.after_snoc]
    refine ⟨httl'.trans httl, ?_⟩
    rw [hentries', hentries, httl]

theorem consume_eq_taken (m : MemoryOidcStateStore) (state : PyStr) (now : Float) :
    (m.consume state now).1 = Expiring.taken m.entries now state := by
  unfold MemoryOidcStateStore.consume Expiring.taken
  cases m.entries.get? state with
  | none => rfl
  | some held => rfl

theorem toStep_replaces (ttl : Float) (op : Op) (state : PyStr) :
    (op.toStep ttl).replaces state = op.touches state := by
  cases op <;> rfl

theorem toStep_now (ttl : Float) (op : Op) : (op.toStep ttl).now ∈ op.readings := by
  cases op <;> simp [Op.toStep, Op.readings, Expiring.Step.now]

/-- Only a `save` stores, and what it stores is its entry. -/
theorem stored_toStep {ttl : Float} {d : Expiring.Store PyStr OidcStateEntry Float} {op : Op} {state : PyStr}
    {entry : OidcStateEntry} {deadline : Float}
    (h : Expiring.stored d (op.toStep ttl) = some (state, entry, deadline)) :
    ∃ sweptAt savedAt, op = .save entry sweptAt savedAt ∧ entry.state = state ∧ deadline = savedAt + ttl := by
  cases op with
  | save entry' sweptAt savedAt =>
    simp only [Op.toStep, Expiring.stored, Option.some.injEq, Prod.mk.injEq] at h
    obtain ⟨hstate, rfl, hdeadline⟩ := h
    exact ⟨sweptAt, savedAt, rfl, hstate, hdeadline.symm⟩
  | consume state' now => simp [Op.toStep, Expiring.stored] at h
  | size now => simp [Op.toStep, Expiring.stored] at h

theorem lastStored_iff (ttl : Float) (ops : List Op) (state : PyStr) (entry : OidcStateEntry) (now : Float) :
    (∃ deadline, Expiring.LastStored (ops.map (Op.toStep ttl)) state entry deadline ∧ ¬ deadline ≤ now) ↔
      entry.state = state ∧ Pending ttl ops entry now := by
  constructor
  · rintro ⟨deadline, ⟨pre, e, post, hes, hstored, hpost⟩, halive⟩
    obtain ⟨before, rest', rfl, hbefore, hrest'⟩ := List.map_eq_append_iff.1 hes
    obtain ⟨op, rest, rfl, rfl, rfl⟩ := List.map_eq_cons_iff.1 hrest'
    obtain ⟨sweptAt, savedAt, rfl, rfl, rfl⟩ := stored_toStep hstored
    refine ⟨rfl, before, sweptAt, savedAt, rest, rfl, fun op hop => ?_, halive⟩
    have h := hpost _ (List.mem_map_of_mem hop)
    rwa [toStep_replaces] at h
  · rintro ⟨rfl, before, sweptAt, savedAt, rest, rfl, hrest, halive⟩
    refine ⟨savedAt + ttl, ⟨before.map (Op.toStep ttl), (Op.save entry sweptAt savedAt).toStep ttl,
      rest.map (Op.toStep ttl), ?_, rfl, ?_⟩, halive⟩
    · rw [List.map_append, List.map_cons]
    · intro f hf
      obtain ⟨op, hop, rfl⟩ := List.mem_map.1 hf
      rw [toStep_replaces]
      exact hrest op hop

/-! ## What is handed out -/

/-- No reading of the clock is after `now`. -/
def ClockBefore (ops : List Op) (now : Float) : Prop := ∀ op ∈ ops, ∀ t ∈ op.readings, t ≤ now

/-- `consume` hands out an entry exactly if it is pending under the state. -/
theorem consume_iff {ttlSeconds : Float} {ops : List Op} {now : Float} (hclock : ClockBefore ops now)
    (state : PyStr) (entry : OidcStateEntry) :
    ((after ttlSeconds ops).consume state now).1 = some entry ↔
      entry.state = state ∧ Pending (ttlOf ttlSeconds) ops entry now := by
  rw [consume_eq_taken, (after_entries ttlSeconds ops).2, ← lastStored_iff]
  refine Expiring.taken_after_iff ?_ state entry
  intro e he
  obtain ⟨op, hop, rfl⟩ := List.mem_map.1 he
  exact hclock op hop _ (toStep_now _ op)

/-- What was taken stays taken until its state is saved again. -/
theorem consumed_not_pending {ttl : Float} {before rest : List Op} {state : PyStr} {t : Float}
    (hrest : ∀ op ∈ rest, op.saves state = false) (entry : OidcStateEntry) (now : Float) :
    ¬ (entry.state = state ∧ Pending ttl (before ++ .consume state t :: rest) entry now) := by
  rintro ⟨rfl, before', sweptAt, savedAt, rest', hops, huntouched, -⟩
  obtain ⟨middle, rfl, hmiddle⟩ | ⟨middle, rfl, hmiddle⟩ := List.append_eq_append_iff.1 hops
  · cases middle with
    | nil => cases hmiddle
    | cons op middle =>
      obtain ⟨-, rfl⟩ := List.cons.inj hmiddle
      have hsave := hrest (.save entry sweptAt savedAt) (by simp)
      simp [Op.saves] at hsave
  · cases middle with
    | nil => cases hmiddle
    | cons op middle =>
      obtain ⟨-, rfl⟩ := List.cons.inj hmiddle
      have htouch := huntouched (.consume entry.state t) (by simp)
      simp [Op.touches] at htouch

/-- What is left by a question for the size is what is pending. -/
theorem size_get?_iff {ttlSeconds : Float} {ops : List Op} {now : Float} (hclock : ClockBefore ops now)
    (state : PyStr) (entry : OidcStateEntry) :
    (∃ deadline, ((after ttlSeconds ops).size now).2.entries.get? state = some (entry, deadline)) ↔
      entry.state = state ∧ Pending (ttlOf ttlSeconds) ops entry now := by
  rw [← consume_iff hclock, consume_eq_taken, Expiring.taken_iff]
  exact exists_congr fun deadline => Expiring.get?_dropDead now (after ttlSeconds ops).entries state entry deadline

/-- **The store**, after any operations by a clock that has not gone back: it hands out what is pending under a
state, once, and counts what is pending. -/
theorem store_holds_pending {ttlSeconds : Float} {ops : List Op} {now : Float} (hclock : ClockBefore ops now) :
    (∀ state entry, ((after ttlSeconds ops).consume state now).1 = some entry ↔
      entry.state = state ∧ Pending (ttlOf ttlSeconds) ops entry now) ∧
    (∀ before state t rest, ops = before ++ .consume state t :: rest → (∀ op ∈ rest, op.saves state = false) →
      ((after ttlSeconds ops).consume state now).1 = none) ∧
    ∃ pending : List OidcStateEntry, ((after ttlSeconds ops).size now).1 = pending.length ∧
      (pending.map OidcStateEntry.state).Nodup ∧
      ∀ entry, entry ∈ pending ↔ Pending (ttlOf ttlSeconds) ops entry now := by
  refine ⟨consume_iff hclock, ?_, ?_⟩
  · intro before state t rest hops hrest
    cases htaken : ((after ttlSeconds ops).consume state now).1 with
    | none => rfl
    | some entry =>
      have hpending := (consume_iff hclock state entry).1 htaken
      rw [hops] at hpending
      exact absurd hpending (consumed_not_pending hrest entry now)
  · have hheld : ∀ p ∈ ((after ttlSeconds ops).size now).2.entries.items,
        p.2.1.state = p.1 ∧ Pending (ttlOf ttlSeconds) ops p.2.1 now := by
      intro p hp
      refine (size_get?_iff hclock p.1 p.2.1).1 ⟨p.2.2, ?_⟩
      exact (Dict.mem_iff_get? _ _ _).1 hp
    refine ⟨((after ttlSeconds ops).size now).2.entries.items.map (fun p => p.2.1), ?_, ?_, ?_⟩
    · rw [List.length_map]
      rfl
    · have hkeys := ((after ttlSeconds ops).size now).2.entries.nodup
      rw [List.map_map]
      have hsame : ((after ttlSeconds ops).size now).2.entries.items.map
          (OidcStateEntry.state ∘ fun p => p.2.1) =
          ((after ttlSeconds ops).size now).2.entries.items.map Prod.fst :=
        List.map_congr_left fun p hp => (hheld p hp).1
      rwa [hsame]
    · intro entry
      rw [List.mem_map]
      constructor
      · rintro ⟨p, hp, rfl⟩
        exact (hheld p hp).2
      · intro hpending
        obtain ⟨deadline, hget⟩ := (size_get?_iff hclock entry.state entry).2 ⟨rfl, hpending⟩
        exact ⟨(entry.state, entry, deadline), (Dict.mem_iff_get? _ _ _).2 hget, rfl⟩

namespace TwoLogins

def entry (state : PyStr) : OidcStateEntry := ⟨state, lit "n", lit "v", lit "https://rp/cb", none⟩

/-- One of two logins is called back. -/
def ops : List Op := [.save (entry (lit "a")) 0.0 0.0, .save (entry (lit "b")) 1.0 1.0, .consume (lit "a") 2.0]

theorem clock : ClockBefore ops 3.0 := by
  have hreadings : (ops.flatMap Op.readings).all (fun t => decide (t ≤ 3.0)) = true := by decide +kernel
  intro op hop t ht
  exact of_decide_eq_true (List.all_eq_true.1 hreadings t (List.mem_flatMap.2 ⟨op, hop, ht⟩))

theorem pending : Pending (ttlOf 600.0) ops (entry (lit "b")) 3.0 := by
  refine ⟨[.save (entry (lit "a")) 0.0 0.0], 1.0, 1.0, [.consume (lit "a") 2.0], rfl, ?_, by decide +kernel⟩
  intro op hop
  obtain rfl := List.mem_singleton.1 hop
  decide

end TwoLogins

open TwoLogins in
/-- The other one is handed out, the first is not handed out again. -/
theorem two_logins_held :
    ((after 600.0 ops).consume (lit "b") 3.0).1 = some (entry (lit "b")) ∧
      ((after 600.0 ops).consume (lit "a") 3.0).1 = none := by
  obtain ⟨hconsume, honce, -⟩ := @store_holds_pending 600.0 ops 3.0 clock
  refine ⟨(hconsume _ _).2 ⟨rfl, pending⟩, honce (ops.take 2) (lit "a") 2.0 [] rfl ?_⟩
  intro op hop
  cases hop

end AxiamSdk.Login
