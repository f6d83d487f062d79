import Mathlib.Data.List.Induction
import Mathlib.Data.Set.Function
import AxiamSdk.DecisionMemo

/-! # What a memo hit answers (`_decision_memo.py`)

* `Question`: the five components; `Question.key` is their joined key.
* `Hits`, `Small`: what a history of operations on one memo owes its callers.
* `answers_iff`: every history over a set of questions keeps that exactly if no two of them share a key.
* `key_injOn`: questions without the separator and the absent marker share none. -/

namespace AxiamSdk
open PyLib
set_option autoImplicit false

/-! ## Questions -/

structure Question where
  action : PyStr
  resourceId : PyStr
  scope : Option PyStr
  subjectId : Option PyStr
  actingTenant : Option PyStr
  deriving DecidableEq

namespace Question

def parts (q : Question) : List PyStr :=
  [q.subjectId.getD memoAbsent, q.resourceId, q.action, q.scope.getD memoAbsent, q.actingTenant.getD memoAbsent]

/-- `memo_key` of a question. -/
def key (q : Question) : PyStr := List.intercalate [memoSep] q.parts

/-- No component has the separator in it, and none that is given is the marker of an absent one. -/
structure Plain (q : Question) : Prop where
  separated : ∀ part ∈ q.parts, memoSep ∉ part
  scope : q.scope ≠ some memoAbsent
  subjectId : q.subjectId ≠ some memoAbsent
  actingTenant : q.actingTenant ≠ some memoAbsent

end Question

theorem cut_inj {sep : CodePoint} {a b x y : PyStr} (ha : sep ∉ a) (hb : sep ∉ b)
    (h : a ++ sep :: x = b ++ sep :: y) : a = b ∧ x = y := by
  induction a generalizing b with
  | nil =>
    cases b with
    | nil => exact ⟨rfl, (List.cons.inj h).2⟩
    | cons c b => exact absurd ((List.cons.inj h).1 ▸ List.mem_cons_self) hb
  | cons c a ih =>
    cases b with
    | nil => exact absurd ((List.cons.inj h).1 ▸ List.mem_cons_self) ha
    | cons d b =>
      obtain ⟨rfl, htail⟩ := List.cons.inj h
      obtain ⟨rfl, hxy⟩ := ih (fun hmem => ha (List.mem_cons_of_mem _ hmem))
        (fun hmem => hb (List.mem_cons_of_mem _ hmem)) htail
      exact ⟨rfl, hxy⟩

theorem intercalate_cons {sep : CodePoint} (a b : PyStr) (ls : List PyStr) :
    List.intercalate [sep] (a :: b :: ls) = a ++ sep :: List.intercalate [sep] (b :: ls) := by
  simp [List.intercalate]

theorem intercalate_inj {sep : CodePoint} {ls ls' : List PyStr} (hlength : ls.length = ls'.length)
    (hls : ∀ l ∈ ls, sep ∉ l) (hls' : ∀ l ∈ ls', sep ∉ l)
    (h : List.intercalate [sep] ls = List.intercalate [sep] ls') : ls = ls' := by
  induction ls generalizing ls' with
  | nil => exact (List.eq_nil_of_length_eq_zero hlength.symm).symm
  | cons a ls ih =>
    cases ls' with
    | nil => cases hlength
    | cons a' ls' =>
      cases ls with
      | nil =>
        obtain rfl : ls' = [] := List.eq_nil_of_length_eq_zero (by simpa using hlength.symm)
        simpa [List.intercalate] using h
      | cons b ls =>
        cases ls' with
        | nil => simp at hlength
        | cons b' ls' =>
          rw [intercalate_cons, intercalate_cons] at h
          obtain ⟨rfl, hrest⟩ := cut_inj (hls a List.mem_cons_self) (hls' a' List.mem_cons_self) h
          rw [ih (Nat.succ.inj hlength) (fun l hl => hls l (List.mem_cons_of_mem _ hl))
            (fun l hl => hls' l (List.mem_cons_of_mem _ hl)) hrest]

theorem getD_absent_inj {a b : Option PyStr} (ha : a ≠ some memoAbsent) (hb : b ≠ some memoAbsent)
    (h : a.getD memoAbsent = b.getD memoAbsent) : a = b := by
  cases a with
  | none =>
    cases b with
    | none => rfl
    | some y => exact absurd (congrArg some h.symm) hb
  | some x =>
    cases b with
    | none => exact absurd (congrArg some h) ha
    | some y => exact congrArg some h

theorem key_injOn : Set.InjOn Question.key {q | q.Plain} := by
  rintro ⟨a, r, s, u, t⟩ hq ⟨a', r', s', u', t'⟩ hq' hkey
  have hparts := intercalate_inj (by rfl) hq.separated hq'.separated hkey
  simp only [Question.parts, List.cons.injEq, and_true] at hparts
  obtain ⟨hu, rfl, rfl, hs, ht⟩ := hparts
  obtain rfl := getD_absent_inj hq.scope hq'.scope hs
  obtain rfl := getD_absent_inj hq.subjectId hq'.subjectId hu
  obtain rfl := getD_absent_inj hq.actingTenant hq'.actingTenant ht
  rfl

/-! ## Histories -/

inductive MemoOp (δ : Type)
  | set (q : Question) (decision : δ)
  | get (q : Question)
  | clear

/-- An operation, with the reading of the clock that it makes, if it makes one. -/
structure MemoEvent (δ : Type) where
  now : Float
  op : MemoOp δ

/-- The question that an operation is about. -/
def MemoOp.question {δ : Type} : MemoOp δ → Option Question
  | .set q _ | .get q => some q
  | .clear => none

variable {δ : Type}

/-- The operation, through `memo_key`; a question has a key always. -/
def memoStep (m : DecisionMemo δ) (e : MemoEvent δ) : DecisionMemo δ :=
  match e.op with
  | .set q decision => m.set q.key decision e.now
  | .get q => (m.get q.key e.now).2
  | .clear => m.clear

def memoAfter (ttlMs : Float) (es : List (MemoEvent δ)) : DecisionMemo δ :=
  es.foldl memoStep (DecisionMemo.new ttlMs)

/-- The decision was set for the question, less than the effective TTL ago, and neither it nor anything else
was set for it or the memo cleared since. -/
def MostRecent (ttlMs : Float) (es : List (MemoEvent δ)) (q : Question) (decision : δ) (now : Float) : Prop :=
  ∃ before after storedAt, es = before ++ ⟨storedAt, .set q decision⟩ :: after ∧
    (∀ e ∈ after, e.op ≠ .clear ∧ ∀ decision', e.op ≠ .set q decision') ∧
    ¬ clampTtl ttlMs ≤ (now - storedAt) * 1000.0

/-- Every hit answers the question that was asked. -/
def Hits (ttlMs : Float) (es : List (MemoEvent δ)) : Prop :=
  ∀ before after now q decision, es = before ++ ⟨now, .get q⟩ :: after →
    ((memoAfter ttlMs before).get q.key now).1 = some decision → MostRecent ttlMs before q decision now

/-- The memo never holds more than `_MAX_ENTRIES` entries. -/
def Small (ttlMs : Float) (es : List (MemoEvent δ)) : Prop :=
  ∀ before after, es = before ++ after → (memoAfter ttlMs before).entries.size ≤ maxEntries

/-- The clock never goes back. -/
def Timed (es : List (MemoEvent δ)) : Prop := es.Pairwise (fun e e' => e.now ≤ e'.now)

/-- The questions of a history. -/
def asked (es : List (MemoEvent δ)) : List Question := es.filterMap (fun e => e.op.question)

/-! ### The size -/

theorem evict_size (entries : Dict PyStr (δ × Float)) : (DecisionMemo.evict entries).size ≤ maxEntries := by
  simp only [DecisionMemo.evict, Dict.size, List.length_drop]
  omega

theorem memoStep_size {m : DecisionMemo δ} (h : m.entries.size ≤ maxEntries) (e : MemoEvent δ) :
    (memoStep m e).entries.size ≤ maxEntries := by
  unfold memoStep
  split
  · unfold DecisionMemo.set
    split
    · exact evict_size _
    · exact h
  · unfold DecisionMemo.get
    split
    · split
      · exact h
      · split
        · exact (List.length_filter_le _ _).trans h
        · exact h
    · exact h
  · exact Nat.zero_le _

theorem memoAfter_small (ttlMs : Float) (es : List (MemoEvent δ)) : Small ttlMs es := by
  rintro before after -
  unfold memoAfter
  have hstart : (DecisionMemo.new ttlMs : DecisionMemo δ).entries.size ≤ maxEntries := Nat.zero_le _
  generalize (DecisionMemo.new ttlMs : DecisionMemo δ) = m at hstart
  induction before generalizing m with
  | nil => exact hstart
  | cons e before ih => exact ih _ (memoStep_size hstart e)

/-! ### The hits -/

/-- Every entry of the memo was set for a question of the history, and is the last one set for it. -/
def Recorded (es : List (MemoEvent δ)) (m : DecisionMemo δ) : Prop :=
  ∀ key decision storedAt, m.entries.get? key = some (decision, storedAt) → ∃ q before after, q.key = key ∧
    es = before ++ ⟨storedAt, .set q decision⟩ :: after ∧
    ∀ e ∈ after, e.op ≠ .clear ∧ ∀ decision', e.op ≠ .set q decision'

theorem memoStep_ttlMs (m : DecisionMemo δ) (e : MemoEvent δ) : (memoStep m e).ttlMs = m.ttlMs := by
  unfold memoStep
  split
  · exact DecisionMemo.set_ttlMs ..
  · exact DecisionMemo.get_ttlMs ..
  · exact DecisionMemo.clear_ttlMs _

theorem memoAfter_snoc (ttlMs : Float) (es : List (MemoEvent δ)) (e : MemoEvent δ) :
    memoAfter ttlMs (es ++ [e]) = memoStep (memoAfter ttlMs es) e := by
  simp only [memoAfter, List.foldl_append, List.foldl_cons, List.foldl_nil]

theorem memoAfter_ttlMs (ttlMs : Float) (es : List (MemoEvent δ)) : (memoAfter ttlMs es).ttlMs = clampTtl ttlMs := by
  induction es using List.reverseRecOn with
  | nil => rfl
  | append_singleton es e ih => rw [memoAfter_snoc, memoStep_ttlMs, ih]

/-- **One operation keeps the record.** -/
theorem recorded_step {es : List (MemoEvent δ)} {m : DecisionMemo δ} (h : Recorded es m) (henabled : m.enabled = true)
    (e : MemoEvent δ) : Recorded (es ++ [e]) (memoStep m e) := by
  have hkeep : ∀ {q : Question} {before after : List (MemoEvent δ)} {decision : δ} {storedAt : Float},
      es = before ++ ⟨storedAt, .set q decision⟩ :: after →
      (∀ f ∈ after, f.op ≠ .clear ∧ ∀ decision', f.op ≠ .set q decision') →
      (e.op ≠ .clear ∧ ∀ decision', e.op ≠ .set q decision') →
      ∃ q' before' after', q'.key = q.key ∧ es ++ [e] = before' ++ ⟨storedAt, .set q' decision⟩ :: after' ∧
        ∀ f ∈ after', f.op ≠ .clear ∧ ∀ decision', f.op ≠ .set q' decision' := by
    intro q before after decision storedAt hes hafter he
    refine ⟨q, before, after ++ [e], rfl, ?_, fun f hf => ?_⟩
    · rw [hes, List.append_assoc, List.cons_append]
    · obtain hf | hf := List.mem_append.1 hf
      · exact hafter f hf
      · obtain rfl := List.mem_singleton.1 hf
        exact he
  intro key decision storedAt hentry
  unfold memoStep at hentry
  split at hentry
  · next q decision' hop =>
    by_cases hkey : key = q.key
    · subst hkey
      rw [DecisionMemo.set_self henabled] at hentry
      obtain ⟨rfl, rfl⟩ := Prod.mk.inj (Option.some.inj hentry)
      refine ⟨q, es, [], rfl, ?_, fun f hf => absurd hf List.not_mem_nil⟩
      rw [← hop]
    · obtain hold | ⟨hsame, -⟩ := DecisionMemo.set_entries hentry
      · obtain ⟨q', before, after, rfl, hes, hafter⟩ := h key decision storedAt hold
        refine hkeep hes hafter ⟨?_, fun decision'' hset => ?_⟩
        · rw [hop]
          exact fun hclear => by cases hclear
        · rw [hop] at hset
          obtain ⟨rfl, -⟩ := MemoOp.set.inj hset
          exact hkey rfl
      · exact absurd hsame hkey
  · next q hop =>
    obtain ⟨q', before, after, rfl, hes, hafter⟩ := h key decision storedAt (DecisionMemo.get_entries hentry)
    refine hkeep hes hafter ⟨?_, fun decision'' => ?_⟩
    · rw [hop]
      exact fun hclear => by cases hclear
    · rw [hop]
      exact fun hset => by cases hset
  · rw [DecisionMemo.clear_entries] at hentry
    cases hentry

theorem memoAfter_recorded {ttlMs : Float} (henabled : (DecisionMemo.new ttlMs : DecisionMemo δ).enabled = true)
    (es : List (MemoEvent δ)) : Recorded es (memoAfter ttlMs es) := by
  induction es using List.reverseRecOn with
  | nil =>
    intro key decision storedAt hentry
    cases hentry
  | append_singleton es e ih =>
    rw [memoAfter_snoc]
    refine recorded_step ih ?_ e
    rw [DecisionMemo.enabled, memoAfter_ttlMs]
    exact henabled

/-- A question that shares its key with no other one of the history is answered. -/
theorem hits_of_injOn {ttlMs : Float} (henabled : (DecisionMemo.new ttlMs : DecisionMemo δ).enabled = true)
    {es : List (MemoEvent δ)} (hinj : Set.InjOn Question.key {q | q ∈ asked es}) : Hits ttlMs es := by
  intro before after now q decision hes hget
  obtain ⟨-, storedAt, hentry, hlive⟩ := DecisionMemo.get_some hget
  obtain ⟨q', before', after', hkey, hbefore, hafter⟩ := memoAfter_recorded henabled before _ _ _ hentry
  have hmem : ∀ {e : MemoEvent δ} {q₀ : Question}, e ∈ es → e.op.question = some q₀ → q₀ ∈ asked es :=
    fun he hq => List.mem_filterMap.2 ⟨_, he, hq⟩
  have hq : q ∈ asked es := hmem (e := ⟨now, .get q⟩) (by rw [hes]; simp) rfl
  have hq' : q' ∈ asked es := hmem (e := ⟨storedAt, .set q' decision⟩) (by rw [hes, hbefore]; simp) rfl
  obtain rfl := hinj hq' hq hkey
  refine ⟨before', after', storedAt, hbefore, hafter, fun hle => ?_⟩
  rw [DecisionMemo.expired, memoAfter_ttlMs, decide_eq_false_iff_not] at hlive
  exact hlive hle

/-- Two questions with one key: what was set for the first is the answer to the second. -/
theorem not_hits_of_shared {ttlMs : Float} (henabled : (DecisionMemo.new ttlMs : DecisionMemo δ).enabled = true)
    {q q' : Question} (hne : q ≠ q') (hkey : q.key = q'.key) (decision : δ) :
    ¬ Hits ttlMs [⟨0.0, .set q decision⟩, ⟨0.0, .get q'⟩] := by
  intro hhits
  have hlive : ((memoAfter ttlMs [⟨0.0, .set q decision⟩]).get q'.key 0.0).1 = some decision := by
    have hself : ((DecisionMemo.new ttlMs).set q.key decision 0.0).entries.get? q.key = some (decision, 0.0) :=
      DecisionMemo.set_self henabled
    have henabled' : (memoAfter ttlMs [⟨0.0, .set q decision⟩]).enabled = true := by
      rw [DecisionMemo.enabled, memoAfter_ttlMs]
      exact henabled
    rw [← hkey, DecisionMemo.get_live henabled' hself (DecisionMemo.expired_self henabled' 0.0)]
  obtain ⟨before, after, storedAt, hes, -, -⟩ := hhits _ [] 0.0 q' decision rfl hlive
  cases before with
  | nil =>
    obtain ⟨hset, -⟩ := List.cons.inj hes
    obtain ⟨-, hop⟩ := MemoEvent.mk.inj hset
    exact hne (MemoOp.set.inj hop).1
  | cons e before => simp at hes

theorem zero_le_zero : (0.0 : Float) ≤ 0.0 := by decide +kernel

/-- **A hit answers the question that was asked** in every history over a set of questions exactly if no two of
them share a key. -/
theorem answers_iff [Inhabited δ] (ttlMs : Float) (henabled : (DecisionMemo.new ttlMs : DecisionMemo δ).enabled = true)
    (Q : Set Question) :
    (∀ es : List (MemoEvent δ), (∀ q ∈ asked es, q ∈ Q) → Timed es → Hits ttlMs es ∧ Small ttlMs es) ↔
      Set.InjOn Question.key Q := by
  constructor
  · intro hall q hq q' hq' hkey
    by_contra hne
    have htimed : Timed [(⟨0.0, .set q default⟩ : MemoEvent δ), ⟨0.0, .get q'⟩] :=
      List.pairwise_pair.2 zero_le_zero
    have hasked : ∀ q₀ ∈ asked [(⟨0.0, .set q default⟩ : MemoEvent δ), ⟨0.0, .get q'⟩], q₀ ∈ Q := by
      intro q₀ hq₀
      obtain rfl | rfl : q₀ = q ∨ q₀ = q' := by simpa [asked, MemoOp.question] using hq₀
      · exact hq
      · exact hq'
    exact not_hits_of_shared henabled hne hkey default (hall _ hasked htimed).1
  · intro hinj es hasked _
    exact ⟨hits_of_injOn henabled (Set.InjOn.mono hasked hinj), memoAfter_small ttlMs es⟩

/-- Questions without the separator and the absent marker in them are answered. -/
theorem plain_answered : Set.InjOn Question.key {q | q.Plain} ∧
    ∀ es : List (MemoEvent Bool), (∀ q ∈ asked es, q.Plain) → Timed es → Hits 1000.0 es ∧ Small 1000.0 es :=
  ⟨key_injOn, (answers_iff 1000.0 (by decide +kernel) {q | q.Plain}).2 key_injOn⟩

/-- `read` on `doc`, without a scope, and with the scope of the one character 0. -/
def unscoped : Question := ⟨lit "read", lit "doc", none, none, none⟩

def zeroScoped : Question := ⟨lit "read", lit "doc", some [0], none, none⟩

/-- A decision without a scope answers the question with the scope of the one character 0. -/
theorem not_answers : ¬ ∀ es : List (MemoEvent Bool), Timed es → Hits 1000.0 es ∧ Small 1000.0 es := by
  intro hall
  have htimed : Timed [(⟨0.0, .set unscoped true⟩ : MemoEvent Bool), ⟨0.0, .get zeroScoped⟩] :=
    List.pairwise_pair.2 zero_le_zero
  have hne : unscoped ≠ zeroScoped := by decide
  have hkey : unscoped.key = zeroScoped.key := rfl
  have henabled : (DecisionMemo.new 1000.0 : DecisionMemo Bool).enabled = true := by decide +kernel
  exact not_hits_of_shared henabled hne hkey true (hall _ htimed).1

end AxiamSdk
