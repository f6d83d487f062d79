import AxiamSdk.Errors
import AxiamSdk.Lib.Runs

/-! # OPAQUE exchanges (`_opaque.py`)

An exchange owns a handle of the native library, which its `finish` or its `__del__` gives back; a
key-stretching handle lives inside one `finish`.

* `start`, `finish`, `drop`: what a program does, and the native calls that consume a handle.
* `Accounted`: every handle was given back once, or is in the slot of one exchange.
* `accounted_iff`: along a program it holds exactly when nothing raises while a handle has no owner. -/

namespace AxiamSdk.Opaque
open PyLib
set_option autoImplicit false

/-! ## Failures -/

/-- What the module raises. -/
inductive Failure
  /-- `_require`: the library is not there. -/
  | unavailable
  /-- A native call returned NULL; the text of `axiam_opaque_last_error`. -/
  | native (text : PyStr)
  /-- `invalid credentials` -/
  | credentials (text : PyStr)
  | completed
  | unknownKsf (ksf : PyStr)
  | missingCost (ksf name : PyStr)
  | costOutside (ksf name : PyStr) (value low high : ℤ)
  | unicodeEncodeError
  | unicodeDecodeError

/-! ## Key stretching -/

structure KsfParams where
  ksf : PyStr
  memoryKib : Option ℤ
  iterations : Option ℤ
  parallelism : Option ℤ
  logN : Option ℤ
  r : Option ℤ
  p : Option ℤ

/-- `_require`: the cost is stated and within its band of `_BOUNDS`. -/
def KsfParams.requireCost (params : KsfParams) (name : PyStr) (low high : ℤ) : Option ℤ → Except Failure ℤ
  | none => .error (.missingCost params.ksf name)
  | some value =>
    if low ≤ value ∧ value ≤ high then .ok value
    else .error (.costOutside params.ksf name value low high)

/-- `_build`, given what the native constructor returns: a handle or an error. -/
def KsfParams.build (params : KsfParams) (returned : Except PyStr Unit) : Except Failure Unit := do
  if params.ksf = lit "argon2id" then
    let _ ← params.requireCost (lit "memory_kib") 8192 1048576 params.memoryKib
    let _ ← params.requireCost (lit "iterations") 1 10 params.iterations
    let _ ← params.requireCost (lit "parallelism") 1 16 params.parallelism
    returned.mapError .native
  else if params.ksf = lit "scrypt" then
    let _ ← params.requireCost (lit "log_n") 14 20 params.logN
    let _ ← params.requireCost (lit "r") 1 16 params.r
    let _ ← params.requireCost (lit "p") 1 16 params.p
    returned.mapError .native
  else .error (.unknownKsf params.ksf)

/-! ## Handles -/

inductive Protocol
  | registration | login
  deriving DecidableEq

inductive Kind
  | exchange (protocol : Protocol)
  | ksf
  deriving DecidableEq

/-- The native functions that consume a handle. -/
inductive Release
  | finish (protocol : Protocol)
  | free (protocol : Protocol)
  | ksfFree

/-- The kind of handle that a function consumes. -/
def Release.consumes : Release → Kind
  | .finish p => .exchange p
  | .free p => .exchange p
  | .ksfFree => .ksf

/-- An exchange object: its handle, unless spent, and the message of its start. -/
structure Exchange where
  protocol : Protocol
  handle : Option ℕ
  first : PyStr

/-- The handles that the library returned, the calls that consumed one, and the exchange objects. A
handle is told by its number. -/
structure State where
  kinds : List Kind
  calls : List (Release × ℕ)
  exchanges : List Exchange

def State.empty : State := ⟨[], [], []⟩

/-- The library returns a handle. -/
def State.give (s : State) (kind : Kind) : State := { s with kinds := s.kinds ++ [kind] }

def State.call (s : State) (f : Release) (h : ℕ) : State := { s with calls := (f, h) :: s.calls }

/-- The handle leaves the slot of exchange `x`. -/
def State.clear (s : State) (x : ℕ) (e : Exchange) : State :=
  { s with exchanges := s.exchanges.set x { e with handle := none } }

/-! ## The operations -/

/-- What a start meets: whether the library loads, what the native call returns, and what `_take` makes
of the message. -/
structure StartOutcome where
  loaded : Bool
  returned : Except PyStr Unit
  taken : Except Failure PyStr

/-- `start_registration` and `start_login` -/
def start (protocol : Protocol) (password : PyStr) (o : StartOutcome) (s : State) :
    Except Failure ℕ × State :=
  if !o.loaded then (.error .unavailable, s)
  else
    match encodeUtf8 password with
    | none => (.error .unicodeEncodeError, s)
    | some _ =>
      match o.returned with
      | .error text => (.error (.native text), s)
      | .ok () =>
        let handle := s.kinds.length
        let s := s.give (.exchange protocol)
        match o.taken with
        | .error e => (.error e, s)
        | .ok first =>
          (.ok s.exchanges.length, { s with exchanges := s.exchanges ++ [⟨protocol, some handle, first⟩] })

/-- What a `finish` meets: what the constructor of the key-stretching handle returns, whether the native
`finish` returns a text, and what `_take` makes of it. -/
structure FinishOutcome where
  ksf : Except PyStr Unit
  returned : Except PyStr Unit
  taken : Except Failure PyStr

/-- What a returned text comes to. A NULL is a failed authentication only for a login. -/
def result (protocol : Protocol) (o : FinishOutcome) : Except Failure PyStr :=
  match o.returned, protocol with
  | .error text, .registration => .error (.native text)
  | .error text, .login => .error (.credentials text)
  | .ok (), _ => o.taken

/-- The `try` block of `finish`. -/
def finishBlock (x : ℕ) (e : Exchange) (password message : PyStr) (o : FinishOutcome) (s : State) :
    Except Failure PyStr × State :=
  match e.handle with
  | none => (.error .completed, s)
  | some handle =>
    -- `_consume`: from here on the handle has no owner until the native call
    let s := s.clear x e
    match encodeUtf8 password with
    | none => (.error .unicodeEncodeError, s)
    | some _ =>
      match encodeUtf8 message with
      | none => (.error .unicodeEncodeError, s)
      | some _ => (result e.protocol o, s.call (.finish e.protocol) handle)

/-- `RegistrationExchange.finish` and `LoginExchange.finish` -/
def finish (x : ℕ) (e : Exchange) (password message : PyStr) (params : KsfParams) (o : FinishOutcome)
    (s : State) : Except Failure PyStr × State :=
  match params.build o.ksf with
  | .error failure => (.error failure, s)
  | .ok () =>
    let ksfHandle := s.kinds.length
    let (r, s) := finishBlock x e password message o (s.give .ksf)
    (r, s.call .ksfFree ksfHandle)

/-- `__del__` -/
def drop (x : ℕ) (e : Exchange) (s : State) : State :=
  match e.handle with
  | none => s.clear x e
  | some handle => (s.clear x e).call (.free e.protocol) handle

inductive Event
  | start (protocol : Protocol) (password : PyStr) (o : StartOutcome)
  | finish (x : ℕ) (password message : PyStr) (params : KsfParams) (o : FinishOutcome)
  | drop (x : ℕ)

/-- One operation of a program, on exchanges that it was given. -/
def step (s : State) : Event → Option State
  | .start protocol password o => some (start protocol password o s).2
  | .finish x password message params o =>
    s.exchanges[x]?.map (fun e => (finish x e password message params o s).2)
  | .drop x => s.exchanges[x]?.map (fun e => drop x e s)

/-! ## Handles given back -/

/-- How many calls consumed the handle, and how many exchanges hold it. -/
def State.released (s : State) (h : ℕ) : ℕ := s.calls.countP (fun c => c.2 = h)
def State.held (s : State) (h : ℕ) : ℕ := s.exchanges.countP (fun e => e.handle = some h)

/-- A call consumes a handle of its kind, and an exchange holds one of its own. -/
structure Typed (s : State) : Prop where
  calls : ∀ f h, (f, h) ∈ s.calls → s.kinds[h]? = some f.consumes
  exchanges : ∀ e ∈ s.exchanges, ∀ h, e.handle = some h → s.kinds[h]? = some (.exchange e.protocol)

/-- **Every handle was given back once** to a function of its kind, or one exchange still holds it. A
key-stretching handle is in no slot. -/
structure Accounted (s : State) : Prop extends Typed s where
  once : ∀ h < s.kinds.length, s.released h + s.held h = 1

/-- Nothing raises while a handle is in no slot: a returned handle gets its exchange, and the texts of a
`finish` that spends a handle can be encoded. -/
def Owned (s : State) : Event → Prop
  | .start _ password o => o.loaded = true → noSurrogate password = true → o.returned = .ok () →
      ∃ first, o.taken = .ok first
  | .finish x password message params o => ∀ e h, s.exchanges[x]? = some e → e.handle = some h →
      params.build o.ksf = .ok () → noSurrogate password = true ∧ noSurrogate message = true
  | .drop _ => True

/-! ## What the primitives change -/

section Primitives
variable {s t : State} {x h h' : ℕ} {e : Exchange} {kind : Kind} {f : Release}

/-- Calls and slots that name the handle. -/
def State.uses (s : State) (h : ℕ) : ℕ := s.released h + s.held h

theorem uses_give : (s.give kind).uses h = s.uses h := rfl

theorem uses_call : (s.call f h').uses h = s.uses h + if h' = h then 1 else 0 := by
  unfold State.uses State.released State.held State.call
  rw [List.countP_cons]
  simp only [decide_eq_true_eq]
  omega

theorem held_clear (he : s.exchanges[x]? = some e) :
    (s.clear x e).held h + (if e.handle = some h then 1 else 0) = s.held h := by
  obtain ⟨hx, hget⟩ := List.getElem?_eq_some_iff.1 he
  unfold State.held State.clear
  have hle := List.boole_getElem_le_countP (p := fun e : Exchange => decide (e.handle = some h)) hx
  rw [List.countP_set hx]
  rw [hget] at hle ⊢
  simp only [decide_eq_true_eq, reduceCtorEq, if_false] at hle ⊢
  omega

theorem uses_clear (he : s.exchanges[x]? = some e) :
    (s.clear x e).uses h + (if e.handle = some h then 1 else 0) = s.uses h := by
  have hheld := held_clear (h := h) he
  have hreleased : (s.clear x e).released h = s.released h := rfl
  unfold State.uses
  omega

theorem kind_give (hkind : s.kinds[h]? = some kind) (kind' : Kind) : (s.give kind').kinds[h]? = some kind := by
  obtain ⟨hlt, -⟩ := List.getElem?_eq_some_iff.1 hkind
  rw [State.give, List.getElem?_append_left hlt]
  exact hkind

theorem kind_given (s : State) (kind : Kind) : (s.give kind).kinds[s.kinds.length]? = some kind := by
  rw [State.give, List.getElem?_append_right (Nat.le_refl _), Nat.sub_self]
  rfl

theorem Typed.give (hs : Typed s) (kind : Kind) : Typed (s.give kind) where
  calls f h hc := kind_give (hs.calls f h hc) kind
  exchanges e he h hh := kind_give (hs.exchanges e he h hh) kind

theorem Typed.call (hs : Typed s) (hkind : s.kinds[h]? = some f.consumes) : Typed (s.call f h) where
  calls f' h' hc := by
    obtain heq | hc := List.mem_cons.1 hc
    · obtain ⟨rfl, rfl⟩ := Prod.mk.inj heq
      exact hkind
    · exact hs.calls f' h' hc
  exchanges := hs.exchanges

theorem Typed.clear (hs : Typed s) (x : ℕ) (e : Exchange) : Typed (s.clear x e) where
  calls := hs.calls
  exchanges e' he' h hh := by
    obtain hmem | rfl := List.mem_or_eq_of_mem_set he'
    · exact hs.exchanges e' hmem h hh
    · cases hh

theorem Typed.store (hs : Typed s) {protocol : Protocol} {first : PyStr}
    (hkind : s.kinds[h]? = some (.exchange protocol)) :
    Typed { s with exchanges := s.exchanges ++ [⟨protocol, some h, first⟩] } where
  calls := hs.calls
  exchanges e he h' hh := by
    obtain he | he := List.mem_append.1 he
    · exact hs.exchanges e he h' hh
    · obtain rfl := List.mem_singleton.1 he
      obtain rfl := Option.some.inj hh
      exact hkind

theorem Typed.uses_fresh (hs : Typed s) (hle : s.kinds.length ≤ h) : s.uses h = 0 := by
  have hnone : s.kinds[h]? = none := List.getElem?_eq_none hle
  have hreleased : s.released h = 0 := by
    refine List.countP_eq_zero.2 fun c hc => ?_
    rw [decide_eq_true_eq]
    rintro rfl
    rw [hs.calls c.1 c.2 hc] at hnone
    cases hnone
  have hheld : s.held h = 0 := by
    refine List.countP_eq_zero.2 fun e he => ?_
    rw [decide_eq_true_eq]
    intro hh
    rw [hs.exchanges e he h hh] at hnone
    cases hnone
  rw [State.uses, hreleased, hheld]

theorem uses_store (s : State) (h : ℕ) (protocol : Protocol) (first : PyStr) :
    State.uses { s with exchanges := s.exchanges ++ [⟨protocol, some h', first⟩] } h =
      s.uses h + if h' = h then 1 else 0 := by
  unfold State.uses State.released State.held
  rw [List.countP_append, List.countP_singleton]
  simp only [decide_eq_true_eq, Option.some.injEq]
  omega

/-- A returned handle that one call consumed or one exchange got leaves every handle accounted for. -/
theorem Accounted.given (hs : Accounted s) (ht : Typed t) (hkinds : t.kinds.length = s.kinds.length + 1)
    (huses : ∀ h, t.uses h = s.uses h + if s.kinds.length = h then 1 else 0) : Accounted t := by
  refine ⟨ht, fun h hlt => ?_⟩
  have hh : t.released h + t.held h = s.uses h + if s.kinds.length = h then 1 else 0 := huses h
  rw [hh]
  rw [hkinds] at hlt
  obtain hlt | rfl := Nat.lt_succ_iff_lt_or_eq.1 hlt
  · rw [if_neg (Nat.ne_of_gt hlt)]
    exact hs.once h hlt
  · rw [hs.uses_fresh (Nat.le_refl _), if_pos rfl]

/-- A handle that nothing names. -/
theorem not_accounted_of_uses (hlt : h < s.kinds.length) (huses : s.uses h = 0) : ¬ Accounted s := by
  intro hs
  have honce := hs.once h hlt
  unfold State.uses at huses
  omega

end Primitives

/-! ## What an operation comes to -/

section Operations
variable {s : State} {x : ℕ} {e : Exchange}

/-- A start leaves the state alone, loses the handle, or stores it in a new exchange. -/
theorem start_cases (protocol : Protocol) (password : PyStr) (o : StartOutcome) (s : State) :
    ((start protocol password o s).2 = s ∧ Owned s (.start protocol password o)) ∨
    ((start protocol password o s).2 = s.give (.exchange protocol) ∧ ¬ Owned s (.start protocol password o)) ∨
    (∃ first, (start protocol password o s).2 =
        { s.give (.exchange protocol) with
          exchanges := s.exchanges ++ [⟨protocol, some s.kinds.length, first⟩] } ∧
      Owned s (.start protocol password o)) := by
  simp only [start, Owned]
  cases hloaded : o.loaded with
  | false => exact .inl ⟨rfl, fun h => absurd h Bool.false_ne_true⟩
  | true =>
    rw [encodeUtf8]
    by_cases hpassword : noSurrogate password = true
    · rw [if_pos hpassword]
      cases hreturned : o.returned with
      | error text => exact .inl ⟨rfl, fun _ _ h => by cases h⟩
      | ok u =>
        cases htaken : o.taken with
        | error failure =>
          refine .inr (.inl ⟨rfl, fun h => ?_⟩)
          obtain ⟨first, hfirst⟩ := h rfl hpassword rfl
          cases hfirst
        | ok first => exact .inr (.inr ⟨first, rfl, fun _ _ _ => ⟨first, rfl⟩⟩)
    · rw [if_neg hpassword]
      exact .inl ⟨rfl, fun _ h => absurd h hpassword⟩

/-- A `finish` that builds its key-stretching handle frees it, and the exchange's own is consumed, was
consumed before, or is lost. -/
theorem finish_cases (he : s.exchanges[x]? = some e) (password message : PyStr) (params : KsfParams)
    (o : FinishOutcome) :
    ((finish x e password message params o s).2 = s ∧ Owned s (.finish x password message params o)) ∨
    ((finish x e password message params o s).2 = (s.give .ksf).call .ksfFree s.kinds.length ∧
      Owned s (.finish x password message params o)) ∨
    (∃ h, e.handle = some h ∧
      (finish x e password message params o s).2 =
        ((s.give .ksf).clear x e).call .ksfFree s.kinds.length ∧
      ¬ Owned s (.finish x password message params o)) ∨
    (∃ h, e.handle = some h ∧
      (finish x e password message params o s).2 =
        (((s.give .ksf).clear x e).call (.finish e.protocol) h).call .ksfFree s.kinds.length ∧
      Owned s (.finish x password message params o)) := by
  simp only [finish, finishBlock, Owned, he, Option.some.injEq]
  cases hbuild : params.build o.ksf with
  | error failure => exact .inl ⟨rfl, fun _ _ _ _ h => by cases h⟩
  | ok u =>
    cases hhandle : e.handle with
    | none =>
      refine .inr (.inl ⟨rfl, fun e' h he' hh _ => ?_⟩)
      subst he'
      rw [hhandle] at hh
      cases hh
    | some h =>
      by_cases hencoded : noSurrogate password = true ∧ noSurrogate message = true
      · refine .inr (.inr (.inr ⟨h, rfl, ?_, fun _ _ _ _ _ => hencoded⟩))
        simp only [encodeUtf8, hencoded.1, hencoded.2, if_true]
      · refine .inr (.inr (.inl ⟨h, rfl, ?_, fun howned => hencoded (howned e h rfl hhandle rfl)⟩))
        simp only [encodeUtf8]
        by_cases hpassword : noSurrogate password = true
        · have hmessage : noSurrogate message = false := by
            rw [Bool.eq_false_iff]
            exact fun hmessage => hencoded ⟨hpassword, hmessage⟩
          rw [if_pos hpassword, hmessage]
          rfl
        · rw [if_neg hpassword]

theorem Typed.step {t : State} {event : Event} (hs : Typed s) (hstep : step s event = some t) : Typed t := by
  cases event with
  | start protocol password o =>
    obtain rfl := Option.some.inj hstep
    obtain ⟨ht, -⟩ | ⟨ht, -⟩ | ⟨first, ht, -⟩ := start_cases protocol password o s
    · rw [ht]
      exact hs
    · rw [ht]
      exact hs.give _
    · rw [ht]
      exact (hs.give _).store (kind_given s _)
  | finish x password message params o =>
    obtain ⟨e, he, rfl⟩ := Option.map_eq_some_iff.1 hstep
    obtain ⟨ht, -⟩ | ⟨ht, -⟩ | ⟨h, hh, ht, -⟩ | ⟨h, hh, ht, -⟩ := finish_cases he password message params o
    · rw [ht]
      exact hs
    · rw [ht]
      exact (hs.give _).call (kind_given s _)
    · rw [ht]
      exact ((hs.give _).clear x e).call (kind_given s _)
    · rw [ht]
      have hkind := kind_give (hs.exchanges e (List.mem_of_getElem? he) h hh) .ksf
      exact (((hs.give _).clear x e).call (f := .finish e.protocol) hkind).call (kind_given s _)
  | drop x =>
    obtain ⟨e, he, rfl⟩ := Option.map_eq_some_iff.1 hstep
    unfold drop
    cases hh : e.handle with
    | none => exact hs.clear x e
    | some h => exact (hs.clear x e).call (hs.exchanges e (List.mem_of_getElem? he) h hh)

/-- **One operation** keeps every handle accounted for exactly when nothing raises while one has no
owner. -/
theorem step_accounted {t : State} {event : Event} (hs : Accounted s) (hstep : step s event = some t) :
    Accounted t ↔ Owned s event := by
  have htyped : Typed t := hs.toTyped.step hstep
  cases event with
  | start protocol password o =>
    obtain rfl := Option.some.inj hstep
    obtain ⟨ht, howned⟩ | ⟨ht, howned⟩ | ⟨first, ht, howned⟩ := start_cases protocol password o s
    · rw [ht]
      exact iff_of_true hs howned
    · rw [ht]
      refine iff_of_false (not_accounted_of_uses (h := s.kinds.length) ?_ ?_) howned
      · simp [State.give]
      · exact hs.uses_fresh (Nat.le_refl _)
    · rw [ht] at htyped ⊢
      refine iff_of_true (hs.given htyped ?_ fun h => ?_) howned
      · simp [State.give]
      · exact uses_store (s.give (.exchange protocol)) h protocol first
  | finish x password message params o =>
    obtain ⟨e, he, rfl⟩ := Option.map_eq_some_iff.1 hstep
    obtain ⟨ht, howned⟩ | ⟨ht, howned⟩ | ⟨h, hh, ht, howned⟩ | ⟨h, hh, ht, howned⟩ :=
      finish_cases he password message params o
    · rw [ht]
      exact iff_of_true hs howned
    · rw [ht] at htyped ⊢
      refine iff_of_true (hs.given htyped ?_ fun h => ?_) howned
      · simp [State.call, State.give]
      · rw [uses_call, uses_give]
    · -- the exchange's handle left its slot and no call took it
      rw [ht]
      have hlt := (List.getElem?_eq_some_iff.1 (hs.exchanges e (List.mem_of_getElem? he) h hh)).1
      refine iff_of_false (not_accounted_of_uses (h := h) ?_ ?_) howned
      · simp only [State.call, State.clear, State.give, List.length_append, List.length_singleton]
        exact Nat.lt_succ_of_lt hlt
      · have hclear := uses_clear (s := s.give .ksf) (h := h) he
        rw [if_pos hh, uses_give] at hclear
        have honce : s.uses h = 1 := hs.once h hlt
        rw [uses_call, if_neg (Nat.ne_of_gt hlt)]
        omega
    · rw [ht] at htyped ⊢
      refine iff_of_true (hs.given htyped ?_ fun k => ?_) howned
      · simp [State.call, State.clear, State.give]
      · have hclear := uses_clear (s := s.give .ksf) (h := k) he
        simp only [uses_give, hh, Option.some.injEq] at hclear
        rw [uses_call, uses_call, hclear]
  | drop x =>
    obtain ⟨e, he, rfl⟩ := Option.map_eq_some_iff.1 hstep
    refine iff_of_true ⟨htyped, fun k hk => ?_⟩ trivial
    have hclear := uses_clear (h := k) he
    change (drop x e s).uses k = 1
    unfold drop at hk ⊢
    cases hh : e.handle with
    | none =>
      rw [hh] at hclear hk
      rw [if_neg (Option.some_ne_none k).symm] at hclear
      exact hclear.trans (hs.once k hk)
    | some h =>
      simp only [hh, Option.some.injEq] at hclear
      rw [hh] at hk
      rw [uses_call, hclear]
      exact hs.once k hk

end Operations

/-! ## Programs -/

theorem State.empty_accounted : Accounted State.empty where
  calls _ _ h := by cases h
  exchanges _ h := by cases h
  once _ h := by cases h

/-- **Along a program every handle is given back once**, exactly where nothing raises while a handle has
no owner. -/
theorem accounted_iff (es : List Event) :
    Run.Along (fnStep step) State.empty es Accounted ↔ Run.Always (fnStep step) State.empty es Owned :=
  Run.along_iff_always State.empty_accounted.toTyped State.empty_accounted (fun _ _ _ ht h => ht.step h)
    (fun _ _ _ _ ht h => step_accounted ht h)

/-! ## A password that cannot be encoded -/

/-- A login is started, finished with a lone surrogate for its password, and dropped. -/
def loneSurrogate : List Event :=
  [.start .login (lit "pw") ⟨true, .ok (), .ok (lit "ke1")⟩,
   .finish 0 [0xD800] (lit "ke2") ⟨lit "argon2id", some 8192, some 1, some 1, none, none, none⟩
     ⟨.ok (), .ok (), .ok (lit "ke3")⟩,
   .drop 0]

theorem not_accounted : ¬ ∀ es, Run.Along (fnStep step) State.empty es Accounted := by
  intro h
  have hrun : Run (fnStep step) State.empty loneSurrogate
      ⟨[.exchange .login, .ksf], [(.ksfFree, 1)], [⟨.login, none, lit "ke1"⟩]⟩ := exec_run rfl
  have honce := (h loneSurrogate loneSurrogate [] _ (List.append_nil _).symm hrun).once 0 (by decide)
  revert honce
  decide

end AxiamSdk.Opaque
