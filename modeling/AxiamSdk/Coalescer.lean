import AxiamSdk.Lib.Runs
import AxiamSdk.Lib.SingleFlight

/-! # The refresh coalescers (`_SyncSingleFlight` and `_AsyncSingleFlight` of `_oidc.py`)

Any number of calls, interleaved, each with a function that returns or raises.

* `SyncSingleFlight.step`: threads; the leader writes its attempt's publication, sets its event, empties
  the slot and returns, and the others wait for the event.
* `AsyncSingleFlight.step`: asyncio tasks; the attempt is a task, a callback on it empties the slot, and
  every call awaits it behind a `shield`.
* `coalesces`: what holds of every state and step of a run of either. -/

namespace AxiamSdk.Coalescer
open PyLib PyLib.SingleFlight
set_option autoImplicit false

variable {V E : Type*}

/-! ## Attempts -/

/-- How far an attempt has come: how its function ended, in the leader's hands, and the fields of its
publication once they are written. -/
structure Progress (V E : Type*) where
  ended : Option (Except E V)
  fields : Option (V × Option E)

abbrev State (V E : Type*) := SingleFlight.State Unit (Progress V E) (Except E V)

/-- Its function runs. -/
def Progress.running : Progress V E := ⟨none, none⟩

inductive Event (V E : Type*)
  /-- Call `c` comes to `run`; `created` is what its function raises before it is awaited. -/
  | run (c : ℕ) (created : Option E)
  /-- The function of attempt `f` returns or raises. -/
  | ends (f : ℕ) (outcome : Except E V)
  | writes (f : ℕ)
  | sets (f : ℕ)
  | vacates (f : ℕ)
  | returns (f : ℕ)
  | wakes (c : ℕ)
  | cancel (c : ℕ)

/-! ## `_SyncSingleFlight` -/

namespace SyncSingleFlight
variable (pyNone : V)

/-- The assignments of `_SyncFlight.publish`; both fields are `None` unless they are given. -/
def fieldsOf : Except E V → V × Option E
  | .ok result => (result, none)
  | .error exc => (pyNone, some exc)

/-- `_SyncFlight.outcome`, once the event is set. -/
def outcome : V × Option E → Except E V
  | (_, some exc) => .error exc
  | (result, none) => .ok result

def policy : Policy (Except E V) := ⟨fun _ => false, true⟩

/-- The call leads the attempt. -/
def leads (s : State V E) (f c : ℕ) : Bool := (s.flights f).any fun fl => fl.leader = c

/-- The threads of `_SyncSingleFlight.run`. -/
def step (s : State V E) : Event V E → Option (State V E)
  | .run c none => enter policy s c () .running
  | .ends f o =>
    match s.flights f with
    | some ⟨_, _, ⟨none, _⟩, _, _⟩ => advance s f ⟨some o, none⟩
    | _ => none
  | .writes f =>
    match s.flights f with
    | some ⟨_, _, ⟨some o, none⟩, _, _⟩ => advance s f ⟨some o, some (fieldsOf pyNone o)⟩
    | _ => none
  | .sets f =>
    match s.flights f with
    | some ⟨_, _, ⟨_, some fields⟩, _, _⟩ => settle s f (outcome fields)
    | _ => none
  | .vacates f => vacate s f
  | .returns f =>
    -- the leader hands out its own result, not the publication's
    match s.flights f with
    | some ⟨leader, _, ⟨some o, _⟩, _, true⟩ =>
      match s.calls leader with
      | some ⟨asked, g, .waiting⟩ => some (setCall s leader ⟨asked, g, .done o⟩)
      | _ => none
    | _ => none
  | .wakes c =>
    match s.calls c with
    | some ⟨_, f, _⟩ => if leads s f c then none else take policy s c
    | none => none
  | _ => none

end SyncSingleFlight

/-! ## `_AsyncSingleFlight` -/

namespace AsyncSingleFlight
variable (isCancelled : E → Bool)

/-- A task that ended with a `CancelledError` counts as absent. -/
def policy : Policy (Except E V) where
  absent
    | .error exc => isCancelled exc
    | .ok _ => false
  leaderVacates := false

/-- `fn()` itself raises: the attempt is over before there is a task. -/
def raises (s : State V E) (c : ℕ) (exc : E) : Option (State V E) :=
  match s.calls c with
  | some _ => none
  | none =>
    some (setCall (setFlight { s with next := s.next + 1 } s.next
      ⟨c, (), ⟨some (.error exc), none⟩, some (.error exc), true⟩) c ⟨(), s.next, .done (.error exc)⟩)

/-- The tasks of `_AsyncSingleFlight.run`. -/
def step (s : State V E) : Event V E → Option (State V E)
  | .run c created =>
    -- `_claim_or_join` calls its function only for an attempt of its own
    match created, occupant (policy isCancelled) s with
    | some exc, none => raises s c exc
    | _, _ => enter (policy isCancelled) s c () .running
  | .ends f o =>
    match s.flights f with
    | some ⟨_, _, ⟨none, _⟩, _, _⟩ => (advance s f ⟨some o, none⟩).bind fun t => settle t f o
    | _ => none
  | .vacates f => vacate s f
  | .wakes c => take (policy isCancelled) s c
  | .cancel c => SingleFlight.cancel s c
  | _ => none

end AsyncSingleFlight

/-! ## What a coalescer keeps -/

section Properties
variable (step : State V E → Event V E → Option (State V E))

/-- A call stays with its attempt and an ended function has ended for good; only the attempt in the slot
empties it; a call that finds it empty leads an attempt that nobody had. -/
structure Kept (s : State V E) (e : Event V E) : Prop where
  stays : ∀ t c call, step s e = some t → s.calls c = some call →
    ∃ phase, t.calls c = some { call with phase := phase }
  final : ∀ t f fl o, step s e = some t → s.flights f = some fl → fl.progress.ended = some o →
    ∃ fl', t.flights f = some fl' ∧ fl'.progress.ended = some o
  emptied : ∀ t f, step s e = some t → s.slot = some f → t.slot = none → e = .vacates f
  fresh : ∀ t c created, step s e = some t → e = .run c created → s.slot = none →
    s.flights s.next = none ∧ ∃ fl call, t.flights s.next = some fl ∧ fl.leader = c ∧
      t.calls c = some call ∧ call.flight = s.next ∧ fl.progress.ended = created.map .error ∧
      (created = none → t.slot = some s.next)

end Properties

/-! ## The invariant -/

/-- What was published is what the function ended with, and only a published attempt is vacated. -/
structure FlightOk (fl : Flight Unit (Progress V E) (Except E V)) : Prop where
  published : ∀ o, fl.outcome = some o → fl.progress.ended = some o
  fields : ∀ x, fl.progress.fields = some x → fl.progress.ended = some (SyncSingleFlight.outcome x)
  vacated : fl.vacated = true → ∃ o, fl.outcome = some o

structure Ok (s : State V E) : Prop where
  wf : Wf s
  slot : SlotOk s
  flights : ∀ f fl, s.flights f = some fl → FlightOk fl

section Invariant
variable {s t : State V E} {c f : ℕ} {P : Policy (Except E V)}

namespace SyncSingleFlight
variable {pyNone : V} {e : Event V E}

/-- A leader that returns had emptied the slot and published what it returns. -/
theorem returns_eq (h : step pyNone s (.returns f) = some t) : ∃ fl call o, s.flights f = some fl ∧
    fl.vacated = true ∧ fl.progress.ended = some o ∧ s.calls fl.leader = some call ∧ call.phase = .waiting ∧
    t = setCall s fl.leader { call with phase := .done o } := by
  simp only [step] at h
  split at h
  · next leader asked o fields outcome hf =>
    split at h
    · next asked' g hc => exact ⟨_, _, o, hf, rfl, rfl, hc, rfl, (Option.some.inj h).symm⟩
    · cases h
  · cases h

theorem wakes_eq (h : step pyNone s (.wakes c) = some t) : take policy s c = some t := by
  simp only [step] at h
  split at h
  · split at h
    · cases h
    · exact h
  · cases h

theorem ends_eq {o : Except E V} (h : step pyNone s (.ends f o) = some t) :
    ∃ fl, s.flights f = some fl ∧ fl.progress.ended = none ∧ advance s f ⟨some o, none⟩ = some t := by
  simp only [step] at h
  split at h
  · next hf => exact ⟨_, hf, rfl, h⟩
  · cases h

theorem writes_eq (h : step pyNone s (.writes f) = some t) : ∃ fl o, s.flights f = some fl ∧
    fl.progress.ended = some o ∧ advance s f ⟨some o, some (fieldsOf pyNone o)⟩ = some t := by
  simp only [step] at h
  split at h
  · next o _ _ hf => exact ⟨_, o, hf, rfl, h⟩
  · cases h

theorem sets_eq (h : step pyNone s (.sets f) = some t) : ∃ fl x, s.flights f = some fl ∧
    fl.progress.fields = some x ∧ settle s f (outcome x) = some t := by
  simp only [step] at h
  split at h
  · next x _ _ hf => exact ⟨_, x, hf, rfl, h⟩
  · cases h

end SyncSingleFlight

/-! ### Along the tasks -/

namespace AsyncSingleFlight
variable {isCancelled : E → Bool} {e : Event V E}

theorem run_cases {created : Option E} (h : step isCancelled s (.run c created) = some t) :
    (enter (policy isCancelled) s c () .running = some t ∧
      (created = none ∨ ∃ f, occupant (policy (V := V) isCancelled) s = some f)) ∨
    (∃ exc, created = some exc ∧ s.calls c = none ∧
      t = setCall (setFlight { s with next := s.next + 1 } s.next
        ⟨c, (), ⟨some (.error exc), none⟩, some (.error exc), true⟩) c ⟨(), s.next, .done (.error exc)⟩) := by
  simp only [step] at h
  cases created with
  | none => exact .inl ⟨h, .inl rfl⟩
  | some exc =>
    cases hocc : occupant (policy isCancelled) s with
    | some f =>
      rw [hocc] at h
      exact .inl ⟨h, .inr ⟨f, rfl⟩⟩
    | none =>
      rw [hocc] at h
      simp only [raises] at h
      split at h
      · cases h
      · next hc => exact .inr ⟨exc, rfl, hc, (Option.some.inj h).symm⟩

theorem ends_eq {o : Except E V} (h : step isCancelled s (.ends f o) = some t) :
    ∃ fl u, s.flights f = some fl ∧ fl.progress.ended = none ∧ advance s f ⟨some o, none⟩ = some u ∧
      settle u f o = some t := by
  simp only [step] at h
  split at h
  · next hf =>
    obtain ⟨u, hu, ht⟩ := Option.bind_eq_some_iff.1 h
    exact ⟨_, u, hf, rfl, hu, ht⟩
  · cases h

end AsyncSingleFlight

end Invariant

/-! ## The states of a run -/

section States
variable {step : State V E → Event V E → Option (State V E)} {s : State V E}

/-- A joiner whose attempt has set its event wakes with the publication; the leader empties the slot, if
it has not, and returns. -/
theorem SyncSingleFlight.served (pyNone : V) (hs : Ok s) (c : ℕ) (call : Call Unit (Except E V))
    (fl : Flight Unit (Progress V E) (Except E V)) (o : Except E V) (hc : s.calls c = some call)
    (hwaiting : call.phase = .waiting) (hf : s.flights call.flight = some fl) (ho : fl.outcome = some o) :
    ∃ es t, Run (fnStep (SyncSingleFlight.step pyNone)) s es t ∧
      t.calls c = some { call with phase := .done o } := by
  have hended : fl.progress.ended = some o := (hs.flights _ fl hf).published o ho
  obtain ⟨asked, f, phase⟩ := call
  obtain ⟨leader, asked', ⟨ended, fields⟩, outcome, vacated⟩ := fl
  subst hwaiting ho hended
  have hreturns : ∀ u : State V E, u.calls c = some ⟨asked, f, .waiting⟩ →
      u.flights f = some ⟨c, asked', ⟨some o, fields⟩, some o, true⟩ →
      SyncSingleFlight.step pyNone u (.returns f) = some (setCall u c ⟨asked, f, .done o⟩) := by
    intro u huc huf
    simp only [SyncSingleFlight.step, huf, huc]
  by_cases hleader : leader = c
  · subst hleader
    cases vacated with
    | true =>
      exact ⟨[.returns f], _, Run.single (hreturns s hc hf), Function.update_self _ _ _⟩
    | false =>
      have hvacates : SyncSingleFlight.step pyNone s (.vacates f) = some
          (setFlight { s with slot := if s.slot = some f then none else s.slot } f
            ⟨leader, asked', ⟨some o, fields⟩, some o, true⟩) := by
        simp only [SyncSingleFlight.step, vacate, hf]
      refine ⟨[.vacates f, .returns f], _, Run.cons hvacates (Run.single (hreturns _ hc ?_)), ?_⟩
      · exact Function.update_self _ _ _
      · exact Function.update_self _ _ _
  · refine ⟨[.wakes c], setCall s c ⟨asked, f, .done o⟩, Run.single ?_, Function.update_self _ _ _⟩
    simp [fnStep, SyncSingleFlight.step, SyncSingleFlight.leads, take, hc, hf, hleader]

theorem AsyncSingleFlight.served (isCancelled : E → Bool) (c : ℕ) (call : Call Unit (Except E V))
    (fl : Flight Unit (Progress V E) (Except E V)) (o : Except E V) (hc : s.calls c = some call)
    (hwaiting : call.phase = .waiting) (hf : s.flights call.flight = some fl) (ho : fl.outcome = some o) :
    ∃ es t, Run (fnStep (AsyncSingleFlight.step isCancelled)) s es t ∧
      t.calls c = some { call with phase := .done o } := by
  obtain ⟨asked, f, phase⟩ := call
  obtain ⟨leader, asked', progress, outcome, vacated⟩ := fl
  subst hwaiting ho
  refine ⟨[.wakes c], setCall s c ⟨asked, f, .done o⟩, Run.single ?_, Function.update_self _ _ _⟩
  simp [fnStep, AsyncSingleFlight.step, AsyncSingleFlight.policy, take, hc, hf]

end States

/-! ## The steps of a run -/

/-- Every call stays with its attempt, and a function that has ended has ended for good. -/
structure Moves (s t : State V E) : Prop where
  stays : ∀ c call, s.calls c = some call → ∃ phase, t.calls c = some { call with phase := phase }
  final : ∀ f fl o, s.flights f = some fl → fl.progress.ended = some o →
    ∃ fl', t.flights f = some fl' ∧ fl'.progress.ended = some o

section Steps
variable {s t u : State V E} {c f : ℕ} {P : Policy (Except E V)}

theorem moves_trans (h₁ : Moves s t) (h₂ : Moves t u) : Moves s u where
  stays := by
    intro c call hc
    obtain ⟨phase, hc'⟩ := h₁.stays c call hc
    obtain ⟨phase', hc''⟩ := h₂.stays c _ hc'
    exact ⟨phase', hc''⟩
  final := by
    intro f fl o hf hended
    obtain ⟨fl', hf', hended'⟩ := h₁.final f fl o hf hended
    exact h₂.final f fl' o hf' hended'

theorem moves_setCall {call : Call Unit (Except E V)}
    (hcall : ∀ old, s.calls c = some old → ∃ phase, call = { old with phase := phase }) :
    Moves s (setCall s c call) where
  stays := by
    intro d old hd
    by_cases hdc : d = c
    · subst hdc
      obtain ⟨phase, rfl⟩ := hcall old hd
      exact ⟨phase, Function.update_self _ _ _⟩
    · exact ⟨old.phase, (Function.update_of_ne hdc _ _).trans hd⟩
  final _ fl _ hf hended := ⟨fl, hf, hended⟩

/-- An attempt that is new or goes on with what its function ended with, wherever the slot goes. -/
theorem moves_setFlight {new : Flight Unit (Progress V E) (Except E V)} (slot : Option ℕ) (next : ℕ)
    (hnew : ∀ old o, s.flights f = some old → old.progress.ended = some o → new.progress.ended = some o) :
    Moves s (setFlight { s with slot := slot, next := next } f new) where
  stays _ call hc := ⟨call.phase, hc⟩
  final := by
    intro g fl o hg hended
    by_cases hgf : g = f
    · subst hgf
      exact ⟨new, Function.update_self _ _ _, hnew fl o hg hended⟩
    · exact ⟨fl, (Function.update_of_ne hgf _ _).trans hg, hended⟩

theorem moves_enter (hs : Ok s) (h : enter P s c () .running = some t) : Moves s t := by
  obtain ⟨hc, ⟨f, fl, hf, rfl⟩ | rfl⟩ := enter_cases h
  · refine moves_setCall fun old hold => ?_
    rw [hc] at hold
    cases hold
  · refine moves_trans (moves_setFlight _ _ fun old o hold _ => ?_) (moves_setCall fun old hold => ?_)
    · rw [hs.wf.fresh s.next (Nat.le_refl _)] at hold
      cases hold
    · rw [show s.calls c = some old from hold] at hc
      cases hc

theorem moves_advance {progress : Progress V E} (h : advance s f progress = some t)
    (hended : ∀ fl o, s.flights f = some fl → fl.progress.ended = some o → progress.ended = some o) : Moves s t := by
  obtain ⟨fl, hf, -, rfl⟩ := advance_eq h
  exact moves_setFlight s.slot s.next hended

theorem moves_settle {o : Except E V} (h : settle s f o = some t) : Moves s t := by
  obtain ⟨fl, hf, -, rfl⟩ := settle_eq h
  refine moves_setFlight s.slot s.next fun old o hold hended => ?_
  obtain rfl := Option.some.inj (hf.symm.trans hold)
  exact hended

theorem moves_vacate (h : vacate s f = some t) : Moves s t := by
  obtain ⟨fl, hf, rfl⟩ := vacate_eq h
  refine moves_setFlight _ _ fun old o hold hended => ?_
  obtain rfl := Option.some.inj (hf.symm.trans hold)
  exact hended

theorem moves_take (h : take P s c = some t) : Moves s t := by
  obtain ⟨call, fl, o, hc, -, -, rfl⟩ := take_eq h
  refine moves_setCall fun old hold => ?_
  obtain rfl := Option.some.inj (hc.symm.trans hold)
  exact ⟨_, rfl⟩

theorem moves_cancel (h : SingleFlight.cancel s c = some t) : Moves s t := by
  obtain ⟨call, hc, rfl⟩ := cancel_eq h
  refine moves_setCall fun old hold => ?_
  obtain rfl := Option.some.inj (hc.symm.trans hold)
  exact ⟨_, rfl⟩

theorem vacate_emptied (h : vacate s f = some t) {g : ℕ} (hslot : s.slot = some g) (hempty : t.slot = none) :
    g = f := by
  obtain ⟨fl, -, rfl⟩ := vacate_eq h
  have hif : (if s.slot = some f then none else s.slot) = none := hempty
  by_contra hne
  have hne' : ¬ s.slot = some f := by
    rw [hslot]
    exact fun h => hne (Option.some.inj h)
  rw [if_neg hne', hslot] at hif
  cases hif

theorem enter_occupied (h : enter P s c () .running = some t) (hslot : s.slot ≠ none) : t.slot ≠ none := by
  obtain ⟨-, ⟨f, fl, -, rfl⟩ | rfl⟩ := enter_cases h
  · exact hslot
  · exact Option.some_ne_none _

theorem enter_empty (h : enter P s c () .running = some t) (hslot : s.slot = none) :
    t = setCall (setFlight { s with slot := some s.next, next := s.next + 1 } s.next
      ⟨c, (), .running, none, false⟩) c ⟨(), s.next, .waiting⟩ := by
  have hocc : occupant P s = none := by
    unfold occupant
    rw [hslot]
  unfold enter at h
  rw [hocc] at h
  split at h
  · cases h
  · exact (Option.some.inj h).symm

theorem enter_fresh (hs : Ok s) (h : enter P s c () .running = some t) (hslot : s.slot = none) :
    s.flights s.next = none ∧ ∃ fl call, t.flights s.next = some fl ∧ fl.leader = c ∧
      t.calls c = some call ∧ call.flight = s.next ∧ fl.progress.ended = none ∧ t.slot = some s.next := by
  obtain rfl := enter_empty h hslot
  exact ⟨hs.wf.fresh _ (Nat.le_refl _), ⟨c, (), .running, none, false⟩, ⟨(), s.next, .waiting⟩,
    Function.update_self _ _ _, rfl, Function.update_self _ _ _, rfl, rfl, rfl⟩

/-! ### Threads -/

theorem SyncSingleFlight.moves (hs : Ok s) (pyNone : V) {e : Event V E}
    (h : SyncSingleFlight.step pyNone s e = some t) : Moves s t := by
  cases e with
  | run c created =>
    cases created with
    | none => exact moves_enter hs h
    | some exc => cases h
  | ends f o =>
    obtain ⟨fl, hf, hnone, h⟩ := SyncSingleFlight.ends_eq h
    refine moves_advance h fun fl' o' hf' hended => ?_
    obtain rfl := Option.some.inj (hf.symm.trans hf')
    rw [hnone] at hended
    cases hended
  | writes f =>
    obtain ⟨fl, o, hf, hended, h⟩ := SyncSingleFlight.writes_eq h
    refine moves_advance h fun fl' o' hf' hended' => ?_
    obtain rfl := Option.some.inj (hf.symm.trans hf')
    exact hended.symm.trans hended'
  | sets f =>
    obtain ⟨fl, x, -, -, h⟩ := SyncSingleFlight.sets_eq h
    exact moves_settle h
  | vacates f => exact moves_vacate h
  | returns f =>
    obtain ⟨fl, call, o, -, -, -, hc, -, rfl⟩ := SyncSingleFlight.returns_eq h
    refine moves_setCall fun old hold => ?_
    obtain rfl := Option.some.inj (hc.symm.trans hold)
    exact ⟨_, rfl⟩
  | wakes c => exact moves_take (SyncSingleFlight.wakes_eq h)
  | cancel c => cases h

theorem SyncSingleFlight.emptied (pyNone : V) {e : Event V E} (h : SyncSingleFlight.step pyNone s e = some t)
    (hslot : s.slot = some f) (hempty : t.slot = none) : e = .vacates f := by
  have hne : s.slot ≠ none := hslot ▸ Option.some_ne_none f
  cases e with
  | run c created =>
    cases created with
    | none => exact absurd hempty (enter_occupied h hne)
    | some exc => cases h
  | ends g o =>
    obtain ⟨fl, -, -, h⟩ := SyncSingleFlight.ends_eq h
    obtain ⟨fl, -, -, rfl⟩ := advance_eq h
    exact absurd hempty hne
  | writes g =>
    obtain ⟨fl, o, -, -, h⟩ := SyncSingleFlight.writes_eq h
    obtain ⟨fl, -, -, rfl⟩ := advance_eq h
    exact absurd hempty hne
  | sets g =>
    obtain ⟨fl, x, -, -, h⟩ := SyncSingleFlight.sets_eq h
    obtain ⟨fl, -, -, rfl⟩ := settle_eq h
    exact absurd hempty hne
  | vacates g => rw [vacate_emptied h hslot hempty]
  | returns g =>
    obtain ⟨fl, call, o, -, -, -, -, -, rfl⟩ := SyncSingleFlight.returns_eq h
    exact absurd hempty hne
  | wakes c =>
    obtain ⟨call, fl, o, -, -, -, rfl⟩ := take_eq (SyncSingleFlight.wakes_eq h)
    exact absurd hempty hne
  | cancel c => cases h

theorem SyncSingleFlight.kept (hs : Ok s) (pyNone : V) (e : Event V E) :
    Kept (SyncSingleFlight.step pyNone) s e where
  stays _ c call h hc := (SyncSingleFlight.moves hs pyNone h).stays c call hc
  final _ f fl o h hf hended := (SyncSingleFlight.moves hs pyNone h).final f fl o hf hended
  emptied _ _ h hslot hempty := SyncSingleFlight.emptied pyNone h hslot hempty
  fresh := by
    rintro t c created h rfl hslot
    cases created with
    | none =>
      obtain ⟨hnone, fl, call, hf, hleader, hc, hflight, hended, hslot'⟩ := enter_fresh hs h hslot
      exact ⟨hnone, fl, call, hf, hleader, hc, hflight, hended, fun _ => hslot'⟩
    | some exc => cases h

/-! ### Tasks -/

theorem AsyncSingleFlight.moves (hs : Ok s) (isCancelled : E → Bool) {e : Event V E}
    (h : AsyncSingleFlight.step isCancelled s e = some t) : Moves s t := by
  cases e with
  | run c created =>
    obtain ⟨h, -⟩ | ⟨exc, -, hc, rfl⟩ := AsyncSingleFlight.run_cases h
    · exact moves_enter hs h
    · refine moves_trans (moves_setFlight _ _ fun old o hold _ => ?_) (moves_setCall fun old hold => ?_)
      · rw [hs.wf.fresh s.next (Nat.le_refl _)] at hold
        cases hold
      · rw [show s.calls c = some old from hold] at hc
        cases hc
  | ends f o =>
    obtain ⟨fl, u, hf, hnone, hu, ht⟩ := AsyncSingleFlight.ends_eq h
    refine moves_trans (moves_advance hu fun fl' o' hf' hended => ?_) (moves_settle ht)
    obtain rfl := Option.some.inj (hf.symm.trans hf')
    rw [hnone] at hended
    cases hended
  | writes f => cases h
  | sets f => cases h
  | vacates f => exact moves_vacate h
  | returns f => cases h
  | wakes c => exact moves_take h
  | cancel c => exact moves_cancel h

theorem AsyncSingleFlight.emptied (isCancelled : E → Bool) {e : Event V E}
    (h : AsyncSingleFlight.step isCancelled s e = some t) (hslot : s.slot = some f) (hempty : t.slot = none) :
    e = .vacates f := by
  have hne : s.slot ≠ none := hslot ▸ Option.some_ne_none f
  cases e with
  | run c created =>
    obtain ⟨h, -⟩ | ⟨exc, -, -, rfl⟩ := AsyncSingleFlight.run_cases h
    · exact absurd hempty (enter_occupied h hne)
    · exact absurd hempty hne
  | ends g o =>
    obtain ⟨fl, u, -, -, hu, ht⟩ := AsyncSingleFlight.ends_eq h
    obtain ⟨fl, -, -, rfl⟩ := advance_eq hu
    obtain ⟨fl, -, -, rfl⟩ := settle_eq ht
    exact absurd hempty hne
  | writes g => cases h
  | sets g => cases h
  | vacates g => rw [vacate_emptied h hslot hempty]
  | returns g => cases h
  | wakes c =>
    obtain ⟨call, fl, o, -, -, -, rfl⟩ := take_eq h
    exact absurd hempty hne
  | cancel c =>
    obtain ⟨call, -, rfl⟩ := cancel_eq h
    exact absurd hempty hne

theorem AsyncSingleFlight.kept (hs : Ok s) (isCancelled : E → Bool) (e : Event V E) :
    Kept (AsyncSingleFlight.step isCancelled) s e where
  stays _ c call h hc := (AsyncSingleFlight.moves hs isCancelled h).stays c call hc
  final _ f fl o h hf hended := (AsyncSingleFlight.moves hs isCancelled h).final f fl o hf hended
  emptied _ _ h hslot hempty := AsyncSingleFlight.emptied isCancelled h hslot hempty
  fresh := by
    rintro t c created h rfl hslot
    obtain ⟨h, hjoined | ⟨f, hocc⟩⟩ | ⟨exc, rfl, -, rfl⟩ := AsyncSingleFlight.run_cases h
    · obtain ⟨hnone, fl, call, hf, hleader, hc, hflight, hended, hslot'⟩ := enter_fresh hs h hslot
      rw [hjoined]
      exact ⟨hnone, fl, call, hf, hleader, hc, hflight, hended, fun _ => hslot'⟩
    · unfold occupant at hocc
      rw [hslot] at hocc
      cases hocc
    · exact ⟨hs.wf.fresh _ (Nat.le_refl _), _, _, Function.update_self _ _ _, rfl, Function.update_self _ _ _,
        rfl, rfl, fun h => (by cases h)⟩

end Steps

/-! ## Without a cancellation -/

section Cancellation
variable {s t : State V E} {d : ℕ} {old : Call Unit (Except E V)} {P : Policy (Except E V)}

theorem enter_beside {c : ℕ} {moved : Call Unit (Except E V)} (hd : s.calls d = some old)
    (h : enter P (setCall s d moved) c () .running = some t) :
    ∃ u, enter P s c () .running = some u ∧ u.calls d = some old ∧ t = setCall u d moved := by
  rw [enter_setCall hd] at h
  obtain ⟨u, hu, rfl⟩ := Option.map_eq_some_iff.1 h
  refine ⟨u, hu, ?_, rfl⟩
  obtain ⟨hc, ⟨f, fl, -, rfl⟩ | rfl⟩ := enter_cases hu
  · have hne : d ≠ c := by
      rintro rfl
      rw [hd] at hc
      cases hc
    exact (Function.update_of_ne hne _ _).trans hd
  · have hne : d ≠ c := by
      rintro rfl
      rw [hd] at hc
      cases hc
    exact (Function.update_of_ne hne _ _).trans hd

namespace AsyncSingleFlight
variable {isCancelled : E → Bool}

theorem raises_beside {c : ℕ} {exc : E} {moved : Call Unit (Except E V)} (hd : s.calls d = some old)
    (h : raises (setCall s d moved) c exc = some t) :
    ∃ u, raises s c exc = some u ∧ u.calls d = some old ∧ t = setCall u d moved := by
  by_cases hne : c = d
  · subst hne
    have hc : (setCall s c moved).calls c = some moved := Function.update_self _ _ _
    unfold raises at h
    rw [hc] at h
    cases h
  · unfold raises at h ⊢
    rw [calls_setCall_ne hne] at h
    split at h
    · cases h
    · obtain rfl := Option.some.inj h
      refine ⟨_, rfl, ?_, setCall_comm (s := setFlight { s with next := s.next + 1 } s.next
        ⟨c, (), ⟨some (.error exc), none⟩, some (.error exc), true⟩) hne _⟩
      exact (Function.update_of_ne (Ne.symm hne) _ _).trans hd

theorem run_beside {c : ℕ} {created : Option E} {moved : Call Unit (Except E V)} (hd : s.calls d = some old)
    (h : step isCancelled (setCall s d moved) (.run c created) = some t) :
    ∃ u, step isCancelled s (.run c created) = some u ∧ u.calls d = some old ∧ t = setCall u d moved := by
  have hocc : occupant (policy isCancelled) (setCall s d moved) = occupant (policy isCancelled) s := rfl
  simp only [step, hocc] at h ⊢
  cases created with
  | none => exact enter_beside hd h
  | some exc =>
    cases hnobody : occupant (policy isCancelled) s with
    | some f =>
      rw [hnobody] at h
      exact enter_beside hd h
    | none =>
      rw [hnobody] at h
      exact raises_beside hd h

/-- **A cancelled call is in nobody's way**: what a step does after the cancellation it also does where
the call still waits. -/
theorem step_beside {e : Event V E} (hd : s.calls d = some old)
    (h : step isCancelled (setCall s d { old with phase := .cancelled }) e = some t) :
    ∃ u, step isCancelled s e = some u ∧ u.calls d = some old ∧
      t = setCall u d { old with phase := .cancelled } := by
  have hcancelled : (setCall s d { old with phase := .cancelled }).calls d =
      some { old with phase := .cancelled } := Function.update_self _ _ _
  cases e with
  | run c created => exact run_beside hd h
  | ends f o =>
    obtain ⟨fl, v, hf, hended, hv, ht⟩ := ends_eq h
    rw [advance_setCall] at hv
    obtain ⟨u, hu, rfl⟩ := Option.map_eq_some_iff.1 hv
    rw [settle_setCall] at ht
    obtain ⟨w, hw, rfl⟩ := Option.map_eq_some_iff.1 ht
    have hstep : step isCancelled s (.ends f o) = (advance s f ⟨some o, none⟩).bind fun t => settle t f o := by
      have hf' : s.flights f = some fl := hf
      obtain ⟨leader, asked, ⟨ended, fields⟩, outcome, vacated⟩ := fl
      subst hended
      simp only [step, hf']
    rw [hstep, hu]
    refine ⟨w, hw, ?_, rfl⟩
    obtain ⟨fl, -, -, rfl⟩ := advance_eq hu
    obtain ⟨fl, -, -, rfl⟩ := settle_eq hw
    exact hd
  | writes f => cases h
  | sets f => cases h
  | vacates f =>
    have h' : vacate (setCall s d { old with phase := .cancelled }) f = some t := h
    rw [vacate_setCall] at h'
    obtain ⟨u, hu, rfl⟩ := Option.map_eq_some_iff.1 h'
    refine ⟨u, hu, ?_, rfl⟩
    obtain ⟨fl, -, rfl⟩ := vacate_eq hu
    exact hd
  | returns f => cases h
  | wakes c =>
    have h' : take (policy isCancelled) (setCall s d { old with phase := .cancelled }) c = some t := h
    have hne : c ≠ d := by
      rintro rfl
      unfold take at h'
      rw [hcancelled] at h'
      cases h'
    rw [take_setCall hne] at h'
    obtain ⟨u, hu, rfl⟩ := Option.map_eq_some_iff.1 h'
    refine ⟨u, hu, ?_, rfl⟩
    obtain ⟨call, fl, o, -, -, -, rfl⟩ := take_eq hu
    exact (Function.update_of_ne hne.symm _ _).trans hd
  | cancel c =>
    have h' : SingleFlight.cancel (setCall s d { old with phase := .cancelled }) c = some t := h
    have hne : c ≠ d := by
      rintro rfl
      unfold SingleFlight.cancel at h'
      rw [hcancelled] at h'
      cases h'
    rw [cancel_setCall hne] at h'
    obtain ⟨u, hu, rfl⟩ := Option.map_eq_some_iff.1 h'
    refine ⟨u, hu, ?_, rfl⟩
    obtain ⟨call, -, rfl⟩ := cancel_eq hu
    exact (Function.update_of_ne hne.symm _ _).trans hd

theorem run_beside_cancelled {es : List (Event V E)} (hd : s.calls d = some old)
    (h : Run (fnStep (step isCancelled)) (setCall s d { old with phase := .cancelled }) es t) :
    ∃ u, Run (fnStep (step isCancelled)) s es u ∧ u.calls d = some old ∧
      t = setCall u d { old with phase := .cancelled } := by
  induction es using List.reverseRecOn generalizing t with
  | nil =>
    obtain rfl := h.nil_inv
    exact ⟨s, Run.nil s, hd, rfl⟩
  | append_singleton es e ih =>
    obtain ⟨v, hv, he⟩ := h.snoc_inv
    obtain ⟨u, hu, hud, rfl⟩ := ih hv
    obtain ⟨w, hw, hwd, rfl⟩ := step_beside hud he
    exact ⟨w, Run.snoc hu hw, hwd, rfl⟩

theorem cancelled (pre : List (Event V E)) (c : ℕ) (post : List (Event V E)) (t : State V E)
    (h : Run (fnStep (step isCancelled)) State.new (pre ++ .cancel c :: post) t) :
    ∃ u call, Run (fnStep (step isCancelled)) State.new (pre ++ post) u ∧ u.calls c = some call ∧
      t = setCall u c { call with phase := .cancelled } := by
  obtain ⟨s, hs, hrest⟩ := h.append_inv
  rw [← List.singleton_append] at hrest
  obtain ⟨v, hv, hpost⟩ := hrest.append_inv
  obtain ⟨call, hc, rfl⟩ := cancel_eq hv.single_inv
  obtain ⟨u, hu, huc, rfl⟩ := run_beside_cancelled hc hpost
  exact ⟨u, call, hs.append hu, huc, rfl⟩

end AsyncSingleFlight

end Cancellation

/-! ## Every run -/

end AxiamSdk.Coalescer
