import Mathlib.Logic.Function.Basic
import Mathlib.Data.Nat.Notation

/-! # Single-flight coalescing

Concurrent callers share one attempt. A slot holds the attempt under way; a caller that finds it
occupied joins the attempt, any other leads a new one; every caller is given the outcome of its own
attempt, and a settled attempt is taken out of the slot afterwards.

* `enter`, `advance`, `settle`, `vacate`, `take`, `cancel`: the steps of callers and attempts.
* `Wf`: a call belongs to an attempt, an attempt has the call that leads it, and a call that is done
  was given its attempt's outcome; every step keeps it.
* `SlotOk`: the slot holds the attempt that has no outcome yet, if there is one; every step keeps it.
* `enter_setCall` to `cancel_setCall`: a call that has moved on is in the way of no other step. -/

namespace PyLib.SingleFlight
set_option autoImplicit false

variable {κ α ω : Type*}

/-! ## States -/

/-- An attempt: the call that leads it, what that call asked, how far it has come and how it ended. -/
structure Flight (κ α ω : Type*) where
  leader : ℕ
  asked : κ
  progress : α
  outcome : Option ω
  vacated : Bool

inductive Phase (ω : Type*)
  | waiting
  | done (outcome : ω)
  | cancelled

/-- A call and the attempt that it led or joined. -/
structure Call (κ ω : Type*) where
  asked : κ
  flight : ℕ
  phase : Phase ω

structure State (κ α ω : Type*) where
  slot : Option ℕ
  next : ℕ
  flights : ℕ → Option (Flight κ α ω)
  calls : ℕ → Option (Call κ ω)

def State.new : State κ α ω := ⟨none, 0, fun _ => none, fun _ => none⟩

/-- A kind of coalescer: nobody joins an attempt that ended `absent`, and with `leaderVacates` it is
the leading call that empties the slot before it returns. -/
structure Policy (ω : Type*) where
  absent : ω → Bool
  leaderVacates : Bool

/-! ## Steps -/

section Steps
variable (P : Policy ω) (s : State κ α ω)

def setFlight (f : ℕ) (fl : Flight κ α ω) : State κ α ω :=
  { s with flights := Function.update s.flights f (some fl) }

def setCall (c : ℕ) (call : Call κ ω) : State κ α ω :=
  { s with calls := Function.update s.calls c (some call) }

/-- The attempt in the slot that a caller joins. -/
def occupant : Option ℕ :=
  match s.slot with
  | none => none
  | some f =>
    match s.flights f with
    | none => none
    | some fl => if fl.outcome.any P.absent then none else some f

/-- Call `c` joins the occupant, or leads a new attempt from `start`. -/
def enter (c : ℕ) (asked : κ) (start : α) : Option (State κ α ω) :=
  match s.calls c with
  | some _ => none
  | none =>
    match occupant P s with
    | some f => some (setCall s c ⟨asked, f, .waiting⟩)
    | none =>
      some (setCall (setFlight { s with slot := some s.next, next := s.next + 1 } s.next
        ⟨c, asked, start, none, false⟩) c ⟨asked, s.next, .waiting⟩)

/-- The attempt has come further. -/
def advance (f : ℕ) (progress : α) : Option (State κ α ω) :=
  match s.flights f with
  | some ⟨leader, asked, _, none, vacated⟩ => some (setFlight s f ⟨leader, asked, progress, none, vacated⟩)
  | _ => none

/-- The attempt ends and publishes its outcome. -/
def settle (f : ℕ) (outcome : ω) : Option (State κ α ω) :=
  match s.flights f with
  | some ⟨leader, asked, progress, none, vacated⟩ =>
    some (setFlight s f ⟨leader, asked, progress, some outcome, vacated⟩)
  | _ => none

/-- A settled attempt is taken out of the slot if it is still there. -/
def vacate (f : ℕ) : Option (State κ α ω) :=
  match s.flights f with
  | some ⟨leader, asked, progress, some outcome, false⟩ =>
    some (setFlight { s with slot := if s.slot = some f then none else s.slot } f
      ⟨leader, asked, progress, some outcome, true⟩)
  | _ => none

/-- A waiting call is given the outcome of its attempt. -/
def take (c : ℕ) : Option (State κ α ω) :=
  match s.calls c with
  | some ⟨asked, f, .waiting⟩ =>
    match s.flights f with
    | some ⟨leader, _, _, some outcome, vacated⟩ =>
      if P.leaderVacates && decide (leader = c) && !vacated then none
      else some (setCall s c ⟨asked, f, .done outcome⟩)
    | _ => none
  | _ => none

/-- A waiting call is cancelled; its attempt goes on. -/
def cancel (c : ℕ) : Option (State κ α ω) :=
  match s.calls c with
  | some ⟨asked, f, .waiting⟩ => some (setCall s c ⟨asked, f, .cancelled⟩)
  | _ => none

end Steps

/-! ## Invariants -/

structure Wf (s : State κ α ω) : Prop where
  led : ∀ f fl, s.flights f = some fl → ∃ call, s.calls fl.leader = some call ∧ call.flight = f ∧
    call.asked = fl.asked
  joined : ∀ c call, s.calls c = some call → ∃ fl, s.flights call.flight = some fl ∧
    ∀ outcome, call.phase = .done outcome → fl.outcome = some outcome
  fresh : ∀ f, s.next ≤ f → s.flights f = none

section Laws
variable {P : Policy ω} {s t : State κ α ω} {c f : ℕ}

theorem wf_new : Wf (State.new : State κ α ω) where
  led := by
    intro f fl hf
    cases hf
  joined := by
    intro c call hc
    cases hc
  fresh := fun _ _ => rfl

/-! ### Updates -/

theorem flights_setFlight {fl found : Flight κ α ω} {f' : ℕ} (h : (setFlight s f fl).flights f' = some found) :
    (f' = f ∧ fl = found) ∨ (f' ≠ f ∧ s.flights f' = some found) := by
  by_cases hf : f' = f
  · subst hf
    left
    exact ⟨rfl, by simpa [setFlight] using h⟩
  · right
    exact ⟨hf, by simpa [setFlight, Function.update_of_ne hf] using h⟩

theorem calls_setCall {call found : Call κ ω} {c' : ℕ} (h : (setCall s c call).calls c' = some found) :
    (c' = c ∧ call = found) ∨ (c' ≠ c ∧ s.calls c' = some found) := by
  by_cases hc : c' = c
  · subst hc
    left
    exact ⟨rfl, by simpa [setCall] using h⟩
  · right
    exact ⟨hc, by simpa [setCall, Function.update_of_ne hc] using h⟩

/-- An attempt has moved on under the same leader, keeping an outcome that it has. -/
theorem wf_setFlight (hs : Wf s) {old new : Flight κ α ω} (hold : s.flights f = some old)
    (hleader : new.leader = old.leader) (hasked : new.asked = old.asked)
    (houtcome : ∀ o, old.outcome = some o → new.outcome = some o) : Wf (setFlight s f new) where
  led := by
    intro f' fl hf
    rcases flights_setFlight hf with ⟨rfl, rfl⟩ | ⟨_, hf⟩
    · obtain ⟨call, hc, hflight, ha⟩ := hs.led _ old hold
      exact ⟨call, hleader ▸ hc, hflight, ha.trans hasked.symm⟩
    · exact hs.led f' fl hf
  joined := by
    intro c call hc
    obtain ⟨fl, hf, hdone⟩ := hs.joined c call hc
    by_cases hfl : call.flight = f
    · rw [hfl] at hf ⊢
      obtain rfl := Option.some.inj (hold.symm.trans hf)
      exact ⟨new, by simp [setFlight], fun o ho => houtcome o (hdone o ho)⟩
    · exact ⟨fl, by simpa [setFlight, Function.update_of_ne hfl] using hf, hdone⟩
  fresh := by
    intro f' hle
    by_cases hf : f' = f
    · subst hf
      have hnone : s.flights f' = none := hs.fresh f' hle
      rw [hold] at hnone
      cases hnone
    · simpa [setFlight, Function.update_of_ne hf] using hs.fresh f' hle

/-- A call of an attempt has moved on; it is done only with the attempt's outcome. -/
theorem wf_setCall (hs : Wf s) {old new : Call κ ω} (hold : s.calls c = some old)
    (hasked : new.asked = old.asked) (hflight : new.flight = old.flight)
    (hdone : ∀ fl o, s.flights old.flight = some fl → new.phase = .done o → fl.outcome = some o) :
    Wf (setCall s c new) where
  led := by
    intro f fl hf
    obtain ⟨call, hc, hcf, ha⟩ := hs.led f fl hf
    by_cases hleader : fl.leader = c
    · rw [hleader] at hc ⊢
      obtain rfl := Option.some.inj (hold.symm.trans hc)
      exact ⟨new, by simp [setCall], hflight.trans hcf, hasked.trans ha⟩
    · exact ⟨call, by simpa [setCall, Function.update_of_ne hleader] using hc, hcf, ha⟩
  joined := by
    intro c' call hc
    rcases calls_setCall hc with ⟨rfl, rfl⟩ | ⟨_, hc⟩
    · obtain ⟨fl, hf, _⟩ := hs.joined _ old hold
      exact ⟨fl, hflight ▸ hf, fun o ho => hdone fl o hf ho⟩
    · exact hs.joined c' call hc
  fresh := hs.fresh

/-! ### The steps -/

theorem enter_cases {asked : κ} {start : α} (h : enter P s c asked start = some t) :
    s.calls c = none ∧ ((∃ f fl, s.flights f = some fl ∧ t = setCall s c ⟨asked, f, .waiting⟩) ∨
      t = setCall (setFlight { s with slot := some s.next, next := s.next + 1 } s.next
        ⟨c, asked, start, none, false⟩) c ⟨asked, s.next, .waiting⟩) := by
  unfold enter at h
  split at h
  · cases h
  · next hc =>
    refine ⟨hc, ?_⟩
    split at h
    · next f hocc =>
      left
      unfold occupant at hocc
      split at hocc
      · cases hocc
      · split at hocc
        · cases hocc
        · next fl hf =>
          split at hocc
          · cases hocc
          · obtain rfl := Option.some.inj hocc
            exact ⟨_, fl, hf, (Option.some.inj h).symm⟩
    · right
      exact (Option.some.inj h).symm

theorem enter_wf (hs : Wf s) {asked : κ} {start : α} (h : enter P s c asked start = some t) : Wf t := by
  obtain ⟨hc, ⟨f, fl, hf, rfl⟩ | rfl⟩ := enter_cases h
  · constructor
    · intro f' fl' hf'
      obtain ⟨call, hcall, hcf, ha⟩ := hs.led f' fl' hf'
      have hne : fl'.leader ≠ c := by
        rintro rfl
        rw [hc] at hcall
        cases hcall
      exact ⟨call, by simpa [setCall, Function.update_of_ne hne] using hcall, hcf, ha⟩
    · intro c' call hcall
      rcases calls_setCall hcall with ⟨_, rfl⟩ | ⟨_, hcall⟩
      · exact ⟨fl, hf, fun o ho => by cases ho⟩
      · exact hs.joined c' call hcall
    · exact hs.fresh
  · constructor
    · intro f' fl' hf'
      rcases flights_setFlight hf' with ⟨rfl, rfl⟩ | ⟨_, hf'⟩
      · exact ⟨⟨asked, s.next, .waiting⟩, by simp [setCall], rfl, rfl⟩
      · obtain ⟨call, hcall, hcf, ha⟩ := hs.led f' fl' hf'
        have hne : fl'.leader ≠ c := by
          rintro rfl
          rw [hc] at hcall
          cases hcall
        exact ⟨call, by simpa [setCall, setFlight, Function.update_of_ne hne] using hcall, hcf, ha⟩
    · intro c' call hcall
      rcases calls_setCall hcall with ⟨_, rfl⟩ | ⟨_, hcall⟩
      · exact ⟨⟨c, asked, start, none, false⟩, by simp [setCall, setFlight], fun o ho => by cases ho⟩
      · obtain ⟨fl, hf, hdone⟩ := hs.joined c' call hcall
        have hne : call.flight ≠ s.next := by
          intro heq
          rw [heq, hs.fresh s.next (Nat.le_refl _)] at hf
          cases hf
        exact ⟨fl, by simpa [setCall, setFlight, Function.update_of_ne hne] using hf, hdone⟩
    · intro f' hle
      have hle' : s.next + 1 ≤ f' := hle
      have hne : f' ≠ s.next := by omega
      have hnone : s.flights f' = none := hs.fresh f' (by omega)
      simpa [setCall, setFlight, Function.update_of_ne hne] using hnone

theorem advance_eq {progress : α} (h : advance s f progress = some t) :
    ∃ fl, s.flights f = some fl ∧ fl.outcome = none ∧ t = setFlight s f { fl with progress := progress } := by
  unfold advance at h
  split at h
  · next leader asked old vacated hf => exact ⟨_, hf, rfl, (Option.some.inj h).symm⟩
  · cases h

theorem settle_eq {outcome : ω} (h : settle s f outcome = some t) :
    ∃ fl, s.flights f = some fl ∧ fl.outcome = none ∧ t = setFlight s f { fl with outcome := some outcome } := by
  unfold settle at h
  split at h
  · next leader asked progress vacated hf => exact ⟨_, hf, rfl, (Option.some.inj h).symm⟩
  · cases h

theorem vacate_eq (h : vacate s f = some t) : ∃ fl, s.flights f = some fl ∧
    t = setFlight { s with slot := if s.slot = some f then none else s.slot } f { fl with vacated := true } := by
  unfold vacate at h
  split at h
  · next leader asked progress outcome hf => exact ⟨_, hf, (Option.some.inj h).symm⟩
  · cases h

theorem take_eq (h : take P s c = some t) : ∃ call fl outcome, s.calls c = some call ∧
    s.flights call.flight = some fl ∧ fl.outcome = some outcome ∧
    t = setCall s c { call with phase := .done outcome } := by
  unfold take at h
  split at h
  · next asked f hc =>
    split at h
    · next leader _ _ outcome vacated hf =>
      split at h
      · cases h
      · exact ⟨_, _, outcome, hc, hf, rfl, (Option.some.inj h).symm⟩
    · cases h
  · cases h

theorem cancel_eq (h : cancel s c = some t) : ∃ call, s.calls c = some call ∧
    t = setCall s c { call with phase := .cancelled } := by
  unfold cancel at h
  split at h
  · next asked f hc => exact ⟨_, hc, (Option.some.inj h).symm⟩
  · cases h

theorem advance_wf (hs : Wf s) {progress : α} (h : advance s f progress = some t) : Wf t := by
  obtain ⟨fl, hf, _, rfl⟩ := advance_eq h
  exact wf_setFlight hs hf rfl rfl (fun _ h => h)

theorem settle_wf (hs : Wf s) {outcome : ω} (h : settle s f outcome = some t) : Wf t := by
  obtain ⟨fl, hf, hnone, rfl⟩ := settle_eq h
  refine wf_setFlight hs hf rfl rfl (fun o ho => ?_)
  rw [hnone] at ho
  cases ho

theorem vacate_wf (hs : Wf s) (h : vacate s f = some t) : Wf t := by
  obtain ⟨fl, hf, rfl⟩ := vacate_eq h
  have hs' : Wf { s with slot := if s.slot = some f then none else s.slot } := ⟨hs.led, hs.joined, hs.fresh⟩
  have hf' : ({ s with slot := if s.slot = some f then none else s.slot } : State κ α ω).flights f = some fl := hf
  exact wf_setFlight hs' hf' rfl rfl (fun _ h => h)

theorem take_wf (hs : Wf s) (h : take P s c = some t) : Wf t := by
  obtain ⟨call, fl, outcome, hc, hf, ho, rfl⟩ := take_eq h
  refine wf_setCall hs hc rfl rfl ?_
  intro fl' o hf' hdone
  obtain rfl := Option.some.inj (hf.symm.trans hf')
  cases hdone
  exact ho

theorem cancel_wf (hs : Wf s) (h : cancel s c = some t) : Wf t := by
  obtain ⟨call, hc, rfl⟩ := cancel_eq h
  exact wf_setCall hs hc rfl rfl (fun _ _ _ hdone => by cases hdone)

/-! ### The slot -/

structure SlotOk (s : State κ α ω) : Prop where
  occupied : ∀ f, s.slot = some f → ∃ fl, s.flights f = some fl
  live : ∀ f fl, s.flights f = some fl → fl.outcome = none → s.slot = some f

variable {d : ℕ} {old moved : Call κ ω}

theorem setCall_comm (hne : c ≠ d) (call : Call κ ω) :
    setCall (setCall s d moved) c call = setCall (setCall s c call) d moved := by
  unfold setCall
  rw [Function.update_comm hne]

theorem calls_setCall_ne (hne : c ≠ d) : (setCall s d moved).calls c = s.calls c :=
  Function.update_of_ne hne _ _

theorem enter_setCall (hd : s.calls d = some old) (asked : κ) (start : α) :
    enter P (setCall s d moved) c asked start = (enter P s c asked start).map (setCall · d moved) := by
  by_cases hne : c = d
  · subst hne
    simp [enter, setCall, hd]
  · have hocc : occupant P (setCall s d moved) = occupant P s := rfl
    unfold enter
    rw [calls_setCall_ne hne, hocc]
    cases s.calls c with
    | some call => rfl
    | none =>
      cases occupant P s with
      | some f => exact congrArg some (setCall_comm hne _)
      | none =>
        exact congrArg some (setCall_comm (s := setFlight
          { s with slot := some s.next, next := s.next + 1 } s.next ⟨c, asked, start, none, false⟩) hne _)

theorem advance_setCall (progress : α) :
    advance (setCall s d moved) f progress = (advance s f progress).map (setCall · d moved) := by
  have hflights : (setCall s d moved).flights = s.flights := rfl
  unfold advance
  rw [hflights]
  split <;> rfl

theorem settle_setCall (outcome : ω) :
    settle (setCall s d moved) f outcome = (settle s f outcome).map (setCall · d moved) := by
  have hflights : (setCall s d moved).flights = s.flights := rfl
  unfold settle
  rw [hflights]
  split <;> rfl

theorem vacate_setCall : vacate (setCall s d moved) f = (vacate s f).map (setCall · d moved) := by
  have hflights : (setCall s d moved).flights = s.flights := rfl
  unfold vacate
  rw [hflights]
  split <;> rfl

theorem take_setCall (hne : c ≠ d) :
    take P (setCall s d moved) c = (take P s c).map (setCall · d moved) := by
  have hflights : (setCall s d moved).flights = s.flights := rfl
  unfold take
  rw [calls_setCall_ne hne, hflights]
  split
  · split
    · split
      · rfl
      · exact congrArg some (setCall_comm hne _)
    · rfl
  · rfl

theorem cancel_setCall (hne : c ≠ d) :
    cancel (setCall s d moved) c = (cancel s c).map (setCall · d moved) := by
  unfold cancel
  rw [calls_setCall_ne hne]
  split
  · exact congrArg some (setCall_comm hne _)
  · rfl

end Laws

end PyLib.SingleFlight
