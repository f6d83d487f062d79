import AxiamSdk.Amqp.Consumer
import AxiamSdk.Lib.JsonRender

/-! # The settlement of a delivery (`_on_message` of `amqp/_consumer.py`)

* `onMessage`: a whole delivery, with its handler's outcome: what is settled, what is raised, and what
  the handler was called with.
* `Matrix`: the decision matrix; `matrix_iff`: the deliveries that are settled by it. -/

namespace AxiamSdk.Amqp
open PyLib
set_option autoImplicit false

/-! ## A whole delivery -/

/-- A handler returns or raises an `Exception`. -/
abbrev ExceptionOutcome := { outcome : HandlerOutcome // outcome ≠ .cancelled }

structure Delivered where
  raised : Option Exc
  settlements : List Settlement
  /-- The events that the handler was called with. -/
  handled : List (List (PyStr × Json))

/-- `_on_message`. An exception leaves the settlement to `message.process()`. -/
def onMessage (P : Platform) (C : Consumer) (nonceStore : NonceStore) (d : Delivery)
    (outcome : ExceptionOutcome) : Delivered :=
  match (intake P C nonceStore d).1 with
  | .escaped e => ⟨some e, C.exitSettlement.toList, []⟩
  | .settled s => ⟨none, [s], []⟩
  | .handed event => ⟨none, (afterHandler outcome.val).toList, [event]⟩

/-! ## The matrix -/

/-- The verification succeeds, and the freshness checks reject nothing of the rest. -/
def Cleared (P : Platform) (C : Consumer) (nonceStore : NonceStore) (d : Delivery)
    (event : List (PyStr × Json)) : Prop :=
  verifyHmac P C.signingKey d.body = .ok true ∧ ∃ msg, P.loads d.body = .ok (.obj msg) ∧
    event = Assoc.erase msg (lit "hmac_signature") ∧
    (validateFreshness P event nonceStore C.skewSeconds d.now d.monotonic).1 = none

/-- Its row for a handler's end. -/
def rowOf : HandlerOutcome → Settlement
  | .returned => .ack
  | .errDrop => .nackDrop
  | .raised | .cancelled => .nackRequeue

/-- **The matrix.** The verification returns, and so does `_on_message`, after one settlement: by the
handler's end, if the delivery was cleared and the handler ran, once, on what was; else a drop. -/
structure Matrix (P : Platform) (C : Consumer) (nonceStore : NonceStore) (d : Delivery)
    (outcome : ExceptionOutcome) : Prop where
  verifies : ∃ b, verifyHmac P C.signingKey d.body = .ok b
  returns : (onMessage P C nonceStore d outcome).raised = none
  cleared : ∀ event, Cleared P C nonceStore d event →
    (onMessage P C nonceStore d outcome).handled = [event] ∧
    (onMessage P C nonceStore d outcome).settlements = [rowOf outcome.val]
  refused : (∀ event, ¬ Cleared P C nonceStore d event) →
    (onMessage P C nonceStore d outcome).handled = [] ∧
    (onMessage P C nonceStore d outcome).settlements = [.nackDrop]

/-- A body that raises out of the verification: an integer literal over the digit limit, nesting too
deep to parse, or a text for its signature beside members that cannot be written again. -/
def Raising (P : Platform) (body : Bytes) : Prop :=
  P.loads body = .error .valueError ∨ P.loads body = .error .recursionError ∨
  ∃ msg signature, P.loads body = .ok (.obj msg) ∧ Json.get msg (lit "hmac_signature") = .str signature ∧
    isOk (P.dumps true (.obj (Assoc.erase msg (lit "hmac_signature")))) = false

/-! ## What raises -/

/-- A text that verifies as an object with a signature returns exactly if the rest can be written. -/
theorem verifyHmac_signed {P : Platform} {body : Bytes} {msg : List (PyStr × Json)} {signature : PyStr}
    (hloads : P.loads body = .ok (.obj msg)) (hsig : Json.get msg (lit "hmac_signature") = .str signature)
    (key : Bytes) : isOk (verifyHmac P key body) =
      isOk (P.dumps true (.obj (Assoc.erase msg (lit "hmac_signature")))) := by
  unfold verifyHmac
  rw [loadsOrNone_of_loads hloads]
  dsimp only
  rw [hsig]
  dsimp only
  cases hd : P.dumps true (.obj (Assoc.erase msg (lit "hmac_signature"))) with
  | error e => rfl
  | ok text =>
    obtain ⟨canonical, henc⟩ := JsonText.encodeUtf8_dumps (dumps_ok hd)
    dsimp only
    rw [henc]
    dsimp only
    split
    · rfl
    · rfl

/-- **The verification raises** exactly on a raising body. -/
theorem verifyHmac_isOk_iff (P : Platform) (key body : Bytes) :
    isOk (verifyHmac P key body) = true ↔ ¬ Raising P body := by
  unfold Raising
  cases hl : P.loads body with
  | error e =>
    have hraised : verifyHmac P key body = match loadsOrNone P body with
        | .error e => .error e
        | .ok _ => .ok false := by
      unfold verifyHmac loadsOrNone
      rw [hl]
      cases e <;> rfl
    rw [hraised, loadsOrNone, hl]
    obtain ⟨l, -, rfl⟩ : ∃ l, PyLib.loads P.interp body = .error l ∧ Exc.ofLoads l = e := by
      unfold Platform.loads at hl
      cases h : PyLib.loads P.interp body with
      | ok v =>
        rw [h] at hl
        cases hl
      | error l =>
        rw [h] at hl
        exact ⟨l, rfl, Except.error.inj hl⟩
    cases l <;> simp [Exc.ofLoads, isOk]
  | ok v =>
    simp only [reduceCtorEq, Except.ok.injEq, false_or]
    by_cases hsigned : ∃ msg signature, v = .obj msg ∧ Json.get msg (lit "hmac_signature") = .str signature
    · obtain ⟨msg, signature, rfl, hsig⟩ := hsigned
      rw [verifyHmac_signed hl hsig, ← Bool.not_eq_false]
      refine not_congr ⟨fun h => ⟨msg, signature, rfl, hsig, h⟩, ?_⟩
      rintro ⟨msg', signature', hmsg, -, h⟩
      obtain rfl := Json.obj.inj hmsg
      exact h
    · have hfalse : verifyHmac P key body = .ok false := by
        unfold verifyHmac
        rw [loadsOrNone_of_loads hl]
        cases v with
        | obj msg =>
          dsimp only
          split
          · next signature hsig => exact absurd ⟨msg, signature, rfl, hsig⟩ hsigned
          · rfl
        | _ => rfl
      rw [hfalse]
      refine iff_of_true rfl ?_
      rintro ⟨msg, signature, hmsg, hsig, -⟩
      exact hsigned ⟨msg, signature, hmsg, hsig⟩

/-! ## The matrix holds -/

theorem cleared_unique {P : Platform} {C : Consumer} {store : NonceStore} {d : Delivery}
    {event event' : List (PyStr × Json)} (h : Cleared P C store d event) (h' : Cleared P C store d event') :
    event = event' := by
  obtain ⟨-, msg, hmsg, rfl, -⟩ := h
  obtain ⟨-, msg', hmsg', rfl, -⟩ := h'
  obtain rfl := Json.obj.inj (Except.ok.inj (hmsg.symm.trans hmsg'))
  rfl

/-- The intake of a body whose verification returns hands over what was cleared and drops the rest. -/
theorem intake_of_verified {P : Platform} {C : Consumer} {d : Delivery} {b : Bool}
    (hb : verifyHmac P C.signingKey d.body = .ok b) (store : NonceStore) :
    (∃ event, Cleared P C store d event ∧ (intake P C store d).1 = .handed event) ∨
    ((∀ event, ¬ Cleared P C store d event) ∧ (intake P C store d).1 = .settled .nackDrop) := by
  unfold intake
  rw [hb]
  cases b with
  | false =>
    refine .inr ⟨fun event h => ?_, rfl⟩
    have htrue := h.1
    rw [hb] at htrue
    cases htrue
  | true =>
    obtain ⟨msg, hmsg⟩ := obj_of_verifyHmac hb
    dsimp only
    rw [loadsOrNone_of_loads hmsg]
    dsimp only
    cases hfresh : validateFreshness P (Assoc.erase msg (lit "hmac_signature")) store C.skewSeconds d.now
        d.monotonic with
    | mk rejection store' =>
      cases rejection with
      | none => exact .inl ⟨_, ⟨hb, msg, hmsg, rfl, congrArg Prod.fst hfresh⟩, rfl⟩
      | some reason =>
        refine .inr ⟨fun event h => ?_, rfl⟩
        obtain ⟨-, msg', hmsg', rfl, hnone⟩ := h
        obtain rfl := Json.obj.inj (Except.ok.inj (hmsg.symm.trans hmsg'))
        rw [hfresh] at hnone
        cases hnone

theorem afterHandler_row (outcome : ExceptionOutcome) :
    (afterHandler outcome.val).toList = [rowOf outcome.val] := by
  obtain ⟨outcome, hne⟩ := outcome
  cases outcome with
  | returned | errDrop | raised => rfl
  | cancelled => exact absurd rfl hne

/-- **A delivery is settled by the matrix** exactly if its body is not a raising one. -/
theorem matrix_iff (P : Platform) (C : Consumer) (store : NonceStore) (d : Delivery)
    (outcome : ExceptionOutcome) : Matrix P C store d outcome ↔ ¬ Raising P d.body := by
  rw [← verifyHmac_isOk_iff P C.signingKey]
  cases hverify : verifyHmac P C.signingKey d.body with
  | error e =>
    refine iff_of_false (fun h => ?_) Bool.false_ne_true
    obtain ⟨b, hb⟩ := h.verifies
    rw [hverify] at hb
    cases hb
  | ok b =>
    refine iff_of_true ?_ rfl
    obtain ⟨event, hcleared, hintake⟩ | ⟨hnone, hintake⟩ := intake_of_verified hverify store
    · have hrun : onMessage P C store d outcome = ⟨none, [rowOf outcome.val], [event]⟩ := by
        rw [onMessage, hintake, ← afterHandler_row]
      refine ⟨⟨b, hverify⟩, by rw [hrun], fun event' hevent' => ?_, fun h => absurd hcleared (h event)⟩
      rw [hrun, cleared_unique hcleared hevent']
      exact ⟨rfl, rfl⟩
    · have hrun : onMessage P C store d outcome = ⟨none, [.nackDrop], []⟩ := by
        rw [onMessage, hintake]
      refine ⟨⟨b, hverify⟩, by rw [hrun], fun event h => absurd h (hnone event), fun _ => ?_⟩
      rw [hrun]
      exact ⟨rfl, rfl⟩

/-! ## A body nested too deep -/

namespace DeepNesting

def platform : Platform := ⟨⟨4300, 990, 990, fun _ => []⟩, fun _ _ => List.replicate 32 0, fun _ => none⟩

/-- 991 opening brackets. -/
def delivery : Delivery := ⟨List.replicate 991 91, 0, 0.0⟩

def consumer : Consumer := ⟨[1, 2, 3, 4], defaultSkewSeconds, 600.0, some .nackDrop⟩

end DeepNesting

theorem not_matrix : ¬ ∀ (P : Platform) (C : Consumer) (store : NonceStore) (d : Delivery)
    (outcome : ExceptionOutcome), Matrix P C store d outcome := by
  intro hall
  obtain ⟨b, hb⟩ := (hall DeepNesting.platform DeepNesting.consumer (NonceStore.new 600.0) DeepNesting.delivery
    ⟨.returned, by decide⟩).verifies
  have hraised : isOk (verifyHmac DeepNesting.platform DeepNesting.consumer.signingKey
      DeepNesting.delivery.body) = false := by
    decide +kernel
  rw [hb] at hraised
  cases hraised

end AxiamSdk.Amqp
