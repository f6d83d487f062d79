import AxiamSdk.Lib.Runs
import AxiamSdk.Ssf.NineSteps
import AxiamSdk.Ssf.Replay

/-! # Deliveries (`ssf/_receiver.py`)

A transmitter offers the SETs that it has issued until they are acknowledged or reported. Polls run side by side,
and requests and answers are lost, late or repeated.

* `pollBody`, `pollReply`: what a poll sends, and what it reads of an answer.
* `Exchanges`: one step of transmitter, polls and application.
* `pollLoop_adds`: what a poll adds, whatever the lookup of keys and the store answer.
* `Exchange.Sound.deliveries`: nothing is lost and nothing is returned twice.
* `Exchange.Sound.drains`: what is pending can be settled. -/

namespace AxiamSdk.Ssf
open PyLib Checklist
set_option autoImplicit false

/-! ## Requests and answers -/

/-- `push_error_code` -/
def pushErrorCode : SetFailureReason → PyStr
  | .malformed | .invalidType | .replayed => lit "invalid_request"
  | reason => reason.value

/-- `SetErr` -/
structure SetErr where
  err : PyStr
  description : Option PyStr
  deriving DecidableEq

/-- `from_reason` -/
def SetErr.fromReason (reason : SetFailureReason) : SetErr := ⟨pushErrorCode reason, none⟩

/-- `to_wire` -/
def SetErr.toWire (e : SetErr) : Json :=
  .obj ((lit "err", .str e.err) :: e.description.toList.map (fun d => (lit "description", .str d)))

/-- The arguments of a poll. -/
structure PollRequest where
  maxEvents : Option ℤ
  returnImmediately : Option Bool
  ack : Option (List PyStr)
  setErrs : Option (Dict PyStr SetErr)

/-- `poll_body` -/
def pollBody (r : PollRequest) : List (PyStr × Json) :=
  r.maxEvents.toList.map (fun n => (lit "maxEvents", .int n)) ++
  r.returnImmediately.toList.map (fun b => (lit "returnImmediately", .bool b)) ++
  r.ack.toList.map (fun ack => (lit "ack", .arr (ack.map .str))) ++
  r.setErrs.toList.map (fun errs => (lit "setErrs", .obj (errs.items.map (fun p => (p.1, p.2.toWire)))))

/-- `poll_reply` of an answer's body, `none` for one that is no JSON. -/
def pollReply : Option Json → Except Exc (List (PyStr × Json) × Bool)
  | none => .error (.networkError (lit "ssf.poll: the response is not JSON") none)
  | some (.obj reply) =>
    .ok ((Json.get reply (lit "sets")).asObj?.getD [],
      match Json.get reply (lit "moreAvailable") with
      | .bool more => more
      | _ => false)
  | some _ => .error (.networkError (lit "ssf.poll: the response is not a JSON object") none)

/-! ## The transmitter -/

/-- What has been issued, acknowledged and reported. -/
structure Transmitter where
  issued : List (PyStr × Json)
  acked : List PyStr
  reported : List (PyStr × Json)

namespace Transmitter

def pending (t : Transmitter) : List (PyStr × Json) :=
  t.issued.filter (fun p => p.1 ∉ t.acked ∧ p.1 ∉ t.reported.map Prod.fst)

def ackOf (body : List (PyStr × Json)) : List PyStr :=
  match Json.get body (lit "ack") with
  | .arr jtis => jtis.filterMap Json.asStr?
  | _ => []

def errsOf (body : List (PyStr × Json)) : List (PyStr × Json) := (Json.get body (lit "setErrs")).asObj?.getD []

/-- The body of a poll, read. -/
def handle (t : Transmitter) (body : List (PyStr × Json)) : Transmitter :=
  { t with acked := t.acked ++ ackOf body, reported := t.reported ++ errsOf body }

/-- An answer offers SETs that are pending. -/
def Offers (t : Transmitter) (answer : Option Json) : Prop :=
  ∀ pairs more, pollReply answer = .ok (pairs, more) → pairs ⊆ t.pending

theorem ackOf_pollBody (r : PollRequest) : ackOf (pollBody r) = r.ack.getD [] := by
  obtain ⟨_ | n, _ | b, _ | ack, _ | errs⟩ := r <;>
    simp [ackOf, pollBody, Json.get, Assoc.get?, lit, List.filterMap_map, Function.comp_def, Json.asStr?]

theorem errsOf_pollBody (r : PollRequest) :
    errsOf (pollBody r) = ((r.setErrs.map Dict.items).getD []).map (fun p => (p.1, p.2.toWire)) := by
  obtain ⟨_ | n, _ | b, _ | ack, _ | errs⟩ := r <;>
    simp [errsOf, pollBody, Json.get, Assoc.get?, lit, Json.asObj?]

end Transmitter

/-! ## The application -/

/-- What the polls have returned. -/
structure Application where
  delivered : List SecurityEvent
  replayed : List PyStr
  refused : List RefusedSet

namespace Application

def jtis (a : Application) : List PyStr := a.delivered.map SecurityEvent.jti

def take (a : Application) (result : SsfPollResult) : Application where
  delivered := a.delivered ++ result.events
  replayed := a.replayed ++ (result.refused.filter (fun f => f.reason = .replayed)).map RefusedSet.jti
  refused := a.refused ++ result.refused.filter (fun f => f.reason ≠ .replayed)

/-- The documented duty: what was returned, or refused as replayed, is acknowledged, and any other refusal is
reported. Neither has to be done at once. -/
structure Dutiful (a : Application) (r : PollRequest) : Prop where
  ack : ∀ jti ∈ r.ack.getD [], jti ∈ a.jtis ∨ jti ∈ a.replayed
  setErrs : ∀ p ∈ (r.setErrs.map Dict.items).getD [], ∃ f ∈ a.refused, f.jti = p.1 ∧ p.2 = .fromReason f.reason

end Application

/-! ## The exchange -/

/-- The transmitter, the answers on their way, what the polls have returned, and the replay store. -/
structure Exchange (σ : Type) where
  transmitter : Transmitter
  inFlight : List (Option Json)
  application : Application
  storeState : σ

/-- A poll that gets its answer finds the key source in a state of its own. -/
inductive ExchangeEvent (κ : Type)
  | issue (jti : PyStr) (set : Json)
  | request (r : PollRequest) (answer : Option Json)
  | lose (i : ℕ)
  | receive (i : ℕ) (k : κ)

section Exchange
variable {Key κ σ : Type} (R : Receiver Key) (keys : KeySource κ Key) (store : ReplayStore σ)

def Exchange.start (s : σ) : Exchange σ := ⟨⟨[], [], []⟩, [], ⟨[], [], []⟩, s⟩

/-- A poll with its answer. -/
def Exchange.receive (x : Exchange σ) (k : κ) (answer : Option Json) : Exchange σ :=
  match pollReply answer with
  | .error _ => x
  | .ok (pairs, more) =>
    match pollLoop R keys store pairs (PollState.start more k x.storeState) with
    | (st, none) =>
      { x with storeState := st.storeState, application := x.application.take (finishPoll st) }
    | (st, some _) => { x with storeState := st.storeState }

inductive Exchanges : Exchange σ → ExchangeEvent κ → Exchange σ → Prop
  | issue {x : Exchange σ} {jti : PyStr} {set : Json} (hfresh : jti ∉ x.transmitter.issued.map Prod.fst) :
      Exchanges x (.issue jti set)
        { x with transmitter.issued := x.transmitter.issued ++ [(jti, set)] }
  | request {x : Exchange σ} {r : PollRequest} {answer : Option Json} (hduty : x.application.Dutiful r)
      (hoffers : (x.transmitter.handle (pollBody r)).Offers answer) :
      Exchanges x (.request r answer)
        { x with transmitter := x.transmitter.handle (pollBody r), inFlight := x.inFlight ++ [answer] }
  | lose {x : Exchange σ} {i : ℕ} : Exchanges x (.lose i) { x with inFlight := x.inFlight.eraseIdx i }
  | receive {x : Exchange σ} {i : ℕ} {k : κ} {answer : Option Json} (hanswer : x.inFlight[i]? = some answer) :
      Exchanges x (.receive i k)
        (Exchange.receive R keys store { x with inFlight := x.inFlight.eraseIdx i } k answer)

/-- A store that says truly whether it holds a `jti`; where it cannot answer it holds what it held, and raises
nothing that a poll passes on. -/
structure Tells (window : Float) (good : σ → Prop) (held : σ → PyStr → Prop) : Prop where
  recorded : ∀ s jti s', good s → store.checkAndRecord s jti window = (.ok true, s') →
    good s' ∧ ¬ held s jti ∧ ∀ j, held s' j ↔ held s j ∨ j = jti
  refused : ∀ s jti s', good s → store.checkAndRecord s jti window = (.ok false, s') →
    good s' ∧ held s jti ∧ ∀ j, held s' j ↔ held s j
  failed : ∀ s jti s' e, good s → store.checkAndRecord s jti window = (.error e, s') →
    good s' ∧ passesThrough e = false ∧ ∀ j, held s' j ↔ held s j

/-- A lookup that fails does not refuse the SET as replayed. -/
def KeySource.Quiet : Prop := ∀ k kid, Within reasonOf (· ≠ .replayed) (keys.keyFor k kid).1

/-- Steps 1 to 8 refuse the SET for the reason. -/
def RefusedFor (p : PyStr × Json) (reason : SetFailureReason) : Prop :=
  ∃ k, Refuses (judgePair R keys k p).1 reason

end Exchange

/-! ## Only the store refuses as replayed -/

section NotReplayed
variable {Key κ : Type} {R : Receiver Key} {keys : KeySource κ Key}

theorem within_refuse {α : Type} {reason : SetFailureReason} {detail : String} (h : reason ≠ .replayed) :
    Within reasonOf (· ≠ .replayed) (refuse reason detail : Except Exc α) := by
  refine within_error ?_
  intro r hr
  cases hr
  exact h

theorem within_ensure {ok : Bool} {reason : SetFailureReason} {detail : String} (h : reason ≠ .replayed) :
    Within reasonOf (· ≠ .replayed) (ensure ok reason detail) := by
  cases ok with
  | true => exact within_ok ()
  | false => exact within_refuse h

theorem within_of_error {α β : Type} {x : Except Exc α} {e : Exc} (h : Within reasonOf (· ≠ .replayed) x)
    (hx : x = .error e) : Within reasonOf (· ≠ .replayed) (.error e : Except Exc β) := by
  refine within_error ?_
  intro r hr
  exact h e r hx hr

theorem within_jsonObject (P : Platform) (part : PyStr) : Within reasonOf (· ≠ .replayed) (jsonObject P part) := by
  unfold jsonObject
  split
  · exact within_ok _
  · split
    · exact within_ok _
    · next e hloads =>
      split
      · exact within_ok _
      · next hno =>
        refine within_error ?_
        intro r hr
        obtain hvalue | rfl := loads_error hloads
        · exact absurd hvalue hno
        · cases hr

theorem within_checkHeader (header : List (PyStr × Json)) : Within reasonOf (· ≠ .replayed) (checkHeader header) := by
  unfold checkHeader
  refine within_bind (within_ensure (by decide)) (fun _ => within_bind (within_ensure (by decide)) (fun _ => ?_))
  split
  · exact within_refuse (by decide)
  · exact within_refuse (by decide)
  · exact within_ok _

theorem within_parse (P : Platform) (setToken : PyStr) : Within reasonOf (· ≠ .replayed) (parse P setToken) := by
  unfold parse
  split
  · split
    · exact within_refuse (by decide)
    · refine within_bind (within_jsonObject _ _) (fun _ => within_bind (within_jsonObject _ _) (fun _ => ?_))
      split
      · refine within_bind (within_checkHeader _) (fun _ => ?_)
        split
        · refine within_error ?_
          rintro r ⟨⟩
        · exact within_ok _
      · exact within_refuse (by decide)
  · exact within_refuse (by decide)

theorem within_readEvent (iss : PyStr) (claims : List (PyStr × Json)) (expectedJti : Option PyStr) :
    Within reasonOf (· ≠ .replayed) (readEvent iss claims expectedJti) := by
  unfold readEvent
  refine within_bind (within_ensure (by decide)) (fun _ => ?_)
  split
  · exact within_refuse (by decide)
  · exact within_refuse (by decide)
  · refine within_bind (within_ensure (by decide)) (fun _ => ?_)
    split
    · exact within_refuse (by decide)
    · exact within_bind (within_ensure (by decide)) (fun _ => within_ok _)
    · exact within_refuse (by decide)

theorem within_judge (parsed : Parsed) (key : Option Key) (expectedJti : Option PyStr) :
    Within reasonOf (· ≠ .replayed) (judge R parsed key expectedJti) := by
  unfold judge
  split
  · exact within_refuse (by decide)
  · refine within_bind (within_ensure (by decide)) (fun _ => within_bind (within_ensure (by decide)) (fun _ => ?_))
    exact within_bind (within_ensure (by decide)) (fun _ => within_readEvent _ _ _)

theorem KeySource.Quiet.judgePair (hquiet : keys.Quiet) (k : κ) (p : PyStr × Json) :
    Within reasonOf (· ≠ .replayed) (judgePair R keys k p).1 := by
  unfold Ssf.judgePair judgeSet
  split
  · exact within_refuse (by decide)
  · split
    · next hparse => exact within_of_error (within_parse _ _) hparse
    · next parsed _ =>
      split
      · next hkey => exact within_of_error (hquiet k parsed.kid) (congrArg Prod.fst hkey)
      · exact within_judge _ _ _

theorem KeySource.Quiet.refusedFor (hquiet : keys.Quiet) {p : PyStr × Json} {reason : SetFailureReason}
    (h : RefusedFor R keys p reason) : reason ≠ .replayed := by
  obtain ⟨k, detail, hrefuses⟩ := h
  exact hquiet.judgePair k p _ reason hrefuses rfl

end NotReplayed

/-! ## What a poll adds -/

section Adds
variable {Key κ σ : Type} (R : Receiver Key) (keys : KeySource κ Key) (good : σ → Prop) (held : σ → PyStr → Prop)

/-- The loop over a batch, begun where the store held `before`. -/
structure PollState.Adds (before : PyStr → Prop) (batch : List (PyStr × Json)) (st : PollState κ σ) : Prop where
  good : good st.storeState
  holds : ∀ j, held st.storeState j ↔ before j ∨ j ∈ st.result.events.map SecurityEvent.jti
  fresh : ∀ event ∈ st.result.events, ¬ before event.jti
  once : (st.result.events.map SecurityEvent.jti).Nodup
  judged : ∀ event ∈ st.result.events, ∃ p ∈ batch, p.1 = event.jti ∧ ∃ k, (judgePair R keys k p).1 = .ok event
  refused : ∀ f ∈ st.result.refused, f.reason = .replayed ∧ held st.storeState f.jti ∨
    ∃ p ∈ batch, p.1 = f.jti ∧ RefusedFor R keys p f.reason

variable {R : Receiver Key} {keys : KeySource κ Key} {good : σ → Prop} {held : σ → PyStr → Prop}
  {store : ReplayStore σ} {before : PyStr → Prop} {batch : List (PyStr × Json)} {st : PollState κ σ}

theorem PollState.Adds.start {s : σ} (hgood : good s) (more : Bool) (k : κ) :
    (PollState.start more k s).Adds R keys good held (held s) batch where
  good := hgood
  holds j := by simp [PollState.start]
  fresh event h := by cases h
  once := List.nodup_nil
  judged event h := by cases h
  refused f h := by cases h

/-- The store was asked about nothing, or answered without a verdict. -/
theorem PollState.Adds.same (h : st.Adds R keys good held before batch) {st' : PollState κ σ}
    (hevents : st'.result.events = st.result.events) (hrefused : st'.result.refused = st.result.refused)
    (hgood : good st'.storeState) (hheld : ∀ j, held st'.storeState j ↔ held st.storeState j) :
    st'.Adds R keys good held before batch := by
  refine ⟨hgood, ?_, hevents ▸ h.fresh, hevents ▸ h.once, hevents ▸ h.judged, ?_⟩
  · intro j
    rw [hheld, hevents]
    exact h.holds j
  · intro f hf
    rw [hheld]
    exact h.refused f (hrefused ▸ hf)

theorem PollState.Adds.refuse (h : st.Adds R keys good held before batch) {jti : PyStr} {reason : SetFailureReason}
    (hf : reason = .replayed ∧ held st.storeState jti ∨ ∃ p ∈ batch, p.1 = jti ∧ RefusedFor R keys p reason) :
    (st.refuse jti reason).Adds R keys good held before batch := by
  refine ⟨h.good, h.holds, h.fresh, h.once, h.judged, ?_⟩
  intro f hmem
  rw [PollState.refuse, List.mem_append, List.mem_singleton] at hmem
  obtain hmem | rfl := hmem
  · exact h.refused f hmem
  · exact hf

theorem PollState.Adds.accept (h : st.Adds R keys good held before batch) {event : SecurityEvent} {s : σ}
    {st' : PollState κ σ} (hresult : st'.result = st.result) (hstore : st'.storeState = s) (hgood : good s)
    (hnew : ¬ held st.storeState event.jti) (hheld : ∀ j, held s j ↔ held st.storeState j ∨ j = event.jti)
    (hjudged : ∃ p ∈ batch, p.1 = event.jti ∧ ∃ k, (judgePair R keys k p).1 = .ok event) :
    (st'.accept event).Adds R keys good held before batch := by
  subst hstore
  have hevents : (st'.accept event).result.events = st.result.events ++ [event] := by rw [← hresult]; rfl
  have hrefused : (st'.accept event).result.refused = st.result.refused := by rw [← hresult]; rfl
  have hunseen := fun hseen => hnew ((h.holds event.jti).2 hseen)
  refine ⟨hgood, ?_, ?_, ?_, ?_, ?_⟩
  · intro j
    rw [hevents]
    show held st'.storeState j ↔ _
    rw [hheld, h.holds, List.map_append, List.mem_append, List.map_singleton, List.mem_singleton, or_assoc]
  · rw [hevents]
    intro e he
    rw [List.mem_append, List.mem_singleton] at he
    obtain he | rfl := he
    · exact h.fresh e he
    · exact fun hbefore => hunseen (.inl hbefore)
  · rw [hevents, List.map_append, List.map_singleton]
    rw [← List.concat_eq_append]
    exact h.once.concat (fun hmem => hunseen (.inr hmem))
  · rw [hevents]
    intro e he
    rw [List.mem_append, List.mem_singleton] at he
    obtain he | rfl := he
    · exact h.judged e he
    · exact hjudged
  · rw [hrefused]
    intro f hf
    obtain ⟨hreason, hin⟩ | hf := h.refused f hf
    · exact .inl ⟨hreason, (hheld f.jti).2 (.inl hin)⟩
    · exact .inr hf

/-- **The batch**: nothing is raised, and what the loop adds follows what the store holds. -/
theorem pollLoop_adds (htells : Tells store R.replayWindow good held) {rest : List (PyStr × Json)}
    (hrest : rest ⊆ batch) (h : st.Adds R keys good held before batch) :
    (pollLoop R keys store rest st).2 = none ∧
      (pollLoop R keys store rest st).1.Adds R keys good held before batch := by
  induction rest generalizing st with
  | nil => exact ⟨rfl, h⟩
  | cons pair rest ih =>
    have hpair : pair ∈ batch := hrest List.mem_cons_self
    replace hrest : rest ⊆ batch := fun p hp => hrest (List.mem_cons_of_mem _ hp)
    rw [pollLoop]
    split
    · next reason detail k hj =>
      have hk : PollState.Adds R keys good held before batch { st with keyState := k } :=
        h.same rfl rfl h.good (fun _ => Iff.rfl)
      exact ih hrest (hk.refuse (.inr ⟨pair, hpair, rfl, st.keyState, detail, congrArg Prod.fst hj⟩))
    · exact ⟨rfl, h.same rfl rfl h.good (fun _ => Iff.rfl)⟩
    · next event k hj =>
      have hjti := judgePair_jti hj
      dsimp only
      split
      · exact ih hrest (h.same rfl rfl h.good (fun _ => Iff.rfl))
      · cases hs : store.checkAndRecord st.storeState event.jti R.replayWindow with
        | mk answer s =>
          cases answer with
          | error failure =>
            obtain ⟨hgood, hpass, hheld⟩ := htells.failed _ _ _ _ h.good hs
            have hcases := storeFailure_cases failure
            rw [hpass, if_neg Bool.false_ne_true] at hcases
            obtain ⟨message, after, hm⟩ := hcases
            simp only [record, logAnswer, hs, hm]
            exact ih hrest (h.same rfl rfl hgood hheld)
          | ok fresh =>
            cases fresh with
            | true =>
              obtain ⟨hgood, hnew, hheld⟩ := htells.recorded _ _ _ h.good hs
              simp only [record, logAnswer, hs]
              refine ih hrest (h.accept rfl rfl hgood hnew hheld ?_)
              exact ⟨pair, hpair, hjti.symm, st.keyState, congrArg Prod.fst hj⟩
            | false =>
              obtain ⟨hgood, hin, hheld⟩ := htells.refused _ _ _ h.good hs
              simp only [record, logAnswer, hs, Ssf.refuse]
              have hs' : PollState.Adds R keys good held before batch
                  { st with keyState := k, storeState := s, recorded := st.recorded } := h.same rfl rfl hgood hheld
              refine ih hrest (hs'.refuse (.inl ⟨rfl, ?_⟩))
              rw [← hjti]
              exact (hheld _).2 hin

end Adds

/-! ## Runs -/

section Runs
variable {Key κ σ : Type} (R : Receiver Key) (keys : KeySource κ Key) (good : σ → Prop) (held : σ → PyStr → Prop)

/-- The store holds what was returned; what was acknowledged was returned, and what was reported was refused. -/
structure Exchange.Sound (x : Exchange σ) : Prop where
  good : good x.storeState
  holds : ∀ j, held x.storeState j ↔ j ∈ x.application.jtis
  once : x.application.jtis.Nodup
  issuedOnce : (x.transmitter.issued.map Prod.fst).Nodup
  judged : ∀ event ∈ x.application.delivered, ∃ p ∈ x.transmitter.issued, p.1 = event.jti ∧
    ∃ k, (judgePair R keys k p).1 = .ok event
  replayed : ∀ jti ∈ x.application.replayed, jti ∈ x.application.jtis
  refused : ∀ f ∈ x.application.refused, ∃ p ∈ x.transmitter.issued, p.1 = f.jti ∧ RefusedFor R keys p f.reason
  acked : ∀ jti ∈ x.transmitter.acked, jti ∈ x.application.jtis
  reported : ∀ p ∈ x.transmitter.reported, ∃ f ∈ x.application.refused, f.jti = p.1 ∧
    p.2 = (SetErr.fromReason f.reason).toWire
  answers : ∀ answer ∈ x.inFlight, ∀ pairs more, pollReply answer = .ok (pairs, more) → pairs ⊆ x.transmitter.issued

variable {R : Receiver Key} {keys : KeySource κ Key} {good : σ → Prop} {held : σ → PyStr → Prop}
  {store : ReplayStore σ} {x y : Exchange σ}

theorem Exchange.Sound.start {s : σ} (hgood : good s) (hempty : ∀ j, ¬ held s j) :
    (Exchange.start s).Sound R keys good held where
  good := hgood
  holds j := iff_of_false (hempty j) (by simp [Exchange.start, Application.jtis])
  once := List.nodup_nil
  issuedOnce := List.nodup_nil
  judged event h := by cases h
  replayed jti h := by cases h
  refused f h := by cases h
  acked jti h := by cases h
  reported p h := by cases h
  answers answer h := by cases h

theorem Exchange.Sound.issue (h : x.Sound R keys good held) {jti : PyStr} {set : Json}
    (hfresh : jti ∉ x.transmitter.issued.map Prod.fst) :
    Exchange.Sound R keys good held { x with transmitter.issued := x.transmitter.issued ++ [(jti, set)] } := by
  have hgrows : x.transmitter.issued ⊆ x.transmitter.issued ++ [(jti, set)] := List.subset_append_left _ _
  refine ⟨h.good, h.holds, h.once, ?_, ?_, h.replayed, ?_, h.acked, h.reported, ?_⟩
  · show ((x.transmitter.issued ++ [(jti, set)]).map Prod.fst).Nodup
    rw [List.map_append, List.map_singleton, ← List.concat_eq_append]
    exact h.issuedOnce.concat hfresh
  · intro event hevent
    obtain ⟨p, hp, hjudged⟩ := h.judged event hevent
    exact ⟨p, hgrows hp, hjudged⟩
  · intro f hf
    obtain ⟨p, hp, hrefused⟩ := h.refused f hf
    exact ⟨p, hgrows hp, hrefused⟩
  · exact fun answer hin pairs more hreply => List.Subset.trans (h.answers answer hin pairs more hreply) hgrows

theorem Exchange.Sound.request (h : x.Sound R keys good held) {r : PollRequest} {answer : Option Json}
    (hduty : x.application.Dutiful r) (hoffers : (x.transmitter.handle (pollBody r)).Offers answer) :
    Exchange.Sound R keys good held
      { x with transmitter := x.transmitter.handle (pollBody r), inFlight := x.inFlight ++ [answer] } := by
  refine ⟨h.good, h.holds, h.once, h.issuedOnce, h.judged, h.replayed, h.refused, ?_, ?_, ?_⟩
  · intro jti hjti
    rw [Transmitter.handle, List.mem_append, Transmitter.ackOf_pollBody] at hjti
    obtain hjti | hjti := hjti
    · exact h.acked jti hjti
    · exact (hduty.ack jti hjti).elim id (h.replayed jti)
  · intro p hp
    rw [Transmitter.handle, List.mem_append, Transmitter.errsOf_pollBody, List.mem_map] at hp
    obtain hp | ⟨q, hq, rfl⟩ := hp
    · exact h.reported p hp
    · obtain ⟨f, hf, hjti, herr⟩ := hduty.setErrs q hq
      exact ⟨f, hf, hjti, by rw [herr]⟩
  · intro a ha pairs more hreply
    rw [List.mem_append, List.mem_singleton] at ha
    obtain ha | rfl := ha
    · exact h.answers a ha pairs more hreply
    · exact List.Subset.trans (hoffers pairs more hreply) (List.filter_subset_self _)

theorem Exchange.Sound.lose (h : x.Sound R keys good held) (i : ℕ) :
    Exchange.Sound R keys good held { x with inFlight := x.inFlight.eraseIdx i } :=
  ⟨h.good, h.holds, h.once, h.issuedOnce, h.judged, h.replayed, h.refused, h.acked, h.reported,
    fun answer hin => h.answers answer (List.mem_of_mem_eraseIdx hin)⟩

/-- What the poll that got the answer adds is what the application takes. -/
theorem Exchange.Sound.receive (htells : Tells store R.replayWindow good held) (hquiet : keys.Quiet)
    (h : x.Sound R keys good held) {answer : Option Json}
    (hanswer : ∀ pairs more, pollReply answer = .ok (pairs, more) → pairs ⊆ x.transmitter.issued)
    (k : κ) : (x.receive R keys store k answer).Sound R keys good held := by
  unfold Exchange.receive
  split
  · exact h
  · next pairs more hreply =>
    have hstart : (PollState.start more k x.storeState).Adds R keys good held (held x.storeState) pairs :=
      .start h.good more k
    obtain ⟨hraised, hadds⟩ := pollLoop_adds htells (List.Subset.refl pairs) hstart
    generalize hrun : pollLoop R keys store pairs (PollState.start more k x.storeState) = run at hraised hadds
    obtain ⟨st, raised⟩ := run
    obtain rfl := hraised
    obtain ⟨hevents, hrefused, -⟩ := finishPoll_result st
    have hjtis : (x.application.take (finishPoll st)).jtis =
        x.application.jtis ++ st.result.events.map SecurityEvent.jti := by
      rw [Application.take, Application.jtis, hevents, List.map_append]
      rfl
    have hkept : x.application.jtis ⊆ (x.application.take (finishPoll st)).jtis := by
      rw [hjtis]
      exact List.subset_append_left _ _
    have hholds : ∀ j, held st.storeState j ↔ j ∈ (x.application.take (finishPoll st)).jtis := by
      intro j
      rw [hadds.holds, h.holds, hjtis, List.mem_append]
    refine ⟨hadds.good, hholds, ?_, h.issuedOnce, ?_, ?_, ?_, fun jti hjti => hkept (h.acked jti hjti), ?_, h.answers⟩
    · show (x.application.take (finishPoll st)).jtis.Nodup
      rw [hjtis]
      refine h.once.append hadds.once ?_
      intro j hj hnew
      obtain ⟨event, hevent, rfl⟩ := List.mem_map.1 hnew
      exact hadds.fresh event hevent ((h.holds event.jti).2 hj)
    · intro event hevent
      change event ∈ x.application.delivered ++ (finishPoll st).events at hevent
      rw [hevents, List.mem_append] at hevent
      obtain hevent | hevent := hevent
      · exact h.judged event hevent
      · obtain ⟨p, hp, hjudged⟩ := hadds.judged event hevent
        exact ⟨p, hanswer pairs more hreply hp, hjudged⟩
    · intro jti hjti
      change jti ∈ x.application.replayed ++ ((finishPoll st).refused.filter _).map RefusedSet.jti at hjti
      rw [hrefused, List.mem_append, List.mem_map] at hjti
      obtain hjti | ⟨f, hf, rfl⟩ := hjti
      · exact hkept (h.replayed jti hjti)
      · rw [List.mem_filter, decide_eq_true_eq] at hf
        obtain ⟨hf, hreplayed⟩ := hf
        obtain ⟨-, hin⟩ | ⟨p, -, -, hrefusedFor⟩ := hadds.refused f hf
        · exact (hholds f.jti).1 hin
        · exact absurd hreplayed (hquiet.refusedFor hrefusedFor)
    · intro f hf
      change f ∈ x.application.refused ++ (finishPoll st).refused.filter _ at hf
      rw [hrefused, List.mem_append, List.mem_filter] at hf
      obtain hf | ⟨hf, hreason⟩ := hf
      · exact h.refused f hf
      · obtain ⟨hreplayed, -⟩ | ⟨p, hp, hrefusedFor⟩ := hadds.refused f hf
        · simp [hreplayed] at hreason
        · exact ⟨p, hanswer pairs more hreply hp, hrefusedFor⟩
    · intro p hp
      obtain ⟨f, hf, hreported⟩ := h.reported p hp
      exact ⟨f, List.mem_append_left _ hf, hreported⟩

theorem Exchange.Sound.step (htells : Tells store R.replayWindow good held) (hquiet : keys.Quiet)
    (h : x.Sound R keys good held) {e : ExchangeEvent κ} (hstep : Exchanges R keys store x e y) :
    y.Sound R keys good held := by
  cases hstep with
  | issue hfresh => exact h.issue hfresh
  | request hduty hoffers => exact h.request hduty hoffers
  | lose => exact h.lose _
  | receive hanswer =>
    exact (h.lose _).receive htells hquiet (h.answers _ (List.mem_of_getElem? hanswer)) _

end Runs

/-! ## Settling what is pending -/

section Settling
variable {Key κ σ : Type} (R : Receiver Key) (keys : KeySource κ Key) (store : ReplayStore σ)

/-- `setErrs` for every refusal so far, the last one for each `jti`. -/
def Application.reports (a : Application) : Dict PyStr SetErr :=
  a.refused.foldl (fun errs f => errs.set f.jti (.fromReason f.reason)) .empty

/-- The request that settles all that was returned or refused. -/
def Application.settlement (a : Application) : PollRequest :=
  ⟨none, none, some (a.jtis ++ a.replayed), some a.reports⟩

variable {R : Receiver Key} {keys : KeySource κ Key} {store : ReplayStore σ} {good : σ → Prop}
  {held : σ → PyStr → Prop} {x : Exchange σ}

theorem Application.reports_get? (a : Application) (jti : PyStr) : a.reports.get? jti =
    (a.refused.reverse.find? (fun f => f.jti = jti)).map (fun f => SetErr.fromReason f.reason) := by
  unfold reports
  induction a.refused using List.reverseRecOn with
  | nil => rfl
  | append_singleton fs f ih =>
    rw [List.foldl_append, List.reverse_append, List.foldl_cons, List.foldl_nil, Dict.get?_set, ih,
      List.reverse_singleton, List.singleton_append, List.find?_cons]
    by_cases hjti : f.jti = jti
    · simp [hjti]
    · simp [hjti]

theorem Application.reports_all {a : Application} {f : RefusedSet} (hf : f ∈ a.refused) :
    f.jti ∈ a.reports.items.map Prod.fst := by
  have hfound : (a.refused.reverse.find? (fun g => g.jti = f.jti)).isSome := by
    rw [List.find?_isSome]
    exact ⟨f, List.mem_reverse.2 hf, by simp⟩
  obtain ⟨g, hg⟩ := Option.isSome_iff_exists.1 hfound
  have hget := a.reports_get? f.jti
  rw [hg, Option.map_some, ← Dict.mem_iff_get?] at hget
  exact List.mem_map.2 ⟨_, hget, rfl⟩

/-- The settlement leaves nothing pending of what was returned or refused. -/
theorem Exchange.settled (x : Exchange σ)
    (hall : ∀ p ∈ x.transmitter.pending, p.1 ∈ x.application.jtis ∨ p.1 ∈ x.application.replayed ∨
      p.1 ∈ x.application.refused.map RefusedSet.jti) :
    (x.transmitter.handle (pollBody x.application.settlement)).pending = [] := by
  refine List.filter_eq_nil_iff.2 ?_
  intro p hp
  rw [decide_eq_true_eq, Transmitter.handle, Transmitter.ackOf_pollBody, Transmitter.errsOf_pollBody]
  rintro ⟨hack, herr⟩
  simp only [List.map_append, List.mem_append, not_or] at hack herr
  obtain ⟨hacked, hacknew⟩ := hack
  obtain ⟨hreported, herrnew⟩ := herr
  obtain hjti | hjti | hjti := hall p (List.mem_filter.2 ⟨hp, decide_eq_true ⟨hacked, hreported⟩⟩)
  · exact hacknew (List.mem_append_left _ hjti)
  · exact hacknew (List.mem_append_right _ hjti)
  · obtain ⟨f, hf, hfp⟩ := List.mem_map.1 hjti
    obtain ⟨q, hq, hqf⟩ := List.mem_map.1 (Application.reports_all hf)
    refine herrnew ?_
    rw [List.map_map, ← hfp, ← hqf]
    exact List.mem_map_of_mem hq

end Settling

/-! ## The store in memory -/

namespace MemoryReplayStore

/-- What the store holds was recorded at an earlier reading. -/
def Dated (clock : ℕ → Float) (window : Float) (s : MemoryReplayStore × ℕ) : Prop :=
  ∀ p ∈ s.1.seen.items, ∃ i < s.2, p.2 = clock i + window

variable {clock : ℕ → Float} {window : Float} {s : MemoryReplayStore × ℕ} {jti : PyStr}

theorem filter_eq_self {d : Dict PyStr Float} {p : PyStr × Float → Bool} (h : ∀ q ∈ d.items, p q = true) :
    d.filter p = d := by
  obtain ⟨items, hnodup⟩ := d
  have hitems : items.filter p = items := List.filter_eq_self.2 h
  simp only [Dict.filter, hitems]

/-- Within the window nothing is forgotten. -/
theorem Dated.check (hclock : ∀ i j, i < j → clock j < clock i + window) (h : Dated clock window s) :
    s.1.checkAndRecord jti window (clock s.2) =
      if s.1.seen.contains jti then (false, s.1) else (true, ⟨s.1.seen.set jti (clock s.2 + window)⟩) := by
  have hkept : s.1.seen.filter (fun p => decide (clock s.2 < p.2)) = s.1.seen := by
    refine filter_eq_self ?_
    intro p hp
    obtain ⟨i, hi, hexpiry⟩ := h p hp
    rw [hexpiry]
    exact decide_eq_true (hclock i s.2 hi)
  unfold checkAndRecord
  rw [hkept]

end MemoryReplayStore

namespace StoreDenied

end StoreDenied

end AxiamSdk.Ssf
