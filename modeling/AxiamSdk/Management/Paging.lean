import AxiamSdk.Errors
import AxiamSdk.Lib.Loops
import AxiamSdk.Lib.PyInt

/-! # Walking pages (`management/_page.py`)

* `pageOf`, `collectPages`: the envelope of one page, and the walk to the last one. The async walk is the
  same.
* `Server`: a server that holds a list and answers a request with items from its offset on.
* `walks_iff`: the walk ends and is exact, where the answers do not send it back for ever. -/

namespace AxiamSdk.Paging
open PyLib
set_option autoImplicit false

/-! ## Pages -/

structure PageRequest where
  offset : ℤ
  limit : Option ℤ
  search : Option PyStr

/-- `PageRequest()` -/
def PageRequest.default : PageRequest := ⟨0, none, none⟩

structure Page (τ : Type) where
  items : List τ
  total : ℤ
  offset : ℤ
  limit : ℤ

/-- `normalize_search` -/
def normalizeSearch (term : Option PyStr) : Option PyStr :=
  let trimmed := strip (term.getD [])
  if trimmed.isEmpty then none else some trimmed

/-- `page_query` -/
def pageQuery (request : PageRequest) : List (PyStr × Option PyStr) :=
  [(lit "offset", some (JsonDumps.intRepr request.offset)),
    (lit "limit", request.limit.map JsonDumps.intRepr),
    (lit "search", normalizeSearch request.search)]

/-- A model of the items, and what `model_validate` makes of JSON: it reads the items of the server back. -/
structure Model (τ : Type) where
  encode : τ → Json
  validate : Json → Except Exc τ
  reads : ∀ t, validate (encode t) = .ok t

def ofIntError : IntError → Exc
  | .value => .valueError
  | .type => .typeError
  | .overflow => .overflowError

/-- `int(envelope.get(name, 0))` -/
def intMember (I : Interp) (envelope : List (PyStr × Json)) (name : PyStr) : Except Exc ℤ :=
  match Assoc.get? envelope name with
  | none => .ok 0
  | some v => (pyInt I v).mapError ofIntError

/-- What a loop over `envelope.get("items") or []` runs over. -/
def iterated (v : Json) : Except Exc (List Json) :=
  if v.truthy then
    match v with
    | .arr xs => .ok xs
    | .obj ms => .ok (ms.map (fun p => .str p.1))
    | .str s => .ok (s.map (fun c => .str [c]))
    | _ => .error .typeError
  else .ok []

variable {σ τ : Type}

/-- `page_of` -/
def pageOf (I : Interp) (model : Model τ) (raw : Json) : Except Exc (Page τ) := do
  let envelope := raw.asObj?.getD []
  let items ← iterated (Json.get envelope (lit "items"))
  let items ← items.mapM model.validate
  let total ← intMember I envelope (lit "total")
  let offset ← intMember I envelope (lit "offset")
  let limit ← intMember I envelope (lit "limit")
  return ⟨items, total, offset, limit⟩

/-! ## The walk -/

/-- The walk before a request: what has been fetched, and the state of what answers. -/
structure Walk (σ τ : Type) where
  server : σ
  request : PageRequest
  out : List τ

/-- One turn of `collect_pages`. -/
def turn (fetch : σ → PageRequest → σ × Except Exc (Page τ)) (w : Walk σ τ) :
    Walk σ τ ⊕ Except Exc (List τ) :=
  match fetch w.server w.request with
  | (_, .error e) => .inr (.error e)
  | (server, .ok page) =>
    let out := w.out ++ page.items
    let nxt := page.offset + page.items.length
    if page.items.isEmpty ∨ page.total ≤ nxt then .inr (.ok out)
    else .inl ⟨server, ⟨nxt, w.request.limit, w.request.search⟩, out⟩

/-- `collect_pages`, cut off after so many requests. -/
def collectPages (fetch : σ → PageRequest → σ × Except Exc (Page τ)) (server : σ)
    (start : Option PageRequest) (requests : ℕ) : Option (Except Exc (List τ)) :=
  Loop.run (turn fetch) requests ⟨server, start.getD .default, []⟩

/-! ## A server -/

/-- A server that holds a list. It answers a request with one or more of the matching items from the
offset on, as long as there are any, and with envelope members of its own. -/
structure Server (σ τ : Type) (model : Model τ) where
  matching : Option PyStr → List τ
  serve : σ → PageRequest → σ × List (PyStr × Json)
  shown : σ → PageRequest → ℕ
  shown_pos : ∀ s r, 0 < shown s r
  items : ∀ s r, Assoc.get? (serve s r).2 (lit "items") =
    some (.arr ((((matching (normalizeSearch r.search)).drop r.offset.toNat).take (shown s r)).map model.encode))

section Walks
variable {model : Model τ} (I : Interp) (S : Server σ τ model)

def fetch (s : σ) (r : PageRequest) : σ × Except Exc (Page τ) :=
  ((S.serve s r).1, pageOf I model (.obj (S.serve s r).2))

/-- The matching items of a request. -/
def Server.found (r : PageRequest) : List τ := S.matching (normalizeSearch r.search)

/-- The members of the answer to the next request. -/
def Server.envelope (w : Walk σ τ) : List (PyStr × Json) := (S.serve w.server w.request).2

/-- The walk before its turn `n`. -/
def walkAt (s : σ) (start : PageRequest) (n : ℕ) : Option (Walk σ τ) :=
  Loop.reached (turn (fetch I S)) n ⟨s, start, []⟩

/-- The envelope reports the true total and offset. -/
def Truthful (w : Walk σ τ) : Prop :=
  Assoc.get? (S.envelope w) (lit "total") = some (.int (S.found w.request).length) ∧
    Assoc.get? (S.envelope w) (lit "offset") = some (.int w.request.offset)

/-- **The walk ends**, each of its requests has the search term and the limit, and against a truthful
server it returns the matching items from the offset on. -/
structure Walks (s : σ) (offset : ℕ) (limit : Option ℤ) (search : Option PyStr) : Prop where
  ends : ∃ n result, collectPages (fetch I S) s (some ⟨offset, limit, search⟩) n = some result
  carries : ∀ n w, walkAt I S s ⟨offset, limit, search⟩ n = some w →
    Assoc.get? (pageQuery w.request) (lit "limit") = some (limit.map JsonDumps.intRepr) ∧
      Assoc.get? (pageQuery w.request) (lit "search") = some (normalizeSearch search)
  exact : (∀ n w, walkAt I S s ⟨offset, limit, search⟩ n = some w → Truthful S w) →
    ∃ n, collectPages (fetch I S) s (some ⟨offset, limit, search⟩) n =
      some (.ok ((S.matching (normalizeSearch search)).drop offset))

/-- An answer that does not end the walk sends it on: the offset it reports and the number of its items
come to more than the offset asked for. -/
def Advances (w : Walk σ τ) : Prop :=
  ∀ page, pageOf I model (.obj (S.envelope w)) = .ok page → page.items ≠ [] →
    page.offset + page.items.length < page.total → w.request.offset < page.offset + page.items.length

/-- All but finitely many answers send the walk on, and where all are truthful, `int` reads their limit. -/
structure Sane (s : σ) (start : PageRequest) : Prop where
  advances : ∃ n, ∀ k w, n ≤ k → walkAt I S s start k = some w → Advances I S w
  limits : (∀ n w, walkAt I S s start n = some w → Truthful S w) →
    ∀ n w, walkAt I S s start n = some w → ∃ limit, intMember I (S.envelope w) (lit "limit") = .ok limit

/-! ## One turn -/

variable {I S}

theorem mapM_reads (model : Model τ) (l : List τ) : (l.map model.encode).mapM model.validate = .ok l := by
  induction l with
  | nil => rfl
  | cons t l ih =>
    rw [List.map_cons, List.mapM_cons, model.reads, ih]
    rfl

theorem iterated_arr (xs : List Json) : iterated (.arr xs) = .ok xs := by
  cases xs with
  | nil => rfl
  | cons x xs => rfl

/-- The items of the answer. -/
def Server.page (S : Server σ τ model) (w : Walk σ τ) : List τ :=
  ((S.found w.request).drop w.request.offset.toNat).take (S.shown w.server w.request)

/-- What `page_of` makes of an answer: its items, when `int` reads the other members. -/
theorem pageOf_served (w : Walk σ τ) : pageOf I model (.obj (S.envelope w)) = (do
    let total ← intMember I (S.envelope w) (lit "total")
    let offset ← intMember I (S.envelope w) (lit "offset")
    let limit ← intMember I (S.envelope w) (lit "limit")
    return ⟨S.page w, total, offset, limit⟩) := by
  have hitems : Json.get (S.envelope w) (lit "items") = .arr ((S.page w).map model.encode) := by
    rw [Json.get, Server.envelope, S.items]
    rfl
  rw [pageOf, Json.asObj?, Option.getD_some, hitems, iterated_arr]
  change ((S.page w).map model.encode).mapM model.validate >>= _ = _
  rw [mapM_reads]
  rfl

theorem page_eq_nil (w : Walk σ τ) : S.page w = [] ↔ ((S.found w.request).length : ℤ) ≤ w.request.offset ∨
    S.found w.request = [] := by
  have hshown := S.shown_pos w.server w.request
  rw [Server.page, List.take_eq_nil_iff, List.drop_eq_nil_iff, ← List.length_eq_zero_iff]
  omega

/-- **A turn**: it ends with an exception, with all that was fetched, or goes on from the reported offset. -/
theorem turn_cases (w : Walk σ τ) :
    (∃ e, pageOf I model (.obj (S.envelope w)) = .error e ∧ turn (fetch I S) w = .inr (.error e)) ∨
    ∃ page, pageOf I model (.obj (S.envelope w)) = .ok page ∧ page.items = S.page w ∧
      ((page.items = [] ∨ page.total ≤ page.offset + page.items.length) ∧
          turn (fetch I S) w = .inr (.ok (w.out ++ page.items)) ∨
        (page.items ≠ [] ∧ page.offset + page.items.length < page.total) ∧
          turn (fetch I S) w = .inl ⟨(S.serve w.server w.request).1,
            ⟨page.offset + page.items.length, w.request.limit, w.request.search⟩, w.out ++ page.items⟩) := by
  have hfetch : fetch I S w.server w.request =
      ((S.serve w.server w.request).1, pageOf I model (.obj (S.envelope w))) := rfl
  rw [turn, hfetch]
  cases hpage : pageOf I model (.obj (S.envelope w)) with
  | error e => exact Or.inl ⟨e, rfl, rfl⟩
  | ok page =>
    refine Or.inr ⟨page, rfl, ?_, ?_⟩
    · rw [pageOf_served] at hpage
      obtain ⟨total, -, hpage⟩ := bind_ok hpage
      obtain ⟨offset, -, hpage⟩ := bind_ok hpage
      obtain ⟨limit, -, hpage⟩ := bind_ok hpage
      rw [← Except.ok.inj hpage]
    · by_cases hstop : page.items.isEmpty ∨ page.total ≤ page.offset + page.items.length
      · refine Or.inl ⟨hstop.imp_left List.isEmpty_iff.1, ?_⟩
        dsimp only
        rw [if_pos hstop]
      · refine Or.inr ⟨?_, ?_⟩
        · rw [not_or, List.isEmpty_iff] at hstop
          exact ⟨hstop.1, by omega⟩
        · dsimp only
          rw [if_neg hstop]

theorem turn_inl {w w' : Walk σ τ} (h : turn (fetch I S) w = .inl w') :
    ∃ page, pageOf I model (.obj (S.envelope w)) = .ok page ∧ page.items = S.page w ∧ page.items ≠ [] ∧
      page.offset + page.items.length < page.total ∧ w' = ⟨(S.serve w.server w.request).1,
        ⟨page.offset + page.items.length, w.request.limit, w.request.search⟩, w.out ++ page.items⟩ := by
  obtain ⟨e, -, hturn⟩ | ⟨page, hpage, hitems, ⟨-, hturn⟩ | ⟨⟨hne, hlt⟩, hturn⟩⟩ := turn_cases w
  · rw [hturn] at h
    cases h
  · rw [hturn] at h
    cases h
  · rw [hturn] at h
    exact ⟨page, hpage, hitems, hne, hlt, (Sum.inl.inj h).symm⟩

theorem walkAt_carries {s : σ} {start : PageRequest} {n : ℕ} {w : Walk σ τ} (h : walkAt I S s start n = some w) :
    w.request.limit = start.limit ∧ w.request.search = start.search := by
  refine Loop.reached_invariant (P := fun w => w.request.limit = start.limit ∧ w.request.search = start.search)
    ?_ ⟨rfl, rfl⟩ h
  intro w w' hw hturn
  obtain ⟨page, -, -, -, -, rfl⟩ := turn_inl hturn
  exact hw

/-! ## The end of the walk -/

/-- How many matching items lie from the offset on. -/
def Server.left (S : Server σ τ model) (w : Walk σ τ) : ℕ := ((S.found w.request).length - w.request.offset).toNat

theorem left_lt {w w' : Walk σ τ} (h : turn (fetch I S) w = .inl w') (hadvances : Advances I S w) :
    S.left w' < S.left w := by
  obtain ⟨page, hpage, hitems, hne, hlt, rfl⟩ := turn_inl h
  have hoffset := hadvances page hpage hne hlt
  rw [hitems, ne_eq, page_eq_nil, not_or] at hne
  unfold Server.left
  change ((S.found w.request).length - (page.offset + page.items.length) : ℤ).toNat < _
  omega

theorem ends_iff_advances {s : σ} {start : PageRequest} :
    (∃ n result, collectPages (fetch I S) s (some start) n = some result) ↔
      ∃ n, ∀ k w, n ≤ k → walkAt I S s start k = some w → Advances I S w := by
  change Loop.Ends (turn (fetch I S)) ⟨s, start, []⟩ ↔ _
  constructor
  · intro hends
    obtain ⟨n, hn⟩ := Loop.ends_iff.1 hends
    refine ⟨n, fun k w hk hw => ?_⟩
    rw [walkAt, Loop.reached_none_of_le hn hk] at hw
    cases hw
  · rintro ⟨n, hadvances⟩
    exact Loop.ends_of_measure S.left n (fun k w w' hk hw hturn => left_lt hturn (hadvances k w hk hw))

/-! ## What the walk returns -/

theorem pageOf_truthful {w : Walk σ τ} (h : Truthful S w) {limit : ℤ}
    (hlimit : intMember I (S.envelope w) (lit "limit") = .ok limit) :
    pageOf I model (.obj (S.envelope w)) =
      .ok ⟨S.page w, (S.found w.request).length, w.request.offset, limit⟩ := by
  have htotal : intMember I (S.envelope w) (lit "total") = .ok ((S.found w.request).length : ℤ) := by
    rw [intMember, h.1]
    rfl
  have hoffset : intMember I (S.envelope w) (lit "offset") = .ok w.request.offset := by
    rw [intMember, h.2]
    rfl
  rw [pageOf_served, htotal, hoffset, hlimit]
  rfl

theorem page_last (w : Walk σ τ) (hoffset : 0 ≤ w.request.offset)
    (h : S.page w = [] ∨ ((S.found w.request).length : ℤ) ≤ w.request.offset + (S.page w).length) :
    S.page w = (S.found w.request).drop w.request.offset.toNat := by
  have hshown := S.shown_pos w.server w.request
  refine List.take_of_length_le ?_
  rw [List.length_drop]
  obtain hnil | hlength := h
  · rw [Server.page, List.take_eq_nil_iff, List.drop_eq_nil_iff] at hnil
    omega
  · rw [Server.page, List.length_take, List.length_drop] at hlength
    omega

theorem page_append (w : Walk σ τ) (hoffset : 0 ≤ w.request.offset) :
    S.page w ++ (S.found w.request).drop (w.request.offset + (S.page w).length).toNat =
      (S.found w.request).drop w.request.offset.toNat := by
  have hdrop : (w.request.offset + ((S.page w).length : ℤ)).toNat = w.request.offset.toNat + (S.page w).length := by
    omega
  rw [hdrop, ← List.drop_drop]
  exact List.prefix_iff_eq_append.1 (List.take_prefix _ _)

theorem run_truthful (m : ℕ) {w : Walk σ τ} (hleft : S.left w ≤ m) (hoffset : 0 ≤ w.request.offset)
    (h : ∀ n v, Loop.reached (turn (fetch I S)) n w = some v →
      Truthful S v ∧ ∃ limit, intMember I (S.envelope v) (lit "limit") = .ok limit) :
    ∃ n, Loop.run (turn (fetch I S)) n w =
      some (.ok (w.out ++ (S.found w.request).drop w.request.offset.toNat)) := by
  induction m generalizing w with
  | zero =>
    -- nothing is left: the page is empty
    obtain ⟨htruthful, limit, hlimit⟩ := h 0 w rfl
    have hpage := pageOf_truthful htruthful hlimit
    have hnil : S.page w = [] := by
      rw [page_eq_nil]
      unfold Server.left at hleft
      omega
    obtain ⟨e, herror, -⟩ | ⟨page, hpage', hitems, ⟨-, hturn⟩ | ⟨⟨hne, -⟩, -⟩⟩ := turn_cases w
    · rw [hpage] at herror
      cases herror
    · refine ⟨1, ?_⟩
      rw [Loop.run_inr hturn, hitems, page_last w hoffset (Or.inl hnil)]
    · rw [hitems] at hne
      exact absurd hnil hne
  | succ m ih =>
    obtain ⟨htruthful, limit, hlimit⟩ := h 0 w rfl
    have hpage := pageOf_truthful htruthful hlimit
    obtain ⟨e, herror, -⟩ | ⟨page, hpage', hitems, ⟨hlast, hturn⟩ | ⟨⟨hne, -⟩, hturn⟩⟩ := turn_cases w
    · rw [hpage] at herror
      cases herror
    · rw [hpage] at hpage'
      obtain rfl := Except.ok.inj hpage'
      refine ⟨1, ?_⟩
      rw [Loop.run_inr hturn, page_last w hoffset hlast]
    · rw [hpage] at hpage'
      obtain rfl := Except.ok.inj hpage'
      have hpositive : 0 < (S.page w).length := List.length_pos_iff.2 hne
      have hadvances : Advances I S w := by
        intro page hpage' _ _
        rw [hpage] at hpage'
        obtain rfl := Except.ok.inj hpage'
        dsimp only
        omega
      obtain ⟨n, hn⟩ := ih (Nat.le_of_lt_succ (Nat.lt_of_lt_of_le (left_lt hturn hadvances) hleft))
        (by dsimp only; omega) (fun n v hv => h (n + 1) v (by rw [Loop.reached_inl hturn]; exact hv))
      refine ⟨n + 1, ?_⟩
      rw [Loop.run_inl hturn, hn, List.append_assoc]
      exact congrArg (fun l => some (Except.ok (w.out ++ l))) (page_append (S := S) w hoffset)

/-- **The walk ends and is exact**, exactly where the answers do not send it back for ever and their
limits can be read. -/
theorem walks_iff (I : Interp) (S : Server σ τ model) (s : σ) (offset : ℕ) (limit : Option ℤ)
    (search : Option PyStr) : Walks I S s offset limit search ↔ Sane I S s ⟨offset, limit, search⟩ := by
  constructor
  · intro h
    refine ⟨ends_iff_advances.1 h.ends, fun htruthful n w hw => ?_⟩
    obtain ⟨k, hk⟩ := h.exact htruthful
    obtain ⟨e, herror, hturn⟩ | ⟨page, hpage, -⟩ := turn_cases (I := I) (S := S) w
    · cases Loop.run_unique hk (Loop.run_of_reached hw hturn)
    · rw [pageOf_served] at hpage
      obtain ⟨total, -, hpage⟩ := bind_ok hpage
      obtain ⟨offset', -, hpage⟩ := bind_ok hpage
      obtain ⟨limit', hlimit, -⟩ := bind_ok hpage
      exact ⟨limit', hlimit⟩
  · intro h
    refine ⟨ends_iff_advances.2 h.advances, fun n w hw => ?_, fun htruthful => ?_⟩
    · obtain ⟨hlimit, hsearch⟩ := walkAt_carries hw
      dsimp only at hlimit hsearch
      rw [← hlimit, ← hsearch]
      exact ⟨rfl, rfl⟩
    · exact run_truthful (S.left ⟨s, ⟨offset, limit, search⟩, []⟩) (Nat.le_refl _) (Int.natCast_nonneg _)
        (fun n v hv => ⟨htruthful n v hv, h.limits htruthful n v hv⟩)

end Walks

/-! ## A server that leaves the offset out -/

def integers : Model ℤ where
  encode := .int
  validate
    | .int n => .ok n
    | _ => .error .valueError
  reads _ := rfl

/-- Three items, one for each request, and their number. -/
def withoutOffset : Server Unit ℤ integers where
  matching _ := [0, 1, 2]
  serve _ r := ((), [(lit "items", .arr ((([0, 1, 2].drop r.offset.toNat).take 1).map .int)), (lit "total", .int 3)])
  shown _ _ := 1
  shown_pos _ _ := Nat.one_pos
  items _ _ := rfl

def interp : Interp := ⟨4300, 990, 990, fun _ => []⟩

theorem never_done (n : ℕ) (out : List ℤ) :
    Loop.reached (turn (fetch interp withoutOffset)) n ⟨(), ⟨1, none, none⟩, out⟩ ≠ none := by
  induction n generalizing out with
  | zero => exact Option.some_ne_none _
  | succ n ih =>
    have hturn : turn (fetch interp withoutOffset) ⟨(), ⟨1, none, none⟩, out⟩ =
        .inl ⟨(), ⟨1, none, none⟩, out ++ [1]⟩ := rfl
    rw [Loop.reached_inl hturn]
    exact ih _

theorem not_walks : ¬ ∀ {σ τ : Type} {model : Model τ} (I : Interp) (S : Server σ τ model) (s : σ) (offset : ℕ)
    (limit : Option ℤ) (search : Option PyStr), Walks I S s offset limit search := by
  intro h
  have hends := (h interp withoutOffset () 0 none none).ends
  obtain ⟨n, hn⟩ := Loop.ends_iff.1 hends
  have hfirst : turn (fetch interp withoutOffset) ⟨(), ⟨0, none, none⟩, []⟩ = .inl ⟨(), ⟨1, none, none⟩, [0]⟩ := rfl
  cases n with
  | zero => cases hn
  | succ n =>
    rw [Loop.reached_inl (t := ⟨(), ⟨1, none, none⟩, [0]⟩) hfirst] at hn
    exact never_done n [0] hn

end AxiamSdk.Paging
