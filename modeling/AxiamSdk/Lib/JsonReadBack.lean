import Mathlib.Tactic.IntervalCases
import AxiamSdk.Lib.JsonRender
import AxiamSdk.Lib.JsonLoads

/-! # Reading a rendering back

`json.loads` gives back the value whose rendering it reads (`decodeJson_render`), up to the nesting
limit and not beyond it (`decodeJson_render_deep`). -/

namespace PyLib.JsonText
open JsonLoads JsonDumps
set_option autoImplicit false

variable {I : Interp}

/-! ## Reading numbers -/

theorem run_step {s s' : State} {c : CodePoint} (h : step I s c = .ok s') (cs : PyStr) :
    run I s (c :: cs) = run I s' cs := by
  rw [run, h]
  rfl

theorem complete_after (v : Json) (st : List Frame) :
    ∃ done st', complete v st = ⟨.after done, st'⟩ := by
  cases st with
  | nil => exact ⟨some v, [], rfl⟩
  | cons f st =>
    cases f with
    | arr rev => exact ⟨none, _, rfl⟩
    | obj ms key => exact ⟨none, _, rfl⟩

theorem stepNum_stop {n : JsonLoads.Num} {v : Json} (hv : n.finish I = .ok v) (st : List Frame) {c : CodePoint}
    (hc : c = ch ',' ∨ c = ch ']' ∨ c = ch '}') :
    stepNum I n st c = step I (complete v st) c := by
  obtain ⟨done, st', hst⟩ := complete_after v st
  have hd : digit? c = none := by rcases hc with rfl | rfl | rfl <;> decide
  have hI : c ≠ ch 'I' := by rcases hc with rfl | rfl | rfl <;> decide
  have hdot : c ≠ ch '.' := by rcases hc with rfl | rfl | rfl <;> decide
  have he : (decide (c = ch 'e') || decide (c = ch 'E')) = false := by
    rcases hc with rfl | rfl | rfl <;> decide
  have hplus : c ≠ ch '+' := by rcases hc with rfl | rfl | rfl <;> decide
  have hminus : c ≠ ch '-' := by rcases hc with rfl | rfl | rfl <;> decide
  have hafter : ∀ next : Json → Except LoadsError State, next v = step I (complete v st) c →
      (n.finish I >>= next) = step I (complete v st) c := by
    intro next hnext
    rw [hv]
    exact hnext
  unfold stepNum
  rw [hd]
  simp only [hI, hdot, he, hplus, hminus, if_false, Bool.false_eq_true]
  cases n.phase <;> exact hafter _ (by rw [hst]; rfl)

theorem run_num_end {n : JsonLoads.Num} {v : Json} (hv : n.finish I = .ok v) (st : List Frame) {rest : PyStr}
    (hs : Stops rest) : run I ⟨.num n, st⟩ rest = run I (complete v st) rest := by
  cases rest with
  | nil =>
    cases st with
    | nil => exact hv
    | cons f st =>
      show (n.finish I >>= fun _ => .error .decode) = _
      rw [hv]
      cases f <;> rfl
  | cons c cs =>
    rw [run, run]
    show (stepNum I n st c >>= fun s' => run I s' cs) = _
    rw [stepNum_stop hv st (hs c rfl)]

theorem run_decDigits {s : State} {st : List Frame} {neg : Bool}
    (h : ∀ d, 0 < d → d < 10 →
      step I s (ch (Nat.digitChar d)) = .ok ⟨.num ⟨.int, neg, d, 1, 0, false, 0⟩, st⟩)
    (n : ℕ) (hn : 0 < n) (rest : PyStr) : run I s (decDigits n ++ rest) =
      run I ⟨.num ⟨.int, neg, n, (decDigits n).length, 0, false, 0⟩, st⟩ rest := by
  induction n using Nat.strongRecOn generalizing rest with
  | ind n ih =>
    by_cases hlt : n < 10
    · rw [decDigits_of_lt hlt]
      exact run_step (h n hn hlt) rest
    · have hle : 10 ≤ n := by omega
      have hdiv : n / 10 < n := by omega
      have hmod : n % 10 < 10 := by omega
      rw [decDigits_of_le hle, List.append_assoc, ih _ hdiv (by omega)]
      have hstep : step I ⟨.num ⟨.int, neg, n / 10, (decDigits (n / 10)).length, 0, false, 0⟩, st⟩
          (ch (Nat.digitChar (n % 10))) = .ok ⟨.num ⟨.int, neg, n / 10 * 10 + n % 10,
            (decDigits (n / 10)).length + 1, 0, false, 0⟩, st⟩ := by
        show stepNum I _ st _ = _
        simp only [stepNum, digit?_digitChar _ hmod]
      have hval : n / 10 * 10 + n % 10 = n := by omega
      rw [List.singleton_append, run_step hstep, hval, List.length_append, List.length_singleton]

theorem step_value_digit (st : List Frame) (d : ℕ) (h0 : 0 < d) (h9 : d < 10) :
    step I ⟨.value, st⟩ (ch (Nat.digitChar d)) =
      .ok ⟨.num ⟨.int, false, d, 1, 0, false, 0⟩, st⟩ := by
  interval_cases d <;> rfl

theorem step_minus_digit (st : List Frame) (d : ℕ) (h0 : 0 < d) (h9 : d < 10) :
    step I ⟨.num ⟨.minus, true, 0, 0, 0, false, 0⟩, st⟩ (ch (Nat.digitChar d)) =
      .ok ⟨.num ⟨.int, true, d, 1, 0, false, 0⟩, st⟩ := by
  interval_cases d <;> rfl

/-- **An integer** is read back from its text. -/
theorem run_intRepr {n : ℤ} (hd : I.digitsOk (decDigits n.natAbs).length = true) (st : List Frame)
    {rest : PyStr} (hs : Stops rest) :
    run I ⟨.value, st⟩ (intRepr n ++ rest) = run I (complete (.int n) st) rest := by
  unfold intRepr
  split
  · next hneg =>
    have hpos : 0 < n.natAbs := by omega
    have hval : -(n.natAbs : ℤ) = n := by omega
    have hmin : step I ⟨.value, st⟩ (ch '-') =
      .ok ⟨.num ⟨.minus, true, 0, 0, 0, false, 0⟩, st⟩ := rfl
    rw [List.cons_append, run_step hmin, run_decDigits (step_minus_digit st) _ hpos]
    apply run_num_end _ st hs
    simp only [Num.finish, Num.convert, hd, Bool.false_eq_true, if_false, if_true, hval]
  · next hnn =>
    have hval : (n.natAbs : ℤ) = n := by omega
    by_cases h0 : n = 0
    · subst h0
      have hz : step I ⟨.value, st⟩ (ch '0') =
        .ok ⟨.num ⟨.zero, false, 0, 1, 0, false, 0⟩, st⟩ := rfl
      show run I ⟨.value, st⟩ (ch '0' :: rest) = _
      rw [run_step hz]
      apply run_num_end _ st hs
      have h1 : I.digitsOk 1 = true := hd
      simp only [Num.finish, Num.convert, h1, Bool.false_eq_true, if_false, if_true]
      rfl
    · rw [run_decDigits (step_value_digit st) _ (by omega)]
      apply run_num_end _ st hs
      simp only [Num.finish, Num.convert, hd, Bool.false_eq_true, if_false, if_true, hval]

/-! ## Reading strings -/

theorem hexDigit?_hexDigit : ∀ n < 16, hexDigit? (hexDigit n) = some n := by decide

theorem step_hex (key : Option (List (PyStr × Json))) (rev : PyStr) (st : List Frame) {owed n d : ℕ}
    (hd : d < 16) (ho : 1 < owed) :
    step I ⟨.hex key rev none owed n, st⟩ (hexDigit d) =
      .ok ⟨.hex key rev none (owed - 1) (n * 16 + d), st⟩ := by
  have hnot : ¬ owed ≤ 1 := by omega
  simp only [step, hexDigit?_hexDigit d hd, if_neg hnot]

theorem step_hex_last (key : Option (List (PyStr × Json))) (rev : PyStr) (st : List Frame) {n d : ℕ}
    (hd : d < 16) : step I ⟨.hex key rev none 1 n, st⟩ (hexDigit d) =
      .ok ⟨finishHex key rev none (Fin.ofNat 0x110000 (n * 16 + d)), st⟩ := by
  simp only [step, hexDigit?_hexDigit d hd, if_pos (Nat.le_refl 1)]

theorem run_uEscape (key : Option (List (PyStr × Json))) (rev : PyStr) (st : List Frame)
    {c : CodePoint} (hc : c.val < 0x20) (rest : PyStr) :
    run I ⟨.str key rev none, st⟩ (uEscape c.val ++ rest) = run I ⟨.str key (c :: rev) none, st⟩ rest := by
  have hb : step I ⟨.str key rev none, st⟩ (ch '\\') = .ok ⟨.esc key rev none, st⟩ := rfl
  have hu : step I ⟨.esc key rev none, st⟩ (ch 'u') = .ok ⟨.hex key rev none 4 0, st⟩ := rfl
  have hval : (((0 * 16 + c.val / 4096 % 16) * 16 + c.val / 256 % 16) * 16 + c.val / 16 % 16) * 16
      + c.val % 16 = c.val := by omega
  have hpoint : Fin.ofNat 0x110000 c.val = c := by
    apply Fin.ext
    simp only [Fin.ofNat]
    omega
  have hhigh : isHighSurrogate c = false := by
    simp only [isHighSurrogate, decide_eq_false_iff_not]
    omega
  simp only [uEscape, List.cons_append, List.nil_append]
  rw [run_step hb, run_step hu,
    run_step (step_hex key rev st (Nat.mod_lt _ (by omega)) (by omega)),
    run_step (step_hex key rev st (Nat.mod_lt _ (by omega)) (by omega)),
    run_step (step_hex key rev st (Nat.mod_lt _ (by omega)) (by omega)),
    run_step (step_hex_last key rev st (Nat.mod_lt _ (by omega))), hval, hpoint]
  simp only [finishHex, hhigh, Bool.false_eq_true, if_false]

theorem run_escapeChar (key : Option (List (PyStr × Json))) (rev : PyStr) (st : List Frame)
    (c : CodePoint) (rest : PyStr) : run I ⟨.str key rev none, st⟩ (escapeChar false c ++ rest) =
      run I ⟨.str key (c :: rev) none, st⟩ rest := by
  have hb : step I ⟨.str key rev none, st⟩ (ch '\\') = .ok ⟨.esc key rev none, st⟩ := rfl
  have hesc : ∀ e d, e ≠ ch 'u' → simpleEscape? e = some d →
      run I ⟨.str key rev none, st⟩ ([ch '\\', e] ++ rest) =
        run I ⟨.str key (d :: rev) none, st⟩ rest := by
    intro e d hu hd
    have he : step I ⟨.esc key rev none, st⟩ e = .ok ⟨.str key (d :: rev) none, st⟩ := by
      simp only [step, if_neg hu, hd, flush]
    rw [List.cons_append, run_step hb, List.singleton_append, run_step he]
  unfold escapeChar
  by_cases hquote : c = ch '"'
  · rw [if_pos hquote, hquote]
    exact hesc _ _ (by decide) (by decide)
  rw [if_neg hquote]
  by_cases hback : c = ch '\\'
  · rw [if_pos hback, hback]
    exact hesc _ _ (by decide) (by decide)
  rw [if_neg hback]
  by_cases hnewline : c = ch '\n'
  · rw [if_pos hnewline, hnewline]
    exact hesc _ _ (by decide) (by decide)
  rw [if_neg hnewline]
  by_cases hreturn : c = ch '\r'
  · rw [if_pos hreturn, hreturn]
    exact hesc _ _ (by decide) (by decide)
  rw [if_neg hreturn]
  by_cases htab : c = ch '\t'
  · rw [if_pos htab, htab]
    exact hesc _ _ (by decide) (by decide)
  rw [if_neg htab]
  by_cases hfeed : c.val = 12
  · rw [if_pos hfeed, show c = 12 from Fin.ext hfeed]
    exact hesc (ch 'f') 12 (by decide) (by decide)
  rw [if_neg hfeed]
  by_cases hbell : c.val = 8
  · rw [if_pos hbell, show c = 8 from Fin.ext hbell]
    exact hesc (ch 'b') 8 (by decide) (by decide)
  rw [if_neg hbell]
  by_cases hctl : c.val < 0x20
  · rw [if_pos hctl]
    exact run_uEscape key rev st hctl rest
  · have hs : step I ⟨.str key rev none, st⟩ c = .ok ⟨.str key (c :: rev) none, st⟩ := by
      simp only [step, if_neg hquote, if_neg hback, if_neg hctl, flush]
    rw [if_neg hctl, Bool.false_and, if_neg Bool.false_ne_true, List.singleton_append, run_step hs]

theorem run_text (key : Option (List (PyStr × Json))) (st : List Frame) (s rev rest : PyStr) :
    run I ⟨.str key rev none, st⟩ (s.flatMap (escapeChar false) ++ ch '"' :: rest) =
      run I (finishStr key (rev.reverse ++ s) st) rest := by
  induction s generalizing rev with
  | nil =>
    have hq : step I ⟨.str key rev none, st⟩ (ch '"') = .ok (finishStr key rev.reverse st) := rfl
    rw [List.flatMap_nil, List.nil_append, run_step hq, List.append_nil]
  | cons c s ih =>
    rw [List.flatMap_cons, List.append_assoc, run_escapeChar, ih, List.reverse_cons, List.append_assoc]
    rfl

/-- **A string literal** is read back, wherever the machine meets its opening quote. -/
theorem run_quote {s₀ : State} {key : Option (List (PyStr × Json))} {st : List Frame}
    (h : step I s₀ (ch '"') = .ok ⟨.str key [] none, st⟩) (s rest : PyStr) :
    run I s₀ (quote false s ++ rest) = run I (finishStr key s st) rest := by
  rw [quote, List.append_assoc, List.cons_append, run_step h, List.singleton_append, run_text]
  rfl

/-! ## Reading floats -/

/-- The text of a float is a number literal that reads back as the float. -/
structure FloatReads (I : Interp) (ft : Float → PyStr) (x : Float) : Prop where
  chars : (ft x).all isNumChar = true
  reads : decodeJson I (ft x) = .ok (.float x)

theorem isWs_of_isNumChar {c : CodePoint} (hc : isNumChar c = true) : isWs c = false := by
  cases h : isWs c with
  | false => rfl
  | true =>
    simp only [isWs, Bool.or_eq_true, decide_eq_true_eq] at h
    rcases h with ((rfl | rfl) | rfl) | rfl <;> exact absurd hc (by decide)

/-- Alone in a text, a number literal either goes on or the text is refused. -/
theorem stepNum_numChar (n : JsonLoads.Num) {c : CodePoint} (hc : isNumChar c = true) :
    (∃ n', ∀ st, stepNum I n st c = .ok ⟨.num n', st⟩) ∨ ∃ e, stepNum I n [] c = .error e := by
  have hws := isWs_of_isNumChar hc
  have hI : c ≠ ch 'I' := by
    intro h
    subst h
    revert hc
    decide
  have hend : ∀ next : Json → Except LoadsError State, (∀ v, ∃ e, next v = .error e) →
      ∃ e, (n.finish I >>= next) = .error e := by
    intro next hnext
    cases n.finish I with
    | error e => exact ⟨e, rfl⟩
    | ok v => exact hnext v
  have hafter : ∀ v, ∃ e, stepAfter (some v) [] c = .error e :=
    fun v => ⟨.decode, by rw [stepAfter, hws]; rfl⟩
  unfold stepNum
  cases hd : digit? c with
  | some d =>
    cases n.phase with
    | minus => cases d <;> exact Or.inl ⟨_, fun _ => rfl⟩
    | zero => exact Or.inr (hend _ hafter)
    | _ => exact Or.inl ⟨_, fun _ => rfl⟩
  | none =>
    -- a sign, a dot or an exponent mark goes on in some phases and ends the number in the others
    by_cases hdot : c = ch '.'
    · subst hdot
      cases n.phase with
      | zero | int => exact Or.inl ⟨_, fun _ => rfl⟩
      | _ => exact Or.inr (hend _ hafter)
    by_cases he : (decide (c = ch 'e') || decide (c = ch 'E')) = true
    · have hplus : c ≠ ch '+' := by
        intro h
        subst h
        revert he
        decide
      have hminus : c ≠ ch '-' := by
        intro h
        subst h
        revert he
        decide
      simp only [hI, hdot, he, hplus, hminus, if_false, if_true]
      cases n.phase with
      | zero | int | frac => exact Or.inl ⟨_, fun _ => rfl⟩
      | _ => exact Or.inr (hend _ hafter)
    by_cases hplus : c = ch '+'
    · subst hplus
      cases n.phase with
      | exp => exact Or.inl ⟨_, fun _ => rfl⟩
      | _ => exact Or.inr (hend _ hafter)
    · have hminus : c = ch '-' := by
        simp only [Bool.or_eq_true, decide_eq_true_eq, not_or] at he
        simpa [isNumChar, hd, hdot, hplus, he.1, he.2] using hc
      subst hminus
      cases n.phase with
      | exp => exact Or.inl ⟨_, fun _ => rfl⟩
      | _ => exact Or.inr (hend _ hafter)

theorem run_num_chars {t : PyStr} (ht : t.all isNumChar = true) {n : JsonLoads.Num} {v : Json}
    (h : run I ⟨.num n, []⟩ t = .ok v) (st : List Frame) {rest : PyStr} (hs : Stops rest) :
    run I ⟨.num n, st⟩ (t ++ rest) = run I (complete v st) rest := by
  induction t generalizing n with
  | nil => exact run_num_end h st hs
  | cons c t ih =>
    rw [List.all_cons, Bool.and_eq_true] at ht
    rcases stepNum_numChar (I := I) n ht.1 with ⟨n', hn'⟩ | ⟨e, he⟩
    · have hstep : ∀ st, step I ⟨.num n, st⟩ c = .ok ⟨.num n', st⟩ := hn'
      rw [run_step (hstep [])] at h
      rw [List.cons_append, run_step (hstep st)]
      exact ih ht.2 h
    · have hstep : step I ⟨.num n, []⟩ c = .error e := he
      rw [run, hstep] at h
      cases h

theorem eq_digitChar_of_digit? {c : CodePoint} {d : ℕ} (h : digit? c = some d) :
    d < 10 ∧ c = ch (Nat.digitChar d) := by
  unfold digit? at h
  split at h
  · next hc =>
    obtain rfl := Option.some.inj h
    have hd : c.val - 48 < 10 := by omega
    refine ⟨hd, Fin.ext ?_⟩
    have hval : ∀ d < 10, (ch (Nat.digitChar d)).val = d + 48 := by decide
    rw [hval _ hd]
    omega
  · cases h

theorem step_value_numChar {c : CodePoint} (hc : isNumChar c = true) :
    (∃ n, ∀ st, step I ⟨.value, st⟩ c = .ok ⟨.num n, st⟩) ∨
      step I ⟨.value, []⟩ c = .error .decode := by
  cases hd : digit? c with
  | some d =>
    obtain ⟨hlt, rfl⟩ := eq_digitChar_of_digit? hd
    left
    interval_cases d <;> exact ⟨_, fun _ => rfl⟩
  | none =>
    simp only [isNumChar, hd, Option.isSome_none, Bool.false_or, Bool.or_eq_true,
      decide_eq_true_eq] at hc
    rcases hc with (((rfl | rfl) | rfl) | rfl) | rfl
    · exact Or.inl ⟨_, fun _ => rfl⟩
    · exact Or.inr rfl
    · exact Or.inr rfl
    · exact Or.inr rfl
    · exact Or.inr rfl

/-- **A float** is read back from a text that reads back alone. -/
theorem run_float {ft : Float → PyStr} {x : Float} (h : FloatReads I ft x) (st : List Frame)
    {rest : PyStr} (hs : Stops rest) :
    run I ⟨.value, st⟩ (ft x ++ rest) = run I (complete (.float x) st) rest := by
  have hread := h.reads
  have hchars := h.chars
  unfold decodeJson at hread
  cases ht : ft x with
  | nil =>
    rw [ht] at hread
    cases hread
  | cons c t =>
    rw [ht] at hread hchars
    rw [List.all_cons, Bool.and_eq_true] at hchars
    have hfirst : (∃ n, ∀ st, step I ⟨.value, st⟩ c = .ok ⟨.num n, st⟩) ∨
        step I ⟨.value, []⟩ c = .error .decode := step_value_numChar hchars.1
    rcases hfirst with ⟨n, hn⟩ | he
    · rw [run_step (hn [])] at hread
      rw [List.cons_append, run_step (hn st)]
      exact run_num_chars hchars.2 hread st hs
    · rw [run, he] at hread
      cases hread

/-! ## Reading containers -/

section Read
variable {ft : Float → PyStr}

/-- What makes a value's rendering read back: integers within the digit limit, distinct member names,
floats that read back. -/
structure Readable (I : Interp) (ft : Float → PyStr) (v : Json) : Prop where
  ints : v.intsOk I = true
  distinct : v.Distinct
  floats : ∀ x, .float x ∈ v.nodes → FloatReads I ft x

theorem Readable.elem {xs : List Json} (h : Readable I ft (.arr xs)) {x : Json} (hx : x ∈ xs) :
    Readable I ft x := by
  have hsub : ∀ w ∈ x.nodes, w ∈ Json.nodes (.arr xs) := by
    intro w hw
    rw [Json.nodes]
    exact List.mem_cons_of_mem _ (Json.mem_nodesList.2 ⟨x, hx, hw⟩)
  have hi := h.ints
  rw [Json.intsOk, Json.intsOkList_iff] at hi
  exact ⟨hi x hx, fun w hw => h.distinct w (hsub w hw), fun y hy => h.floats y (hsub _ hy)⟩

theorem Readable.member {ms : List (PyStr × Json)} (h : Readable I ft (.obj ms)) {p : PyStr × Json}
    (hp : p ∈ ms) : Readable I ft p.2 := by
  have hsub : ∀ w ∈ p.2.nodes, w ∈ Json.nodes (.obj ms) := by
    intro w hw
    rw [Json.nodes]
    exact List.mem_cons_of_mem _ (Json.mem_nodesMembers.2 ⟨p, hp, hw⟩)
  have hi := h.ints
  rw [Json.intsOk, Json.intsOkMembers_iff] at hi
  exact ⟨hi p hp, fun w hw => h.distinct w (hsub w hw), fun y hy => h.floats y (hsub _ hy)⟩

/-- The machine reads the value wherever one may stand inside the containers `st`. -/
def ReadsIn (I : Interp) (ft : Float → PyStr) (v : Json) (st : List Frame) : Prop :=
  ∀ rest, Stops rest → run I ⟨.value, st⟩ (render false ft v ++ rest) = run I (complete v st) rest

theorem run_renderList {st : List Frame} (xs : List Json) (x : Json) (rev : List Json) (rest : PyStr)
    (h : ∀ y ∈ x :: xs, ∀ rev, ReadsIn I ft y (.arr rev :: st)) :
    run I ⟨.value, .arr rev :: st⟩ (renderList false ft (x :: xs) ++ ch ']' :: rest) =
      run I (complete (.arr (rev.reverse ++ x :: xs)) st) rest := by
  induction xs generalizing x rev with
  | nil =>
    have hend : step I ⟨.after none, .arr (x :: rev) :: st⟩ (ch ']') =
      .ok (complete (.arr (x :: rev).reverse) st) := rfl
    have hx := h x List.mem_cons_self rev (ch ']' :: rest) (stops_cons (Or.inr (Or.inl rfl)) rest)
    rw [renderList, List.isEmpty_nil, if_pos rfl, renderList, List.append_nil, hx]
    show run I ⟨.after none, .arr (x :: rev) :: st⟩ (ch ']' :: rest) = _
    rw [run_step hend, List.reverse_cons]
  | cons y ys ih =>
    have hcomma : step I ⟨.after none, .arr (x :: rev) :: st⟩ (ch ',') =
      .ok ⟨.value, .arr (x :: rev) :: st⟩ := rfl
    have hx := h x List.mem_cons_self rev
      (ch ',' :: (renderList false ft (y :: ys) ++ ch ']' :: rest)) (stops_cons (Or.inl rfl) _)
    rw [renderList, List.isEmpty_cons, if_neg Bool.false_ne_true, List.append_assoc, List.cons_append, hx]
    show run I ⟨.after none, .arr (x :: rev) :: st⟩ (ch ',' :: _) = _
    rw [run_step hcomma, ih y (x :: rev) (fun z hz => h z (List.mem_cons_of_mem _ hz)),
      List.reverse_cons, List.append_assoc]
    rfl

/-- A state that reads the name of the next member after `ms`. -/
def ReadsName (I : Interp) (s : State) (ms : List (PyStr × Json)) (st : List Frame) : Prop :=
  step I s (ch '"') = .ok ⟨.str (some ms) [] none, st⟩

theorem run_renderMembers {st : List Frame} (ms : List (PyStr × Json)) (p : PyStr × Json)
    (done : List (PyStr × Json)) (rest : PyStr) {s : State} (hs : ReadsName I s done st)
    (hnodup : ((done ++ p :: ms).map Prod.fst).Nodup)
    (h : ∀ q ∈ p :: ms, ∀ done, ReadsIn I ft q.2 (.obj done q.1 :: st)) :
    run I s (renderMembers false ft (p :: ms) ++ ch '}' :: rest) =
      run I (complete (.obj (done ++ p :: ms)) st) rest := by
  induction ms generalizing p done s with
  | nil =>
    obtain ⟨k, x⟩ := p
    have habs : k ∉ done.map Prod.fst := by
      rw [List.map_append, List.nodup_append] at hnodup
      exact fun hk => hnodup.2.2 k hk k (by simp) rfl
    have hcolon : step I ⟨.colon done k, st⟩ (ch ':') = .ok ⟨.value, .obj done k :: st⟩ := rfl
    have hend : step I ⟨.after none, .obj (done ++ [(k, x)]) k :: st⟩ (ch '}') =
      .ok (complete (.obj (done ++ [(k, x)])) st) := rfl
    have hx := h (k, x) List.mem_cons_self done (ch '}' :: rest) (stops_cons (Or.inr (Or.inr rfl)) rest)
    rw [renderMembers, List.isEmpty_nil, if_pos rfl, renderMembers, List.append_nil, List.append_assoc,
      run_quote hs]
    refine (run_step hcolon _).trans (hx.trans ?_)
    show run I ⟨.after none, .obj (Assoc.set done k x) k :: st⟩ (ch '}' :: rest) = _
    rw [Assoc.set_absent habs, run_step hend]
  | cons q ms ih =>
    obtain ⟨k, x⟩ := p
    have habs : k ∉ done.map Prod.fst := by
      rw [List.map_append, List.nodup_append] at hnodup
      exact fun hk => hnodup.2.2 k hk k (by simp) rfl
    have hcolon : step I ⟨.colon done k, st⟩ (ch ':') = .ok ⟨.value, .obj done k :: st⟩ := rfl
    have hcomma : step I ⟨.after none, .obj (done ++ [(k, x)]) k :: st⟩ (ch ',') =
      .ok ⟨.objKey (done ++ [(k, x)]), st⟩ := rfl
    have hx := h (k, x) List.mem_cons_self done
      (ch ',' :: (renderMembers false ft (q :: ms) ++ ch '}' :: rest)) (stops_cons (Or.inl rfl) _)
    have hassoc : done ++ (k, x) :: q :: ms = (done ++ [(k, x)]) ++ q :: ms := by simp
    rw [renderMembers, List.isEmpty_cons, if_neg Bool.false_ne_true, List.append_assoc, List.append_assoc,
      run_quote hs]
    refine (run_step hcolon _).trans (hx.trans ?_)
    show run I ⟨.after none, .obj (Assoc.set done k x) k :: st⟩ (ch ',' :: _) = _
    rw [Assoc.set_absent habs, run_step hcomma, hassoc]
    exact ih q (done ++ [(k, x)]) rfl (hassoc ▸ hnodup) (fun r hr => h r (List.mem_cons_of_mem _ hr))

theorem render_head {v : Json} (h : Readable I ft v) :
    ∃ c t, render false ft v = c :: t ∧ isWs c = false ∧ c ≠ ch ']' := by
  cases v with
  | null => exact ⟨_, _, rfl, by decide, by decide⟩
  | bool b => cases b <;> exact ⟨_, _, rfl, by decide, by decide⟩
  | int n =>
    rw [render]
    unfold intRepr
    split
    · exact ⟨_, _, rfl, by decide, by decide⟩
    · obtain ⟨d, t, hd, ht⟩ := decDigits_head n.natAbs
      refine ⟨_, t, ht, ?_, ?_⟩
      · interval_cases d <;> decide
      · interval_cases d <;> decide
  | float x =>
    have hf := h.floats x (Json.self_mem_nodes _)
    have hreads := hf.reads
    have hchars := hf.chars
    rw [render]
    cases ht : ft x with
    | nil =>
      rw [ht] at hreads
      cases hreads
    | cons c t =>
      rw [ht, List.all_cons, Bool.and_eq_true] at hchars
      refine ⟨c, t, rfl, isWs_of_isNumChar hchars.1, ?_⟩
      rintro rfl
      exact absurd hchars.1 (by decide)
  | str s => exact ⟨_, _, rfl, by decide, by decide⟩
  | arr xs => exact ⟨_, _, rfl, by decide, by decide⟩
  | obj ms => exact ⟨_, _, rfl, by decide, by decide⟩

theorem run_arrFirst {c : CodePoint} (hws : isWs c = false) (hc : c ≠ ch ']') (st : List Frame)
    (t : PyStr) : run I ⟨.arrFirst, st⟩ (c :: t) = run I ⟨.value, st⟩ (c :: t) := by
  have hstep : step I ⟨.arrFirst, st⟩ c = step I ⟨.value, st⟩ c := by
    simp only [step, hws, if_neg hc, Bool.false_eq_true, if_false]
  rw [run, run, hstep]

/-- **A value** is read back from its rendering. -/
theorem run_render (v : Json) : ∀ st : List Frame, v.depth + st.length ≤ I.loadsDepth →
    Readable I ft v → ReadsIn I ft v st := by
  induction v using Json.nested with
  | null => intro st _ _ rest _; rfl
  | bool b =>
    intro st _ _ rest _
    cases b <;> rfl
  | int n => intro st _ h rest hs; exact run_intRepr (by simpa [Json.intsOk] using h.ints) st hs
  | float x => intro st _ h rest hs; exact run_float (h.floats x (Json.self_mem_nodes _)) st hs
  | str s =>
    intro st _ _ rest _
    have hopen : step I ⟨.value, st⟩ (ch '"') = .ok ⟨.str none [] none, st⟩ := rfl
    rw [render, run_quote hopen]
    rfl
  | arr xs ih =>
    intro st hdepth h rest hs
    rw [Json.depth] at hdepth
    have hroom : ¬ I.loadsDepth ≤ st.length := by omega
    have hopen : step I ⟨.value, st⟩ (ch '[') = .ok ⟨.arrFirst, .arr [] :: st⟩ :=
      show (if I.loadsDepth ≤ st.length then _ else _) = _ by rw [if_neg hroom]
    rw [render, List.append_assoc, List.cons_append, run_step hopen]
    cases xs with
    | nil => rfl
    | cons x xs =>
      have hread : ∀ y ∈ x :: xs, ∀ rev, ReadsIn I ft y (.arr rev :: st) := by
        intro y hy rev
        have hd := (Json.depthList_le_iff (x :: xs) _).1 (Nat.le_refl _) y hy
        apply ih y hy
        · rw [List.length_cons]
          omega
        · exact h.elem hy
      obtain ⟨c, t, ht, hws, hc⟩ := render_head (h.elem List.mem_cons_self)
      have hfirst : ∀ r, run I ⟨.arrFirst, .arr [] :: st⟩ (renderList false ft (x :: xs) ++ r) =
          run I ⟨.value, .arr [] :: st⟩ (renderList false ft (x :: xs) ++ r) := by
        intro r
        rw [renderList, ht]
        exact run_arrFirst hws hc _ _
      rw [hfirst]
      exact run_renderList xs x [] rest hread
  | obj ms ih =>
    intro st hdepth h rest hs
    rw [Json.depth] at hdepth
    have hroom : ¬ I.loadsDepth ≤ st.length := by omega
    have hopen : step I ⟨.value, st⟩ (ch '{') = .ok ⟨.objFirst, st⟩ :=
      show (if I.loadsDepth ≤ st.length then _ else _) = _ by rw [if_neg hroom]
    rw [render, List.append_assoc, List.cons_append, run_step hopen]
    cases ms with
    | nil => rfl
    | cons p ms =>
      have hread : ∀ q ∈ p :: ms, ∀ done, ReadsIn I ft q.2 (.obj done q.1 :: st) := by
        intro q hq done
        have hd := (Json.depthMembers_le_iff (p :: ms) _).1 (Nat.le_refl _) q hq
        apply ih q hq
        · rw [List.length_cons]
          omega
        · exact h.member hq
      exact run_renderMembers ms p [] rest rfl (h.distinct _ (Json.self_mem_nodes _)) hread

theorem decodeJson_render {v : Json} (hdepth : v.depth ≤ I.loadsDepth) (h : Readable I ft v) :
    decodeJson I (render false ft v) = .ok v := by
  have hread := run_render v [] (by simpa using hdepth) h [] stops_nil
  rw [List.append_nil] at hread
  exact hread

/-! ## Values nested too deep -/

theorem run_renderList_deep {st : List Frame} (xs : List Json) (x : Json) (rev : List Json) (rest : PyStr)
    (hread : ∀ y ∈ x :: xs, y.depth + (st.length + 1) ≤ I.loadsDepth →
      ∀ rev, ReadsIn I ft y (.arr rev :: st))
    (hdeep : ∀ y ∈ x :: xs, I.loadsDepth < y.depth + (st.length + 1) → ∀ rev rest,
      run I ⟨.value, .arr rev :: st⟩ (render false ft y ++ rest) = .error .recursion)
    (h : I.loadsDepth < Json.depthList (x :: xs) + (st.length + 1)) :
    run I ⟨.value, .arr rev :: st⟩ (renderList false ft (x :: xs) ++ rest) = .error .recursion := by
  induction xs generalizing x rev with
  | nil =>
    have hx : I.loadsDepth < x.depth + (st.length + 1) := by simpa [Json.depthList] using h
    rw [renderList, List.append_assoc, hdeep x List.mem_cons_self hx]
  | cons y ys ih =>
    by_cases hx : x.depth + (st.length + 1) ≤ I.loadsDepth
    · have hcomma : step I ⟨.after none, .arr (x :: rev) :: st⟩ (ch ',') =
        .ok ⟨.value, .arr (x :: rev) :: st⟩ := rfl
      have hr := hread x List.mem_cons_self hx rev
        (ch ',' :: (renderList false ft (y :: ys) ++ rest)) (stops_cons (Or.inl rfl) _)
      have hrest : I.loadsDepth < Json.depthList (y :: ys) + (st.length + 1) := by
        rw [Json.depthList] at h
        omega
      rw [renderList, List.isEmpty_cons, if_neg Bool.false_ne_true, List.append_assoc, List.cons_append]
      refine hr.trans ((run_step hcomma _).trans ?_)
      exact ih y (x :: rev) (fun z hz => hread z (List.mem_cons_of_mem _ hz))
        (fun z hz => hdeep z (List.mem_cons_of_mem _ hz)) hrest
    · rw [renderList, List.append_assoc, hdeep x List.mem_cons_self (by omega)]

theorem run_renderMembers_deep {st : List Frame} (ms : List (PyStr × Json)) (p : PyStr × Json)
    (done : List (PyStr × Json)) (rest : PyStr) {s : State} (hs : ReadsName I s done st)
    (hread : ∀ q ∈ p :: ms, q.2.depth + (st.length + 1) ≤ I.loadsDepth →
      ∀ done, ReadsIn I ft q.2 (.obj done q.1 :: st))
    (hdeep : ∀ q ∈ p :: ms, I.loadsDepth < q.2.depth + (st.length + 1) → ∀ done rest,
      run I ⟨.value, .obj done q.1 :: st⟩ (render false ft q.2 ++ rest) = .error .recursion)
    (h : I.loadsDepth < Json.depthMembers (p :: ms) + (st.length + 1)) :
    run I s (renderMembers false ft (p :: ms) ++ rest) = .error .recursion := by
  induction ms generalizing p done s with
  | nil =>
    obtain ⟨k, x⟩ := p
    have hx : I.loadsDepth < x.depth + (st.length + 1) := by simpa [Json.depthMembers] using h
    have hcolon : step I ⟨.colon done k, st⟩ (ch ':') = .ok ⟨.value, .obj done k :: st⟩ := rfl
    rw [renderMembers, List.append_assoc, List.append_assoc, run_quote hs]
    exact (run_step hcolon _).trans (hdeep (k, x) List.mem_cons_self hx done _)
  | cons q ms ih =>
    obtain ⟨k, x⟩ := p
    have hcolon : step I ⟨.colon done k, st⟩ (ch ':') = .ok ⟨.value, .obj done k :: st⟩ := rfl
    by_cases hx : x.depth + (st.length + 1) ≤ I.loadsDepth
    · have hcomma : step I ⟨.after none, .obj (Assoc.set done k x) k :: st⟩ (ch ',') =
        .ok ⟨.objKey (Assoc.set done k x), st⟩ := rfl
      have hr := hread (k, x) List.mem_cons_self hx done
        (ch ',' :: (renderMembers false ft (q :: ms) ++ rest)) (stops_cons (Or.inl rfl) _)
      have hrest : I.loadsDepth < Json.depthMembers (q :: ms) + (st.length + 1) := by
        rw [Json.depthMembers] at h
        omega
      rw [renderMembers, List.isEmpty_cons, if_neg Bool.false_ne_true, List.append_assoc,
        List.append_assoc, run_quote hs]
      refine (run_step hcolon _).trans (hr.trans ((run_step hcomma _).trans ?_))
      exact ih q (Assoc.set done k x) rfl (fun z hz => hread z (List.mem_cons_of_mem _ hz))
        (fun z hz => hdeep z (List.mem_cons_of_mem _ hz)) hrest
    · rw [renderMembers, List.append_assoc, List.append_assoc, run_quote hs]
      exact (run_step hcolon _).trans (hdeep (k, x) List.mem_cons_self (Nat.lt_of_not_le hx) done _)

theorem run_render_deep (v : Json) : ∀ st : List Frame, st.length ≤ I.loadsDepth →
    I.loadsDepth < v.depth + st.length → Readable I ft v → ∀ rest,
    run I ⟨.value, st⟩ (render false ft v ++ rest) = .error .recursion := by
  induction v using Json.nested with
  | null | bool b | int n | float x | str s =>
    intro st hst hdeep
    simp only [Json.depth] at hdeep
    omega
  | arr xs ih =>
    intro st hst hdeep h rest
    rw [Json.depth] at hdeep
    rw [render, List.append_assoc, List.cons_append]
    by_cases hroom : I.loadsDepth ≤ st.length
    · have hopen : step I ⟨.value, st⟩ (ch '[') = .error .recursion :=
        show (if I.loadsDepth ≤ st.length then _ else _) = _ by rw [if_pos hroom]
      rw [run, hopen]
      rfl
    · have hopen : step I ⟨.value, st⟩ (ch '[') = .ok ⟨.arrFirst, .arr [] :: st⟩ :=
        show (if I.loadsDepth ≤ st.length then _ else _) = _ by rw [if_neg hroom]
      rw [run_step hopen]
      cases xs with
      | nil =>
        simp only [Json.depthList] at hdeep
        omega
      | cons x xs =>
        obtain ⟨c, t, ht, hws, hc⟩ := render_head (h.elem List.mem_cons_self)
        have hfirst : ∀ r, run I ⟨.arrFirst, .arr [] :: st⟩ (renderList false ft (x :: xs) ++ r) =
            run I ⟨.value, .arr [] :: st⟩ (renderList false ft (x :: xs) ++ r) := by
          intro r
          rw [renderList, ht]
          exact run_arrFirst hws hc _ _
        rw [hfirst]
        apply run_renderList_deep xs x []
        · intro y hy hle rev
          exact run_render y _ hle (h.elem hy)
        · intro y hy hlt rev rest
          exact ih y hy (.arr rev :: st) (by rw [List.length_cons]; omega) hlt (h.elem hy) rest
        · omega
  | obj ms ih =>
    intro st hst hdeep h rest
    rw [Json.depth] at hdeep
    rw [render, List.append_assoc, List.cons_append]
    by_cases hroom : I.loadsDepth ≤ st.length
    · have hopen : step I ⟨.value, st⟩ (ch '{') = .error .recursion :=
        show (if I.loadsDepth ≤ st.length then _ else _) = _ by rw [if_pos hroom]
      rw [run, hopen]
      rfl
    · have hopen : step I ⟨.value, st⟩ (ch '{') = .ok ⟨.objFirst, st⟩ :=
        show (if I.loadsDepth ≤ st.length then _ else _) = _ by rw [if_neg hroom]
      rw [run_step hopen]
      cases ms with
      | nil =>
        simp only [Json.depthMembers] at hdeep
        omega
      | cons p ms =>
        have hs : ReadsName I ⟨.objFirst, st⟩ [] st := rfl
        apply run_renderMembers_deep ms p [] _ hs
        · intro q hq hle done
          exact run_render q.2 _ hle (h.member hq)
        · intro q hq hlt done rest
          exact ih q hq (.obj done q.1 :: st) (by rw [List.length_cons]; omega) hlt (h.member hq) rest
        · omega

theorem decodeJson_render_deep {v : Json} (hdepth : I.loadsDepth < v.depth) (h : Readable I ft v) :
    decodeJson I (render false ft v) = .error .recursion := by
  have hread := run_render_deep v [] (Nat.zero_le _) (by simpa using hdepth) h []
  rw [List.append_nil] at hread
  exact hread

end Read

/-! ## Byte strings -/

/-- The UTF-8 text of a rendering. -/
def utf8 (s : PyStr) : Bytes := s.flatMap utf8Octets

theorem utf8_append (s t : PyStr) : utf8 (s ++ t) = utf8 s ++ utf8 t := List.flatMap_append

theorem decodeDetected_of_brace_quote {rest : Bytes} (h : 2 ≤ rest.length) :
    decodeDetected (0x7B :: 0x22 :: rest) = decodeUtf8 (0x7B :: 0x22 :: rest) := by
  match rest, h with
  | a :: b :: rest, _ => rfl

theorem loads_utf8_obj (ft : Float → PyStr) (p : PyStr × Json) (ms : List (PyStr × Json)) :
    loads I (utf8 (render false ft (.obj (p :: ms)))) = decodeJson I (render false ft (.obj (p :: ms))) := by
  obtain ⟨k, x⟩ := p
  have htext : ∃ body tail, render false ft (.obj ((k, x) :: ms)) =
      ch '{' :: ch '"' :: (body ++ ch '"' :: ch ':' :: tail) := by
    simp only [render, renderMembers, quote, List.cons_append, List.append_assoc, List.nil_append]
    exact ⟨k.flatMap (escapeChar false), _, rfl⟩
  obtain ⟨body, tail, ht⟩ := htext
  have hdec := decodeUtf8_utf8 (render false ft (.obj ((k, x) :: ms)))
  rw [ht] at hdec ⊢
  have hbytes : utf8 (ch '{' :: ch '"' :: (body ++ ch '"' :: ch ':' :: tail)) =
      0x7B :: 0x22 :: (utf8 body ++ 0x22 :: 0x3A :: utf8 tail) := by
    show (0x7B :: 0x22 :: utf8 (body ++ ch '"' :: ch ':' :: tail)) = _
    rw [utf8_append]
    rfl
  have hlen : 2 ≤ (utf8 body ++ 0x22 :: 0x3A :: utf8 tail).length := by
    simp only [List.length_append, List.length_cons]
    omega
  unfold loads
  rw [hbytes, decodeDetected_of_brace_quote hlen, ← hbytes]
  have hdec' : decodeUtf8 (utf8 (ch '{' :: ch '"' :: (body ++ ch '"' :: ch ':' :: tail))) = _ := hdec
  rw [hdec']

end PyLib.JsonText
