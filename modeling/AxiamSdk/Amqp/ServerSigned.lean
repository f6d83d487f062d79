import AxiamSdk.Amqp.Hmac
import AxiamSdk.Amqp.ReactorProtocol
import AxiamSdk.Lib.FloatText
import AxiamSdk.Lib.JsonReadBack

/-! # What the server signs

The server signs the `serde_json` text of a message and publishes the same text with the signature in
it. The consumer parses what it received, writes it again and compares MACs, so it accepts exactly
where its own text is the server's.

* `verifyHmac_published_iff`: messages, whose text `verify_hmac` writes with `ensure_ascii`.
* `verifyEvent_published_iff`: reactor events, whose floats `verify_event` lays out as Python does. -/

namespace AxiamSdk.Amqp.ServerSigned
open PyLib JsonText
set_option autoImplicit false

/-! ## Server values -/

/-- `serde_json`'s bytes: compact, members in order, only quote, backslash and control characters
escaped, each float as `ft` writes it. -/
def serdeBytes (ft : Float → PyStr) (v : Json) : Bytes := utf8 (render false ft v)

/-- A value as the server holds it. -/
structure ServerValue (v : Json) : Prop where
  distinct : v.Distinct
  ints : v.Int64
  clean : v.clean = true

/-- `sys.set_int_max_str_digits` takes 0 or at least 640. -/
def DigitLimit (I : Interp) : Prop := I.intDigits = 0 ∨ 640 ≤ I.intDigits

theorem intsOk_of_int64 {I : Interp} (hI : DigitLimit I) {v : Json} (h : v.Int64) :
    v.intsOk I = true := by
  induction v using Json.nested with
  | null | bool b | float x | str s => simp [Json.intsOk]
  | int n =>
    have hn := h n (Json.self_mem_nodes _)
    have habs : n.natAbs < 10 ^ 20 := by omega
    have hlen : (JsonDumps.decDigits n.natAbs).length ≤ 20 := by
      rw [JsonDumps.decDigits, List.length_map]
      exact (Nat.length_toDigits_le_iff (by omega) (by omega)).2 habs
    rw [Json.intsOk, Interp.digitsOk, decide_eq_true_eq]
    rcases hI with h0 | h640
    · exact Or.inl h0
    · exact Or.inr (by omega)
  | arr xs ih =>
    rw [Json.intsOk, Json.intsOkList_iff]
    exact fun x hx => ih x hx (fun n hn =>
      h n (List.mem_cons_of_mem _ (Json.mem_nodesList.2 ⟨x, hx, hn⟩)))
  | obj ms ih =>
    rw [Json.intsOk, Json.intsOkMembers_iff]
    exact fun p hp => ih p hp (fun n hn =>
      h n (List.mem_cons_of_mem _ (Json.mem_nodesMembers.2 ⟨p, hp, hn⟩)))

/-! ## A member put into an object -/

section Insert
variable {pre post : List (PyStr × Json)} {k : PyStr}

theorem erase_insert (h : k ∉ (pre ++ post).map Prod.fst) (v : Json) :
    Assoc.erase (pre ++ (k, v) :: post) k = pre ++ post := by
  have hkeep : ∀ p ∈ pre ++ post, p.1 ≠ k := fun p hp hk => h (List.mem_map.2 ⟨p, hp, hk⟩)
  rw [Assoc.erase, List.filter_append, List.filter_cons_of_neg (by simp)]
  rw [List.filter_eq_self.2 (fun p hp => by simpa using hkeep p (List.mem_append_left _ hp)),
    List.filter_eq_self.2 (fun p hp => by simpa using hkeep p (List.mem_append_right _ hp))]

theorem get?_insert_ne {k' : PyStr} (hne : k ≠ k') (v : Json) :
    Assoc.get? (pre ++ (k, v) :: post) k' = Assoc.get? (pre ++ post) k' := by
  induction pre with
  | nil => rw [List.nil_append, List.nil_append, Assoc.get?_cons, if_neg hne]
  | cons p pre ih =>
    obtain ⟨a, b⟩ := p
    rw [List.cons_append, List.cons_append, Assoc.get?_cons, Assoc.get?_cons, ih]

theorem get?_insert_self (h : k ∉ (pre ++ post).map Prod.fst) (v : Json) :
    Assoc.get? (pre ++ (k, v) :: post) k = some v := by
  induction pre with
  | nil => rw [List.nil_append, Assoc.get?_cons, if_pos rfl]
  | cons p pre ih =>
    obtain ⟨a, b⟩ := p
    rw [List.cons_append, List.map_cons, List.mem_cons, not_or] at h
    rw [List.cons_append, Assoc.get?_cons, if_neg (Ne.symm h.1), ih h.2]

theorem set_insert (h : k ∉ (pre ++ post).map Prod.fst) (v w : Json) :
    Assoc.set (pre ++ (k, v) :: post) k w = pre ++ (k, w) :: post := by
  induction pre with
  | nil => rw [List.nil_append, Assoc.set, if_pos rfl]; rfl
  | cons p pre ih =>
    obtain ⟨a, b⟩ := p
    rw [List.cons_append, List.map_cons, List.mem_cons, not_or] at h
    rw [List.cons_append, Assoc.set, if_neg (Ne.symm h.1), ih h.2]
    rfl

theorem mem_insert {v : Json} {p : PyStr × Json} :
    p ∈ pre ++ (k, v) :: post ↔ p = (k, v) ∨ p ∈ pre ++ post := by
  simp only [List.mem_append, List.mem_cons]
  tauto

theorem depthMembers_insert {v : Json} (hv : v.depth = 0) :
    Json.depthMembers (pre ++ (k, v) :: post) = Json.depthMembers (pre ++ post) := by
  have hiff : ∀ n, Json.depthMembers (pre ++ (k, v) :: post) ≤ n ↔
      Json.depthMembers (pre ++ post) ≤ n := by
    intro n
    rw [Json.depthMembers_le_iff, Json.depthMembers_le_iff]
    constructor
    · intro h p hp
      exact h p (mem_insert.2 (Or.inr hp))
    · intro h p hp
      rcases mem_insert.1 hp with rfl | hp
      · rw [hv]
        exact Nat.zero_le n
      · exact h p hp
  exact Nat.le_antisymm ((hiff _).2 (Nat.le_refl _)) ((hiff _).1 (Nat.le_refl _))

theorem nodup_insert (h : k ∉ (pre ++ post).map Prod.fst)
    (hn : ((pre ++ post).map Prod.fst).Nodup) (v : Json) :
    ((pre ++ (k, v) :: post).map Prod.fst).Nodup := by
  rw [List.map_append, List.map_cons] at *
  exact List.nodup_middle.2 (List.nodup_cons.2 ⟨h, hn⟩)

end Insert

/-! ## Reading what was published -/

theorem readable_str {I : Interp} {ft : Float → PyStr} (s : PyStr) : Readable I ft (.str s) where
  ints := by simp [Json.intsOk]
  distinct := by
    intro w hw
    rw [List.mem_singleton.1 hw]
    exact List.nodup_nil
  floats := by
    intro x hx
    cases List.mem_singleton.1 hx

theorem readable_obj {I : Interp} {ft : Float → PyStr} {ms : List (PyStr × Json)}
    (hn : (ms.map Prod.fst).Nodup) (h : ∀ p ∈ ms, Readable I ft p.2) : Readable I ft (.obj ms) where
  ints := by
    rw [Json.intsOk, Json.intsOkMembers_iff]
    exact fun p hp => (h p hp).ints
  distinct := by
    intro w hw
    rw [Json.nodes, List.mem_cons, Json.mem_nodesMembers] at hw
    rcases hw with rfl | ⟨p, hp, hw⟩
    · exact hn
    · exact (h p hp).distinct w hw
  floats := by
    intro x hx
    rw [Json.nodes, List.mem_cons, Json.mem_nodesMembers] at hx
    rcases hx with hx | ⟨p, hp, hx⟩
    · cases hx
    · exact (h p hp).floats x hx

section Published
variable {P : Platform} {ft : Float → PyStr} {pre post : List (PyStr × Json)} {k s : PyStr}

theorem loads_published (h : Readable P.interp ft (.obj (pre ++ post)))
    (habs : k ∉ (pre ++ post).map Prod.fst) :
    P.loads (serdeBytes ft (.obj (pre ++ (k, .str s) :: post))) =
      if (Json.obj (pre ++ post)).depth ≤ P.interp.loadsDepth then .ok (.obj (pre ++ (k, .str s) :: post))
      else .error .recursionError := by
  have hread : Readable P.interp ft (.obj (pre ++ (k, .str s) :: post)) := by
    apply readable_obj
    · exact nodup_insert habs (h.distinct _ (Json.self_mem_nodes _)) _
    · intro p hp
      rcases mem_insert.1 hp with rfl | hp
      · exact readable_str s
      · exact h.member hp
  have hdepth : (Json.obj (pre ++ (k, .str s) :: post)).depth = (Json.obj (pre ++ post)).depth := by
    rw [Json.depth, Json.depth, depthMembers_insert (by simp [Json.depth])]
  have hbytes : PyLib.loads P.interp (serdeBytes ft (.obj (pre ++ (k, .str s) :: post))) =
      decodeJson P.interp (render false ft (.obj (pre ++ (k, .str s) :: post))) := by
    cases pre with
    | nil => exact loads_utf8_obj ft _ _
    | cons p pre => exact loads_utf8_obj ft _ _
  unfold Platform.loads
  rw [hbytes]
  split
  · next hle =>
    rw [decodeJson_render (by rw [hdepth]; exact hle) hread]
    rfl
  · next hgt =>
    rw [decodeJson_render_deep (by rw [hdepth]; omega) hread]
    rfl

end Published

/-! ## Messages -/

theorem hexDigit_not_blank : ∀ n < 16, isHexBlank (JsonDumps.hexDigit n) = false := by decide

theorem fromHex_hexText (b : Bytes) : fromHex (hexText b) = some b := by
  induction b with
  | nil => rfl
  | cons o b ih =>
    have hlt : o.toNat < 256 := o.toNat_lt
    have hhigh : o.toNat / 16 < 16 := by omega
    have hlow : o.toNat % 16 < 16 := by omega
    have hval : o.toNat / 16 * 16 + o.toNat % 16 = o.toNat := by omega
    show fromHex (JsonDumps.hexDigit (o.toNat / 16) :: JsonDumps.hexDigit (o.toNat % 16) :: hexText b) = _
    rw [fromHex, hexDigit_not_blank _ hhigh, if_neg Bool.false_ne_true, hexDigit?_hexDigit _ hhigh,
      hexDigit?_hexDigit _ hlow]
    simp only [ih, hval, Option.map_some, UInt8.ofNat_toNat]

/-- The two texts have one MAC only if they are one text. -/
def NoCollision (P : Platform) (key a b : Bytes) : Prop :=
  P.hmacSha256 key a = P.hmacSha256 key b → a = b

/-- A message as the server publishes it: the text it signed with the signature put in. -/
def publishedMessage (P : Platform) (ft : Float → PyStr) (key : Bytes)
    (pre post : List (PyStr × Json)) : Bytes :=
  serdeBytes ft (.obj (pre ++ (lit "hmac_signature",
    .str (hexText (P.hmacSha256 key (serdeBytes ft (.obj (pre ++ post)))))) :: post))

/-- What `verify_hmac` signs again: the message without its signature, `ensure_ascii` on. -/
def consumerBytes (ft : Float → PyStr) (v : Json) : Bytes := utf8 (render true ft v)

theorem noSurrogate_of_plainText {s : PyStr} (h : PlainText s) : noSurrogate s = true := by
  apply noSurrogate_of_ascii
  rw [List.all_eq_true]
  intro c hc
  have hlt := h c hc
  rw [isAscii, decide_eq_true_eq]
  omega

section Messages
variable {P : Platform} {ft : Float → PyStr} {key : Bytes} {pre post : List (PyStr × Json)}

theorem verifyHmac_published (hlimit : DigitLimit P.interp)
    (hmsg : ServerValue (.obj (pre ++ post))) (hfloat : ∀ x, .float x ∉ Json.nodes (.obj (pre ++ post)))
    (habs : lit "hmac_signature" ∉ (pre ++ post).map Prod.fst) :
    verifyHmac P key (publishedMessage P ft key pre post) = .ok true ↔
      (Json.obj (pre ++ post)).depth ≤ P.interp.loadsDepth ∧
      (Json.obj (pre ++ post)).depth ≤ P.interp.dumpsDepth ∧
      P.hmacSha256 key (consumerBytes ft (.obj (pre ++ post))) =
        P.hmacSha256 key (serdeBytes ft (.obj (pre ++ post))) := by
  have hints := intsOk_of_int64 hlimit hmsg.ints
  have hread : Readable P.interp ft (.obj (pre ++ post)) :=
    ⟨hints, hmsg.distinct, fun x hx => absurd hx (hfloat x)⟩
  have hplain : PlainText (render true ft (.obj (pre ++ post))) :=
    plainText_render_true (fun x hx => absurd hx (hfloat x))
  unfold verifyHmac loadsOrNone publishedMessage
  rw [loads_published hread habs]
  by_cases hl : (Json.obj (pre ++ post)).depth ≤ P.interp.loadsDepth
  · have hget : Json.get (pre ++ (lit "hmac_signature", .str (hexText
        (P.hmacSha256 key (serdeBytes ft (.obj (pre ++ post)))))) :: post) (lit "hmac_signature") =
        .str (hexText (P.hmacSha256 key (serdeBytes ft (.obj (pre ++ post))))) := by
      rw [Json.get, get?_insert_self habs]
      rfl
    rw [if_pos hl]
    simp only [hget, erase_insert habs]
    by_cases hd : (Json.obj (pre ++ post)).depth ≤ P.interp.dumpsDepth
    · have hdumps : P.dumps true (.obj (pre ++ post)) = .ok (render true ft (.obj (pre ++ post))) := by
        rw [Platform.dumps, dumps_eq hd hints,
          render_congr (g := ft) (fun x hx => absurd hx (hfloat x))]
        rfl
      have henc : encodeUtf8 (render true ft (.obj (pre ++ post))) =
          some (consumerBytes ft (.obj (pre ++ post))) := by
        rw [encodeUtf8, if_pos (noSurrogate_of_plainText hplain)]
        rfl
      simp only [hdumps, henc, fromHex_hexText]
      simp [hl, hd]
    · have hdumps : ∃ e, P.dumps true (.obj (pre ++ post)) = .error e := by
        have hok := dumps_isOk P.interp true (.obj (pre ++ post))
        rw [decide_eq_false hd, Bool.false_and] at hok
        unfold Platform.dumps
        cases h : PyLib.dumps P.interp true (.obj (pre ++ post)) with
        | error e => exact ⟨_, rfl⟩
        | ok t => rw [h] at hok; cases hok
      obtain ⟨e, he⟩ := hdumps
      simp [he, hd]
  · rw [if_neg hl]
    simp [hl]

/-- **A message** the server signed is accepted exactly when its nesting is within the interpreter's
limits and every character in it is below DEL. -/
theorem verifyHmac_published_iff (hlimit : DigitLimit P.interp)
    (hmsg : ServerValue (.obj (pre ++ post))) (hfloat : ∀ x, .float x ∉ Json.nodes (.obj (pre ++ post)))
    (habs : lit "hmac_signature" ∉ (pre ++ post).map Prod.fst)
    (hmac : NoCollision P key (consumerBytes ft (.obj (pre ++ post)))
      (serdeBytes ft (.obj (pre ++ post)))) :
    verifyHmac P key (publishedMessage P ft key pre post) = .ok true ↔
      (Json.obj (pre ++ post)).depth ≤ P.interp.loadsDepth ∧
      (Json.obj (pre ++ post)).depth ≤ P.interp.dumpsDepth ∧ (Json.obj (pre ++ post)).Plain := by
  have htext : P.hmacSha256 key (consumerBytes ft (.obj (pre ++ post))) =
      P.hmacSha256 key (serdeBytes ft (.obj (pre ++ post))) ↔ (Json.obj (pre ++ post)).Plain := by
    have hplain : render true ft (.obj (pre ++ post)) = render false ft (.obj (pre ++ post)) ↔ _ :=
      render_true_eq_iff (fun x hx => absurd hx (hfloat x))
    rw [← hplain]
    constructor
    · intro h
      exact utf8_injective (hmac h)
    · intro h
      rw [consumerBytes, serdeBytes, h]
  rw [verifyHmac_published hlimit hmsg hfloat habs, htext]

end Messages

/-- A message that names an actor in Latin script. -/
def accented : List (PyStr × Json) := [(lit "actor", .str (lit "Zoë")), (lit "attempt", .int 3)]

def counted : List (PyStr × Json) := [(lit "attempt", .int 3)]

def noFloatText : Float → PyStr := fun _ => []

def digest (hex : String) : Bytes := (fromHex (lit hex)).getD []

/-- HMAC-SHA256 under the key `k`, on the texts of the two messages. -/
def sampleHmac (_key m : Bytes) : Bytes :=
  if m = serdeBytes noFloatText (.obj accented) then
    digest "237b11937b03812f04b4dccb728eaa23383994e417ba65ff2687d7e877041e7b"
  else if m = consumerBytes noFloatText (.obj accented) then
    digest "242f308d0018d0b28352307fba1108ec3e821bb79e80a161ce6f10db62b36ee4"
  else if m = serdeBytes noFloatText (.obj counted) then
    digest "719c236a0a7d7bb0a32dd9a15b6d603b3f6d8f051847a392c879646145d24d49"
  else []

def samplePlatform : Platform := ⟨⟨4300, 990, 990, fun _ => []⟩, sampleHmac, fun _ => none⟩

theorem serverValue_of_scalars {ms : List (PyStr × Json)} (hn : (ms.map Prod.fst).Nodup)
    (hs : ∀ p ∈ ms, (∃ s, p.2 = .str s) ∨ ∃ n : ℤ, p.2 = .int n ∧ -2 ^ 63 ≤ n ∧ n < 2 ^ 64)
    (hc : Json.cleanMembers ms = true) : ServerValue (.obj ms) where
  distinct := by
    intro w hw
    rw [Json.nodes, List.mem_cons, Json.mem_nodesMembers] at hw
    rcases hw with rfl | ⟨p, hp, hw⟩
    · exact hn
    · rcases hs p hp with ⟨s, h⟩ | ⟨n, h, _⟩
      · rw [h] at hw
        rw [List.mem_singleton.1 hw]
        exact List.nodup_nil
      · rw [h] at hw
        rw [List.mem_singleton.1 hw]
        exact List.nodup_nil
  ints := by
    intro m hm
    rw [Json.nodes, List.mem_cons, Json.mem_nodesMembers] at hm
    rcases hm with hm | ⟨p, hp, hm⟩
    · cases hm
    · rcases hs p hp with ⟨s, h⟩ | ⟨n, h, hlo, hhi⟩
      · rw [h] at hm
        cases List.mem_singleton.1 hm
      · rw [h] at hm
        obtain rfl := Json.int.inj (List.mem_singleton.1 hm)
        exact ⟨hlo, hhi⟩
  clean := hc

theorem accented_serverValue : ServerValue (.obj accented) := by
  apply serverValue_of_scalars
  · decide
  · simp [accented]
  · decide

theorem accented_refused : ¬ ∀ (P : Platform) (ft : Float → PyStr) (key : Bytes)
    (pre post : List (PyStr × Json)), DigitLimit P.interp → ServerValue (.obj (pre ++ post)) →
    (∀ x, .float x ∉ Json.nodes (.obj (pre ++ post))) →
    lit "hmac_signature" ∉ (pre ++ post).map Prod.fst →
    NoCollision P key (consumerBytes ft (.obj (pre ++ post))) (serdeBytes ft (.obj (pre ++ post))) →
    verifyHmac P key (publishedMessage P ft key pre post) = .ok true := by
  intro h
  have hall := h samplePlatform noFloatText (asciiBytes "k") accented [] (Or.inr (by decide))
    (by rw [List.append_nil]; exact accented_serverValue) (by simp [accented, Json.nodes, Json.nodesMembers])
    (by decide) (by unfold NoCollision; decide +kernel)
  have hfalse : verifyHmac samplePlatform (asciiBytes "k")
      (publishedMessage samplePlatform noFloatText (asciiBytes "k") accented []) = .ok false := by
    decide +kernel
  rw [hfalse] at hall
  cases hall

theorem counted_accepted : verifyHmac samplePlatform (asciiBytes "k")
    (publishedMessage samplePlatform noFloatText (asciiBytes "k") [] counted) = .ok true := by
  have hserver : ServerValue (.obj ([] ++ counted)) := by
    apply serverValue_of_scalars
    · decide
    · simp [counted]
    · decide
  refine (verifyHmac_published_iff (Or.inr (by decide)) hserver
    (by simp [counted, Json.nodes, Json.nodesMembers]) (by decide)
    (by unfold NoCollision; decide +kernel)).2 ⟨by decide, by decide, ?_⟩
  have htext : PlainText (render false noFloatText (.obj ([] ++ counted))) := by decide
  exact plain_of_render htext

/-! ## Events -/

/-- An event's members, of the documented types, signed recently under a current key version. -/
structure ServerEvent (P : Platform) (body : List (PyStr × Json)) (now : ℤ) (skewSeconds : Float)
    (e : ReactorEvent) : Prop where
  tenantId : Json.get body (lit "tenant_id") = .str e.tenantId
  event : Json.get body (lit "event") = .str e.event
  correlationId : Json.get body (lit "correlation_id") = .str e.correlationId
  payload : Json.get body (lit "payload") = .obj e.payload
  timeoutMs : Json.get body (lit "timeout_ms") = .int e.timeoutMs
  keyVersion : Json.get body (lit "key_version") = .int e.keyVersion
  nonce : Json.get body (lit "nonce") = .str e.nonce
  issuedAt : Json.get body (lit "issued_at") = .str e.issuedAt
  current : reactorKeyVersion ≤ e.keyVersion
  fresh : ∃ t, parseRfc3339 P e.issuedAt = some t ∧ isFresh t now skewSeconds = true

/-- `d` is a finite float's shortest decimal: the server's text of it reads back as the float, and
`repr` writes it. -/
structure ShortestOf (I : Interp) (x : Float) (d : Decimal) : Prop where
  finite : x.isNaN = false ∧ x.isInf = false
  reads : decodeJson I d.serdeText = .ok (.float x)
  repr : (I.floatRepr x).map JsonDumps.asciiPoint = d.reprText

theorem ShortestOf.floatText {I : Interp} {x : Float} {d : Decimal} (h : ShortestOf I x d) :
    JsonDumps.floatText I x = d.reprText := by
  rw [JsonDumps.floatText, h.finite.1, h.finite.2]
  exact h.repr

/-- The text an event is signed over: `hmac_signature` null, in its place. -/
def signedEventText (ft : Float → PyStr) (pre post : List (PyStr × Json)) : PyStr :=
  render false ft (.obj (pre ++ (lit "hmac_signature", .null) :: post))

/-- What the server signs. -/
def serverEventBytes (shortest : Float → Decimal) (pre post : List (PyStr × Json)) : Bytes :=
  utf8 (signedEventText (fun x => (shortest x).serdeText) pre post)

/-- What `verify_event` signs again. -/
def consumerEventBytes (P : Platform) (pre post : List (PyStr × Json)) : Bytes :=
  utf8 (signedEventText (JsonDumps.floatText P.interp) pre post)

/-- An event as the server publishes it: the text it signed with the signature in place of the null. -/
def publishedEvent (P : Platform) (shortest : Float → Decimal) (key : Bytes)
    (pre post : List (PyStr × Json)) : Bytes :=
  serdeBytes (fun x => (shortest x).serdeText) (.obj (pre ++ (lit "hmac_signature",
    .str (hexText (P.hmacSha256 key (serverEventBytes shortest pre post)))) :: post))

section Events
variable {P : Platform} {shortest : Float → Decimal} {key : Bytes} {pre post : List (PyStr × Json)}
  {now : ℤ} {skew : Float} {e : ReactorEvent}

theorem get_insert_ne {k k' : PyStr} (hne : k ≠ k') (v : Json) :
    Json.get (pre ++ (k, v) :: post) k' = Json.get (pre ++ post) k' := by
  rw [Json.get, get?_insert_ne hne, Json.get]

theorem decodeEvent_of_serverEvent (h : ServerEvent P (pre ++ post) now skew e) (v : Json) :
    decodeEvent P (pre ++ (lit "hmac_signature", v) :: post) e.keyVersion now skew = .ok e := by
  obtain ⟨t, hparse, hfresh⟩ := h.fresh
  unfold decodeEvent
  rw [get_insert_ne (by decide), get_insert_ne (by decide), get_insert_ne (by decide),
    get_insert_ne (by decide), get_insert_ne (by decide), get_insert_ne (by decide),
    get_insert_ne (by decide), h.tenantId, h.event, h.correlationId, h.nonce, h.issuedAt, h.timeoutMs,
    h.payload]
  simp only [hparse, hfresh, if_true]

theorem floats_insert_null {x : Float} :
    .float x ∈ Json.nodes (.obj (pre ++ (lit "hmac_signature", .null) :: post)) ↔
      .float x ∈ Json.nodes (.obj (pre ++ post)) := by
  rw [Json.nodes, Json.nodes, List.mem_cons, List.mem_cons, Json.mem_nodesMembers,
    Json.mem_nodesMembers]
  constructor
  · rintro (h | ⟨p, hp, hx⟩)
    · cases h
    · rcases mem_insert.1 hp with rfl | hp
      · cases List.mem_singleton.1 hx
      · exact Or.inr ⟨p, hp, hx⟩
  · rintro (h | ⟨p, hp, hx⟩)
    · cases h
    · exact Or.inr ⟨p, mem_insert.2 (Or.inr hp), hx⟩

theorem clean_insert_null (h : Json.cleanMembers (pre ++ post) = true) :
    Json.cleanMembers (pre ++ (lit "hmac_signature", .null) :: post) = true := by
  rw [Json.cleanMembers_iff] at *
  intro p hp
  rcases mem_insert.1 hp with rfl | hp
  · exact ⟨noSurrogate_lit _, rfl⟩
  · exact h p hp

theorem intsOk_insert_null {I : Interp} (h : Json.intsOkMembers I (pre ++ post) = true) :
    Json.intsOkMembers I (pre ++ (lit "hmac_signature", .null) :: post) = true := by
  rw [Json.intsOkMembers_iff] at *
  intro p hp
  rcases mem_insert.1 hp with rfl | hp
  · simp [Json.intsOk]
  · exact h p hp

theorem canonicalEventBytes_published (hlimit : DigitLimit P.interp)
    (hbody : ServerValue (.obj (pre ++ post))) (habs : lit "hmac_signature" ∉ (pre ++ post).map Prod.fst)
    (s : PyStr) :
    ((Json.obj (pre ++ post)).depth ≤ P.interp.dumpsDepth →
      canonicalEventBytes P (pre ++ (lit "hmac_signature", .str s) :: post) =
        .ok (some (consumerEventBytes P pre post))) ∧
    (¬ (Json.obj (pre ++ post)).depth ≤ P.interp.dumpsDepth →
      ∃ exc, canonicalEventBytes P (pre ++ (lit "hmac_signature", .str s) :: post) = .error exc) := by
  have hdepth : (Json.obj (pre ++ (lit "hmac_signature", .null) :: post)).depth =
      (Json.obj (pre ++ post)).depth := by
    rw [Json.depth, Json.depth, depthMembers_insert (by simp [Json.depth])]
  have hints : (Json.obj (pre ++ (lit "hmac_signature", .null) :: post)).intsOk P.interp = true := by
    have h := intsOk_of_int64 hlimit hbody.ints
    rw [Json.intsOk] at *
    exact intsOk_insert_null h
  have hclean : (Json.obj (pre ++ (lit "hmac_signature", .null) :: post)).clean = true := by
    have h := hbody.clean
    rw [Json.clean] at *
    exact clean_insert_null h
  have hsome : Assoc.get? (pre ++ (lit "hmac_signature", .str s) :: post) (lit "hmac_signature") =
      some (.str s) := get?_insert_self habs _
  have hunsigned : unsignedBody (pre ++ (lit "hmac_signature", .str s) :: post) =
      .obj (pre ++ (lit "hmac_signature", .null) :: post) := by
    rw [unsignedBody, set_insert habs]
  unfold canonicalEventBytes
  rw [hsome, hunsigned, Option.isNone_some, if_neg Bool.false_ne_true]
  constructor
  · intro hd
    have hdumps : dumps P.interp false (.obj (pre ++ (lit "hmac_signature", .null) :: post)) =
        .ok (signedEventText (JsonDumps.floatText P.interp) pre post) :=
      dumps_eq (by rw [hdepth]; exact hd) hints
    have henc : encodeUtf8 (signedEventText (JsonDumps.floatText P.interp) pre post) =
        some (consumerEventBytes P pre post) := by
      rw [encodeUtf8, noSurrogate_dumps hdumps, hclean]
      rfl
    have hjson : canonicalJson P (.obj (pre ++ (lit "hmac_signature", .null) :: post)) =
        .ok (consumerEventBytes P pre post) := by
      unfold canonicalJson
      rw [Platform.dumps, hdumps]
      simp only [Except.mapError, henc]
    rw [hjson]
    rfl
  · intro hd
    have hok := canonicalJson_isOk P (.obj (pre ++ (lit "hmac_signature", .null) :: post))
    rw [encodable, hdepth, decide_eq_false hd] at hok
    cases h : canonicalJson P (.obj (pre ++ (lit "hmac_signature", .null) :: post)) with
    | error exc => exact ⟨exc, rfl⟩
    | ok b =>
      rw [h] at hok
      cases hok

/-- A parsed event is accepted exactly when it can be written again and the MACs agree. -/
theorem verifyEvent_parsed (hlimit : DigitLimit P.interp) (hbody : ServerValue (.obj (pre ++ post)))
    (habs : lit "hmac_signature" ∉ (pre ++ post).map Prod.fst)
    (hevent : ServerEvent P (pre ++ post) now skew e) (m : Bytes) :
    verifyEvent P (pre ++ (lit "hmac_signature", .str (hexText (P.hmacSha256 key m))) :: post) key now
      skew = .ok (.ok e) ↔
    (Json.obj (pre ++ post)).depth ≤ P.interp.dumpsDepth ∧
      P.hmacSha256 key (consumerEventBytes P pre post) = P.hmacSha256 key m := by
  have hget : Json.get (pre ++ (lit "hmac_signature", .str (hexText (P.hmacSha256 key m))) :: post)
      (lit "hmac_signature") = .str (hexText (P.hmacSha256 key m)) := by
    rw [Json.get, get?_insert_self habs]
    rfl
  have hver : Json.get (pre ++ (lit "hmac_signature", .str (hexText (P.hmacSha256 key m))) :: post)
      (lit "key_version") = .int e.keyVersion := by
    rw [get_insert_ne (by decide), hevent.keyVersion]
  have hcur : ¬ e.keyVersion < reactorKeyVersion := Int.not_lt.2 hevent.current
  have hcan := canonicalEventBytes_published hlimit hbody habs (hexText (P.hmacSha256 key m))
  unfold verifyEvent
  rw [hver, hget]
  simp only [Json.asInt?, Json.asStr?, if_neg hcur]
  by_cases hd : (Json.obj (pre ++ post)).depth ≤ P.interp.dumpsDepth
  · rw [hcan.1 hd]
    simp only [verify, fromHex_hexText, decodeEvent_of_serverEvent hevent]
    by_cases hm : P.hmacSha256 key m = P.hmacSha256 key (consumerEventBytes P pre post)
    · rw [decide_eq_true hm, if_pos rfl]
      exact ⟨fun _ => ⟨hd, hm.symm⟩, fun _ => rfl⟩
    · rw [decide_eq_false hm, if_neg Bool.false_ne_true]
      constructor
      · intro h
        cases h
      · intro h
        exact absurd h.2.symm hm
  · obtain ⟨exc, hexc⟩ := hcan.2 hd
    rw [hexc]
    constructor
    · intro h
      cases h
    · intro h
      exact absurd h.1 hd

/-- A decimal that both sides lay out the same way: below `1e-9` or in `1e-4 ≤ |x| < 1e16`. -/
def SameLayout (d : Decimal) : Prop := ¬ (16 < d.point ∨ (-9 < d.point ∧ d.point ≤ -4))

theorem eventBytes_eq_iff
    (hfloat : ∀ x, .float x ∈ Json.nodes (.obj (pre ++ post)) → ShortestOf P.interp x (shortest x)) :
    consumerEventBytes P pre post = serverEventBytes shortest pre post ↔
      ∀ x, .float x ∈ Json.nodes (.obj (pre ++ post)) → SameLayout (shortest x) := by
  have htext : signedEventText (JsonDumps.floatText P.interp) pre post =
      signedEventText (fun x => (shortest x).reprText) pre post := by
    apply render_congr
    intro x hx
    exact (hfloat x (floats_insert_null.1 hx)).floatText
  have hbytes : consumerEventBytes P pre post = serverEventBytes shortest pre post ↔
      signedEventText (fun x => (shortest x).serdeText) pre post =
        signedEventText (fun x => (shortest x).reprText) pre post := by
    rw [consumerEventBytes, serverEventBytes, htext]
    constructor
    · intro h
      exact (utf8_injective h).symm
    · intro h
      rw [h]
  have hrender : signedEventText (fun x => (shortest x).serdeText) pre post =
      signedEventText (fun x => (shortest x).reprText) pre post ↔ _ :=
    render_eq_iff (fun x => (shortest x).all_isNumChar_serdeText)
      (fun x => (shortest x).all_isNumChar_reprText)
  rw [hbytes, hrender]
  constructor
  · intro h x hx
    exact (shortest x).serdeText_eq_iff.1 (h x (floats_insert_null.2 hx))
  · intro h x hx
    exact (shortest x).serdeText_eq_iff.2 (h x (floats_insert_null.1 hx))

/-- **An event** the server signed is accepted, and read as what it says, exactly when its nesting is
within the interpreter's limits and each float in it lies outside `1e-9 ≤ |x| < 1e-4` and
`1e16 ≤ |x|`, where Python writes the exponent in another form. -/
theorem verifyEvent_published_iff (hlimit : DigitLimit P.interp)
    (hbody : ServerValue (.obj (pre ++ post)))
    (hfloat : ∀ x, .float x ∈ Json.nodes (.obj (pre ++ post)) → ShortestOf P.interp x (shortest x))
    (habs : lit "hmac_signature" ∉ (pre ++ post).map Prod.fst)
    (hevent : ServerEvent P (pre ++ post) now skew e)
    (hmac : NoCollision P key (consumerEventBytes P pre post) (serverEventBytes shortest pre post)) :
    (∃ body, P.loads (publishedEvent P shortest key pre post) = .ok (.obj body) ∧
      verifyEvent P body key now skew = .ok (.ok e)) ↔
    (Json.obj (pre ++ post)).depth ≤ P.interp.loadsDepth ∧
      (Json.obj (pre ++ post)).depth ≤ P.interp.dumpsDepth ∧
      ∀ x, .float x ∈ Json.nodes (.obj (pre ++ post)) → SameLayout (shortest x) := by
  have hread : Readable P.interp (fun x => (shortest x).serdeText) (.obj (pre ++ post)) :=
    ⟨intsOk_of_int64 hlimit hbody.ints, hbody.distinct,
      fun x hx => ⟨(shortest x).all_isNumChar_serdeText, (hfloat x hx).reads⟩⟩
  have hmacs : P.hmacSha256 key (consumerEventBytes P pre post) =
      P.hmacSha256 key (serverEventBytes shortest pre post) ↔
      consumerEventBytes P pre post = serverEventBytes shortest pre post :=
    ⟨hmac, fun h => by rw [h]⟩
  rw [← eventBytes_eq_iff hfloat, ← hmacs, ← verifyEvent_parsed hlimit hbody habs hevent]
  unfold publishedEvent
  rw [loads_published hread habs]
  by_cases hl : (Json.obj (pre ++ post)).depth ≤ P.interp.loadsDepth
  · rw [if_pos hl, and_iff_right hl]
    constructor
    · rintro ⟨body, hparsed, h⟩
      cases hparsed
      exact h
    · intro h
      exact ⟨_, rfl, h⟩
  · rw [if_neg hl]
    constructor
    · rintro ⟨body, hparsed, _⟩
      cases hparsed
    · intro h
      exact absurd h.1 hl

end Events

/-- An event that carries a score. -/
def scored (score : Float) : List (PyStr × Json) :=
  [(lit "correlation_id", .str (lit "c")), (lit "tenant_id", .str (lit "t")),
    (lit "event", .str (lit "login")), (lit "payload", .obj [(lit "score", .float score)]),
    (lit "timeout_ms", .int 500), (lit "key_version", .int 2), (lit "nonce", .str (lit "n")),
    (lit "issued_at", .str (lit "1970-01-01T00:00:00Z"))]

/-- The shortest decimals of `1e-7` and of `0.5`. -/
def scoreDecimal (x : Float) : Decimal :=
  if x < 0.25 then ⟨false, [1], -6, by decide⟩ else ⟨false, [5], 0, by decide⟩

def scoreRepr (x : Float) : List (Fin 0x80) :=
  (if x < 0.25 then "1e-07" else "0.5").toList.map (fun c => Fin.ofNat 0x80 c.toNat)

/-- HMAC-SHA256 under the key `k`, on the texts of the two events. -/
def eventHmac (_key m : Bytes) : Bytes :=
  if m = serverEventBytes scoreDecimal (scored 1e-7) [] then
    digest "2014217182817858bced1956feb47d24e839c0fc6800eade989453eb6899dd58"
  else if m = utf8 (signedEventText (fun x => (scoreDecimal x).reprText) (scored 1e-7) []) then
    digest "8160d732d42020922909f0fb101a95db2e772e45bb0bb702ec0e43c4b1d7636a"
  else if m = serverEventBytes scoreDecimal (scored 0.5) [] then
    digest "8f531dba485c0ba76b6af64b6a62124a1bc2ad8fda8bdba24ad109c0726a6b7a"
  else []

def epoch (s : PyStr) : Option IsoDateTime :=
  if s = lit "1970-01-01T00:00:00+00:00" then some ⟨0, some 0⟩ else none

def eventPlatform : Platform := ⟨⟨4300, 990, 990, scoreRepr⟩, eventHmac, epoch⟩

theorem scored_shortest {x : Float} (hx : x = 1e-7 ∨ x = 0.5) :
    ShortestOf eventPlatform.interp x (scoreDecimal x) := by
  rcases hx with rfl | rfl
  · exact ⟨by decide +kernel, rfl, by decide +kernel⟩
  · exact ⟨by decide +kernel, rfl, by decide +kernel⟩

theorem scored_floats {x y : Float} (h : .float y ∈ Json.nodes (.obj (scored x ++ []))) : y = x := by
  simp only [scored, List.append_nil, Json.nodes, Json.nodesMembers, List.nil_append,
    List.cons_append, List.mem_cons, List.not_mem_nil, reduceCtorEq, false_or,
    or_false] at h
  exact Json.float.inj h

theorem scored_serverValue (x : Float) : ServerValue (.obj (scored x ++ [])) where
  distinct := by
    intro w hw
    simp only [scored, List.append_nil, Json.nodes, Json.nodesMembers, List.nil_append,
      List.cons_append, List.mem_cons, List.not_mem_nil, or_false] at hw
    have hnames : ((scored x).map Prod.fst).Nodup := by
      show [lit "correlation_id", lit "tenant_id", lit "event", lit "payload", lit "timeout_ms",
        lit "key_version", lit "nonce", lit "issued_at"].Nodup
      decide
    rcases hw with rfl | rfl | rfl | rfl | rfl | rfl | rfl | rfl | rfl | rfl
    · exact hnames
    all_goals first | exact List.nodup_nil | exact List.nodup_singleton _
  ints := by
    intro n hn
    simp only [scored, List.append_nil, Json.nodes, Json.nodesMembers, List.nil_append,
      List.cons_append, List.mem_cons, List.not_mem_nil, reduceCtorEq, false_or,
      or_false, Json.int.injEq] at hn
    omega
  clean := by
    show Json.cleanMembers (scored x) = true
    rfl

/-- The event as a handler sees it. -/
def scoredEvent (x : Float) : ReactorEvent where
  tenantId := lit "t"
  event := lit "login"
  correlationId := lit "c"
  payload := [(lit "score", .float x)]
  timeoutMs := 500
  keyVersion := 2
  nonce := lit "n"
  issuedAt := lit "1970-01-01T00:00:00Z"

theorem scored_serverEvent (x : Float) :
    ServerEvent eventPlatform (scored x ++ []) 0 300.0 (scoredEvent x) where
  tenantId := rfl
  event := rfl
  correlationId := rfl
  payload := rfl
  timeoutMs := rfl
  keyVersion := rfl
  nonce := rfl
  issuedAt := rfl
  current := Int.le_refl 2
  fresh := by
    have hparse : parseRfc3339 eventPlatform (lit "1970-01-01T00:00:00Z") = some 0 := by decide +kernel
    exact ⟨0, hparse, by decide +kernel⟩

/-- The consumer refuses the delivery for its signature. -/
def badSignature (P : Platform) (delivery key : Bytes) (now : ℤ) (skew : Float) : Bool :=
  match P.loads delivery with
  | .ok (.obj body) =>
    match verifyEvent P body key now skew with
    | .ok (.error .badSignature) => true
    | _ => false
  | _ => false

/-- A signed event with the float `1e-7` is refused. -/
theorem scored_refused : ¬ ∀ (P : Platform) (shortest : Float → Decimal) (key : Bytes)
    (pre post : List (PyStr × Json)) (now : ℤ) (skew : Float) (e : ReactorEvent),
    DigitLimit P.interp → ServerValue (.obj (pre ++ post)) →
    (∀ x, .float x ∈ Json.nodes (.obj (pre ++ post)) → ShortestOf P.interp x (shortest x)) →
    lit "hmac_signature" ∉ (pre ++ post).map Prod.fst → ServerEvent P (pre ++ post) now skew e →
    NoCollision P key (consumerEventBytes P pre post) (serverEventBytes shortest pre post) →
    ∃ body, P.loads (publishedEvent P shortest key pre post) = .ok (.obj body) ∧
      verifyEvent P body key now skew = .ok (.ok e) := by
  intro h
  have hmac : NoCollision eventPlatform (asciiBytes "k") (consumerEventBytes eventPlatform (scored 1e-7) [])
      (serverEventBytes scoreDecimal (scored 1e-7) []) := by
    unfold NoCollision
    decide +kernel
  obtain ⟨body, hparsed, haccepted⟩ := h eventPlatform scoreDecimal (asciiBytes "k") (scored 1e-7) [] 0
    300.0 (scoredEvent 1e-7) (Or.inr (by decide)) (scored_serverValue _)
    (fun x hx => scored_shortest (Or.inl (scored_floats hx))) (by decide +kernel) (scored_serverEvent _) hmac
  have hrefused : badSignature eventPlatform
      (publishedEvent eventPlatform scoreDecimal (asciiBytes "k") (scored 1e-7) []) (asciiBytes "k") 0 300.0 = true := by
    decide +kernel
  rw [badSignature, hparsed] at hrefused
  simp only [haccepted] at hrefused
  cases hrefused

theorem scored_accepted : ∃ body, eventPlatform.loads
    (publishedEvent eventPlatform scoreDecimal (asciiBytes "k") (scored 0.5) []) = .ok (.obj body) ∧
    verifyEvent eventPlatform body (asciiBytes "k") 0 300.0 = .ok (.ok (scoredEvent 0.5)) := by
  have hmac : NoCollision eventPlatform (asciiBytes "k") (consumerEventBytes eventPlatform (scored 0.5) [])
      (serverEventBytes scoreDecimal (scored 0.5) []) := by
    unfold NoCollision
    decide +kernel
  refine (verifyEvent_published_iff (Or.inr (by decide)) (scored_serverValue _)
    (fun x hx => scored_shortest (Or.inr (scored_floats hx))) (by decide +kernel) (scored_serverEvent _)
    hmac).2 ⟨by decide +kernel, by decide +kernel, ?_⟩
  intro x hx
  rw [scored_floats hx]
  unfold SameLayout
  decide +kernel

end AxiamSdk.Amqp.ServerSigned
