import AxiamSdk.Http
import AxiamSdk.Lib.Decimal
import AxiamSdk.Lib.FloatOrder

/-! # Webhook signatures (`webhook/_verify.py`)

* `parseSignatureHeader`, `verifyWebhook`: the header, and the four steps of the verification.
* `Genuine`: a delivery as the signature scheme words it; `strict` also forbids items without an equals sign and
  white space around the timestamp of the second header.
* `Plain`: the deliveries on which `int` and `bytes.fromhex` read no further spelling, and nothing else is raised.
* `accepts_what_was_signed_iff`: exactly on these the verification accepts what was signed. -/

namespace AxiamSdk.Webhook
open PyLib JsonDumps Decimal
set_option autoImplicit false

/-- The clock, in microseconds since the epoch, and whether a field of the type `str` takes a text. -/
structure WebhookPlatform extends Platform where
  clock : ℤ
  takesText : PyStr → Bool

/-- The arguments of `verify_webhook`; a body that is no `bytes` is `none`. -/
structure Delivery where
  secret : PyStr
  signatureHeader : PyStr
  body : Option Bytes
  tolerance : Float
  now : Option IsoDateTime
  timestampHeader : Option PyStr
  eventType : Option PyStr
  deliveryId : Option PyStr

/-- `WebhookEvent` -/
structure WebhookEvent where
  eventType : Option PyStr
  deliveryId : Option PyStr
  body : Bytes
  timestamp : ℤ

/-- `WebhookVerifyError` -/
def verifyError (reason : String) : Exc :=
  .other (lit "WebhookVerifyError") (lit "webhook signature verification failed: " ++ lit reason)

def validationError : Exc := .other (lit "ValidationError") []

/-! ## The header -/

/-- One part of the header: its key and its value, if it has an equals sign. -/
def pairOf (part : PyStr) : Option (PyStr × PyStr) :=
  let part := strip part
  if part.isEmpty || !part.contains (ch '=') then none
  else some (strip (part.takeWhile (fun c => c ≠ ch '=')), strip ((part.dropWhile (fun c => c ≠ ch '=')).drop 1))

/-- The loop over the parts, with the `t` and the `v1` values so far. -/
def parseParts : List PyStr → Option PyStr → List PyStr → Except Exc (Option PyStr × List PyStr)
  | [], timestampRaw, v1Values => .ok (timestampRaw, v1Values)
  | part :: rest, timestampRaw, v1Values =>
    match pairOf part with
    | none => parseParts rest timestampRaw v1Values
    | some (key, value) =>
      if key = lit "t" then
        if timestampRaw.isSome then .error (verifyError "malformed signature header (duplicate t)")
        else parseParts rest (some value) v1Values
      else if key = lit "v1" then parseParts rest timestampRaw (v1Values ++ [value])
      else parseParts rest timestampRaw v1Values

/-- `_parse_signature_header` -/
def parseSignatureHeader (I : Interp) (header : PyStr) : Except Exc (ℤ × List PyStr) := do
  let (timestampRaw, v1Values) ← parseParts (splitOn (ch ',') header) none []
  match timestampRaw with
  | none => .error (verifyError "malformed signature header (missing t)")
  | some raw =>
    if v1Values.isEmpty then .error (verifyError "malformed signature header (missing v1)")
    else match PyInt.ofText I raw with
      | .error _ => .error (verifyError "malformed signature header (non-numeric t)")
      | .ok timestamp => .ok (timestamp, v1Values)

/-! ## The verification -/

/-- `_reference_epoch`: a naive `datetime` is UTC. -/
def referenceEpoch (W : WebhookPlatform) : Option IsoDateTime → Float
  | none => signedSeconds W.clock
  | some now => signedSeconds (now.micros - now.offset.getD 0)

/-- `_secret_bytes` -/
def secretBytes (secret : PyStr) : Except Exc Bytes :=
  match encodeUtf8 secret with
  | none => .error .unicodeEncodeError
  | some key => .ok key

/-- `X-Axiam-Timestamp`, if it is given, against the `t` of the signature header. -/
def checkTimestampHeader (I : Interp) (timestamp : ℤ) : Option PyStr → Except Exc Unit
  | none => .ok ()
  | some header =>
    match PyInt.ofText I (strip header) with
    | .error _ => .error (verifyError "malformed X-Axiam-Timestamp header")
    | .ok separate =>
      if separate ≠ timestamp then
        .error (verifyError "X-Axiam-Timestamp does not match signature header's t=")
      else .ok ()

/-- The octets of an ASCII text, a dot and the body. -/
def payloadOf (text : PyStr) (body : Bytes) : Bytes :=
  (text ++ [ch '.']).map (fun c => UInt8.ofNat c.val) ++ body

/-- An integer is only written up to the interpreter's limit. -/
def signedPayload (I : Interp) (timestamp : ℤ) (body : Bytes) : Except Exc Bytes :=
  if I.digitsOk (decDigits timestamp.natAbs).length then .ok (payloadOf (intRepr timestamp) body)
  else .error .valueError

/-- A candidate that is no hexadecimal text matches nothing. -/
def matchesMac (expectedMac : Bytes) (candidates : List PyStr) : Bool :=
  candidates.any (fun candidate => decide (fromHex candidate = some expectedMac))

/-- The freshness window. -/
def checkFreshness (tolerance reference : Float) (timestamp : ℤ) : Except Exc Unit :=
  match FloatOrder.ofInt? timestamp with
  | none => .error .overflowError
  | some t =>
    if tolerance < (reference - t).abs then .error (verifyError "timestamp outside tolerance") else .ok ()

/-- `WebhookEvent(...)` -/
def makeEvent (W : WebhookPlatform) (d : Delivery) (body : Bytes) (timestamp : ℤ) : Except Exc WebhookEvent :=
  if d.eventType.all W.takesText && d.deliveryId.all W.takesText then
    .ok ⟨d.eventType, d.deliveryId, body, timestamp⟩
  else .error validationError

/-- The steps after the key of the MAC is there. -/
def judge (W : WebhookPlatform) (d : Delivery) (body key : Bytes) (timestamp : ℤ) (payload : Bytes)
    (candidates : List PyStr) : Except Exc WebhookEvent :=
  if matchesMac (W.hmacSha256 key payload) candidates then do
    checkFreshness d.tolerance (referenceEpoch W d.now) timestamp
    makeEvent W d body timestamp
  else .error (verifyError "signature mismatch")

/-- `verify_webhook` -/
def verifyWebhook (W : WebhookPlatform) (d : Delivery) : Except Exc WebhookEvent :=
  match d.body with
  | none => .error (verifyError "body must be raw bytes")
  | some body => do
    let (timestamp, candidates) ← parseSignatureHeader W.interp d.signatureHeader
    checkTimestampHeader W.interp timestamp d.timestampHeader
    let payload ← signedPayload W.interp timestamp body
    let key ← secretBytes d.secret
    judge W d body key timestamp payload candidates

/-! ## What was signed -/

/-- The values of a key in the header. -/
def valuesOf (key header : PyStr) : List PyStr :=
  (splitOn (ch ',') header).filterMap (fun part => (pairOf part).bind (fun p => if p.1 = key then some p.2 else none))

/-- Hexadecimal digits that spell the octets. -/
def Spells (text : PyStr) (octets : Bytes) : Prop :=
  text.all (fun c => (hexDigit? c).isSome) = true ∧ fromHex text = some octets

/-- The delivery is signed as the scheme words it, with the timestamp `text`. -/
structure Genuine (strict : Bool) (W : WebhookPlatform) (d : Delivery) (body key : Bytes) (text : PyStr) : Prop where
  raw : d.body = some body
  secret : encodeUtf8 d.secret = some key
  items : strict = true → ∀ part ∈ splitOn (ch ',') d.signatureHeader, (pairOf part).isSome = true
  once : valuesOf (lit "t") d.signatureHeader = [text]
  decimal : isDecimal text = true
  signed : ∃ candidate ∈ valuesOf (lit "v1") d.signatureHeader,
    Spells candidate (W.hmacSha256 key (payloadOf text body))
  agrees : ∀ header, d.timestampHeader = some header → (if strict then header else strip header) = text
  fresh : ∃ t, FloatOrder.ofInt? (valueOf text : ℤ) = some t ∧ (referenceEpoch W d.now - t).abs ≤ d.tolerance

def WasSigned (strict : Bool) (W : WebhookPlatform) (d : Delivery) : Prop :=
  ∃ body key text, Genuine strict W d body key text

/-- What was signed is accepted, and nothing else; the rest is refused by `WebhookVerifyError`. -/
def AcceptsWhatWasSigned (strict : Bool) (W : WebhookPlatform) (d : Delivery) : Prop :=
  ((∃ event, verifyWebhook W d = .ok event) ↔ WasSigned strict W d) ∧
    (¬ WasSigned strict W d → ∃ reason, verifyWebhook W d = .error (verifyError reason))

/-- `int` reads one timestamp in both headers, and there are candidates. -/
structure Reads (W : WebhookPlatform) (d : Delivery) (timestamp : ℤ) : Prop where
  header : ∃ text, valuesOf (lit "t") d.signatureHeader = [text] ∧ PyInt.ofText W.interp text = .ok timestamp
  candidates : valuesOf (lit "v1") d.signatureHeader ≠ []
  agrees : ∀ header, d.timestampHeader = some header → PyInt.ofText W.interp (strip header) = .ok timestamp

/-- `bytes.fromhex` reads the MAC of the written timestamp in a candidate. -/
structure Matches (W : WebhookPlatform) (d : Delivery) (body key : Bytes) (timestamp : ℤ) : Prop where
  raw : d.body = some body
  secret : encodeUtf8 d.secret = some key
  reads : Reads W d timestamp
  candidate : matchesMac (W.hmacSha256 key (payloadOf (intRepr timestamp) body))
    (valuesOf (lit "v1") d.signatureHeader) = true

/-- The spelling that the scheme asks for, and a tolerance and texts that are fit for use. -/
structure Spelled (strict : Bool) (W : WebhookPlatform) (d : Delivery) (body key : Bytes) (timestamp : ℤ) : Prop where
  texts : (d.eventType.all W.takesText && d.deliveryId.all W.takesText) = true
  tolerance : d.tolerance.isNaN = false
  items : strict = true → ∀ part ∈ splitOn (ch ',') d.signatureHeader, (pairOf part).isSome = true
  decimal : ∀ text ∈ valuesOf (lit "t") d.signatureHeader, isDecimal text = true
  agrees : ∀ header, d.timestampHeader = some header →
    valuesOf (lit "t") d.signatureHeader = [if strict then header else strip header]
  candidate : ∃ candidate ∈ valuesOf (lit "v1") d.signatureHeader,
    Spells candidate (W.hmacSha256 key (payloadOf (intRepr timestamp) body))

/-- The deliveries on which the code does what the scheme says. -/
structure Plain (strict : Bool) (W : WebhookPlatform) (d : Delivery) : Prop where
  secret : ∀ timestamp, d.body.isSome = true → Reads W d timestamp → (encodeUtf8 d.secret).isSome = true
  range : ∀ body key timestamp, Matches W d body key timestamp → (FloatOrder.ofInt? timestamp).isSome = true
  spelled : ∀ body key timestamp t, Matches W d body key timestamp → FloatOrder.ofInt? timestamp = some t →
    ¬ d.tolerance < (referenceEpoch W d.now - t).abs → Spelled strict W d body key timestamp
  limit : WasSigned strict W d → ∀ text ∈ valuesOf (lit "t") d.signatureHeader, W.interp.digitsOk text.length = true

/-! ## Reading the header -/

section Reading
variable {I : Interp} {header : PyStr}

theorem parseParts_eq (parts : List PyStr) (raw : Option PyStr) (v1s : List PyStr) :
    let valuesIn := fun key : PyStr =>
      parts.filterMap (fun part => (pairOf part).bind (fun p => if p.1 = key then some p.2 else none))
    parseParts parts raw v1s =
      match raw.toList ++ valuesIn (lit "t") with
      | [] => .ok (none, v1s ++ valuesIn (lit "v1"))
      | [value] => .ok (some value, v1s ++ valuesIn (lit "v1"))
      | _ => .error (verifyError "malformed signature header (duplicate t)") := by
  have hne : lit "v1" ≠ lit "t" := by decide
  induction parts generalizing raw v1s with
  | nil => cases raw <;> simp [parseParts]
  | cons part parts ih =>
    dsimp only at ih ⊢
    rw [parseParts]
    cases hpair : pairOf part with
    | none => simp only [ih, List.filterMap_cons, hpair, Option.bind_none]
    | some p =>
      obtain ⟨key, value⟩ := p
      dsimp only
      by_cases ht : key = lit "t"
      · subst ht
        cases raw with
        | none => simp [ih, hpair, hne.symm]
        | some value' => simp [hpair]
      · by_cases hv : key = lit "v1"
        · subst hv
          simp [ih, hpair, hne]
        · simp [ih, hpair, ht, hv]

theorem parseSignatureHeader_eq : parseSignatureHeader I header =
    match valuesOf (lit "t") header with
    | [] => .error (verifyError "malformed signature header (missing t)")
    | [text] =>
      if (valuesOf (lit "v1") header).isEmpty then .error (verifyError "malformed signature header (missing v1)")
      else match PyInt.ofText I text with
        | .error _ => .error (verifyError "malformed signature header (non-numeric t)")
        | .ok timestamp => .ok (timestamp, valuesOf (lit "v1") header)
    | _ => .error (verifyError "malformed signature header (duplicate t)") := by
  have hparts := parseParts_eq (splitOn (ch ',') header) none []
  simp only [Option.toList_none, List.nil_append] at hparts
  unfold parseSignatureHeader valuesOf
  rw [hparts]
  generalize (splitOn (ch ',') header).filterMap
    (fun part => (pairOf part).bind (fun p => if p.1 = lit "t" then some p.2 else none)) = ts
  match ts with
  | [] => rfl
  | [text] => rfl
  | _ :: _ :: _ => rfl

/-- The header is read as one `t`, a number, and at least one `v1`. -/
theorem parseSignatureHeader_ok {text : PyStr} {timestamp : ℤ} (hts : valuesOf (lit "t") header = [text])
    (hread : PyInt.ofText I text = .ok timestamp) (hv1s : valuesOf (lit "v1") header ≠ []) :
    parseSignatureHeader I header = .ok (timestamp, valuesOf (lit "v1") header) := by
  have hempty : (valuesOf (lit "v1") header).isEmpty = false := by simpa using hv1s
  rw [parseSignatureHeader_eq, hts]
  dsimp only
  rw [hempty, hread]
  rfl

theorem parseSignatureHeader_cases (I : Interp) (header : PyStr) :
    (∃ reason, parseSignatureHeader I header = .error (verifyError reason)) ∨
      ∃ text timestamp, parseSignatureHeader I header = .ok (timestamp, valuesOf (lit "v1") header) ∧
        valuesOf (lit "t") header = [text] ∧ PyInt.ofText I text = .ok timestamp ∧ valuesOf (lit "v1") header ≠ [] := by
  rw [parseSignatureHeader_eq]
  split
  · exact Or.inl ⟨_, rfl⟩
  · next text hts =>
    split
    · exact Or.inl ⟨_, rfl⟩
    · next hv1s =>
      split
      · exact Or.inl ⟨_, rfl⟩
      · next timestamp hread => exact Or.inr ⟨text, timestamp, rfl, hts, hread, by simpa using hv1s⟩
  · exact Or.inl ⟨_, rfl⟩

theorem checkTimestampHeader_ok {timestamp : ℤ} {header : Option PyStr}
    (h : ∀ text, header = some text → PyInt.ofText I (strip text) = .ok timestamp) :
    checkTimestampHeader I timestamp header = .ok () := by
  cases header with
  | none => rfl
  | some header =>
    unfold checkTimestampHeader
    dsimp only
    rw [h header rfl]
    dsimp only
    rw [if_neg (fun hne => hne rfl)]

theorem checkTimestampHeader_cases (I : Interp) (timestamp : ℤ) (header : Option PyStr) :
    (∃ reason, checkTimestampHeader I timestamp header = .error (verifyError reason)) ∨
      checkTimestampHeader I timestamp header = .ok () ∧
        ∀ h, header = some h → PyInt.ofText I (strip h) = .ok timestamp := by
  cases header with
  | none => exact Or.inr ⟨rfl, fun h hh => nomatch hh⟩
  | some header =>
    unfold checkTimestampHeader
    dsimp only
    cases hread : PyInt.ofText I (strip header) with
    | error e => exact Or.inl ⟨_, rfl⟩
    | ok separate =>
      dsimp only
      by_cases heq : separate = timestamp
      · subst heq
        rw [if_neg (fun hne => hne rfl)]
        refine Or.inr ⟨rfl, fun h hh => ?_⟩
        cases hh
        exact hread
      · rw [if_pos heq]
        exact Or.inl ⟨_, rfl⟩

end Reading

/-! ## The steps in order -/

section Steps
variable {strict : Bool} {W : WebhookPlatform} {d : Delivery} {body key : Bytes} {timestamp : ℤ}

theorem signedPayload_reads (h : Reads W d timestamp) (body : Bytes) :
    signedPayload W.interp timestamp body = .ok (payloadOf (intRepr timestamp) body) := by
  obtain ⟨text, -, hread⟩ := h.header
  rw [signedPayload, if_pos (digitsOk_of_ofText hread)]

/-- With the headers read, only the key, the MAC and the freshness are left. -/
theorem verifyWebhook_reads (hbody : d.body = some body) (h : Reads W d timestamp) :
    verifyWebhook W d = secretBytes d.secret >>= fun key =>
      judge W d body key timestamp (payloadOf (intRepr timestamp) body) (valuesOf (lit "v1") d.signatureHeader) := by
  obtain ⟨text, hts, hread⟩ := h.header
  unfold verifyWebhook
  rw [hbody]
  dsimp only
  rw [parseSignatureHeader_ok hts hread h.candidates]
  show (checkTimestampHeader W.interp timestamp d.timestampHeader >>= _) = _
  rw [checkTimestampHeader_ok h.agrees]
  show (signedPayload W.interp timestamp body >>= _) = _
  rw [signedPayload_reads h]
  rfl

theorem verifyWebhook_unread (h : d.body.isSome = true → ∀ timestamp, ¬ Reads W d timestamp) :
    ∃ reason, verifyWebhook W d = .error (verifyError reason) := by
  unfold verifyWebhook
  cases hbody : d.body with
  | none => exact ⟨_, rfl⟩
  | some body =>
    dsimp only
    obtain ⟨reason, hparse⟩ | ⟨text, timestamp, hparse, hts, hread, hv1s⟩ :=
      parseSignatureHeader_cases W.interp d.signatureHeader
    · rw [hparse]
      exact ⟨reason, rfl⟩
    · obtain ⟨reason, hcheck⟩ | ⟨-, hagrees⟩ := checkTimestampHeader_cases W.interp timestamp d.timestampHeader
      · rw [hparse]
        refine ⟨reason, ?_⟩
        show (checkTimestampHeader W.interp timestamp d.timestampHeader >>= _) = _
        rw [hcheck]
        rfl
      · exact absurd ⟨⟨text, hts, hread⟩, hv1s, hagrees⟩ (h (by rw [hbody]; rfl) timestamp)

theorem verifyWebhook_matches (h : Matches W d body key timestamp) : verifyWebhook W d =
    checkFreshness d.tolerance (referenceEpoch W d.now) timestamp >>= fun _ => makeEvent W d body timestamp := by
  rw [verifyWebhook_reads h.raw h.reads, secretBytes, h.secret]
  show judge W d body key timestamp _ _ = _
  rw [judge, if_pos h.candidate]

theorem verifyWebhook_unmatched
    (hkey : ∀ timestamp, d.body.isSome = true → Reads W d timestamp → (encodeUtf8 d.secret).isSome = true)
    (h : ∀ body key timestamp, ¬ Matches W d body key timestamp) :
    ∃ reason, verifyWebhook W d = .error (verifyError reason) := by
  by_cases hread : ∃ body timestamp, d.body = some body ∧ Reads W d timestamp
  · obtain ⟨body, timestamp, hbody, hread⟩ := hread
    obtain ⟨key, hsecret⟩ := Option.isSome_iff_exists.1 (hkey timestamp (by rw [hbody]; rfl) hread)
    rw [verifyWebhook_reads hbody hread, secretBytes, hsecret]
    refine ⟨"signature mismatch", ?_⟩
    show judge W d body key timestamp _ _ = _
    rw [judge, if_neg (fun hmatch => h body key timestamp ⟨hbody, hsecret, hread, hmatch⟩)]
  · refine verifyWebhook_unread (fun hsome timestamp hreads => hread ?_)
    obtain ⟨body, hbody⟩ := Option.isSome_iff_exists.1 hsome
    exact ⟨body, timestamp, hbody, hreads⟩

/-! ## Spellings -/

theorem not_isSpace_of_digit {c : CodePoint} (h : (digit? c).isSome = true) : isSpace c = false := by
  obtain ⟨n, hn⟩ := Option.isSome_iff_exists.1 h
  obtain ⟨hlt, rfl⟩ := digit?_some hn
  have hall : ∀ n < 10, isSpace (ch (Nat.digitChar n)) = false := by decide
  exact hall n hlt

theorem strip_decimal {text : PyStr} (h : isDecimal text = true) : strip text = text := by
  have hall : ∀ c ∈ text, isSpace c = false := by
    simp only [isDecimal, Bool.and_eq_true] at h
    exact fun c hc => not_isSpace_of_digit (List.all_eq_true.1 h.1.2 c hc)
  exact strip_eq_self (fun c hc => hall c (List.mem_of_mem_head? hc)) (fun c hc => hall c (List.mem_of_getLast? hc))

/-- A decimal text that `int` reads is the text of what it reads. -/
theorem timestamp_of_decimal {I : Interp} {text : PyStr} (hdec : isDecimal text = true)
    (h : PyInt.ofText I text = .ok timestamp) :
    timestamp = (valueOf text : ℤ) ∧ intRepr timestamp = text ∧ I.digitsOk text.length = true := by
  rw [ofText_decimal I hdec] at h
  split at h
  · next hok =>
    obtain rfl := Except.ok.inj h
    refine ⟨rfl, ?_, hok⟩
    rw [intRepr, if_neg (by omega), Int.natAbs_natCast, decDigits_valueOf hdec]
  · cases h

/-- The headers of a genuine delivery are read, and its MAC matches, within the digits of the interpreter. -/
theorem Genuine.matches {text : PyStr} (h : Genuine strict W d body key text)
    (hlimit : W.interp.digitsOk text.length = true) : Matches W d body key (valueOf text : ℤ) := by
  have hread : PyInt.ofText W.interp text = .ok (valueOf text : ℤ) := by
    rw [ofText_decimal W.interp h.decimal, if_pos hlimit]
  obtain ⟨candidate, hmem, -, hhex⟩ := h.signed
  refine ⟨h.raw, h.secret, ⟨⟨text, h.once, hread⟩, ?_, ?_⟩, ?_⟩
  · intro hnil
    rw [hnil] at hmem
    cases hmem
  · intro header hheader
    have hagrees := h.agrees header hheader
    cases strict with
    | true =>
      have heq : header = text := hagrees
      rw [heq, strip_decimal h.decimal]
      exact hread
    | false =>
      have heq : strip header = text := hagrees
      rw [heq]
      exact hread
  · rw [(timestamp_of_decimal h.decimal hread).2.1]
    exact List.any_eq_true.2 ⟨candidate, hmem, decide_eq_true hhex⟩

theorem isNaN_referenceEpoch (W : WebhookPlatform) (now : Option IsoDateTime) :
    (referenceEpoch W now).isNaN = false := by
  have hseconds : ∀ micros, (signedSeconds micros).isNaN = false := by
    intro micros
    unfold signedSeconds
    split
    · exact FloatOrder.isNaN_neg (FloatOrder.isNaN_millionths _)
    · exact FloatOrder.isNaN_millionths _
  cases now with
  | none => exact hseconds _
  | some now => exact hseconds _

theorem isNaN_distance (W : WebhookPlatform) (now : Option IsoDateTime) {t : Float}
    (h : FloatOrder.ofInt? timestamp = some t) : (referenceEpoch W now - t).abs.isNaN = false :=
  FloatOrder.isNaN_abs (FloatOrder.isNaN_sub_finite (isNaN_referenceEpoch W now) (FloatOrder.isFinite_ofInt? h))

/-- A matching delivery that is fresh and spelled as the scheme asks is genuine. -/
theorem genuine_of_spelled {t : Float} (h : Matches W d body key timestamp)
    (ht : FloatOrder.ofInt? timestamp = some t) (hfresh : ¬ d.tolerance < (referenceEpoch W d.now - t).abs)
    (hspelled : Spelled strict W d body key timestamp) : WasSigned strict W d := by
  obtain ⟨text, hts, hread⟩ := h.reads.header
  have hdec : isDecimal text = true := hspelled.decimal text (by rw [hts]; exact List.mem_cons_self)
  obtain ⟨rfl, htext, -⟩ := timestamp_of_decimal hdec hread
  obtain ⟨candidate, hmem, hspells⟩ := hspelled.candidate
  rw [htext] at hspells
  refine ⟨body, key, text, h.raw, h.secret, hspelled.items, hts, hdec, ⟨candidate, hmem, hspells⟩, ?_, t, ht, ?_⟩
  · intro header hheader
    have hagrees := hspelled.agrees header hheader
    rw [hts] at hagrees
    exact (List.cons.inj hagrees).1.symm
  · exact FloatOrder.le_of_not_lt hspelled.tolerance (isNaN_distance W d.now ht) hfresh

theorem spelled_of_genuine {text : PyStr} (h : Matches W d body key timestamp)
    (hgenuine : Genuine strict W d body key text) (htexts : (d.eventType.all W.takesText && d.deliveryId.all W.takesText) = true) :
    Spelled strict W d body key timestamp := by
  obtain ⟨text', hts, hread⟩ := h.reads.header
  have heq : text' = text := (List.cons.inj (hts.symm.trans hgenuine.once)).1
  subst heq
  obtain ⟨-, htext, -⟩ := timestamp_of_decimal hgenuine.decimal hread
  obtain ⟨t, -, hle⟩ := hgenuine.fresh
  refine ⟨htexts, (FloatOrder.not_isNaN_of_le hle).2, hgenuine.items, ?_, ?_, ?_⟩
  · intro text hmem
    rw [hts, List.mem_singleton] at hmem
    rw [hmem]
    exact hgenuine.decimal
  · intro header hheader
    rw [hts, hgenuine.agrees header hheader]
  · rw [htext]
    exact hgenuine.signed

/-! ## The exact condition -/

theorem makeEvent_ok (htexts : (d.eventType.all W.takesText && d.deliveryId.all W.takesText) = true) :
    makeEvent W d body timestamp = .ok ⟨d.eventType, d.deliveryId, body, timestamp⟩ := by
  rw [makeEvent, if_pos htexts]

theorem checkFreshness_ok {tolerance reference t : Float} (ht : FloatOrder.ofInt? timestamp = some t)
    (h : ¬ tolerance < (reference - t).abs) : checkFreshness tolerance reference timestamp = .ok () := by
  rw [checkFreshness, ht]
  exact if_neg h

theorem checkFreshness_stale {tolerance reference t : Float} (ht : FloatOrder.ofInt? timestamp = some t)
    (h : tolerance < (reference - t).abs) :
    checkFreshness tolerance reference timestamp = .error (verifyError "timestamp outside tolerance") := by
  rw [checkFreshness, ht]
  exact if_pos h

theorem accepts_of_plain (h : Plain strict W d) : AcceptsWhatWasSigned strict W d := by
  have hgenuine : WasSigned strict W d → ∃ event, verifyWebhook W d = .ok event := by
    intro hsigned
    obtain ⟨body, key, text, hg⟩ := hsigned
    have hmatches := hg.matches (h.limit ⟨body, key, text, hg⟩ text (by rw [hg.once]; exact List.mem_cons_self))
    obtain ⟨t, ht, hle⟩ := hg.fresh
    have hfresh : ¬ d.tolerance < (referenceEpoch W d.now - t).abs := fun hlt => FloatOrder.not_le_of_lt hlt hle
    have hspelled := h.spelled body key _ t hmatches ht hfresh
    rw [verifyWebhook_matches hmatches, checkFreshness_ok ht hfresh]
    exact ⟨_, makeEvent_ok hspelled.texts⟩
  have hother : ¬ WasSigned strict W d → ∃ reason, verifyWebhook W d = .error (verifyError reason) := by
    intro hnot
    by_cases hmatch : ∃ body key timestamp, Matches W d body key timestamp
    · obtain ⟨body, key, timestamp, hmatch⟩ := hmatch
      obtain ⟨t, ht⟩ := Option.isSome_iff_exists.1 (h.range body key timestamp hmatch)
      by_cases hstale : d.tolerance < (referenceEpoch W d.now - t).abs
      · rw [verifyWebhook_matches hmatch, checkFreshness_stale ht hstale]
        exact ⟨_, rfl⟩
      · exact absurd (genuine_of_spelled hmatch ht hstale (h.spelled body key timestamp t hmatch ht hstale)) hnot
    · refine verifyWebhook_unmatched h.secret (fun body key timestamp hm => hmatch ⟨body, key, timestamp, hm⟩)
  refine ⟨⟨?_, hgenuine⟩, hother⟩
  rintro ⟨event, hok⟩
  by_contra hnot
  obtain ⟨reason, herror⟩ := hother hnot
  rw [hok] at herror
  cases herror

/-- What is neither an event nor a `WebhookVerifyError` is not what the scheme says. -/
theorem not_accepts_of_error {e : Exc} (h : verifyWebhook W d = .error e) (he : ∀ reason, e ≠ verifyError reason) :
    ¬ AcceptsWhatWasSigned strict W d := by
  rintro ⟨haccepts, hother⟩
  by_cases hsigned : WasSigned strict W d
  · obtain ⟨event, hok⟩ := haccepts.2 hsigned
    rw [h] at hok
    cases hok
  · obtain ⟨reason, herror⟩ := hother hsigned
    rw [h] at herror
    exact he reason (Except.error.inj herror)

theorem validationError_ne (reason : String) : validationError ≠ verifyError reason := by
  intro h
  have hname : lit "ValidationError" = lit "WebhookVerifyError" := (Exc.other.inj h).1
  exact absurd hname (by decide)

theorem plain_of_accepts (h : AcceptsWhatWasSigned strict W d) : Plain strict W d := by
  refine ⟨?_, ?_, ?_, ?_⟩
  · intro timestamp hsome hread
    obtain ⟨body, hbody⟩ := Option.isSome_iff_exists.1 hsome
    by_contra hnone
    have hsecret : encodeUtf8 d.secret = none := Option.not_isSome_iff_eq_none.1 hnone
    have herror : verifyWebhook W d = .error .unicodeEncodeError := by
      rw [verifyWebhook_reads hbody hread, secretBytes, hsecret]
      rfl
    exact not_accepts_of_error herror (fun _ heq => nomatch heq) h
  · intro body key timestamp hmatch
    by_contra hnone
    have hrange : FloatOrder.ofInt? timestamp = none := Option.not_isSome_iff_eq_none.1 hnone
    have herror : verifyWebhook W d = .error .overflowError := by
      rw [verifyWebhook_matches hmatch, checkFreshness, hrange]
      rfl
    exact not_accepts_of_error herror (fun _ heq => nomatch heq) h
  · intro body key timestamp t hmatch ht hfresh
    have hresult : verifyWebhook W d = makeEvent W d body timestamp := by
      rw [verifyWebhook_matches hmatch, checkFreshness_ok ht hfresh]
      rfl
    cases htexts : d.eventType.all W.takesText && d.deliveryId.all W.takesText with
    | false =>
      have herror : verifyWebhook W d = .error validationError := by
        rw [hresult, makeEvent, if_neg (by rw [htexts]; decide)]
      exact absurd h (not_accepts_of_error herror (fun reason heq => validationError_ne reason heq))
    | true =>
      rw [makeEvent_ok htexts] at hresult
      obtain ⟨body', key', text, hg⟩ := h.1.1 ⟨_, hresult⟩
      obtain rfl : body' = body := Option.some.inj (hg.raw.symm.trans hmatch.raw)
      obtain rfl : key' = key := Option.some.inj (hg.secret.symm.trans hmatch.secret)
      exact spelled_of_genuine hmatch hg htexts
  · intro hsigned text hmem
    obtain ⟨event, hok⟩ := h.1.2 hsigned
    obtain ⟨body, key, text', hg⟩ := hsigned
    have hread : d.body.isSome = true ∧ ∃ timestamp, Reads W d timestamp := by
      by_contra hunread
      obtain ⟨reason, herror⟩ := verifyWebhook_unread (fun hsome timestamp hreads => hunread ⟨hsome, timestamp, hreads⟩)
      rw [hok] at herror
      cases herror
    obtain ⟨-, timestamp, hread⟩ := hread
    obtain ⟨text'', hts, htext⟩ := hread.header
    obtain rfl : text'' = text' := (List.cons.inj (hts.symm.trans hg.once)).1
    rw [hts, List.mem_singleton] at hmem
    rw [hmem]
    exact (timestamp_of_decimal hg.decimal htext).2.2

end Steps

/-- **What was signed.** A delivery is accepted exactly if it is signed as the scheme words it, and refused by
`WebhookVerifyError` otherwise, exactly on the deliveries that are spelled and valued as that takes for granted. -/
theorem accepts_what_was_signed_iff (strict : Bool) (W : WebhookPlatform) (d : Delivery) :
    AcceptsWhatWasSigned strict W d ↔ Plain strict W d :=
  ⟨plain_of_accepts, accepts_of_plain⟩


/-! ## A signed timestamp with a sign -/

namespace SignedTimestamp

def mac : PyStr := lit "c881bb5d0f8788e4c2bdabbb0fa4b2e2d1abbb36aaf091b356d20e271136e681"

/-- HMAC-SHA256 with the key k of this timestamp and the body b. -/
def platform : WebhookPlatform where
  interp := ⟨4300, 990, 990, fun _ => []⟩
  hmacSha256 key message :=
    if key = asciiBytes "k" ∧ message = asciiBytes "1700000000.b" then (fromHex mac).getD [] else List.replicate 32 0
  fromIsoFormat _ := none
  clock := 1700000000000000
  takesText _ := true

def delivery (t : String) : Delivery where
  secret := lit "k"
  signatureHeader := lit "t=" ++ lit t ++ lit ",v1=" ++ mac
  body := some (asciiBytes "b")
  tolerance := 300.0
  now := none
  timestampHeader := none
  eventType := none
  deliveryId := none

theorem plus_accepted : (verifyWebhook platform (delivery "+1700000000")).isOk = true ∧
    valuesOf (lit "t") (delivery "+1700000000").signatureHeader = [lit "+1700000000"] := by
  decide +kernel

theorem plus_not_accepted_rightly (strict : Bool) :
    ¬ AcceptsWhatWasSigned strict platform (delivery "+1700000000") := by
  intro h
  obtain ⟨hok, hts⟩ := plus_accepted
  cases hresult : verifyWebhook platform (delivery "+1700000000") with
  | error e =>
    rw [hresult] at hok
    cases hok
  | ok event =>
    obtain ⟨body, key, text, hgenuine⟩ := h.1.1 ⟨event, hresult⟩
    obtain rfl : text = lit "+1700000000" := (List.cons.inj (hgenuine.once.symm.trans hts)).1
    exact absurd hgenuine.decimal (by decide)

end SignedTimestamp

open SignedTimestamp in
/-- A `t` with a plus sign is accepted, though no such text was signed. -/
theorem not_accepts_what_was_signed : ¬ AcceptsWhatWasSigned true platform (delivery "+1700000000") ∧
    ¬ AcceptsWhatWasSigned false platform (delivery "+1700000000") :=
  ⟨plus_not_accepted_rightly true, plus_not_accepted_rightly false⟩

end AxiamSdk.Webhook
