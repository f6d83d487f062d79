import AxiamSdk.Lib.Base64
import AxiamSdk.Lib.JsonLoads
import AxiamSdk.Lib.JsonDumps

/-! # Exceptions

The exception classes that the modelled code raises and tells apart: the SDK's own taxonomy
(`_errors.py`, `ssf/_receiver.py`) and the built-in classes that its standard library calls raise. -/

namespace AxiamSdk
open PyLib
set_option autoImplicit false

/-- `SetFailureReason`: why a SET was refused, one per step. -/
inductive SetFailureReason
  | malformed | invalidType | invalidKey | invalidIssuer | invalidAudience | invalidRequest | replayed
  deriving DecidableEq, Repr

def SetFailureReason.value : SetFailureReason → PyStr
  | .malformed => lit "malformed"
  | .invalidType => lit "invalid_type"
  | .invalidKey => lit "invalid_key"
  | .invalidIssuer => lit "invalid_issuer"
  | .invalidAudience => lit "invalid_audience"
  | .invalidRequest => lit "invalid_request"
  | .replayed => lit "replayed"

/-- An exception, by class. `OAuthProtocolError` and `SetVerificationError` are `AuthError`s,
`JSONDecodeError` and the Unicode errors are `ValueError`s; `transport` is any exception of the HTTP
library and `other` any further subclass of `Exception`. -/
inductive Exc
  | authError (message : PyStr) (reason : Option PyStr)
  | oauthProtocolError (error errorDescription : PyStr)
  | setVerificationError (reason : SetFailureReason) (detail : PyStr)
  | authzError (message : PyStr)
  | networkError (message : PyStr) (retryAfterMs : Option Float)
  | transport (name text : PyStr)
  | jsonDecodeError
  | unicodeDecodeError
  | unicodeEncodeError
  | valueError
  | typeError
  | keyError
  | attributeError
  | recursionError
  | overflowError
  | runtimeError
  | other (name text : PyStr)
  deriving DecidableEq

namespace Exc

/-- `isinstance(e, AuthError)` -/
def isAuthError : Exc → Bool
  | .authError .. | .oauthProtocolError .. | .setVerificationError .. => true
  | _ => false

/-- `isinstance(e, SetVerificationError)` -/
def isSetVerificationError : Exc → Bool
  | .setVerificationError .. => true
  | _ => false

/-- `isinstance(e, AuthzError)` -/
def isAuthzError : Exc → Bool
  | .authzError .. => true
  | _ => false

/-- `isinstance(e, NetworkError)` -/
def isNetworkError : Exc → Bool
  | .networkError .. => true
  | _ => false

/-- One of the classes of the SDK's own taxonomy. -/
def mapped (e : Exc) : Bool := e.isAuthError || e.isAuthzError || e.isNetworkError

/-- `isinstance(e, ValueError)` -/
def isValueError : Exc → Bool
  | .jsonDecodeError | .unicodeDecodeError | .unicodeEncodeError | .valueError => true
  | _ => false

def ofLoads : LoadsError → Exc
  | .decode => .jsonDecodeError
  | .unicode => .unicodeDecodeError
  | .digits => .valueError
  | .recursion => .recursionError

def ofDumps : DumpsError → Exc
  | .recursion => .recursionError
  | .digits => .valueError

end Exc

/-- Sequencing in `Except`: a result comes from two results. -/
theorem bind_ok {ε α β : Type} {x : Except ε α} {f : α → Except ε β} {b : β}
    (h : x >>= f = .ok b) : ∃ a, x = .ok a ∧ f a = .ok b := by
  cases x with
  | error e => cases h
  | ok a => exact ⟨a, rfl, h⟩

/-! ## The platform -/

/-- A `datetime` as `fromisoformat` builds it: microseconds of its wall clock reading and of its
UTC offset, if it has one. -/
structure IsoDateTime where
  micros : ℤ
  offset : Option ℤ
  deriving DecidableEq

/-- What the modelled code takes from outside: the running interpreter, HMAC-SHA256 and
`datetime.fromisoformat` (`none` is its `ValueError`). -/
structure Platform where
  interp : Interp
  hmacSha256 : Bytes → Bytes → Bytes
  fromIsoFormat : PyStr → Option IsoDateTime

/-- `json.loads` with its exception. -/
def Platform.loads (P : Platform) (b : Bytes) : Except Exc Json :=
  (PyLib.loads P.interp b).mapError Exc.ofLoads

/-- What `json.loads` raises is a `ValueError` or a `RecursionError`. -/
theorem loads_error {P : Platform} {body : Bytes} {e : Exc} (h : P.loads body = .error e) :
    e.isValueError = true ∨ e = .recursionError := by
  unfold Platform.loads at h
  cases hl : PyLib.loads P.interp body with
  | ok v =>
    rw [hl] at h
    cases h
  | error l =>
    rw [hl] at h
    obtain rfl := Except.error.inj h
    cases l
    · exact Or.inl rfl
    · exact Or.inl rfl
    · exact Or.inl rfl
    · exact Or.inr rfl

/-- `json.dumps` with its exception. -/
def Platform.dumps (P : Platform) (ensureAscii : Bool) (v : Json) : Except Exc PyStr :=
  (PyLib.dumps P.interp ensureAscii v).mapError Exc.ofDumps

theorem dumps_ok {P : Platform} {ensureAscii : Bool} {v : Json} {text : PyStr}
    (h : P.dumps ensureAscii v = .ok text) : PyLib.dumps P.interp ensureAscii v = .ok text := by
  unfold Platform.dumps at h
  cases hd : PyLib.dumps P.interp ensureAscii v with
  | error e =>
    rw [hd] at h
    cases h
  | ok t =>
    rw [hd] at h
    rw [Except.ok.inj h]

/-- A base64url segment that is JSON. -/
def decodeSegment (P : Platform) (segment : PyStr) : Except Exc Json :=
  match Base64.urlsafeDecode (padBase64 (ch '=') segment) with
  | none => .error .valueError
  | some raw => P.loads raw

/-- `hmac.compare_digest(a, b)` of two `str`: a non-ASCII character is a `TypeError`. -/
def compareDigest (a b : PyStr) : Except Exc Bool :=
  if a.all isAscii && b.all isAscii then .ok (decide (a = b)) else .error .typeError

/-- `timedelta.total_seconds()` of a non-negative span in microseconds. -/
def totalSeconds (micros : ℕ) : Float := Float.ofScientific micros true 6

end AxiamSdk
