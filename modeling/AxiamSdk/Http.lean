import AxiamSdk.Errors

/-! # HTTP answers and their errors (`_errors.py`)

* `retryAfterMsOf`: the `Retry-After` header in milliseconds.
* `errorFromHttpStatus`: the exception a status maps to, or the one raised while mapping it. -/

namespace AxiamSdk
open PyLib
set_option autoImplicit false

/-- An `httpx.Response` as the client reads it, with the wall clock at which its status is mapped. -/
structure HttpResponse where
  status : ℕ
  body : Bytes
  retryAfter : Option PyStr
  readAt : ℤ

/-- The platform with the two readers of a `Retry-After` header: `float(s)` (`none` is its
`ValueError`) and `parsedate_to_datetime`. -/
structure HttpPlatform extends Platform where
  parseFloat : PyStr → Option Float
  parsedateToDatetime : PyStr → Except Exc IsoDateTime

/-- `timedelta.total_seconds()` -/
def signedSeconds (micros : ℤ) : Float :=
  if micros < 0 then -totalSeconds micros.natAbs else totalSeconds micros.natAbs

/-- `response.json()` -/
def HttpResponse.json (P : Platform) (r : HttpResponse) : Except Exc Json := P.loads r.body

/-- The milliseconds of a delay; none if the delay is no finite number. -/
def delayMillis (seconds : Float) : Option Float :=
  if seconds.isNaN || seconds.isInf then none
  else some ((if seconds < 0.0 then 0.0 else seconds) * 1000.0)

/-- `retry_after_ms_of` -/
def retryAfterMsOf (H : HttpPlatform) (r : HttpResponse) : Except Exc (Option Float) :=
  match r.retryAfter with
  | none => .ok none
  | some raw =>
    match H.parseFloat (strip raw) with
    | some seconds => .ok (delayMillis seconds)
    | none =>
      match H.parsedateToDatetime (strip raw) with
      | .ok t => .ok (delayMillis (signedSeconds (t.micros - t.offset.getD 0 - r.readAt)))
      | .error e => if e = .typeError ∨ e.isValueError then .ok none else .error e

/-- `error_from_http_status`: the exception for a status, or the one that building it raises. -/
def errorFromHttpStatus (H : HttpPlatform) (message : PyStr) (r : HttpResponse) : Except Exc Exc :=
  if r.status = 401 then .ok (.authError message none)
  else if r.status = 403 ∨ r.status = 409 then
    if r.status = 403 then
      match r.json H.toPlatform with
      | .ok _ => .ok (.authzError message)
      | .error e => if e.isValueError then .ok (.authzError message) else .error e
    else .ok (.authzError message)
  else if r.status = 408 ∨ r.status = 429 ∨ 500 ≤ r.status then
    (retryAfterMsOf H r).map (.networkError message)
  else .ok (.networkError message none)

/-- `raise error_from_http_status(...)`: the exception that propagates. -/
def raisedForStatus (H : HttpPlatform) (message : PyStr) (r : HttpResponse) : Exc :=
  match errorFromHttpStatus H message r with
  | .ok e => e
  | .error e => e

end AxiamSdk
