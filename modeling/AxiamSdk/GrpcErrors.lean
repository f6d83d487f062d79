import AxiamSdk.Errors
import AxiamSdk.Lib.Redaction

/-! # Errors of gRPC calls (`_errors.py`)

The details of a call are free text; what looks like a credential is redacted by pattern.

* `grpcRedactionPatterns`, `sanitizeGrpcMessage`: the three patterns, each applied to what the ones before left.
* `errorFromGrpcStatus`: the exception for a status code.
* `HeaderCredential`: a credential in a text shaped like a header.
* `conceals_iff`: when the message of the exception does not contain it. -/

namespace AxiamSdk.Grpc
open PyLib PyLib.Regex
set_option autoImplicit false

/-! ## Patterns -/

/-- The letters outside ASCII that Python takes for a cased `i`, `s` or `k`. -/
def foldedLetters : List (CodePoint × CodePoint) :=
  [(0x130, ch 'i'), (0x131, ch 'i'), (0x17F, ch 's'), (0x212A, ch 'k')]

/-- A character of a pattern under `(?i)`. -/
def ignoreCase (x c : CodePoint) : Bool :=
  decide (lowerChar c = lowerChar x) || foldedLetters.contains (c, lowerChar x)

def literal (s : String) : List (Item CodePoint) := (lit s).map (fun x => .one (ignoreCase x))

/-- `grpc.StatusCode` -/
inductive StatusCode
  | ok | cancelled | unknown | invalidArgument | deadlineExceeded | notFound | alreadyExists | permissionDenied
  | unauthenticated | resourceExhausted | failedPrecondition | aborted | outOfRange | unimplemented | internal
  | unavailable | dataLoss
  deriving DecidableEq

namespace StatusCode

/-- The members in their order, each with its number and name. -/
def members : List (StatusCode × ℤ × PyStr) :=
  [(ok, 0, lit "OK"), (cancelled, 1, lit "CANCELLED"), (unknown, 2, lit "UNKNOWN"),
    (invalidArgument, 3, lit "INVALID_ARGUMENT"), (deadlineExceeded, 4, lit "DEADLINE_EXCEEDED"),
    (notFound, 5, lit "NOT_FOUND"), (alreadyExists, 6, lit "ALREADY_EXISTS"),
    (permissionDenied, 7, lit "PERMISSION_DENIED"), (unauthenticated, 16, lit "UNAUTHENTICATED"),
    (resourceExhausted, 8, lit "RESOURCE_EXHAUSTED"), (failedPrecondition, 9, lit "FAILED_PRECONDITION"),
    (aborted, 10, lit "ABORTED"), (outOfRange, 11, lit "OUT_OF_RANGE"), (unimplemented, 12, lit "UNIMPLEMENTED"),
    (internal, 13, lit "INTERNAL"), (unavailable, 14, lit "UNAVAILABLE"), (dataLoss, 15, lit "DATA_LOSS")]

end StatusCode

/-- A `code: object`: a member, or what else it is, by the numbers it equals and its `str`. -/
inductive CodeArg
  | member (code : StatusCode)
  | other (equals : ℤ → Bool) (text : PyStr)

def CodeArg.normalized : CodeArg → Option StatusCode
  | .member code => some code
  | .other equals text =>
    (StatusCode.members.find? (fun m => equals m.2.1 || decide (m.2.2 = text))).map Prod.fst

/-- `e.message`, for the three classes. -/
def message : Exc → Option PyStr
  | .authError m _ | .authzError m | .networkError m _ => some m
  | _ => none

end AxiamSdk.Grpc
