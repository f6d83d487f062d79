import Mathlib.Data.Nat.Notation
import AxiamSdk.Lib.Text

/-! # Splitting URLs

`urllib.parse.urlsplit` and `urlunsplit`. Two checks of the network location are taken from outside:
whether the text between its brackets is an IP literal, and whether it survives NFKC
normalization. -/

namespace PyLib
set_option autoImplicit false

/-- What `_check_bracketed_host` and `_checknetloc` accept. -/
structure UrlChecks where
  bracketedHost : PyStr → Bool
  netloc : PyStr → Bool

structure SplitResult where
  scheme : PyStr
  netloc : PyStr
  path : PyStr
  query : PyStr
  fragment : PyStr
  deriving DecidableEq

namespace Url

def isSchemeChar (c : CodePoint) : Bool :=
  isLetter c || decide (48 ≤ c.val ∧ c.val ≤ 57) || c = ch '+' || c = ch '-' || c = ch '.'

/-- `s.partition(c)` without the separator: what is before the first `c`, and what is after it. -/
def cut (c : CodePoint) (s : PyStr) : PyStr × PyStr :=
  (s.takeWhile (· ≠ c), (s.dropWhile (· ≠ c)).drop 1)

/-- Leading controls and spaces go, and every tab and line break. -/
def clean (url : PyStr) : PyStr :=
  (url.dropWhile (fun c => decide (c.val ≤ 0x20))).filter
    (fun c => !(c = ch '\t' || c = ch '\r' || c = ch '\n'))

/-- The scheme, if the text before the first colon is one, and the rest. -/
def splitScheme (url : PyStr) : PyStr × PyStr :=
  let before := url.takeWhile (· ≠ ch ':')
  if url.contains (ch ':') && before.head?.any isLetter && before.all isSchemeChar then
    (lowerAscii before, (cut (ch ':') url).2)
  else ([], url)

def isDelimiter (c : CodePoint) : Bool := c = ch '/' || c = ch '?' || c = ch '#'

/-- The network location after `//`, and the rest; `none` for brackets that do not match or enclose
no IP literal. -/
def splitNetloc (checks : UrlChecks) (url : PyStr) : Option (PyStr × PyStr) :=
  match url with
  | a :: b :: rest =>
    if a = ch '/' ∧ b = ch '/' then
      let netloc := rest.takeWhile (fun c => !isDelimiter c)
      let opens := netloc.contains (ch '[')
      let closes := netloc.contains (ch ']')
      if opens ≠ closes then none
      else if opens && !checks.bracketedHost (cut (ch ']') (cut (ch '[') netloc).2).1 then none
      else some (netloc, rest.dropWhile (fun c => !isDelimiter c))
    else some ([], url)
  | _ => some ([], url)

/-- The schemes of `uses_netloc`. -/
def usesNetloc : List PyStr :=
  [lit "ftp", lit "http", lit "gopher", lit "nntp", lit "telnet", lit "imap", lit "wais", lit "file",
    lit "mms", lit "https", lit "shttp", lit "snews", lit "prospero", lit "rtsp", lit "rtsps",
    lit "rtspu", lit "rsync", lit "svn", lit "svn+ssh", lit "sftp", lit "nfs", lit "git",
    lit "git+ssh", lit "ws", lit "wss"]

end Url

open Url in
/-- `urlsplit(url)`; `none` is a `ValueError`. -/
def urlsplit (checks : UrlChecks) (url : PyStr) : Option SplitResult :=
  let (scheme, rest) := splitScheme (Url.clean url)
  match splitNetloc checks rest with
  | none => none
  | some (netloc, rest) =>
    let (rest, fragment) := cut (ch '#') rest
    let (path, query) := cut (ch '?') rest
    if !netloc.isEmpty && !netloc.all isAscii && !checks.netloc netloc then none
    else some ⟨scheme, netloc, path, query, fragment⟩

open Url in
/-- `urlunsplit(parts)` -/
def urlunsplit (r : SplitResult) : PyStr :=
  let url :=
    if !r.netloc.isEmpty || (!r.scheme.isEmpty && decide (r.scheme ∈ usesNetloc))
        || decide (r.path.take 2 = lit "//") then
      lit "//" ++ r.netloc ++
        (if !r.path.isEmpty && decide (r.path.head? ≠ some (ch '/')) then ch '/' :: r.path else r.path)
    else r.path
  let url := if r.scheme.isEmpty then url else r.scheme ++ ch ':' :: url
  let url := if r.query.isEmpty then url else url ++ ch '?' :: r.query
  if r.fragment.isEmpty then url else url ++ ch '#' :: r.fragment

end PyLib
