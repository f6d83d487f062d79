import AxiamSdk.Lib.Rfc3986
import AxiamSdk.Mcp.Uri

/-! # Plain http and the loopback hosts (`_mcp.py`)

`_host_of` cuts the host out of the authority and leaves what comes after it unread.

* `LoopbackOnly`: after the userinfo stand a loopback host and at most a port.
* `reading_host`: every reading of an authority has the host that `_host_of` finds.
* `loopback_iff`: the rule accepts such authorities only, except for a `Stray` one. -/

namespace AxiamSdk.Mcp
open PyLib PyLib.Rfc3986
set_option autoImplicit false

/-! ## Authorities -/

/-- `rest` is what follows the last `@`, or all of the authority. -/
structure AfterUser (authority user rest : PyStr) : Prop where
  text : authority = user ++ rest
  user : user = [] ∨ user.getLast? = some (ch '@')
  rest : ch '@' ∉ rest

def IsLoopback (host : PyStr) : Prop := lowerAscii host ∈ loopbackHosts

/-- Nothing, or a colon and decimal digits. -/
def IsPort (s : PyStr) : Prop := s = [] ∨ ∃ digits, s = ch ':' :: digits ∧ digits.all isDecimalDigit = true

/-- The authority is one of the three hosts, with a port or without one. -/
def LoopbackOnly (authority : PyStr) : Prop :=
  ∃ user host port, AfterUser authority user (host ++ port) ∧ IsLoopback host ∧ IsPort port

/-- After the host stands something that is no port: after the bracket of `[::1]`, or after a colon. -/
def Stray (authority : PyStr) : Prop :=
  ∃ user host tail, AfterUser authority user (host ++ tail) ∧ IsLoopback host ∧ ¬ IsPort tail ∧
    (host = lit "[::1]" ∨ tail.head? = some (ch ':'))

/-- What `_host_of` looks for the host in. -/
def hostport (authority : PyStr) : PyStr := (authority.reverse.takeWhile (· ≠ ch '@')).reverse

/-- The host of what follows the userinfo. -/
def hostIn (hostport : PyStr) : PyStr :=
  if hostport.head? = some (ch '[') then
    if hostport.contains (ch ']') then hostport.takeWhile (· ≠ ch ']') ++ [ch ']'] else hostport
  else hostport.takeWhile (· ≠ ch ':')

theorem hostOf_eq (authority : PyStr) : hostOf authority = hostIn (hostport authority) := rfl

theorem all_ne_iff {c : CodePoint} {s : PyStr} : s.all (· ≠ c) = true ↔ c ∉ s := by
  rw [List.all_eq_true]
  constructor
  · intro h hmem
    exact of_decide_eq_true (h c hmem) rfl
  · intro h x hx
    exact decide_eq_true (fun he => h (he ▸ hx))

theorem AfterUser.hostport_eq {authority user rest : PyStr} (h : AfterUser authority user rest) :
    hostport authority = rest := by
  have hall : rest.reverse.all (· ≠ ch '@') = true := by
    rw [List.all_reverse]
    exact all_ne_iff.2 h.rest
  have hstop : ∀ c, user.reverse.head? = some c → decide (c ≠ ch '@') = false := by
    intro c hc
    rw [List.head?_reverse] at hc
    obtain rfl | huser := h.user
    · cases hc
    · rw [huser, Option.some.injEq] at hc
      simp [← hc]
  rw [hostport, h.text, List.reverse_append, takeWhile_append_of_stop hall hstop, List.reverse_reverse]

theorem afterUser_hostport (authority : PyStr) : ∃ user, AfterUser authority user (hostport authority) := by
  have hsplit := List.takeWhile_append_dropWhile (p := (· ≠ ch '@')) (l := authority.reverse)
  refine ⟨(authority.reverse.dropWhile (· ≠ ch '@')).reverse, ?_, ?_, ?_⟩
  · rw [hostport, ← List.reverse_append, hsplit, List.reverse_reverse]
  · rw [List.getLast?_reverse]
    cases hrest : authority.reverse.dropWhile (· ≠ ch '@') with
    | nil => exact Or.inl rfl
    | cons c rest =>
      have hc : decide (c ≠ ch '@') = false := head?_dropWhile (s := authority.reverse) (by rw [hrest]; rfl)
      right
      simpa using hc
  · rw [hostport, List.mem_reverse, ← all_ne_iff]
    exact List.all_takeWhile

/-! ## The host that is cut out -/

theorem hostIn_bracket {inside : PyStr} (h : ch ']' ∉ inside) (tail : PyStr) :
    hostIn (ch '[' :: inside ++ [ch ']'] ++ tail) = ch '[' :: inside ++ [ch ']'] := by
  have hall : (ch '[' :: inside).all (· ≠ ch ']') = true := by
    refine all_ne_iff.2 fun hmem => ?_
    obtain he | hmem := List.mem_cons.1 hmem
    · exact absurd he (by decide)
    · exact h hmem
  have hstop : ∀ c, (ch ']' :: tail).head? = some c → decide (c ≠ ch ']') = false := by
    intro c hc
    obtain rfl : ch ']' = c := Option.some.inj hc
    simp
  have htext : ch '[' :: inside ++ [ch ']'] ++ tail = (ch '[' :: inside) ++ ch ']' :: tail := by
    rw [List.append_assoc]
    rfl
  have hcontains : ((ch '[' :: inside) ++ ch ']' :: tail).contains (ch ']') = true := by simp
  have hhead : ((ch '[' :: inside) ++ ch ']' :: tail).head? = some (ch '[') := rfl
  rw [htext, hostIn, if_pos hhead, if_pos hcontains, takeWhile_append_of_stop hall hstop]

theorem hostIn_name {host tail : PyStr} (hbracket : host.head? ≠ some (ch '[')) (hcolon : ch ':' ∉ host)
    (htail : tail = [] ∨ tail.head? = some (ch ':')) : hostIn (host ++ tail) = host := by
  have hhead : (host ++ tail).head? ≠ some (ch '[') := by
    cases host with
    | nil =>
      obtain rfl | htail := htail
      · simp
      · rw [List.nil_append, htail]
        decide
    | cons c host => exact hbracket
  have hstop : ∀ c, tail.head? = some c → decide (c ≠ ch ':') = false := by
    intro c hc
    obtain rfl | htail := htail
    · cases hc
    · rw [htail, Option.some.injEq] at hc
      simp [← hc]
  rw [hostIn, if_neg hhead, takeWhile_append_of_stop (all_ne_iff.2 hcolon) hstop]

theorem portPart_head (a : Authority) : a.portPart = [] ∨ a.portPart.head? = some (ch ':') := by
  cases hp : a.port with
  | none => left; rw [Authority.portPart, hp]; rfl
  | some p => right; rw [Authority.portPart, hp]; rfl

theorem reads_afterUser {a : Authority} {authority : PyStr} (h : a.Reads authority) :
    AfterUser authority a.userPart (a.host ++ a.portPart) where
  text := by rw [h.text, List.append_assoc]
  user := by
    cases hu : a.userinfo with
    | none => left; rw [Authority.userPart, hu]; rfl
    | some u => right; rw [Authority.userPart, hu]; simp
  rest := h.not_mem_at

/-- **Every reading** of an authority has the host that is cut out. -/
theorem reading_host {a : Authority} {authority : PyStr} (h : a.Reads authority) : hostOf authority = a.host := by
  rw [hostOf_eq, (reads_afterUser h).hostport_eq]
  obtain ⟨inside, hhost, hinside⟩ | hname := h.host
  · rw [hhost]
    refine hostIn_bracket (fun hmem => ?_) _
    have hchar := List.all_eq_true.1 hinside _ hmem
    rw [not_isUserChar_of_mem (by decide)] at hchar
    cases hchar
  · have hno : ∀ c ∈ lit ":@[]/?#", c ∉ a.host := by
      intro c hc hmem
      have hchar := List.all_eq_true.1 hname _ hmem
      rw [not_isNameChar_of_mem hc] at hchar
      cases hchar
    refine hostIn_name (fun hhead => ?_) (hno _ (by decide)) (portPart_head a)
    exact hno (ch '[') (by decide) (List.mem_of_mem_head? hhead)

/-! ## Loopback hosts -/

theorem eq_of_lowerChar {c d : CodePoint} (h : lowerChar c = d) (hd : ¬ (97 ≤ d.val ∧ d.val ≤ 122)) : c = d := by
  rw [lowerChar] at h
  split at h
  · next hupper =>
    have hval : (Fin.ofNat 0x110000 (c.val + 32)).val = c.val + 32 := Nat.mod_eq_of_lt (by omega)
    rw [h] at hval
    omega
  · exact h

theorem mem_lowerAscii {c : CodePoint} {s : PyStr} (h : c ∈ s) (hc : lowerChar c = c) : c ∈ lowerAscii s := by
  rw [← hc]
  exact List.mem_map_of_mem h

theorem loopback_cases {host : PyStr} (h : IsLoopback host) :
    host = lit "[::1]" ∨ (host.head? ≠ some (ch '[') ∧ ch ':' ∉ host) := by
  have hname : ∀ name : PyStr, lowerAscii host = name → ch '[' ∉ name → ch ':' ∉ name →
      host.head? ≠ some (ch '[') ∧ ch ':' ∉ host := by
    rintro name rfl hbracket hcolon
    refine ⟨fun hhead => ?_, fun hmem => ?_⟩
    · exact hbracket (mem_lowerAscii (List.mem_of_mem_head? hhead) (by decide))
    · exact hcolon (mem_lowerAscii hmem (by decide))
  simp only [IsLoopback, loopbackHosts, List.mem_cons, List.not_mem_nil, or_false] at h
  obtain h | h | h := h
  · exact Or.inr (hname _ h (by decide) (by decide))
  · left
    have hmap : host.map lowerChar = [ch '[', ch ':', ch ':', ch '1', ch ']'] := h
    simp only [List.map_eq_cons_iff, List.map_eq_nil_iff] at hmap
    obtain ⟨a, _, rfl, ha, b, _, rfl, hb, c, _, rfl, hc, d, _, rfl, hd, e, _, rfl, he, rfl⟩ := hmap
    rw [eq_of_lowerChar ha (by decide), eq_of_lowerChar hb (by decide), eq_of_lowerChar hc (by decide),
      eq_of_lowerChar hd (by decide), eq_of_lowerChar he (by decide)]
    rfl
  · exact Or.inr (hname _ h (by decide) (by decide))

/-- After a loopback host, whatever comes is left out if it follows a bracket or starts with a colon. -/
theorem hostIn_loopback {host tail : PyStr} (h : IsLoopback host)
    (htail : host = lit "[::1]" ∨ tail = [] ∨ tail.head? = some (ch ':')) : hostIn (host ++ tail) = host := by
  obtain rfl | ⟨hbracket, hcolon⟩ := loopback_cases h
  · exact @hostIn_bracket (lit "::1") (by decide) tail
  · refine hostIn_name hbracket hcolon (htail.resolve_left ?_)
    rintro rfl
    exact hbracket rfl

/-- A loopback host that is cut out, and what is left out after it. -/
theorem split_of_loopback {s : PyStr} (h : IsLoopback (hostIn s)) :
    ∃ tail, s = hostIn s ++ tail ∧ (hostIn s = lit "[::1]" ∨ tail = [] ∨ tail.head? = some (ch ':')) := by
  rw [hostIn] at h ⊢
  split at h
  · next hbracket =>
    rw [if_pos hbracket]
    split at h
    · next hcontains =>
      rw [if_pos hcontains]
      have hsplit := List.takeWhile_append_dropWhile (p := (· ≠ ch ']')) (l := s)
      cases hrest : s.dropWhile (· ≠ ch ']') with
      | nil =>
        rw [List.dropWhile_eq_nil_iff] at hrest
        have hmem := hrest _ (List.contains_iff_mem.1 hcontains)
        simp at hmem
      | cons c rest =>
        have hc : decide (c ≠ ch ']') = false := head?_dropWhile (s := s) (by rw [hrest]; rfl)
        obtain rfl : c = ch ']' := by simpa using hc
        refine ⟨rest, ?_, Or.inl ?_⟩
        · rw [List.append_assoc, List.singleton_append, ← hrest, hsplit]
        · refine (loopback_cases h).resolve_right fun hname => hname.1 ?_
          cases s with
          | nil => cases hbracket
          | cons d s =>
            obtain rfl : d = ch '[' := Option.some.inj hbracket
            rw [List.takeWhile_cons_of_pos (by decide)]
            rfl
    · next hcontains =>
      rw [if_neg hcontains]
      obtain rfl | hname := loopback_cases h
      · exact absurd (by decide) hcontains
      · exact absurd hbracket hname.1
  · next hbracket =>
    rw [if_neg hbracket]
    refine ⟨s.dropWhile (· ≠ ch ':'), List.takeWhile_append_dropWhile.symm, Or.inr ?_⟩
    cases hrest : s.dropWhile (· ≠ ch ':') with
    | nil => exact Or.inl rfl
    | cons c rest =>
      have hc : decide (c ≠ ch ':') = false := head?_dropWhile (s := s) (by rw [hrest]; rfl)
      right
      simpa using hc

theorem isPort_head {port : PyStr} (h : IsPort port) : port = [] ∨ port.head? = some (ch ':') := by
  obtain rfl | ⟨digits, rfl, -⟩ := h
  · exact Or.inl rfl
  · exact Or.inr rfl

/-- With a stray tail the host is still found, but it is not all that the authority has. -/
theorem stray_spec {authority : PyStr} (h : Stray authority) :
    IsLoopback (hostOf authority) ∧ ¬ LoopbackOnly authority := by
  obtain ⟨user, host, tail, hafter, hhost, hno, htail⟩ := h
  have hfound : hostIn (host ++ tail) = host := hostIn_loopback hhost (htail.imp_right Or.inr)
  refine ⟨?_, ?_⟩
  · rw [hostOf_eq, hafter.hostport_eq, hfound]
    exact hhost
  · rintro ⟨user', host', port, hafter', hhost', hport⟩
    have hrest : host ++ tail = host' ++ port := hafter.hostport_eq.symm.trans hafter'.hostport_eq
    have hfound' : hostIn (host' ++ port) = host' := hostIn_loopback hhost' (Or.inr (isPort_head hport))
    have hsame : host' = host := by rw [← hfound', ← hrest, hfound]
    rw [hsame] at hrest
    rw [List.append_cancel_left hrest] at hno
    exact hno hport

theorem loopbackOnly_of_not_stray {authority : PyStr} (h : IsLoopback (hostOf authority)) (hno : ¬ Stray authority) :
    LoopbackOnly authority := by
  obtain ⟨user, hafter⟩ := afterUser_hostport authority
  rw [hostOf_eq] at h
  obtain ⟨tail, hsplit, htail⟩ := split_of_loopback h
  rw [hsplit] at hafter
  refine ⟨user, hostIn (hostport authority), tail, hafter, h, ?_⟩
  by_contra hport
  refine hno ⟨user, hostIn (hostport authority), tail, hafter, h, hport, htail.imp_right fun hcolon => ?_⟩
  exact hcolon.resolve_left fun hnil => hport (Or.inl hnil)

/-! ## The rule -/

/-- The policy lets the query and the fragment pass. -/
def UriPolicy.Admits (policy : UriPolicy) (uri : ParsedUri) : Prop :=
  (uri.hasQuery && !policy.allowQuery) = false ∧ (uri.hasFragment && !policy.allowFragment) = false

/-- A plain http URI that the policy lets pass, with a stray tail after its host. -/
def StrayHttp (policy : UriPolicy) (raw : PyStr) : Prop :=
  ∃ uri, parseAbsoluteUri raw = some uri ∧ policy.Admits uri ∧ lowerAscii uri.scheme = lit "http" ∧
    Stray uri.authority

/-- Without https the authority is a loopback host, and no reading of it has another host. -/
def Confined (uri : ParsedUri) : Prop :=
  lowerAscii uri.scheme ≠ lit "https" →
    LoopbackOnly uri.authority ∧ ∀ a : Authority, a.Reads uri.authority → IsLoopback a.host

theorem secure_iff {uri : ParsedUri} (h : lowerAscii uri.scheme ≠ lit "https") :
    secure uri = true ↔ lowerAscii uri.scheme = lit "http" ∧ IsLoopback (hostOf uri.authority) := by
  simp [secure, h, IsLoopback]

/-- **What is accepted without https**: loopback hosts only, exactly if no stray tail follows the host. -/
theorem loopback_iff (repr : PyStr → PyStr) (operation field raw : PyStr) (policy : UriPolicy) :
    (∀ uri, requireAbsoluteUri repr operation field raw policy = .ok uri → Confined uri) ↔ ¬ StrayHttp policy raw := by
  constructor
  · rintro h ⟨uri, hparse, hadmits, hscheme, hstray⟩
    have hplain : lowerAscii uri.scheme ≠ lit "https" := by
      rw [hscheme]
      decide
    obtain ⟨hhost, hno⟩ := stray_spec hstray
    have hsecure := (secure_iff hplain).2 ⟨hscheme, hhost⟩
    have haccepted : requireAbsoluteUri repr operation field raw policy = .ok uri :=
      requireAbsoluteUri_ok_iff.2 ⟨hparse, hadmits.1, hadmits.2, hsecure⟩
    exact hno (h uri haccepted hplain).1
  · intro hno uri haccepted hplain
    obtain ⟨hparse, hquery, hfragment, hsecure⟩ := requireAbsoluteUri_ok_iff.1 haccepted
    obtain ⟨hscheme, hhost⟩ := (secure_iff hplain).1 hsecure
    refine ⟨loopbackOnly_of_not_stray hhost fun hstray => ?_, fun a hreads => ?_⟩
    · exact hno ⟨uri, hparse, ⟨hquery, hfragment⟩, hscheme, hstray⟩
    · rw [← reading_host hreads]
      exact hhost

/-! ## Text after the bracket -/

/-- `http://[::1].evil.example/mcp` -/
def bracketed : PyStr := lit "http://[::1].evil.example/mcp"

/-- The rule takes `[::1].evil.example` for the loopback host. -/
theorem not_confined : ¬ ∀ (repr : PyStr → PyStr) (operation field raw : PyStr) (policy : UriPolicy) (uri : ParsedUri),
    requireAbsoluteUri repr operation field raw policy = .ok uri → Confined uri := by
  intro h
  have haccepted : requireAbsoluteUri id (lit "protected_resource_metadata") (lit "resource") bracketed identifier =
      .ok ⟨lit "http", lit "[::1].evil.example", lit "/mcp", false, false⟩ := by rfl
  have hstray : Stray (lit "[::1].evil.example") := by
    refine ⟨[], lit "[::1]", lit ".evil.example", ⟨rfl, Or.inl rfl, by decide⟩, by unfold IsLoopback; decide, ?_,
      Or.inl rfl⟩
    rintro (hnil | ⟨digits, hport, -⟩)
    · exact absurd hnil (by decide)
    · exact absurd (List.cons.inj hport).1 (by decide)
  exact (stray_spec hstray).2 (h id _ _ _ _ _ haccepted (by decide)).1

end AxiamSdk.Mcp
