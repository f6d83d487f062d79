import AxiamSdk.Errors

/-! # Sender constraints (`verify_token_binding` and `verify_certificate_binding` of `_jwks.py`)

* `verifyTokenBinding`: a `cnf` claim against the thumbprints that the caller proved.
* `certificate_agrees`: the two functions accept the same tokens.
* `binding_iff`: a confirmation is never downgraded, exactly where it can be read. -/

namespace AxiamSdk.TokenBinding
open PyLib
set_option autoImplicit false

/-! ## The check -/

/-- The `AuthError`s of the two functions. -/
inductive Refusal
  | malformed | noMethod | notHere | both | noCertificate | otherCertificate | noProof | otherKey
  deriving DecidableEq

def Refusal.message : Refusal → PyStr
  | .malformed => lit "token cnf claim is malformed"
  | .noMethod => lit "token carries a cnf confirmation naming no method this SDK can verify " ++
      lit "(CONTRACT.md §10.1 rule 9 — an unverifiable constraint is not an absent one)"
  | .notHere => lit "token carries a cnf confirmation naming a method this entry point cannot verify " ++
      lit "(CONTRACT.md §10.1 rule 9 — an unverifiable constraint is not an absent one; " ++
      lit "use verify_token_binding for DPoP)"
  | .both => lit "token names both a certificate and a DPoP key; both must hold " ++
      lit "(CONTRACT.md §10.1 rule 9) — use verify_token_binding"
  | .noCertificate => lit "token is certificate-bound but no client certificate was presented"
  | .otherCertificate => lit "token is bound to a different client certificate than the one presented"
  | .noProof => lit "token is DPoP-bound but no verified DPoP proof was presented"
  | .otherKey => lit "token is bound to a different DPoP key than the one presented"

def refuse {α : Type} (r : Refusal) : Except Exc α := .error (.authError r.message none)

def certificateMember : PyStr := lit "x5t#S256"
def keyMember : PyStr := lit "jkt"

/-- A member that is a non-empty string. -/
def expected (cnf : List (PyStr × Json)) (member : PyStr) : Option PyStr :=
  match (Json.get cnf member).asStr? with
  | some [] => none
  | s => s

/-- One arm: a thumbprint that is expected must be presented. -/
def checkArm (expected presented : Option PyStr) (missing different : Refusal) : Except Exc Unit :=
  match expected, presented with
  | none, _ => .ok ()
  | some _, none => refuse missing
  | some e, some p =>
    match compareDigest e p with
    | .error x => .error x
    | .ok true => .ok ()
    | .ok false => refuse different

/-- `verify_token_binding` -/
def verifyTokenBinding (claims : List (PyStr × Json)) (certificate dpop : Option PyStr) : Except Exc Unit :=
  match Json.get claims (lit "cnf") with
  | .null => .ok ()
  | .obj cnf =>
    if expected cnf certificateMember = none ∧ expected cnf keyMember = none then refuse .noMethod
    else
      match checkArm (expected cnf certificateMember) certificate .noCertificate .otherCertificate with
      | .error x => .error x
      | .ok () => checkArm (expected cnf keyMember) dpop .noProof .otherKey
  | _ => refuse .malformed

/-- `verify_certificate_binding` -/
def verifyCertificateBinding (claims : List (PyStr × Json)) (presented : Option PyStr) : Except Exc Unit :=
  match Json.get claims (lit "cnf") with
  | .null => .ok ()
  | .obj cnf =>
    match expected cnf certificateMember with
    | none => refuse .notHere
    | some e =>
      if (expected cnf keyMember).isSome then refuse .both
      else
        match presented with
        | none => refuse .noCertificate
        | some p =>
          match compareDigest e p with
          | .error x => .error x
          | .ok true => .ok ()
          | .ok false => refuse .otherCertificate
  | _ => refuse .malformed

/-! ## The rule -/

/-- A member that is there is a non-empty string, and was presented. -/
def Honoured (cnf : List (PyStr × Json)) (member : PyStr) (presented : Option PyStr) : Prop :=
  ∀ v, Assoc.get? cnf member = some v → ∃ e, v = .str e ∧ e ≠ [] ∧ presented = some e

/-- The token claims no constraint, or names one at least, and all that it names are honoured. -/
def Bound (claims : List (PyStr × Json)) (certificate dpop : Option PyStr) : Prop :=
  Assoc.get? claims (lit "cnf") = none ∨
    ∃ cnf, Assoc.get? claims (lit "cnf") = some (.obj cnf) ∧
      (Assoc.get? cnf certificateMember ≠ none ∨ Assoc.get? cnf keyMember ≠ none) ∧
      Honoured cnf certificateMember certificate ∧ Honoured cnf keyMember dpop

/-- A confirmation is never downgraded, and the two functions agree. -/
structure NeverDowngraded (claims : List (PyStr × Json)) (certificate dpop : Option PyStr) : Prop where
  returns : verifyTokenBinding claims certificate dpop = .ok () ↔ Bound claims certificate dpop
  refuses : ¬ Bound claims certificate dpop →
    ∃ message, verifyTokenBinding claims certificate dpop = .error (.authError message none)
  agree : verifyCertificateBinding claims certificate = .ok () ↔
    verifyTokenBinding claims certificate none = .ok ()

/-! ## Arms -/

/-- The arm is expected and presented. -/
def Met (expected presented : Option PyStr) : Prop := ∃ e, expected = some e ∧ presented = some e

/-- The two thumbprints of an arm may be compared. -/
def Comparable (expected presented : Option PyStr) : Prop :=
  ∀ e p, expected = some e → presented = some p → e.all isAscii = true ∧ p.all isAscii = true

/-- A member that is there, and not a non-empty string. -/
def Malformed (cnf : List (PyStr × Json)) (member : PyStr) : Prop :=
  Assoc.get? cnf member ≠ none ∧ expected cnf member = none

section Arms
variable {cnf : List (PyStr × Json)} {member : PyStr} {e p : Option PyStr}

theorem expected_eq_some {s : PyStr} :
    expected cnf member = some s ↔ Assoc.get? cnf member = some (.str s) ∧ s ≠ [] := by
  unfold expected Json.get
  cases hget : Assoc.get? cnf member with
  | none => simp [Json.asStr?]
  | some v =>
    cases v with
    | str t =>
      cases t with
      | nil =>
        simp only [Option.getD_some, Json.asStr?, Option.some.injEq, Json.str.injEq, reduceCtorEq, false_iff]
        rintro ⟨rfl, hne⟩
        exact hne rfl
      | cons c t =>
        simp only [Option.getD_some, Json.asStr?, Option.some.injEq, Json.str.injEq, iff_self_and]
        rintro rfl
        exact List.cons_ne_nil c t
    | _ => simp [Json.asStr?]

theorem expected_of_absent (h : Assoc.get? cnf member = none) : expected cnf member = none := by
  rw [expected, Json.get, h]
  rfl

theorem not_met_none : ¬ Met none p := by
  rintro ⟨e, he, -⟩
  cases he

theorem honoured_iff : Honoured cnf member p ↔ Assoc.get? cnf member = none ∨ Met (expected cnf member) p := by
  constructor
  · intro h
    cases hget : Assoc.get? cnf member with
    | none => exact Or.inl rfl
    | some v =>
      obtain ⟨s, rfl, hne, hp⟩ := h v hget
      exact Or.inr ⟨s, expected_eq_some.2 ⟨hget, hne⟩, hp⟩
  · intro h v hv
    obtain hnone | ⟨s, hs, hp⟩ := h
    · rw [hv] at hnone
      cases hnone
    · obtain ⟨hget, hne⟩ := expected_eq_some.1 hs
      rw [hv] at hget
      exact ⟨s, Option.some.inj hget, hne, hp⟩

theorem checkArm_of_comparable (h : Comparable e p) (missing different : Refusal) :
    ((e = none ∨ Met e p) → checkArm e p missing different = .ok ()) ∧
      (¬ (e = none ∨ Met e p) → ∃ r, checkArm e p missing different = refuse r) := by
  cases e with
  | none => exact ⟨fun _ => rfl, fun hnot => absurd (Or.inl rfl) hnot⟩
  | some e =>
    cases p with
    | none =>
      refine ⟨fun hmet => ?_, fun _ => ⟨missing, rfl⟩⟩
      obtain hnone | ⟨e', -, hp⟩ := hmet
      · cases hnone
      · cases hp
    | some p =>
      obtain ⟨he, hp⟩ := h e p rfl rfl
      have hcompare : compareDigest e p = .ok (decide (e = p)) := by
        rw [compareDigest, he, hp]
        rfl
      unfold checkArm
      simp only [hcompare]
      by_cases hsame : e = p
      · subst hsame
        rw [decide_eq_true rfl]
        exact ⟨fun _ => rfl, fun hnot => absurd (Or.inr ⟨e, rfl, rfl⟩) hnot⟩
      · rw [decide_eq_false hsame]
        refine ⟨fun hmet => ?_, fun _ => ⟨different, rfl⟩⟩
        obtain hnone | ⟨e', he', hp'⟩ := hmet
        · cases hnone
        · exact absurd ((Option.some.inj he').trans (Option.some.inj hp').symm) hsame

theorem checkArm_of_not_comparable (h : ¬ Comparable e p) (missing different : Refusal) :
    checkArm e p missing different = .error .typeError := by
  unfold Comparable at h
  push Not at h
  obtain ⟨e, p, rfl, rfl, hascii⟩ := h
  have hcompare : compareDigest e p = .error .typeError := by
    rw [compareDigest, if_neg]
    simpa using hascii
  unfold checkArm
  simp only [hcompare]

theorem expected_of_not_comparable (h : ¬ Comparable e p) : e ≠ none := by
  rintro rfl
  exact h (fun _ _ he _ => by cases he)

end Arms

/-! ## The two functions agree -/

theorem certificate_agrees (claims : List (PyStr × Json)) (certificate : Option PyStr) :
    verifyCertificateBinding claims certificate = .ok () ↔ verifyTokenBinding claims certificate none = .ok () := by
  unfold verifyCertificateBinding verifyTokenBinding
  cases Json.get claims (lit "cnf") with
  | null => exact Iff.rfl
  | obj cnf =>
    dsimp only
    cases expected cnf certificateMember with
    | none =>
      cases expected cnf keyMember with
      | none => exact ⟨fun h => (by cases h), fun h => (by cases h)⟩
      | some k => exact ⟨fun h => (by cases h), fun h => (by cases h)⟩
    | some e =>
      rw [if_neg (fun h => Option.some_ne_none e h.1)]
      cases expected cnf keyMember with
      | none =>
        simp only [Option.isSome_none, Bool.false_eq_true, if_false]
        cases certificate with
        | none => exact Iff.rfl
        | some p =>
          unfold checkArm
          dsimp only
          cases compareDigest e p with
          | error x => exact Iff.rfl
          | ok same => cases same <;> exact Iff.rfl
      | some k =>
        simp only [Option.isSome_some, if_true]
        refine ⟨fun h => (by cases h), fun h => ?_⟩
        cases harm : checkArm (some e) certificate .noCertificate .otherCertificate with
        | error x =>
          rw [harm] at h
          cases h
        | ok u =>
          rw [harm] at h
          cases h
  | _ => exact Iff.rfl

/-! ## When a confirmation is never downgraded -/

/-- The confirmation is not null, no malformed member stands beside one that is met, and the thumbprints
that are compared are ASCII. -/
structure Readable (claims : List (PyStr × Json)) (certificate dpop : Option PyStr) : Prop where
  notNull : Assoc.get? claims (lit "cnf") ≠ some .null
  certificateArm : ∀ cnf, Assoc.get? claims (lit "cnf") = some (.obj cnf) →
    Comparable (expected cnf certificateMember) certificate ∧
      ¬ (Malformed cnf keyMember ∧ Met (expected cnf certificateMember) certificate)
  keyArm : ∀ cnf, Assoc.get? claims (lit "cnf") = some (.obj cnf) →
    (expected cnf certificateMember = none ∨ Met (expected cnf certificateMember) certificate →
      Comparable (expected cnf keyMember) dpop) ∧
    ¬ (Malformed cnf certificateMember ∧ Met (expected cnf keyMember) dpop)

section Binding
variable {claims cnf : List (PyStr × Json)} {certificate dpop : Option PyStr}

/-- The arms of a confirmation, when the texts of the second are compared only after the first holds. -/
theorem verifyTokenBinding_obj (h : Assoc.get? claims (lit "cnf") = some (.obj cnf))
    (hcertificate : Comparable (expected cnf certificateMember) certificate)
    (hkey : expected cnf certificateMember = none ∨ Met (expected cnf certificateMember) certificate →
      Comparable (expected cnf keyMember) dpop) :
    let accepted := (expected cnf certificateMember ≠ none ∨ expected cnf keyMember ≠ none) ∧
      (expected cnf certificateMember = none ∨ Met (expected cnf certificateMember) certificate) ∧
      (expected cnf keyMember = none ∨ Met (expected cnf keyMember) dpop)
    (accepted → verifyTokenBinding claims certificate dpop = .ok ()) ∧
      (¬ accepted → ∃ r, verifyTokenBinding claims certificate dpop = refuse r) := by
  have hget : Json.get claims (lit "cnf") = .obj cnf := by rw [Json.get, h, Option.getD_some]
  obtain ⟨hok, hrefuse⟩ := checkArm_of_comparable hcertificate .noCertificate .otherCertificate
  rw [verifyTokenBinding, hget]
  dsimp only
  by_cases hneither : expected cnf certificateMember = none ∧ expected cnf keyMember = none
  · rw [if_pos hneither]
    refine ⟨fun haccepted => ?_, fun _ => ⟨_, rfl⟩⟩
    obtain hc | hk := haccepted.1
    · exact absurd hneither.1 hc
    · exact absurd hneither.2 hk
  · rw [if_neg hneither]
    have hsome : expected cnf certificateMember ≠ none ∨ expected cnf keyMember ≠ none := by
      rwa [← not_and_or]
    by_cases hfirst : expected cnf certificateMember = none ∨ Met (expected cnf certificateMember) certificate
    · rw [hok hfirst]
      obtain ⟨hok', hrefuse'⟩ := checkArm_of_comparable (hkey hfirst) .noProof .otherKey
      exact ⟨fun haccepted => hok' haccepted.2.2, fun hnot => hrefuse' (fun hk => hnot ⟨hsome, hfirst, hk⟩)⟩
    · obtain ⟨r, hr⟩ := hrefuse hfirst
      rw [hr]
      exact ⟨fun haccepted => absurd haccepted.2.1 hfirst, fun _ => ⟨r, rfl⟩⟩

theorem bound_obj (h : Assoc.get? claims (lit "cnf") = some (.obj cnf)) :
    Bound claims certificate dpop ↔
      (Assoc.get? cnf certificateMember ≠ none ∨ Assoc.get? cnf keyMember ≠ none) ∧
      (Assoc.get? cnf certificateMember = none ∨ Met (expected cnf certificateMember) certificate) ∧
      (Assoc.get? cnf keyMember = none ∨ Met (expected cnf keyMember) dpop) := by
  rw [← honoured_iff, ← honoured_iff]
  constructor
  · intro hbound
    obtain hnone | ⟨cnf', hcnf', hrest⟩ := hbound
    · rw [h] at hnone
      cases hnone
    · obtain rfl := Json.obj.inj (Option.some.inj (h.symm.trans hcnf'))
      exact hrest
  · exact fun hrest => Or.inr ⟨cnf, h, hrest⟩

/-- Texts that may not be compared end in a `TypeError`. -/
theorem verifyTokenBinding_typeError (h : Assoc.get? claims (lit "cnf") = some (.obj cnf))
    (hbad : ¬ (Comparable (expected cnf certificateMember) certificate ∧
      (expected cnf certificateMember = none ∨ Met (expected cnf certificateMember) certificate →
        Comparable (expected cnf keyMember) dpop))) :
    verifyTokenBinding claims certificate dpop = .error .typeError := by
  have hget : Json.get claims (lit "cnf") = .obj cnf := by rw [Json.get, h, Option.getD_some]
  rw [verifyTokenBinding, hget]
  dsimp only
  by_cases hcertificate : Comparable (expected cnf certificateMember) certificate
  · rw [not_and] at hbad
    have hkey := hbad hcertificate
    rw [Classical.not_imp] at hkey
    obtain ⟨hfirst, hkey⟩ := hkey
    rw [if_neg (fun hneither => expected_of_not_comparable hkey hneither.2),
      (checkArm_of_comparable hcertificate _ _).1 hfirst]
    exact checkArm_of_not_comparable hkey _ _
  · rw [if_neg (fun hneither => expected_of_not_comparable hcertificate hneither.1),
      checkArm_of_not_comparable hcertificate]

theorem bound_iff_accepted (h : Assoc.get? claims (lit "cnf") = some (.obj cnf))
    (hcertificate : ¬ (Malformed cnf certificateMember ∧ Met (expected cnf keyMember) dpop))
    (hkey : ¬ (Malformed cnf keyMember ∧ Met (expected cnf certificateMember) certificate)) :
    Bound claims certificate dpop ↔
      (expected cnf certificateMember ≠ none ∨ expected cnf keyMember ≠ none) ∧
      (expected cnf certificateMember = none ∨ Met (expected cnf certificateMember) certificate) ∧
      (expected cnf keyMember = none ∨ Met (expected cnf keyMember) dpop) := by
  have hpresent : ∀ member, expected cnf member ≠ none → Assoc.get? cnf member ≠ none :=
    fun member hne habsent => hne (expected_of_absent habsent)
  rw [bound_obj h]
  constructor
  · rintro ⟨hsome, hc, hk⟩
    refine ⟨?_, hc.imp_left expected_of_absent, hk.imp_left expected_of_absent⟩
    by_contra hneither
    rw [not_or, not_not, not_not] at hneither
    rw [hneither.1] at hc
    rw [hneither.2] at hk
    have hc' := hc.resolve_right not_met_none
    have hk' := hk.resolve_right not_met_none
    exact hsome.elim (fun hne => hne hc') (fun hne => hne hk')
  · rintro ⟨hsome, hc, hk⟩
    refine ⟨hsome.imp (hpresent _) (hpresent _), ?_, ?_⟩
    · rw [or_iff_not_imp_right]
      intro hnot
      have hnone := hc.resolve_right hnot
      have hmet := hk.resolve_left (hsome.resolve_left (fun hne => hne hnone))
      by_contra hpres
      exact hcertificate ⟨⟨hpres, hnone⟩, hmet⟩
    · rw [or_iff_not_imp_right]
      intro hnot
      have hnone := hk.resolve_right hnot
      have hmet := hc.resolve_left (hsome.resolve_right (fun hne => hne hnone))
      by_contra hpres
      exact hkey ⟨⟨hpres, hnone⟩, hmet⟩

theorem binding_iff_obj (h : Assoc.get? claims (lit "cnf") = some (.obj cnf)) :
    NeverDowngraded claims certificate dpop ↔ Readable claims certificate dpop := by
  have hsame : ∀ cnf', Assoc.get? claims (lit "cnf") = some (.obj cnf') → cnf' = cnf := fun cnf' h' =>
    Json.obj.inj (Option.some.inj (h'.symm.trans h))
  constructor
  · intro hnever
    have hcomparable : Comparable (expected cnf certificateMember) certificate ∧
        (expected cnf certificateMember = none ∨ Met (expected cnf certificateMember) certificate →
          Comparable (expected cnf keyMember) dpop) := by
      by_contra hbad
      have herror := verifyTokenBinding_typeError h hbad
      by_cases hbound : Bound claims certificate dpop
      · rw [hnever.returns.2 hbound] at herror
        cases herror
      · obtain ⟨message, hmessage⟩ := hnever.refuses hbound
        rw [hmessage] at herror
        cases herror
    obtain ⟨hc, hk⟩ := hcomparable
    obtain ⟨haccepts, -⟩ := verifyTokenBinding_obj h hc hk
    refine ⟨?_, ?_, ?_⟩
    · rw [h]
      intro hnull
      cases hnull
    · intro cnf' hcnf'
      obtain rfl := hsame cnf' hcnf'
      refine ⟨hc, fun ⟨⟨hpresent, hnone⟩, hmet⟩ => ?_⟩
      have hsome : expected cnf' certificateMember ≠ none := by
        intro hnone'
        rw [hnone'] at hmet
        exact not_met_none hmet
      have hbound := hnever.returns.1 (haccepts ⟨Or.inl hsome, Or.inr hmet, Or.inl hnone⟩)
      obtain habsent | hmet' := ((bound_obj h).1 hbound).2.2
      · exact hpresent habsent
      · rw [hnone] at hmet'
        exact not_met_none hmet'
    · intro cnf' hcnf'
      obtain rfl := hsame cnf' hcnf'
      refine ⟨hk, fun ⟨⟨hpresent, hnone⟩, hmet⟩ => ?_⟩
      have hsome : expected cnf' keyMember ≠ none := by
        intro hnone'
        rw [hnone'] at hmet
        exact not_met_none hmet
      have hbound := hnever.returns.1 (haccepts ⟨Or.inr hsome, Or.inl hnone, Or.inr hmet⟩)
      obtain habsent | hmet' := ((bound_obj h).1 hbound).2.1
      · exact hpresent habsent
      · rw [hnone] at hmet'
        exact not_met_none hmet'
  · intro hread
    obtain ⟨hc, hkeyFormed⟩ := hread.certificateArm cnf h
    obtain ⟨hk, hcertificateFormed⟩ := hread.keyArm cnf h
    have hbound := bound_iff_accepted h hcertificateFormed hkeyFormed
    obtain ⟨haccepts, hrefuses⟩ := verifyTokenBinding_obj h hc hk
    rw [← hbound] at haccepts hrefuses
    refine ⟨⟨fun hok => ?_, haccepts⟩, ?_, certificate_agrees _ _⟩
    · by_contra hnot
      obtain ⟨r, hr⟩ := hrefuses hnot
      rw [hr] at hok
      cases hok
    · intro hnot
      obtain ⟨r, hr⟩ := hrefuses hnot
      exact ⟨r.message, hr⟩

/-- A confirmation that is null is accepted; any other that is not an object is refused. -/
theorem binding_iff_other (h : ∀ cnf, Assoc.get? claims (lit "cnf") ≠ some (.obj cnf)) :
    NeverDowngraded claims certificate dpop ↔ Readable claims certificate dpop := by
  have hread : Readable claims certificate dpop ↔ Assoc.get? claims (lit "cnf") ≠ some .null :=
    ⟨Readable.notNull, fun hnull => ⟨hnull, fun cnf hcnf => absurd hcnf (h cnf), fun cnf hcnf => absurd hcnf (h cnf)⟩⟩
  have hbound : Bound claims certificate dpop ↔ Assoc.get? claims (lit "cnf") = none :=
    ⟨fun hb => hb.resolve_right (fun ⟨cnf, hcnf, _⟩ => h cnf hcnf), Or.inl⟩
  rw [hread]
  cases hget : Assoc.get? claims (lit "cnf") with
  | none =>
    have hok : verifyTokenBinding claims certificate dpop = .ok () := by
      rw [verifyTokenBinding, Json.get, hget]
      rfl
    refine iff_of_true ⟨iff_of_true hok (hbound.2 hget), fun hnot => absurd (hbound.2 hget) hnot,
      certificate_agrees _ _⟩ (fun hnull => by cases hnull)
  | some v =>
    have hnot : ¬ Bound claims certificate dpop := by
      rw [hbound, hget]
      exact Option.some_ne_none v
    cases v with
    | null =>
      have hok : verifyTokenBinding claims certificate dpop = .ok () := by
        rw [verifyTokenBinding, Json.get, hget]
        rfl
      exact iff_of_false (fun hnever => hnot (hnever.returns.1 hok)) (fun hne => hne rfl)
    | obj cnf => exact absurd hget (h cnf)
    | bool | int | float | str | arr =>
      have herror : verifyTokenBinding claims certificate dpop = refuse .malformed := by
        rw [verifyTokenBinding, Json.get, hget]
        rfl
      refine iff_of_true ⟨iff_of_false (fun hok => ?_) hnot, fun _ => ⟨_, herror⟩, certificate_agrees _ _⟩
        (fun hnull => by cases hnull)
      rw [herror] at hok
      cases hok

/-- **A confirmation is never downgraded**, exactly where it can be read. -/
theorem binding_iff (claims : List (PyStr × Json)) (certificate dpop : Option PyStr) :
    NeverDowngraded claims certificate dpop ↔ Readable claims certificate dpop := by
  by_cases h : ∃ cnf, Assoc.get? claims (lit "cnf") = some (.obj cnf)
  · obtain ⟨cnf, hcnf⟩ := h
    exact binding_iff_obj hcnf
  · exact binding_iff_other (not_exists.1 h)

end Binding

/-! ## A null confirmation -/

/-- A token with `cnf: null` passes as one without `cnf`. -/
theorem not_binding : ¬ ∀ claims certificate dpop, NeverDowngraded claims certificate dpop := by
  intro h
  obtain hnone | ⟨cnf, hcnf, -⟩ := (h [(lit "cnf", .null)] none none).returns.1 rfl
  · cases hnone
  · cases hcnf

end AxiamSdk.TokenBinding
