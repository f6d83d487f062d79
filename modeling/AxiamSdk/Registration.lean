import AxiamSdk.Lib.JsonReadBack
import AxiamSdk.Polling.Answers

/-! # A client registration, read and updated (`_registration.py`)

* `tolerate`: a response split into the named members and the rest.
* `updateBody`: the replacement that is sent for a registration.
* `tolerate_get?`, `updateBody_get?`: both, member by member.
* `survives_iff`: what is read is sent back exactly if the response has no member called `extra`. -/

namespace AxiamSdk.Registration
open PyLib
set_option autoImplicit false

/-! ## Members -/

/-- `SERVER_STATED_MEMBERS` -/
def serverStatedMembers : List PyStr :=
  [lit "registration_access_token", lit "registration_client_uri", lit "client_secret_expires_at",
    lit "client_id_issued_at", lit "client_secret"]

/-- `_STRING_MEMBERS` -/
def stringMembers : List PyStr :=
  [lit "client_name", lit "token_endpoint_auth_method", lit "scope", lit "registration_client_uri", lit "jwks_uri"]

/-- `_INT_MEMBERS` -/
def intMembers : List PyStr := [lit "client_id_issued_at", lit "client_secret_expires_at"]

/-- `_LIST_MEMBERS` -/
def listMembers : List PyStr := [lit "redirect_uris", lit "grant_types", lit "response_types"]

/-- `_SECRET_MEMBERS` -/
def secretMembers : List PyStr := [lit "client_secret", lit "registration_access_token"]

def extraKey : PyStr := lit "extra"

def clientIdKey : PyStr := lit "client_id"

def jwksKey : PyStr := lit "jwks"

def isNull : Json → Bool
  | .null => true
  | _ => false

/-- A list of strings. -/
def asStrings? : Json → Option (List PyStr)
  | .arr xs => xs.mapM Json.asStr?
  | _ => none

/-- `ClientRegistration`, with its `model_fields_set`. -/
structure ClientRegistration where
  clientId : PyStr
  clientIdIssuedAt : Option ℤ
  clientName : Option PyStr
  redirectUris : List PyStr
  grantTypes : List PyStr
  responseTypes : List PyStr
  tokenEndpointAuthMethod : Option PyStr
  scope : Option PyStr
  registrationClientUri : Option PyStr
  clientSecretExpiresAt : Option ℤ
  jwks : Option (List (PyStr × Json))
  jwksUri : Option PyStr
  clientSecret : Option PyStr
  registrationAccessToken : Option PyStr
  extra : Dict PyStr Json
  fieldsSet : List PyStr

/-! ## Splitting a response -/

/-- What a member that is validated can be: a JSON value, or a `SecretStr`. -/
inductive Value
  | json (v : Json)
  | secret (s : PyStr)

/-- One member that the response is searched for: what of its value goes to the named members, and what to those
kept aside. -/
structure Row where
  key : PyStr
  out : Json → Option Value
  kept : Json → Option Json

/-- `take`: a value that is accepted is named, any other but `None` is kept. -/
def take (accept : Json → Bool) (key : PyStr) : Row where
  key := key
  out v := if accept v then some (.json v) else none
  kept v := if accept v || isNull v then none else some v

def takeSecret (key : PyStr) : Row where
  key := key
  out v := v.asStr?.map .secret
  kept _ := none

def takeClientId : Row where
  key := clientIdKey
  out v := some (.json v)
  kept _ := none

/-- The members in the order in which they are taken. -/
def rows : List Row :=
  stringMembers.map (take (fun v => v.asStr?.isSome)) ++ intMembers.map (take (fun v => v.asInt?.isSome)) ++
    listMembers.map (take (fun v => (asStrings? v).isSome)) ++ [take (fun v => v.asObj?.isSome) jwksKey] ++
    secretMembers.map takeSecret ++ [takeClientId]

structure Split where
  raw : Dict PyStr Json
  out : Dict PyStr Value
  kept : Dict PyStr Json

/-- `d[key] = x`, if there is an `x`. -/
def setSome {α : Type} (d : Dict PyStr α) (key : PyStr) : Option α → Dict PyStr α
  | none => d
  | some x => d.set key x

/-- The value of the row is popped and put where it belongs. -/
def pop (s : Split) (r : Row) : Split :=
  match s.raw.get? r.key with
  | none => s
  | some v => ⟨s.raw.erase r.key, setSome s.out r.key (r.out v), setSome s.kept r.key (r.kept v)⟩

def split (raw : Dict PyStr Json) : Split := rows.foldl pop ⟨raw, Dict.empty, Dict.empty⟩

/-- The items stored one after the other. -/
def update (d : Dict PyStr Json) (items : List (PyStr × Json)) : Dict PyStr Json :=
  items.foldl (fun d p => d.set p.1 p.2) d

/-- The same data, unsplit. -/
def asGiven (raw : Dict PyStr Json) : Dict PyStr Value where
  items := raw.items.map (fun p => (p.1, .json p.2))
  nodup := by
    rw [List.map_map]
    exact raw.nodup

/-- `_tolerate` -/
def tolerate (raw : Dict PyStr Json) : Dict PyStr Value :=
  if raw.contains extraKey then asGiven raw
  else
    let s := split raw
    s.out.set extraKey (.json (.obj (update s.raw s.kept.items).items))

/-! ## Validation -/

/-- A field with this name is declared, of a type that has the value. -/
def declares (key : PyStr) : Value → Bool
  | .secret _ => secretMembers.contains key
  | .json v =>
    (decide (key = clientIdKey) && v.asStr?.isSome) ||
      (stringMembers.contains key && (v.asStr?.isSome || isNull v)) ||
      (intMembers.contains key && (v.asInt?.isSome || isNull v)) ||
      (listMembers.contains key && (asStrings? v).isSome) ||
      (decide (key = jwksKey) && (v.asObj?.isSome || isNull v)) ||
      (secretMembers.contains key && isNull v) ||
      (decide (key = extraKey) && v.asObj?.isSome)

/-- Every member is declared with its type, and the `client_id` is there. -/
structure WellTyped (data : Dict PyStr Value) : Prop where
  declared : ∀ key v, data.get? key = some v → declares key v = true
  clientId : ∃ v, data.get? clientIdKey = some v

section Fields
variable (data : Dict PyStr Value)

def jsonField (key : PyStr) : Json :=
  match data.get? key with
  | some (.json v) => v
  | _ => .null

def secretField (key : PyStr) : Option PyStr :=
  match data.get? key with
  | some (.secret s) => some s
  | _ => none

/-- The instance whose fields have the given values, and their defaults otherwise. -/
def asDeclared : ClientRegistration where
  clientId := (jsonField data clientIdKey).asStr?.getD []
  clientIdIssuedAt := (jsonField data (lit "client_id_issued_at")).asInt?
  clientName := (jsonField data (lit "client_name")).asStr?
  redirectUris := (asStrings? (jsonField data (lit "redirect_uris"))).getD []
  grantTypes := (asStrings? (jsonField data (lit "grant_types"))).getD []
  responseTypes := (asStrings? (jsonField data (lit "response_types"))).getD []
  tokenEndpointAuthMethod := (jsonField data (lit "token_endpoint_auth_method")).asStr?
  scope := (jsonField data (lit "scope")).asStr?
  registrationClientUri := (jsonField data (lit "registration_client_uri")).asStr?
  clientSecretExpiresAt := (jsonField data (lit "client_secret_expires_at")).asInt?
  jwks := (jsonField data jwksKey).asObj?
  jwksUri := (jsonField data (lit "jwks_uri")).asStr?
  clientSecret := secretField data (lit "client_secret")
  registrationAccessToken := secretField data (lit "registration_access_token")
  extra := update Dict.empty ((jsonField data extraKey).asObj?.getD [])
  fieldsSet := data.keys

end Fields

/-- The validation of the model by pydantic, `none` for a `ValidationError`: values of the declared types are taken
as they are, and `extra`, a `dict[str, Any]`, takes the items of an object and nothing else. -/
structure Pydantic where
  validate : Dict PyStr Value → Option ClientRegistration
  accepts : ∀ data, WellTyped data → validate data = some (asDeclared data)
  extra : ∀ data m, validate data = some m → ∀ v, data.get? extraKey = some v →
    ∃ ms, v = .json (.obj ms) ∧ m.extra = update Dict.empty ms

/-! ## Reading and updating -/

def validationError : Exc := .other (lit "ValidationError") []

/-- `decode_registration` -/
def decodeRegistration (P : Platform) (V : Pydantic) (operation : PyStr) (r : Polling.Response) :
    Except Polling.PollError ClientRegistration :=
  if 200 ≤ r.status ∧ r.status < 300 then
    match r.json P with
    | .error e =>
      if e.isValueError then .error (.of (.networkError (operation ++ lit ": the response is not JSON") none))
      else .error (.of e)
    | .ok (.obj members) =>
      if (Json.get members clientIdKey).asStr?.isSome then
        match V.validate (tolerate (update Dict.empty members)) with
        | some m => .ok m
        | none => .error (.of validationError)
      else .error (.of (.networkError (operation ++ lit ": the response is not a client registration") none))
    | .ok _ => .error (.of (.networkError (operation ++ lit ": the response is not a client registration") none))
  else .error (Polling.propagated (Polling.errorFromOauth2Response P
    (operation ++ lit " failed with HTTP " ++ JsonDumps.decDigits r.status) r))

/-- The members of the body besides `extra`, each with its value if it is sent. -/
def sent (m : ClientRegistration) : List (PyStr × Option Json) :=
  [(clientIdKey, some (.str m.clientId)),
    (lit "client_name", m.clientName.map .str),
    (lit "token_endpoint_auth_method", m.tokenEndpointAuthMethod.map .str),
    (lit "scope", m.scope.map .str),
    (lit "jwks_uri", m.jwksUri.map .str),
    (lit "redirect_uris", list (lit "redirect_uris") m.redirectUris),
    (lit "grant_types", list (lit "grant_types") m.grantTypes),
    (lit "response_types", list (lit "response_types") m.responseTypes),
    (jwksKey, m.jwks.map .obj)]
where
  /-- A list is sent when it is not empty or was present on the read. -/
  list (key : PyStr) (value : List PyStr) : Option Json :=
    if !value.isEmpty || m.fieldsSet.contains key then some (.arr (value.map .str)) else none

/-- `update_body` -/
def updateBody (m : ClientRegistration) : Dict PyStr Json :=
  (sent m).foldl (fun body p => setSome body p.1 p.2) (m.extra.filter (fun p => !serverStatedMembers.contains p.1))

/-! ## Dictionaries -/

section Dicts
variable {α : Type}

theorem get?_setSome (d : Dict PyStr α) (key : PyStr) (x : Option α) (k : PyStr) :
    (setSome d key x).get? k = if k = key then x.or (d.get? k) else d.get? k := by
  cases x with
  | none => simp [setSome]
  | some x =>
    rw [setSome, Dict.get?_set]
    by_cases hk : k = key
    · subst hk
      simp
    · rw [if_neg (Ne.symm hk), if_neg hk]

theorem get?_filter (d : Dict PyStr α) (p : PyStr × α → Bool) (k : PyStr) :
    (d.filter p).get? k = (d.get? k).filter (fun v => p (k, v)) := by
  apply Option.ext
  intro v
  rw [Dict.get?_filter_eq_some, Option.filter_eq_some_iff]

theorem get?_update (d : Dict PyStr Json) {items : List (PyStr × Json)} (hn : (items.map Prod.fst).Nodup) (k : PyStr) :
    (update d items).get? k = (Assoc.get? items k).or (d.get? k) := by
  induction items generalizing d with
  | nil => rfl
  | cons p items ih =>
    obtain ⟨key, v⟩ := p
    rw [List.map_cons, List.nodup_cons] at hn
    have hstep : update d ((key, v) :: items) = update (d.set key v) items := rfl
    rw [hstep, ih _ hn.2, Assoc.get?_cons, Dict.get?_set]
    by_cases hk : key = k
    · subst hk
      rw [if_pos rfl, if_pos rfl, Assoc.get?_eq_none_iff.2 hn.1]
      rfl
    · rw [if_neg hk, if_neg hk]

theorem mem_of_get?_update {d : Dict PyStr Json} {items : List (PyStr × Json)} {k : PyStr} {v : Json}
    (h : (update d items).get? k = some v) : (k, v) ∈ items ∨ d.get? k = some v := by
  induction items generalizing d with
  | nil => exact Or.inr h
  | cons p items ih =>
    obtain ⟨key, x⟩ := p
    rcases ih (d := d.set key x) h with hmem | hset
    · exact Or.inl (List.mem_cons_of_mem _ hmem)
    · rw [Dict.get?_set] at hset
      split at hset
      · next hk =>
        subst hk
        cases hset
        exact Or.inl List.mem_cons_self
      · exact Or.inr hset

theorem get?_asGiven (raw : Dict PyStr Json) (k : PyStr) : (asGiven raw).get? k = (raw.get? k).map .json := by
  obtain ⟨items, hn⟩ := raw
  show Assoc.get? (items.map (fun p => (p.1, Value.json p.2))) k = (Assoc.get? items k).map .json
  clear hn
  induction items with
  | nil => rfl
  | cons p items ih =>
    obtain ⟨key, v⟩ := p
    rw [List.map_cons, Assoc.get?_cons, Assoc.get?_cons, ih]
    split
    · rfl
    · rfl

end Dicts

/-! ## The split, member by member -/

/-- The row of a member that is taken. -/
def row? (k : PyStr) : Option Row := rows.find? (fun r => r.key = k)

theorem pop_get? (s : Split) (r : Row) (k : PyStr) :
    (pop s r).raw.get? k = (if k = r.key then none else s.raw.get? k) ∧
      (pop s r).out.get? k = (if k = r.key then ((s.raw.get? k).bind r.out).or (s.out.get? k) else s.out.get? k) ∧
      (pop s r).kept.get? k =
        (if k = r.key then ((s.raw.get? k).bind r.kept).or (s.kept.get? k) else s.kept.get? k) := by
  unfold pop
  cases hv : s.raw.get? r.key with
  | none =>
    by_cases hk : k = r.key
    · subst hk
      simp [hv]
    · simp [hk]
  | some v =>
    dsimp only
    rw [Dict.get?_erase, get?_setSome, get?_setSome]
    by_cases hk : k = r.key
    · subst hk
      simp [hv]
    · simp [hk, Ne.symm hk]

/-- **The split**: a member that is taken goes where its row says, any other stays. -/
theorem foldl_pop_get? (rs : List Row) (s : Split) (k : PyStr) :
    (rs.foldl pop s).raw.get? k = (if (rs.find? (fun r => r.key = k)).isSome then none else s.raw.get? k) ∧
      (rs.foldl pop s).out.get? k =
        ((rs.find? (fun r => r.key = k)).bind (fun r => (s.raw.get? k).bind r.out)).or (s.out.get? k) ∧
      (rs.foldl pop s).kept.get? k =
        ((rs.find? (fun r => r.key = k)).bind (fun r => (s.raw.get? k).bind r.kept)).or (s.kept.get? k) := by
  induction rs generalizing s with
  | nil => simp
  | cons r rs ih =>
    obtain ⟨hraw, hout, hkept⟩ := ih (pop s r)
    obtain ⟨hraw', hout', hkept'⟩ := pop_get? s r k
    rw [List.foldl_cons, hraw, hout, hkept, hraw', hout', hkept']
    by_cases hk : k = r.key
    · subst hk
      simp
    · have hk' : ¬ r.key = k := Ne.symm hk
      simp [hk, hk']

theorem split_get? (raw : Dict PyStr Json) (k : PyStr) :
    (split raw).raw.get? k = (if (row? k).isSome then none else raw.get? k) ∧
      (split raw).out.get? k = (row? k).bind (fun r => (raw.get? k).bind r.out) ∧
      (split raw).kept.get? k = (row? k).bind (fun r => (raw.get? k).bind r.kept) := by
  obtain ⟨hraw, hout, hkept⟩ := foldl_pop_get? rows ⟨raw, Dict.empty, Dict.empty⟩ k
  refine ⟨hraw, ?_, ?_⟩
  · rw [split, hout, Dict.get?_empty, Option.or_none]
    rfl
  · rw [split, hkept, Dict.get?_empty, Option.or_none]
    rfl

/-- What is kept in `extra`. -/
def keptAside (raw : Dict PyStr Json) : Dict PyStr Json := update (split raw).raw (split raw).kept.items

theorem keptAside_get? (raw : Dict PyStr Json) (k : PyStr) :
    (keptAside raw).get? k = match row? k with
      | some r => (raw.get? k).bind r.kept
      | none => raw.get? k := by
  obtain ⟨hraw, -, hkept⟩ := split_get? raw k
  have hitems : Assoc.get? (split raw).kept.items k = (split raw).kept.get? k := rfl
  rw [keptAside, get?_update _ (split raw).kept.nodup, hitems, hraw, hkept]
  cases row? k with
  | none => rfl
  | some r => simp

section Tolerate
variable {raw : Dict PyStr Json} (hextra : raw.get? extraKey = none)
include hextra

theorem tolerate_eq : tolerate raw = (split raw).out.set extraKey (.json (.obj (keptAside raw).items)) := by
  have hnot : raw.contains extraKey = false := by
    rw [Dict.contains, hextra]
    rfl
  rw [tolerate, hnot]
  rfl

theorem tolerate_get? {k : PyStr} (hk : k ≠ extraKey) :
    (tolerate raw).get? k = (row? k).bind (fun r => (raw.get? k).bind r.out) := by
  rw [tolerate_eq hextra, Dict.get?_set_ne _ _ (Ne.symm hk), (split_get? raw k).2.1]

theorem tolerate_extra : (tolerate raw).get? extraKey = some (.json (.obj (keptAside raw).items)) := by
  rw [tolerate_eq hextra, Dict.get?_set_self]

end Tolerate

/-! ## The model that is read -/

theorem take_out {accept : Json → Bool} {key : PyStr} {x : Json} {v : Value} (h : (take accept key).out x = some v) :
    v = .json x ∧ accept x = true := by
  simp only [take] at h
  split at h
  · next haccept =>
    cases h
    exact ⟨rfl, haccept⟩
  · cases h

theorem row_declares {r : Row} (hr : r ∈ rows) {x : Json} {v : Value} (h : r.out x = some v)
    (hid : r.key = clientIdKey → x.asStr?.isSome = true) : declares r.key v = true := by
  simp only [rows, List.mem_append, List.mem_map, List.mem_singleton] at hr
  obtain ((((⟨key, hkey, rfl⟩ | ⟨key, hkey, rfl⟩) | ⟨key, hkey, rfl⟩) | rfl) | ⟨key, hkey, rfl⟩) | rfl := hr
  · obtain ⟨rfl, haccept⟩ := take_out h
    simp [declares, take, hkey, haccept]
  · obtain ⟨rfl, haccept⟩ := take_out h
    simp [declares, take, hkey, haccept]
  · obtain ⟨rfl, haccept⟩ := take_out h
    simp [declares, take, hkey, haccept]
  · obtain ⟨rfl, haccept⟩ := take_out h
    simp [declares, take, haccept]
  · obtain ⟨secret, -, rfl⟩ := Option.map_eq_some_iff.1 h
    exact List.contains_iff_mem.2 hkey
  · cases h
    simp [declares, takeClientId, hid rfl]

theorem row?_some {k : PyStr} {r : Row} (h : row? k = some r) : r ∈ rows ∧ r.key = k :=
  ⟨List.mem_of_find?_eq_some h, by simpa using List.find?_some h⟩

theorem tolerate_wellTyped {raw : Dict PyStr Json} (hextra : raw.get? extraKey = none) {c : PyStr}
    (hid : raw.get? clientIdKey = some (.str c)) : WellTyped (tolerate raw) := by
  constructor
  · intro key v hv
    by_cases hk : key = extraKey
    · subst hk
      rw [tolerate_extra hextra] at hv
      cases hv
      simp [declares, Json.asObj?]
    · rw [tolerate_get? hextra hk] at hv
      obtain ⟨r, hr, hvalue⟩ := Option.bind_eq_some_iff.1 hv
      obtain ⟨x, hx, hout⟩ := Option.bind_eq_some_iff.1 hvalue
      obtain ⟨hmem, rfl⟩ := row?_some hr
      refine row_declares hmem hout (fun hkey => ?_)
      rw [hkey, hid] at hx
      cases hx
      rfl
  · refine ⟨.json (.str c), ?_⟩
    have hrow : row? clientIdKey = some takeClientId := rfl
    rw [tolerate_get? hextra (by decide), hrow, hid]
    rfl

/-! ## The update, member by member -/

theorem get?_foldl_setSome {l : List (PyStr × Option Json)} (hn : (l.map Prod.fst).Nodup) (d : Dict PyStr Json)
    (k : PyStr) : (l.foldl (fun body p => setSome body p.1 p.2) d).get? k = (Assoc.get? l k).join.or (d.get? k) := by
  induction l generalizing d with
  | nil => rfl
  | cons p l ih =>
    obtain ⟨key, x⟩ := p
    rw [List.map_cons, List.nodup_cons] at hn
    rw [List.foldl_cons, ih hn.2, get?_setSome, Assoc.get?_cons]
    by_cases hk : key = k
    · subst hk
      rw [if_pos rfl, if_pos rfl, Assoc.get?_eq_none_iff.2 hn.1]
      rfl
    · rw [if_neg hk, if_neg (Ne.symm hk)]

theorem sent_keys (m : ClientRegistration) : (sent m).map Prod.fst =
    [clientIdKey, lit "client_name", lit "token_endpoint_auth_method", lit "scope", lit "jwks_uri", lit "redirect_uris",
      lit "grant_types", lit "response_types", jwksKey] := rfl

theorem updateBody_get? (m : ClientRegistration) (k : PyStr) : (updateBody m).get? k =
    (Assoc.get? (sent m) k).join.or (if serverStatedMembers.contains k then none else m.extra.get? k) := by
  have hn : ((sent m).map Prod.fst).Nodup := by
    rw [sent_keys]
    decide
  rw [updateBody, get?_foldl_setSome hn, get?_filter]
  congr 1
  cases m.extra.get? k with
  | none => simp
  | some v =>
    rw [Option.filter_some]
    cases serverStatedMembers.contains k with
    | true => rfl
    | false => rfl

/-- The named members of the model. -/
def namedMembers : List PyStr :=
  clientIdKey :: jwksKey :: stringMembers ++ intMembers ++ listMembers ++ secretMembers

/-- The response without the members that the server states and without the named members that are null. -/
def expected (raw : Dict PyStr Json) : Dict PyStr Json :=
  raw.filter (fun p => !serverStatedMembers.contains p.1 && !(namedMembers.contains p.1 && isNull p.2))

theorem expected_get? (raw : Dict PyStr Json) (k : PyStr) : (expected raw).get? k =
    (raw.get? k).filter (fun v => !serverStatedMembers.contains k && !(namedMembers.contains k && isNull v)) :=
  get?_filter _ _ _

/-! ## What is read and sent -/

theorem asStrings?_eq {v : Json} {ss : List PyStr} (h : asStrings? v = some ss) : v = .arr (ss.map .str) := by
  cases v with
  | arr xs =>
    simp only [asStrings?] at h
    congr 1
    induction xs generalizing ss with
    | nil =>
      cases h
      rfl
    | cons x xs ih =>
      rw [List.mapM_cons] at h
      obtain ⟨s, hs, h⟩ := Option.bind_eq_some_iff.1 h
      obtain ⟨rest, hrest, h⟩ := Option.bind_eq_some_iff.1 h
      cases h
      rw [ih hrest]
      cases x with
      | str t =>
        cases hs
        rfl
      | _ => cases hs
  | _ => cases h

section Member
variable {raw : Dict PyStr Json} (hextra : raw.get? extraKey = none) {k : PyStr}
include hextra

/-- What a reader makes of a member that is taken: the value, if it is accepted. -/
theorem read_take {accept : Json → Bool} (read : Json → Option Json)
    (hread : ∀ v, read v = if accept v then some v else none) (hnull : accept .null = false)
    (hrow : row? k = some (take accept k)) (hk : k ≠ extraKey) :
    read (jsonField (tolerate raw) k) = (raw.get? k).filter accept := by
  rw [jsonField, tolerate_get? hextra hk, hrow]
  cases raw.get? k with
  | none => simp [hread, hnull]
  | some v =>
    by_cases haccept : accept v = true
    · simp [take, haccept, hread, Option.filter_some]
    · simp [take, haccept, hread, hnull, Option.filter_some]

omit hextra in
theorem filter_or_kept {accept : Json → Bool} (hnull : accept .null = false) (x : Option Json) :
    (x.filter accept).or (x.bind (take accept k).kept) = x.filter (fun v => !isNull v) := by
  cases x with
  | none => rfl
  | some v =>
    by_cases haccept : accept v = true
    · have hv : isNull v = false := by
        cases v with
        | null =>
          rw [hnull] at haccept
          cases haccept
        | _ => rfl
      simp [haccept, hv, Option.filter_some]
    · cases hv : isNull v with
      | true => simp [take, haccept, hv, Option.filter_some]
      | false => simp [take, haccept, hv, Option.filter_some]

theorem mem_fieldsSet (hk : k ≠ extraKey) {accept : Json → Bool} (hrow : row? k = some (take accept k)) :
    (tolerate raw).keys.contains k = (raw.get? k).any accept := by
  have hkeys : (tolerate raw).keys.contains k = ((tolerate raw).get? k).isSome := by
    rw [Bool.eq_iff_iff, List.contains_iff_mem, Option.isSome_iff_ne_none, Dict.get?, Dict.keys, Ne,
      Assoc.get?_eq_none_iff, not_not]
  rw [hkeys, tolerate_get? hextra hk, hrow]
  cases raw.get? k with
  | none => rfl
  | some v =>
    by_cases haccept : accept v = true
    · simp [take, haccept]
    · simp [take, haccept]

theorem sent_list (hk : k ≠ extraKey) (hrow : row? k = some (take (fun v => (asStrings? v).isSome) k))
    {m : ClientRegistration} (hset : m.fieldsSet = (tolerate raw).keys) :
    sent.list m k ((asStrings? (jsonField (tolerate raw) k)).getD []) =
      (raw.get? k).filter (fun v => (asStrings? v).isSome) := by
  rw [sent.list, hset, mem_fieldsSet hextra hk hrow, jsonField, tolerate_get? hextra hk, hrow]
  cases raw.get? k with
  | none => rfl
  | some v =>
    have hnull : asStrings? .null = none := rfl
    cases hv : asStrings? v with
    | none => simp [take, hv, hnull, Option.filter_some]
    | some ss =>
      simp [take, hv, Option.filter_some, ← asStrings?_eq hv]

end Member

/-! ## Round trip -/

section RoundTrip
variable {raw : Dict PyStr Json} (hextra : raw.get? extraKey = none)
include hextra

theorem extra_get? (k : PyStr) : (asDeclared (tolerate raw)).extra.get? k = (keptAside raw).get? k := by
  have hfield : (jsonField (tolerate raw) extraKey).asObj?.getD [] = (keptAside raw).items := by
    rw [jsonField, tolerate_extra hextra]
    rfl
  rw [asDeclared, hfield, get?_update _ (keptAside raw).nodup, Dict.get?_empty, Option.or_none]
  rfl

/-- A member of which the body sends what was accepted, and keeps the rest. -/
theorem taken_survives {k : PyStr} {accept : Json → Bool} (hnull : accept .null = false)
    (hrow : row? k = some (take accept k)) (hstated : serverStatedMembers.contains k = false)
    (hnamed : namedMembers.contains k = true)
    (hsent : (Assoc.get? (sent (asDeclared (tolerate raw))) k).join = (raw.get? k).filter accept) :
    (updateBody (asDeclared (tolerate raw))).get? k = (expected raw).get? k := by
  rw [updateBody_get?, hsent, hstated, extra_get? hextra, keptAside_get?, hrow, expected_get?, hstated, hnamed]
  simp only [Bool.false_eq_true, if_false, Bool.not_false, Bool.true_and]
  exact filter_or_kept hnull (raw.get? k)

theorem string_survives {k : PyStr} (hrow : row? k = some (take (fun v => v.asStr?.isSome) k))
    (hstated : serverStatedMembers.contains k = false) (hnamed : namedMembers.contains k = true) (hk : k ≠ extraKey)
    (hsent : Assoc.get? (sent (asDeclared (tolerate raw))) k =
      some ((jsonField (tolerate raw) k).asStr?.map .str)) :
    (updateBody (asDeclared (tolerate raw))).get? k = (expected raw).get? k := by
  refine taken_survives hextra rfl hrow hstated hnamed ?_
  rw [hsent]
  refine read_take hextra (fun v => v.asStr?.map .str) (fun v => ?_) rfl hrow hk
  cases v with
  | str s => rfl
  | _ => rfl

theorem list_survives {k : PyStr} (hrow : row? k = some (take (fun v => (asStrings? v).isSome) k))
    (hstated : serverStatedMembers.contains k = false) (hnamed : namedMembers.contains k = true) (hk : k ≠ extraKey)
    (hsent : Assoc.get? (sent (asDeclared (tolerate raw))) k =
      some (sent.list (asDeclared (tolerate raw)) k ((asStrings? (jsonField (tolerate raw) k)).getD []))) :
    (updateBody (asDeclared (tolerate raw))).get? k = (expected raw).get? k := by
  refine taken_survives hextra rfl hrow hstated hnamed ?_
  rw [hsent]
  exact sent_list hextra hk hrow rfl

omit hextra in
theorem stated_survives {k : PyStr} (hstated : serverStatedMembers.contains k = true)
    (hsent : Assoc.get? (sent (asDeclared (tolerate raw))) k = none) :
    (updateBody (asDeclared (tolerate raw))).get? k = (expected raw).get? k := by
  rw [updateBody_get?, hsent, hstated, expected_get?, hstated]
  cases raw.get? k with
  | none => rfl
  | some v => rfl

theorem jwks_survives : (updateBody (asDeclared (tolerate raw))).get? jwksKey = (expected raw).get? jwksKey := by
  have hrow : row? jwksKey = some (take (fun v => v.asObj?.isSome) jwksKey) := rfl
  have hsent : Assoc.get? (sent (asDeclared (tolerate raw))) jwksKey =
      some ((jsonField (tolerate raw) jwksKey).asObj?.map .obj) := rfl
  refine taken_survives hextra rfl hrow rfl rfl ?_
  rw [hsent]
  refine read_take hextra (fun v => v.asObj?.map .obj) (fun v => ?_) rfl hrow (by decide)
  cases v with
  | obj ms => rfl
  | _ => rfl

theorem clientId_survives {c : PyStr} (hid : raw.get? clientIdKey = some (.str c)) :
    (updateBody (asDeclared (tolerate raw))).get? clientIdKey = (expected raw).get? clientIdKey := by
  have hrow : row? clientIdKey = some takeClientId := rfl
  have hfield : jsonField (tolerate raw) clientIdKey = .str c := by
    rw [jsonField, tolerate_get? hextra (by decide), hrow, hid]
    rfl
  have hsent : Assoc.get? (sent (asDeclared (tolerate raw))) clientIdKey =
      some (some (.str ((jsonField (tolerate raw) clientIdKey).asStr?.getD []))) := rfl
  rw [updateBody_get?, hsent, hfield, expected_get?, hid]
  rfl

theorem unnamed_survives {k : PyStr} (hk : k ∉ namedMembers) :
    (updateBody (asDeclared (tolerate raw))).get? k = (expected raw).get? k := by
  have hnamed : namedMembers.contains k = false := by
    rw [Bool.eq_false_iff]
    exact fun h => hk (List.contains_iff_mem.1 h)
  have hstated : serverStatedMembers.contains k = false := by
    have hsub : serverStatedMembers ⊆ namedMembers := by decide
    rw [Bool.eq_false_iff]
    exact fun h => hk (hsub (List.contains_iff_mem.1 h))
  have hsent : Assoc.get? (sent (asDeclared (tolerate raw))) k = none := by
    have hsub : (sent (asDeclared (tolerate raw))).map Prod.fst ⊆ namedMembers := by
      rw [sent_keys]
      decide
    rw [Assoc.get?_eq_none_iff]
    exact fun h => hk (hsub h)
  have hrow : row? k = none := by
    have hsub : rows.map Row.key ⊆ namedMembers := by decide
    refine List.find?_eq_none.2 (fun r hr => ?_)
    rw [decide_eq_true_eq]
    rintro rfl
    exact hk (hsub (List.mem_map_of_mem hr))
  rw [updateBody_get?, hsent, hstated, extra_get? hextra, keptAside_get?, hrow, expected_get?, hstated, hnamed]
  cases raw.get? k with
  | none => rfl
  | some v => rfl

/-- **What is read is sent back**, member by member. -/
theorem updateBody_eq {c : PyStr} (hid : raw.get? clientIdKey = some (.str c)) (k : PyStr) :
    (updateBody (asDeclared (tolerate raw))).get? k = (expected raw).get? k := by
  by_cases hnamed : k ∈ namedMembers
  · simp only [namedMembers, stringMembers, intMembers, listMembers, secretMembers, List.cons_append, List.nil_append,
      List.mem_cons, List.not_mem_nil, or_false] at hnamed
    obtain rfl | rfl | rfl | rfl | rfl | rfl | rfl | rfl | rfl | rfl | rfl | rfl | rfl | rfl := hnamed
    · exact clientId_survives hextra hid
    · exact jwks_survives hextra
    · exact string_survives hextra rfl rfl rfl (by decide) rfl
    · exact string_survives hextra rfl rfl rfl (by decide) rfl
    · exact string_survives hextra rfl rfl rfl (by decide) rfl
    · exact stated_survives rfl rfl
    · exact string_survives hextra rfl rfl rfl (by decide) rfl
    · exact stated_survives rfl rfl
    · exact stated_survives rfl rfl
    · exact list_survives hextra rfl rfl rfl (by decide) rfl
    · exact list_survives hextra rfl rfl rfl (by decide) rfl
    · exact list_survives hextra rfl rfl rfl (by decide) rfl
    · exact stated_survives rfl rfl
    · exact stated_survives rfl rfl
  · exact unnamed_survives hextra hnamed

end RoundTrip

/-! ## Surviving a read and an update -/

/-- No object is its own member. -/
theorem not_own_member {k : PyStr} {ms : List (PyStr × Json)} : (k, Json.obj ms) ∉ ms := by
  intro h
  have hdepth := (Json.depthMembers_le_iff ms _).1 (Nat.le_refl _) _ h
  rw [Json.depth] at hdepth
  exact absurd hdepth (by omega)

/-- A 200 response with this object for a body. -/
structure Read (P : Platform) (r : Polling.Response) (raw : Dict PyStr Json) (c : PyStr) : Prop where
  status : r.status = 200
  body : P.loads r.body = .ok (.obj raw.items)
  clientId : raw.get? clientIdKey = some (.str c)

section Read
variable {P : Platform} {V : Pydantic} {operation : PyStr} {r : Polling.Response} {raw : Dict PyStr Json} {c : PyStr}

theorem update_new {d : Dict PyStr Json} {items : List (PyStr × Json)} (hn : ((d.items ++ items).map Prod.fst).Nodup) :
    (update d items).items = d.items ++ items := by
  induction items generalizing d with
  | nil => simp [update]
  | cons p items ih =>
    obtain ⟨k, v⟩ := p
    have hk : k ∉ d.items.map Prod.fst := by
      rw [List.map_append, List.nodup_append] at hn
      intro hmem
      exact hn.2.2 k hmem k List.mem_cons_self rfl
    have hset : (d.set k v).items = d.items ++ [(k, v)] := Assoc.set_absent hk v
    have hstep : update d ((k, v) :: items) = update (d.set k v) items := rfl
    rw [hstep, ih (by rwa [hset, List.append_assoc, List.singleton_append]), hset, List.append_assoc,
      List.singleton_append]

theorem update_items (raw : Dict PyStr Json) : update Dict.empty raw.items = raw := by
  obtain ⟨items, hn⟩ := raw
  have h : (update Dict.empty items).items = items := update_new hn
  cases hd : update Dict.empty items with
  | mk items' hn' =>
    rw [hd] at h
    subst h
    rfl

theorem decodeRegistration_read (h : Read P r raw c) : decodeRegistration P V operation r =
    match V.validate (tolerate raw) with
    | some m => .ok m
    | none => .error (.of validationError) := by
  obtain ⟨hstatus, hbody, hid⟩ := h
  have hjson : r.json P = .ok (.obj raw.items) := hbody
  have hclient : (Json.get raw.items clientIdKey).asStr?.isSome = true := by
    have hget : Assoc.get? raw.items clientIdKey = some (.str c) := hid
    rw [Json.get, hget]
    rfl
  rw [decodeRegistration, hstatus, if_pos (by decide), hjson]
  simp only [hclient, if_true, update_items]

/-- **A registration survives read-then-update** exactly if the response has no member called `extra`. -/
theorem survives_iff (V : Pydantic) (operation : PyStr) (h : Read P r raw c) :
    (∃ m, decodeRegistration P V operation r = .ok m ∧ ∀ k, (updateBody m).get? k = (expected raw).get? k) ↔
      raw.get? extraKey = none := by
  rw [decodeRegistration_read h]
  constructor
  · rintro ⟨m, hm, hall⟩
    by_contra hsome
    obtain ⟨v, hv⟩ := Option.ne_none_iff_exists'.1 hsome
    have hgiven : tolerate raw = asGiven raw := by
      rw [tolerate, Dict.contains, hv]
      rfl
    cases hvalid : V.validate (tolerate raw) with
    | none =>
      rw [hvalid] at hm
      cases hm
    | some m' =>
      rw [hvalid] at hm
      cases hm
      have hdata : (tolerate raw).get? extraKey = some (.json v) := by
        rw [hgiven, get?_asGiven, hv]
        rfl
      obtain ⟨ms, hms, hextra⟩ := V.extra _ _ hvalid _ hdata
      cases hms
      have hkey := hall extraKey
      have hsent : Assoc.get? (sent m) extraKey = none := rfl
      rw [updateBody_get?, hsent, hextra, expected_get?, hv] at hkey
      rcases mem_of_get?_update (d := Dict.empty) hkey with hmem | hempty
      · exact not_own_member hmem
      · cases hempty
  · intro hextra
    rw [V.accepts _ (tolerate_wellTyped hextra h.clientId)]
    exact ⟨_, rfl, updateBody_eq hextra h.clientId⟩

end Read

/-! ## A member called extra -/

theorem declares_extra (x : Json) : declares extraKey (.json x) = x.asObj?.isSome := by
  have hid : decide (extraKey = clientIdKey) = false := rfl
  have hstring : stringMembers.contains extraKey = false := rfl
  have hint : intMembers.contains extraKey = false := rfl
  have hlist : listMembers.contains extraKey = false := rfl
  have hjwks : decide (extraKey = jwksKey) = false := rfl
  have hsecret : secretMembers.contains extraKey = false := rfl
  simp only [declares, hid, hstring, hint, hlist, hjwks, hsecret, Bool.false_and, Bool.false_or, decide_true, Bool.true_and]

namespace Extra

/-- Validation that takes values of the declared types and no others. -/
def strict : Pydantic where
  validate data :=
    if data.items.all (fun p => declares p.1 p.2) && data.contains clientIdKey then some (asDeclared data) else none
  accepts data h := by
    have hall : data.items.all (fun p => declares p.1 p.2) = true := by
      rw [List.all_eq_true]
      exact fun p hp => h.declared p.1 p.2 ((Dict.mem_iff_get? data p.1 p.2).1 hp)
    rw [hall, (Dict.contains_iff data clientIdKey).2 h.clientId]
    rfl
  extra data m h v hv := by
    split at h
    · next hvalid =>
      cases h
      rw [Bool.and_eq_true, List.all_eq_true] at hvalid
      have hdeclared : declares extraKey v = true := hvalid.1 _ ((Dict.mem_iff_get? data extraKey v).2 hv)
      cases v with
      | secret s => cases hdeclared
      | json x =>
        rw [declares_extra] at hdeclared
        cases x with
        | obj ms =>
          have hfield : jsonField data extraKey = .obj ms := by rw [jsonField, hv]
          exact ⟨ms, rfl, by rw [asDeclared, hfield]; rfl⟩
        | _ => cases hdeclared
    · cases h

def platform : Platform := ⟨⟨4300, 990, 990, fun _ => []⟩, fun _ _ => List.replicate 32 0, fun _ => none⟩

/-- The response with this body. -/
def response (raw : Dict PyStr Json) : Polling.Response :=
  ⟨200, by decide, JsonText.utf8 (JsonText.render false (fun _ => []) (.obj raw.items)), some none⟩

def registered : Dict PyStr Json :=
  ⟨[(clientIdKey, .str (lit "c")), (lit "redirect_uris", .arr [.str (lit "u")]), (lit "scope", .int 5), (lit "jwks", .null)],
    by decide⟩

def withExtra : Dict PyStr Json := ⟨[(clientIdKey, .str (lit "c")), (extraKey, .obj [])], by decide⟩

theorem registered_read : Read platform (response registered) registered (lit "c") := by
  refine ⟨rfl, ?_, rfl⟩
  have hread : JsonText.Readable platform.interp (fun _ => []) (.obj registered.items) := by
    refine ⟨rfl, by unfold Json.Distinct; decide, fun x hx => ?_⟩
    simp [registered, Json.nodes, Json.nodesList, Json.nodesMembers] at hx
  have hloads : loads platform.interp (response registered).body = .ok (.obj registered.items) :=
    (JsonText.loads_utf8_obj _ _ _).trans (JsonText.decodeJson_render (by decide) hread)
  rw [Platform.loads, hloads]
  rfl

theorem withExtra_read : Read platform (response withExtra) withExtra (lit "c") := by
  refine ⟨rfl, ?_, rfl⟩
  have hread : JsonText.Readable platform.interp (fun _ => []) (.obj withExtra.items) := by
    refine ⟨rfl, by unfold Json.Distinct; decide, fun x hx => ?_⟩
    simp [withExtra, Json.nodes, Json.nodesMembers] at hx
  have hloads : loads platform.interp (response withExtra).body = .ok (.obj withExtra.items) :=
    (JsonText.loads_utf8_obj _ _ _).trans (JsonText.decodeJson_render (by decide) hread)
  rw [Platform.loads, hloads]
  rfl

end Extra

open Extra in
theorem registered_survives : ∃ m, decodeRegistration platform strict (lit "read") (response registered) = .ok m ∧
    ∀ k, (updateBody m).get? k = (expected registered).get? k :=
  (survives_iff strict (lit "read") registered_read).2 rfl

open Extra in
/-- A member called `extra` is taken for the field of the model, and lost from the body. -/
theorem not_survives : ¬ ∀ (P : Platform) (V : Pydantic) (operation : PyStr) (r : Polling.Response)
    (raw : Dict PyStr Json) (c : PyStr), Read P r raw c →
      ∃ m, decodeRegistration P V operation r = .ok m ∧ ∀ k, (updateBody m).get? k = (expected raw).get? k := by
  intro h
  obtain ⟨m, hm, hall⟩ := h platform strict (lit "read") (response withExtra) withExtra (lit "c") withExtra_read
  rw [decodeRegistration_read withExtra_read] at hm
  cases hm
  have hlost := hall extraKey
  cases hlost

end AxiamSdk.Registration
