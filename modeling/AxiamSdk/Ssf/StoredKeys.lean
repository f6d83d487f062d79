import AxiamSdk.Lib.JsonReadBack
import AxiamSdk.Ssf.KeyFetch

/-! # The keys of a JWKS document (`ssf/_receiver.py`)

`store_jwks` reads the `keys` array entry by entry and installs what it has read at the end.

* `builtKey`: what one entry adds for a `kid`; `readEntries_get?`: the last that adds one counts.
* `readEntries_iff`: the entries are read through exactly if `jwt.PyJWK` lets no foreign exception escape.
* `unusable_entries_iff`: of a document with a `keys` array, then and only then the built keys are stored. -/

namespace AxiamSdk.Ssf
open PyLib
set_option autoImplicit false

variable {Key : Type}

/-! ## Entries -/

/-- What `jwt.PyJWK` makes of an entry that is an object whose `kid` is a string. -/
def entryOutcome (C : KeyConfig Key) (entry : Json) : Option (PyStr × JwkOutcome Key) :=
  entry.asObj?.bind (fun members => (Json.get members (lit "kid")).asStr?.map (fun kid => (kid, C.pyJwk members)))

/-- The key that is built from the entry, if it is one of the `kid`. -/
def builtKey (C : KeyConfig Key) (kid : PyStr) (entry : Json) : Option Key :=
  match entryOutcome C entry with
  | some (k, .key key) => if k = kid then some key else none
  | _ => none

/-- The key of the last entry of the `kid` from which one is built. -/
def lastBuilt (C : KeyConfig Key) (entries : List Json) (kid : PyStr) : Option Key :=
  (entries.filterMap (builtKey C kid)).getLast?

/-- No entry makes `jwt.PyJWK` raise an exception that is not a `PyJWTError`. -/
def NoneEscapes (C : KeyConfig Key) (entries : List Json) : Prop :=
  ∀ entry ∈ entries, ∀ kid e, entryOutcome C entry ≠ some (kid, .escaped e)

section Entries
variable {C : KeyConfig Key} {entries : List Json} {keys keys' : Dict PyStr Key}

theorem readEntries_cons (entry : Json) (rest : List Json) (keys : Dict PyStr Key) :
    readEntries C (entry :: rest) keys = match entryOutcome C entry with
      | none | some (_, .jwtError) => readEntries C rest keys
      | some (kid, .key key) => readEntries C rest (keys.set kid key)
      | some (_, .escaped e) => .error e := by
  rw [readEntries, entryOutcome]
  cases entry.asObj? with
  | none => rfl
  | some members =>
    simp only [Option.bind_some]
    cases (Json.get members (lit "kid")).asStr? with
    | none => rfl
    | some kid =>
      simp only [Option.map_some]
      cases C.pyJwk members with
      | key key => rfl
      | jwtError => rfl
      | escaped e => rfl

theorem lastBuilt_cons (entry : Json) (rest : List Json) (kid : PyStr) :
    lastBuilt C (entry :: rest) kid = (lastBuilt C rest kid).or (builtKey C kid entry) := by
  unfold lastBuilt
  rw [List.filterMap_cons]
  cases builtKey C kid entry with
  | none => simp
  | some key =>
    simp only [List.getLast?_cons]
    cases (rest.filterMap (builtKey C kid)).getLast? with
    | none => rfl
    | some last => rfl

/-- **What is read of the entries**: for each `kid` the last key built, or what was there before. -/
theorem readEntries_get? (h : readEntries C entries keys = .ok keys') (kid : PyStr) :
    keys'.get? kid = (lastBuilt C entries kid).or (keys.get? kid) := by
  induction entries generalizing keys with
  | nil =>
    cases h
    rfl
  | cons entry rest ih =>
    rw [readEntries_cons] at h
    rw [lastBuilt_cons, Option.or_assoc]
    cases hentry : entryOutcome C entry with
    | none =>
      rw [hentry] at h
      have hbuilt : builtKey C kid entry = none := by rw [builtKey, hentry]
      rw [ih h, hbuilt, Option.none_or]
    | some pair =>
      obtain ⟨k, outcome⟩ := pair
      rw [hentry] at h
      cases outcome with
      | key key =>
        have hbuilt : builtKey C kid entry = if k = kid then some key else none := by rw [builtKey, hentry]
        rw [ih h, hbuilt, Dict.get?_set]
        by_cases hk : k = kid
        · subst hk
          simp
        · simp [hk]
      | jwtError =>
        have hbuilt : builtKey C kid entry = none := by rw [builtKey, hentry]
        rw [ih h, hbuilt, Option.none_or]
      | escaped e => cases h

theorem readEntries_iff (keys : Dict PyStr Key) :
    (∃ keys', readEntries C entries keys = .ok keys') ↔ NoneEscapes C entries := by
  induction entries generalizing keys with
  | nil => simp [readEntries, NoneEscapes]
  | cons entry rest ih =>
    rw [readEntries_cons, NoneEscapes, List.forall_mem_cons, ← NoneEscapes]
    cases entryOutcome C entry with
    | none => simpa using ih keys
    | some pair =>
      obtain ⟨k, outcome⟩ := pair
      cases outcome with
      | key key => simpa using ih (keys.set k key)
      | jwtError => simpa using ih keys
      | escaped e => simp

end Entries

/-! ## Documents -/

/-- The response is a JSON object with a `keys` array. -/
structure KeysDocument (C : KeyConfig Key) (status : ℕ) (body : Bytes) (entries : List Json) : Prop where
  success : isSuccess status = true
  parsed : ∃ members, C.platform.loads body = .ok (.obj members) ∧ Json.get members (lit "keys") = .arr entries

section Documents
variable {C : KeyConfig Key} {W : World} {status : ℕ} {body : Bytes} {entries : List Json}

theorem readJwks_document (h : KeysDocument C status body entries) :
    readJwks C status body = readEntries C entries Dict.empty := by
  obtain ⟨members, hloads, hkeys⟩ := h.parsed
  have hbody : jsonBody C body "ssf: the JWKS is not JSON" = .ok (.obj members) := by
    rw [jsonBody, hloads]
  rw [readJwks, if_neg (by rw [h.success]; exact Bool.noConfusion), hbody]
  dsimp only [bind, Except.bind]
  rw [show Json.get ((Json.obj members).asObj?.getD []) (lit "keys") = .arr entries from hkeys]

/-- **One unusable entry and the others.** `store_jwks` returns, with the last key built for each `kid` and no
others, exactly if no entry makes `jwt.PyJWK` raise anything but a `PyJWTError`. -/
theorem unusable_entries_iff (h : KeysDocument C status body entries) (forced : Bool) (k : KeyCache Key) :
    ((storeJwks C W status body forced k).1 = .ok () ∧
      ∃ keys, (storeJwks C W status body forced k).2.keys = some keys ∧
        ∀ kid, keys.get? kid = lastBuilt C entries kid) ↔ NoneEscapes C entries := by
  rw [← readEntries_iff Dict.empty, storeJwks, readJwks_document h]
  cases hread : readEntries C entries Dict.empty with
  | error e => simp
  | ok keys =>
    refine ⟨fun _ => ⟨keys, rfl⟩, fun _ => ⟨rfl, keys, rfl, fun kid => ?_⟩⟩
    rw [readEntries_get? hread, Dict.get?_empty, Option.or_none]

end Documents

/-! ## A document with an unusable entry -/

namespace TwoKeys
open MalformedKey

/-- An Ed25519 key, and an entry of the `kid` b whose `x` is given. -/
def entries (x : Json) : List Json :=
  [.obj [(lit "kid", .str (lit "a")), (lit "kty", .str (lit "OKP")), (lit "crv", .str (lit "Ed25519")),
      (lit "x", .str (lit "11qYAYKxCrfVS_7TyWQHOg7hcvPapiMlrwIaaPcHURo"))],
    .obj [(lit "kid", .str (lit "b")), (lit "kty", .str (lit "OKP")), (lit "crv", .str (lit "Ed25519")), (lit "x", x)]]

def document (x : Json) : Json := .obj [(lit "keys", .arr (entries x))]

def body (x : Json) : Bytes := JsonText.utf8 (JsonText.render false (fun _ => []) (document x))

/-- `jwt.PyJWK` builds the key of 43 characters, refuses an empty one, and raises `TypeError` on a number. -/
def twoKeys : KeyConfig Unit :=
  { config with
    pyJwk := fun members =>
      match Json.get members (lit "x") with
      | .str x => if x.length = 43 then .key () else .jwtError
      | _ => .escaped .typeError }

theorem body_document {x : Json} (hread : JsonText.Readable twoKeys.platform.interp (fun _ => []) (document x))
    (hdepth : (document x).depth ≤ 990) : KeysDocument twoKeys 200 (body x) (entries x) := by
  refine ⟨rfl, [(lit "keys", .arr (entries x))], ?_, rfl⟩
  have hloads : loads twoKeys.platform.interp (body x) = .ok (document x) :=
    (JsonText.loads_utf8_obj _ _ _).trans (JsonText.decodeJson_render hdepth hread)
  rw [Platform.loads, hloads]
  rfl

theorem readable (x : Json) (hints : (document x).intsOk twoKeys.platform.interp = true) (hdistinct : (document x).Distinct)
    (hx : x.nodes = [x]) (hfloat : ∀ y, x ≠ .float y) :
    JsonText.Readable twoKeys.platform.interp (fun _ => []) (document x) := by
  refine ⟨hints, hdistinct, fun y hy => ?_⟩
  simp [document, entries, Json.nodes, Json.nodesList, Json.nodesMembers, hx, (hfloat y).symm] at hy

theorem refused_document : KeysDocument twoKeys 200 (body (.str [])) (entries (.str [])) :=
  body_document (readable _ rfl (by unfold Json.Distinct; decide) rfl (fun _ => Json.noConfusion)) (by decide)

theorem refused_noneEscapes : NoneEscapes twoKeys (entries (.str [])) := by
  intro entry hentry kid e
  simp only [entries, List.mem_cons, List.not_mem_nil, or_false] at hentry
  obtain rfl | rfl := hentry
  · exact fun h => nomatch Option.some.inj h
  · exact fun h => nomatch Option.some.inj h

theorem number_document : KeysDocument twoKeys 200 (body (.int 5)) (entries (.int 5)) :=
  body_document (readable _ rfl (by unfold Json.Distinct; decide) rfl (fun _ => Json.noConfusion)) (by decide)

end TwoKeys

open TwoKeys MalformedKey in
theorem refused_entry_stored :
    (storeJwks twoKeys malformed 200 (body (.str [])) false (KeyCache.start twoKeys)).1 = .ok () :=
  ((unusable_entries_iff refused_document false _).2 refused_noneEscapes).1

open TwoKeys MalformedKey in
/-- The second entry has a number for a key: nothing is stored. -/
theorem not_unusable_entries : ¬ ∀ (C : KeyConfig Unit) (W : World) (status : ℕ) (body : Bytes) (entries : List Json),
    KeysDocument C status body entries → ∀ (forced : Bool) (k : KeyCache Unit),
      (storeJwks C W status body forced k).1 = .ok () ∧
        ∃ keys, (storeJwks C W status body forced k).2.keys = some keys ∧
          ∀ kid, keys.get? kid = lastBuilt C entries kid := by
  intro h
  have hstored := (h twoKeys malformed 200 _ _ number_document false (KeyCache.start twoKeys)).1
  rw [storeJwks, readJwks_document number_document] at hstored
  cases hstored

end AxiamSdk.Ssf
