import AxiamSdk.Retries.Calls

/-! # Which failures are retried

* `Call.Ended`: an attempt ended in a transport failure or a retryable status.
* `Call.Misjudged`: the exchanges after which the policy does otherwise; `attempt_judged`: it is these.
* `retries_exactly_iff`: exactly when a call retries what it should. -/

namespace AxiamSdk.Retries
open PyLib
set_option autoImplicit false

/-! ## How an attempt ends -/

/-- The refresh of an attempt sends its request. -/
def refreshSends (c : AuthzClient) (a : Attempt) : Bool :=
  !a.closed &&
    match cookieValue a.session.jar accessCookie with
    | none | some [] => false
    | some observed =>
      match refreshIdentifiers c.toPlatform a.session observed with
      | .error _ => false
      | .ok ids => !a.session.guard.shouldSkipRefresh observed && (c.encode (refreshBody ids)).isNone

/-- The exchange that an attempt ends with: its request, the refresh after a 401, or the request sent
again. -/
def finalExchange (c : AuthzClient) (a : Attempt) : Exchange :=
  match a.post with
  | .error t => .error t
  | .ok r =>
    if r.status = 401 ∧ a.bearerHeld = false then
      match refresh c a with
      | .ok _ => a.resend
      | .error _ => if refreshSends c a then a.refreshPost else .ok r
    else .ok r

/-- A transport failure, or a status that is retryable. -/
def FailedRetryably : Exchange → Prop
  | .error _ => True
  | .ok r => statusIsRetryable r.status = true

/-- The attempt ended in a retryable failure. -/
def Call.Ended (c : ApiClient) (call : Call) (a : WireAttempt) : Prop :=
  call.unbuilt c = none ∧ FailedRetryably (finalExchange c.toAuthzClient a.toAttempt)

/-! ## What is misjudged -/

/-- Reading the `Retry-After` header raises. -/
def RetryAfterRaises (H : HttpPlatform) (r : HttpResponse) : Prop := ∃ e, retryAfterMsOf H r = .error e

/-- A retryable status without its `NetworkError`, or another status with one, among those that
`error_from_http_status` maps. -/
def Misstated (H : HttpPlatform) (r : HttpResponse) : Prop :=
  if statusIsRetryable r.status then RetryAfterRaises H r
  else r.status ≠ 401 ∧ r.status ≠ 403 ∧ r.status ≠ 409 ∧ ¬ (600 ≤ r.status ∧ RetryAfterRaises H r)

/-- The body of a failed management answer is nested too deeply, or holds no complaint and its text cannot
be decoded. -/
def Undescribed (P : Platform) (r : HttpResponse) (text : Except TransportError PyStr) : Prop :=
  r.json P = .error .recursionError ∨
    ((∃ body, bodyOf P r = .ok body ∧ complaint body = none) ∧ ∃ t, text = .error t)

/-- A field error's message is nested too deeply to print. -/
def FieldTooDeep (c : ApiClient) (r : HttpResponse) : Prop :=
  ∃ body, bodyOf c.toPlatform r = .ok body ∧ ∃ entry ∈ fieldEntries body,
    strOf c entry.2 = .error .recursionError

/-- The same, among those that a management call maps. -/
def MisreadManagement (c : ApiClient) (r : HttpResponse) (text : Except TransportError PyStr) : Prop :=
  if statusIsRetryable r.status then
    Undescribed c.toPlatform r text ∨ RetryAfterRaises c.toHttpPlatform r
  else
    ¬ Undescribed c.toPlatform r text ∧
      r.status ≠ 401 ∧ r.status ≠ 403 ∧ r.status ≠ 404 ∧ r.status ≠ 409 ∧
      ((r.status = 400 ∨ r.status = 422) → ¬ FieldTooDeep c r) ∧
      ¬ (600 ≤ r.status ∧ RetryAfterRaises c.toHttpPlatform r)

/-- The call's answer is misjudged. -/
def Call.Misread (c : ApiClient) (a : WireAttempt) (r : HttpResponse) : Call → Prop
  | management _ => ¬ r.Success ∧ MisreadManagement c r a.text
  | _ => ¬ r.Success ∧ Misstated c.toHttpPlatform r

/-- The attempt is misjudged: a transport failure, an answer that is misjudged, or a 401 whose refresh
finds the client closed or gets a refusal that is misjudged. -/
def Call.Misjudged (c : ApiClient) (call : Call) (a : WireAttempt) : Prop :=
  call.unbuilt c = none ∧
    match a.post with
    | .error _ => True
    | .ok r =>
      if r.status = 401 ∧ a.bearerHeld = false then
        match refresh c.toAuthzClient a.toAttempt with
        | .ok _ =>
          match a.resend with
          | .error _ => True
          | .ok r => call.Misread c a r
        | .error _ =>
          a.closed = true ∨
            (refreshSends c.toAuthzClient a.toAttempt = true ∧
              match a.refreshPost with
              | .error _ => True
              | .ok r => r.status ≠ 200 ∧ Misstated c.toHttpPlatform r)
      else call.Misread c a r

/-! ## Mapping a status -/

section Mapping
variable {α : Type}

@[simp] theorem retried_error (e : Exc) :
    Retried (.error e : Except Exc α) ↔ e.isNetworkError = true := by
  simp [Retried]

@[simp] theorem not_retried_ok (v : α) : ¬ Retried (.ok v : Except Exc α) := by
  simp [Retried]

theorem json_foreign {P : Platform} {r : HttpResponse} {e : Exc} (h : r.json P = .error e) :
    e.isNetworkError = false := by
  have hm := loads_mapped h
  simp only [Exc.mapped, Bool.or_eq_false_iff] at hm
  exact hm.2

theorem json_not_retried (P : Platform) (r : HttpResponse) : ¬ Retried (r.json P) := by
  rintro ⟨e, he, hn⟩
  rw [json_foreign he] at hn
  cases hn

theorem retryAfterMsOf_foreign {c : ApiClient} {r : HttpResponse} {e : Exc}
    (h : retryAfterMsOf c.toHttpPlatform r = .error e) : e.isNetworkError = false := by
  unfold retryAfterMsOf at h
  split at h
  · cases h
  · split at h
    · cases h
    · split at h
      · cases h
      next hd =>
        split at h
        · cases h
        · obtain rfl := Except.error.inj h
          exact c.date_foreign hd

theorem retryable_iff (status : ℕ) :
    statusIsRetryable status = true ↔ status = 408 ∨ status = 429 ∨ (500 ≤ status ∧ status ≤ 599) := by
  simp [statusIsRetryable]

/-- Which statuses become a `NetworkError`. -/
theorem raisedForStatus_retried (c : ApiClient) (message : PyStr) (r : HttpResponse) :
    (raisedForStatus c.toHttpPlatform message r).isNetworkError = true ↔
      r.status ≠ 401 ∧ r.status ≠ 403 ∧ r.status ≠ 409 ∧
        ¬ ((r.status = 408 ∨ r.status = 429 ∨ 500 ≤ r.status) ∧ RetryAfterRaises c.toHttpPlatform r) := by
  unfold raisedForStatus errorFromHttpStatus RetryAfterRaises
  by_cases h401 : r.status = 401
  · simp [h401, Exc.isNetworkError]
  by_cases h403 : r.status = 403
  · cases hj : r.json c.toPlatform with
    | ok v => simp [h403, Exc.isNetworkError]
    | error e =>
      have hforeign := json_foreign hj
      by_cases hv : e.isValueError = true
      · simp [h403, hv, Exc.isNetworkError]
      · simp [h403, hv, hforeign]
  by_cases h409 : r.status = 409
  · simp [h409, Exc.isNetworkError]
  by_cases hlate : r.status = 408 ∨ r.status = 429 ∨ 500 ≤ r.status
  · cases hr : retryAfterMsOf c.toHttpPlatform r with
    | ok after => simp [h401, h403, h409, hlate, Except.map, Exc.isNetworkError]
    | error e =>
      have hforeign := retryAfterMsOf_foreign hr
      simp [h401, h403, h409, hlate, Except.map, hforeign]
  · simp [h401, h403, h409, hlate, Exc.isNetworkError]

/-- The shared mapper judges a status right exactly if it is not misstated. -/
theorem raisedForStatus_judged (c : ApiClient) (message : PyStr) (r : HttpResponse) :
    ((raisedForStatus c.toHttpPlatform message r).isNetworkError = true ↔
      statusIsRetryable r.status = true) ↔ ¬ Misstated c.toHttpPlatform r := by
  rw [raisedForStatus_retried]
  unfold Misstated
  by_cases hr : statusIsRetryable r.status = true
  · have hs := (retryable_iff r.status).1 hr
    have h401 : r.status ≠ 401 := by omega
    have h403 : r.status ≠ 403 := by omega
    have h409 : r.status ≠ 409 := by omega
    have hlate : r.status = 408 ∨ r.status = 429 ∨ 500 ≤ r.status := by omega
    simp [hr, h401, h403, h409, hlate]
  · have hs := mt (retryable_iff r.status).2 hr
    have hlate : (r.status = 408 ∨ r.status = 429 ∨ 500 ≤ r.status) ↔ 600 ≤ r.status := by omega
    rw [hlate]
    simp [hr]

/-! ### Management answers -/

theorem bodyOf_error {P : Platform} {r : HttpResponse} {e : Exc} :
    bodyOf P r = .error e ↔ r.json P = .error .recursionError ∧ e = .recursionError := by
  unfold bodyOf
  cases hj : r.json P with
  | ok body => simp
  | error e' =>
    rcases loads_error hj with hv | rfl
    · have hne : e' ≠ .recursionError := by
        rintro rfl
        cases hv
      simp [hv, hne]
    · simp [Exc.isValueError, eq_comm]

/-- Describing an answer raises exactly if it is undescribed, and no class of the SDK. -/
theorem describe_ok (P : Platform) (r : HttpResponse) (text : Except TransportError PyStr) :
    (Undescribed P r text ∧ ∃ e, describe P r text = .error e ∧ e.isNetworkError = false) ∨
      (¬ Undescribed P r text ∧ ∃ detail, describe P r text = .ok detail) := by
  unfold Undescribed describe
  cases hb : bodyOf P r with
  | error e =>
    obtain ⟨hj, rfl⟩ := bodyOf_error.1 hb
    exact Or.inl ⟨Or.inl hj, .recursionError, rfl, rfl⟩
  | ok body =>
    have hj : ¬ r.json P = .error .recursionError := by
      intro hj
      rw [bodyOf_error.2 ⟨hj, rfl⟩] at hb
      cases hb
    dsimp only
    cases hc : complaint body with
    | some message => exact Or.inr ⟨by simp [hj, hc], lit ": " ++ message, rfl⟩
    | none =>
      cases text with
      | error t => exact Or.inl ⟨Or.inr ⟨⟨body, rfl, hc⟩, t, rfl⟩, t.exc, rfl, rfl⟩
      | ok text =>
        refine Or.inr ⟨by simp [hj], ?_⟩
        dsimp only
        split
        · exact ⟨_, rfl⟩
        · exact ⟨_, rfl⟩

theorem strOf_error {c : ApiClient} {v : Json} {e : Exc} (h : strOf c v = .error e) : e = .recursionError := by
  unfold strOf at h
  split at h
  · cases h
  · split at h
    · cases h
    · exact (Except.error.inj h).symm

theorem fieldErrors_ok (c : ApiClient) (entries : List (PyStr × Json)) :
    ((∃ entry ∈ entries, strOf c entry.2 = .error .recursionError) ∧
        fieldErrors c entries = .error .recursionError) ∨
      ((¬ ∃ entry ∈ entries, strOf c entry.2 = .error .recursionError) ∧
        ∃ errors, fieldErrors c entries = .ok errors) := by
  induction entries with
  | nil => exact Or.inr ⟨by simp, [], rfl⟩
  | cons entry rest ih =>
    obtain ⟨field, value⟩ := entry
    rw [fieldErrors]
    cases hs : strOf c value with
    | error e =>
      obtain rfl := strOf_error hs
      exact Or.inl ⟨⟨(field, value), List.mem_cons_self, hs⟩, rfl⟩
    | ok message =>
      rcases ih with ⟨⟨entry, hmem, hdeep⟩, herr⟩ | ⟨hno, errors, hok⟩
      · rw [herr]
        exact Or.inl ⟨⟨entry, List.mem_cons_of_mem _ hmem, hdeep⟩, rfl⟩
      · rw [hok]
        refine Or.inr ⟨?_, _, rfl⟩
        rintro ⟨entry, hmem, hdeep⟩
        rcases List.mem_cons.1 hmem with rfl | hmem
        · rw [hs] at hdeep
          cases hdeep
        · exact hno ⟨entry, hmem, hdeep⟩

theorem readManagement_success {c : ApiClient} {r : HttpResponse} (h : r.Success) (call : ManagementCall)
    (a : WireAttempt) : ¬ Retried (readManagement c call a r) := by
  have hs : 200 ≤ r.status ∧ r.status < 300 := h
  unfold readManagement raiseForStatus
  rw [if_pos hs]
  show ¬ Retried (parsed c.toPlatform r)
  unfold parsed
  split
  · exact not_retried_ok _
  · exact json_not_retried _ _

/-- Which failed management answers become a `NetworkError`. -/
theorem readManagement_retried {c : ApiClient} {r : HttpResponse} (h : ¬ r.Success) (call : ManagementCall)
    (a : WireAttempt) :
    Retried (readManagement c call a r) ↔
      ¬ Undescribed c.toPlatform r a.text ∧
        r.status ≠ 401 ∧ r.status ≠ 403 ∧ r.status ≠ 404 ∧ r.status ≠ 409 ∧
        ((r.status = 400 ∨ r.status = 422) → ¬ FieldTooDeep c r) ∧
        ¬ ((r.status = 408 ∨ r.status = 429 ∨ 500 ≤ r.status) ∧ RetryAfterRaises c.toHttpPlatform r) := by
  have hs : ¬ (200 ≤ r.status ∧ r.status < 300) := h
  unfold readManagement raiseForStatus
  rw [if_neg hs]
  rcases describe_ok c.toPlatform r a.text with ⟨hu, e, he, hforeign⟩ | ⟨hu, detail, hd⟩
  · rw [he]
    simp [hu, ManagementError.exc, hforeign]
  · rw [hd]
    dsimp only
    by_cases h404 : r.status = 404
    · simp [h404, ManagementError.exc, Exc.isNetworkError]
    · obtain ⟨body, hbody⟩ : ∃ body, bodyOf c.toPlatform r = .ok body := by
        cases hb : bodyOf c.toPlatform r with
        | ok body => exact ⟨body, rfl⟩
        | error e => exact absurd (Or.inl (bodyOf_error.1 hb).1) hu
      rw [if_neg h404, hbody]
      by_cases h409 : r.status = 409
      · simp [h409, ManagementError.exc, Exc.isNetworkError]
      · rw [if_neg h409]
        by_cases hbad : r.status = 400 ∨ r.status = 422
        · have hlate : ¬ (r.status = 408 ∨ r.status = 429 ∨ 500 ≤ r.status) := by omega
          have h401 : r.status ≠ 401 := by omega
          have h403 : r.status ≠ 403 := by omega
          have hdeep : FieldTooDeep c r ↔
              ∃ entry ∈ fieldEntries body, strOf c entry.2 = .error .recursionError := by
            unfold FieldTooDeep
            rw [hbody]
            simp
          rw [if_pos hbad]
          dsimp only [parseFieldErrors]
          rcases fieldErrors_ok c (fieldEntries body) with ⟨hsome, herr⟩ | ⟨hno, errors, hok⟩
          · rw [herr]
            simp only [ManagementError.exc, retried_error, Exc.isNetworkError, Bool.false_eq_true, false_iff]
            exact fun hall => hall.2.2.2.2.2.1 hbad (hdeep.2 hsome)
          · rw [hok]
            simp only [ManagementError.exc, retried_error, Exc.isNetworkError, true_iff]
            exact ⟨hu, h401, h403, h404, h409, fun _ hf => hno (hdeep.1 hf), fun hr => hlate hr.1⟩
        · rw [if_neg hbad]
          simp only [ManagementError.exc, retried_error, raisedForStatus_retried]
          simp [hu, h404, h409, hbad]

theorem Call.read_judged (c : ApiClient) (call : Call) (a : WireAttempt) (r : HttpResponse) :
    (Retried (call.read c a r) ↔ statusIsRetryable r.status = true) ↔ ¬ call.Misread c a r := by
  by_cases hs : r.Success
  · have hs' : 200 ≤ r.status ∧ r.status < 300 := hs
    have hno : ¬ statusIsRetryable r.status = true := by
      intro hr
      have := (retryable_iff r.status).1 hr
      omega
    have hread : ¬ Retried (call.read c a r) := by
      cases call with
      | management m => exact readManagement_success hs m.1 a
      | _ =>
        simp only [Call.read]
        rw [if_neg ((success_iff r).1 hs)]
        exact json_not_retried _ _
    have hmis : ¬ call.Misread c a r := by
      cases call <;> exact fun h => h.1 hs
    simp [hno, hread, hmis]
  · cases call with
    | management m =>
      simp only [Call.read, Call.Misread, readManagement_retried hs, hs, not_false_eq_true, true_and]
      unfold MisreadManagement
      by_cases hr : statusIsRetryable r.status = true
      · have hst := (retryable_iff r.status).1 hr
        have hcodes : r.status ≠ 401 ∧ r.status ≠ 403 ∧ r.status ≠ 404 ∧ r.status ≠ 409 := by omega
        have hbad : ¬ (r.status = 400 ∨ r.status = 422) := by omega
        have hlate : r.status = 408 ∨ r.status = 429 ∨ 500 ≤ r.status := by omega
        simp [hr, hcodes, hbad, hlate]
      · have hst := mt (retryable_iff r.status).2 hr
        have hlate : (r.status = 408 ∨ r.status = 429 ∨ 500 ≤ r.status) ↔ 600 ≤ r.status := by omega
        rw [hlate, if_neg hr]
        simp only [hr, iff_false, Bool.false_eq_true]
    | _ =>
      simp only [Call.read, Call.Misread, hs, not_false_eq_true, true_and]
      rw [if_pos (not_not.1 (mt (success_iff r).2 hs)), retried_error]
      exact raisedForStatus_judged c _ r

end Mapping

/-! ## The refresh of an attempt -/

theorem decodeUnverifiedClaims_not_retried (P : Platform) (token : PyStr) :
    ¬ Retried (decodeUnverifiedClaims P token) := by
  unfold decodeUnverifiedClaims
  split
  · next payload _ _ =>
    cases hd : decodeSegment P payload with
    | ok v => cases v <;> simp [Exc.isNetworkError]
    | error e =>
      dsimp only
      split
      · simp [Exc.isNetworkError]
      next hv =>
        unfold decodeSegment at hd
        split at hd
        · obtain rfl := Except.error.inj hd
          exact absurd rfl hv
        · have hm := loads_mapped hd
          simp only [Exc.mapped, Bool.or_eq_false_iff] at hm
          simp [hm.2]
  · simp [Exc.isNetworkError]

theorem refreshIdentifiers_not_retried (P : Platform) (s : ClientState) (observed : PyStr) :
    ¬ Retried (refreshIdentifiers P s observed) := by
  have hclaims := decodeUnverifiedClaims_not_retried P observed
  unfold refreshIdentifiers
  cases hd : decodeUnverifiedClaims P observed with
  | error e =>
    rw [hd] at hclaims
    simpa using hclaims
  | ok claims =>
    dsimp only
    generalize (if s.resolvedOrgId.truthy = true then s.resolvedOrgId
      else Json.get claims (lit "org_id")) = orgId
    split
    · simp [Exc.isNetworkError]
    · split
      · simp [Exc.isNetworkError]
      · exact not_retried_ok _

theorem handleRefreshResponse_retried (H : HttpPlatform) (s : ClientState) (r : HttpResponse) :
    Retried (handleRefreshResponse H s r).1 ↔
      r.status ≠ 200 ∧ (raisedForStatus H (lit "refresh failed") r).isNetworkError = true := by
  unfold handleRefreshResponse
  by_cases hstatus : r.status = 200
  · rw [if_pos hstatus]
    simp only [hstatus, ne_eq, not_true_eq_false, false_and, iff_false]
    cases hc : cookieValue s.jar accessCookie with
    | none => simp [Exc.isNetworkError]
    | some access =>
      cases access with
      | nil => simp [Exc.isNetworkError]
      | cons ch rest =>
        have hclaims := decodeUnverifiedClaims_not_retried H.toPlatform (ch :: rest)
        cases hd : decodeUnverifiedClaims H.toPlatform (ch :: rest) with
        | ok claims => simp [hd]
        | error e =>
          rw [hd] at hclaims
          simpa [hd] using hclaims
  · rw [if_neg hstatus]
    simp [hstatus]

/-- A refresh ends in a `NetworkError` exactly if the client is closed or the answer became one. -/
theorem refresh_retried (c : ApiClient) (a : Attempt) :
    Retried (refresh c.toAuthzClient a) ↔
      a.closed = true ∨ (refreshSends c.toAuthzClient a = true ∧ ∃ r, a.refreshPost = .ok r ∧
        r.status ≠ 200 ∧ (raisedForStatus c.toHttpPlatform (lit "refresh failed") r).isNetworkError = true) := by
  unfold refresh refreshSends
  cases hclosed : a.closed with
  | true => simp [closedError, Exc.isNetworkError]
  | false =>
    cases hc : cookieValue a.session.jar accessCookie with
    | none => simp [Exc.isNetworkError]
    | some observed =>
      cases observed with
      | nil => simp [Exc.isNetworkError]
      | cons ch rest =>
        have hids := refreshIdentifiers_not_retried c.toPlatform a.session (ch :: rest)
        cases hi : refreshIdentifiers c.toPlatform a.session (ch :: rest) with
        | error e =>
          rw [hi] at hids
          simpa [hi] using hids
        | ok ids =>
          cases hskip : a.session.guard.shouldSkipRefresh (ch :: rest) with
          | true =>
            have hany : a.session.guard.hasAny = true := by
              simp only [RefreshGuard.shouldSkipRefresh, Bool.and_eq_true] at hskip
              exact hskip.1
            obtain ⟨access, hok⟩ := requireCachedAccess_ok (a.populated hany)
            simp [hi, hskip, hok]
          | false =>
            have hbody : [(lit "tenant_id", ids.1), (lit "org_id", ids.2)] = refreshBody ids := rfl
            simp only [hi, hskip, doRefresh, hbody, Bool.false_eq_true, if_false, false_or, Bool.not_false,
              Bool.true_and]
            cases he : c.encode (refreshBody ids) with
            | some e => simp [c.encode_foreign he]
            | none =>
              cases hp : a.refreshPost with
              | error t => simp [TransportError.exc, Exc.isNetworkError]
              | ok r =>
                have hr := handleRefreshResponse_retried c.toHttpPlatform
                  { a.session with jar := a.refreshedJar } r
                dsimp only
                cases hh : (handleRefreshResponse c.toHttpPlatform
                    { a.session with jar := a.refreshedJar } r).1 with
                | error e =>
                  rw [hh] at hr
                  simpa using hr
                | ok fresh =>
                  rw [hh] at hr
                  have hno : ¬ (r.status ≠ 200 ∧
                      (raisedForStatus c.toHttpPlatform (lit "refresh failed") r).isNetworkError = true) :=
                    fun h => not_retried_ok fresh (hr.2 h)
                  simpa [RefreshGuard.requireCachedAccess, RefreshGuard.seed] using hno

theorem not_closed_of_refreshSends {c : AuthzClient} {a : Attempt} (h : refreshSends c a = true) :
    a.closed = false := by
  unfold refreshSends at h
  cases hclosed : a.closed with
  | false => rfl
  | true => simp [hclosed] at h

/-- A failed refresh is judged right exactly if it neither found the client closed nor got a refusal that
is misstated. -/
theorem refresh_judged (c : ApiClient) (a : Attempt) {r : HttpResponse} (hr : r.status = 401) :
    (Retried (refresh c.toAuthzClient a) ↔
        FailedRetryably (if refreshSends c.toAuthzClient a then a.refreshPost else .ok r)) ↔
      ¬ (a.closed = true ∨ (refreshSends c.toAuthzClient a = true ∧
          match a.refreshPost with
          | .error _ => True
          | .ok r => r.status ≠ 200 ∧ Misstated c.toHttpPlatform r)) := by
  rw [refresh_retried]
  cases hsends : refreshSends c.toAuthzClient a with
  | false => simp [FailedRetryably, hr, statusIsRetryable]
  | true =>
    rw [not_closed_of_refreshSends hsends]
    cases hp : a.refreshPost with
    | error t => simp [FailedRetryably]
    | ok answer =>
      by_cases h200 : answer.status = 200
      · simp [FailedRetryably, h200, statusIsRetryable]
      · have h := raisedForStatus_judged c (lit "refresh failed") answer
        simpa [FailedRetryably, h200] using h

/-! ## The policy on the wire -/

theorem Call.unbuilt_foreign {c : ApiClient} {call : Call} {e : Exc} (h : call.unbuilt c = some e) :
    e.isNetworkError = false := by
  cases call with
  | management m => exact c.build_foreign h
  | checkAccess action resourceId scope subjectId => exact c.encode_foreign h
  | batchCheck checks => exact c.encode_foreign h

/-- **An attempt is judged right** exactly if it is not misjudged. -/
theorem Call.attempt_judged (c : ApiClient) (call : Call) (a : WireAttempt) :
    (Retried (call.attempt c a) ↔ call.Ended c a) ↔ ¬ call.Misjudged c a := by
  unfold Call.attempt Call.Ended Call.Misjudged answerOf finalExchange
  cases hb : call.unbuilt c with
  | some e => simp [Call.unbuilt_foreign hb]
  | none =>
    simp only [true_and]
    cases hp : a.post with
    | error t => simp [FailedRetryably, TransportError.exc, Exc.isNetworkError]
    | ok r =>
      dsimp only
      by_cases hrefresh : r.status = 401 ∧ a.bearerHeld = false
      · simp only [if_pos hrefresh, retryAfterRefresh]
        have hjudged := refresh_judged c a.toAttempt hrefresh.1
        cases hfresh : refresh c.toAuthzClient a.toAttempt with
        | error e =>
          rw [hfresh] at hjudged
          simpa only [retried_error] using hjudged
        | ok access =>
          cases hs : a.resend with
          | error t => simp [FailedRetryably, Except.mapError, TransportError.exc, Exc.isNetworkError]
          | ok r' => exact Call.read_judged c call a r'
      · simp only [if_neg hrefresh]
        exact Call.read_judged c call a r

/-- In a call, another attempt is made after an attempt exactly if that one ended in a transport failure or
a retryable status and fewer than three were made. -/
def RetriesExactly (c : ApiClient) (call : Call) (attempts : ℕ → WireAttempt) (rand : ℕ → Float) : Prop :=
  Exact (fun k => call.Ended c (attempts k)) (call.made c attempts rand)

/-- **When exactly the retryable failures are retried**: if the call is on the wire, neither of the first
two attempts that follow retryable failures alone is misjudged. -/
theorem retries_exactly_iff (c : ApiClient) (call : Call) (attempts : ℕ → WireAttempt) (rand : ℕ → Float) :
    RetriesExactly c call attempts rand ↔
      (call.OnWire c → ∀ k, 1 ≤ k → k < 3 → (∀ j, 1 ≤ j → j < k → call.Ended c (attempts j)) →
        ¬ call.Misjudged c (attempts k)) := by
  unfold RetriesExactly
  by_cases hwire : call.OnWire c
  · rw [Call.made_of_onWire hwire, policy_exact_iff]
    simp only [hwire, true_implies, Call.attempt_judged]
    rfl
  · rw [Call.made_of_not_onWire hwire]
    simp only [hwire, false_implies, iff_true]
    exact fun k hk hle => absurd hk (Nat.not_le.2 (Nat.lt_succ_of_le hle))

/-! ### A service that cannot be reached -/

namespace Unreachable

def client : ApiClient where
  interp := ⟨4300, 990, 990, fun _ => []⟩
  hmacSha256 := fun _ _ => []
  fromIsoFormat := fun _ => none
  parseFloat := fun _ => none
  parsedateToDatetime := fun _ => .error .valueError
  encode := fun _ => none
  validate := fun _ => none
  memo := fun _ => none
  retryEnabled := true
  closed := false
  actingTenant := none
  jar := .empty
  bearerToken := none
  buildRequest := fun _ _ _ _ => none
  repr := fun _ => none
  validateBatch := fun _ => none
  enabled := rfl
  encode_foreign := fun h => nomatch h
  build_foreign := fun h => nomatch h
  date_foreign := fun h => by cases h; rfl

def failure : TransportError := ⟨lit "ConnectError", lit "connection refused"⟩

def attempt : WireAttempt where
  bearerHeld := false
  post := .error failure
  closed := false
  session := ⟨.empty, .new, .null, .null, none⟩
  populated := RefreshGuard.new_populated
  refreshPost := .error failure
  refreshedJar := .empty
  resend := .error failure
  text := .ok []

def check : AccessCheck := ⟨lit "read", lit "doc-1", none⟩

end Unreachable

open Unreachable in
/-- A connection error of the HTTP library is no `NetworkError`: the first attempt is the last. -/
theorem not_retries_exactly :
    ¬ ∀ (c : ApiClient) (call : Call) (attempts : ℕ → WireAttempt) (rand : ℕ → Float),
      RetriesExactly c call attempts rand := by
  intro hall
  have hexact := hall client (.batchCheck [check]) (fun _ => attempt) (fun _ => 0.0)
  have hmade : (Call.batchCheck [check]).made client (fun _ => attempt) (fun _ => 0.0) = 1 := by rfl
  have hended : (Call.batchCheck [check]).Ended client attempt := ⟨rfl, trivial⟩
  have hmore := (hexact 1 (Nat.le_refl _) (Nat.le_of_eq hmade.symm)).2 ⟨by decide, hended⟩
  rw [hmade] at hmore
  exact absurd hmore (by decide)

end AxiamSdk.Retries
