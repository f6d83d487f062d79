import AxiamSdk.Lib.Supply
import AxiamSdk.Management.Execute
import AxiamSdk.Management.Matching

/-! # Every step can resolve the keys it names

* `Step.names`, `Step.makes`: the keys that a step reads and the one it records.
* `supplied_of_compute`: in a plan every key is resolved by then, or made by an earlier step.
* `resolves_iff`: the ids sent are those of the keys named, the empty resource key apart. -/

namespace AxiamSdk.Manifest
open PyLib
set_option autoImplicit false

/-! ## Keys -/

inductive KeyKind
  | resource | scope | permission | role | group | user | serviceAccount | segment
  deriving DecidableEq

/-- A manifest key with its kind. -/
abbrev Key := KeyKind × PyStr

def SubjectKind.keyKind : SubjectKind → KeyKind
  | .group => .group
  | .user => .user
  | .serviceAccount => .serviceAccount

/-- The key is resolved; a segment with its version. -/
def Resolved.has (r : Resolved) : Key → Prop
  | (.resource, k) => (r.resources.get? k).isSome
  | (.scope, k) => (r.scopes.get? k).isSome
  | (.permission, k) => (r.permissions.get? k).isSome
  | (.role, k) => (r.roles.get? k).isSome
  | (.group, k) => (r.groups.get? k).isSome
  | (.user, k) => (r.users.get? k).isSome
  | (.serviceAccount, k) => (r.serviceAccounts.get? k).isSome
  | (.segment, k) => (r.networkSegments.get? k).isSome ∧ (r.networkSegmentVersions.get? k).isSome

/-- The resource key of a binding, if it names one. -/
def resourceNames (key : Option PyStr) : List Key := key.toList.map (fun k => (.resource, k))

/-- The keys a step names. -/
def Step.names : Step → List Key
  | .createResource _ _ _ parent _ => resourceNames parent
  | .updateResource key _ _ => [(.resource, key)]
  | .createScope _ resource _ _ => [(.resource, resource)]
  | .updatePermission key _ => [(.permission, key)]
  | .updateRole key _ _ => [(.role, key)]
  | .grantPermission _ role permission _ scopes =>
    (.role, role) :: (.permission, permission) :: scopes.map (fun s => (.scope, s))
  | .updateGroup key _ => [(.group, key)]
  | .updateUser key _ => [(.user, key)]
  | .updateServiceAccount key _ => [(.serviceAccount, key)]
  | .assignRole kind _ role subject resource _ =>
    (.role, role) :: (kind.keyKind, subject) :: resourceNames resource
  | .rebindRole _ p => (.role, p.role) :: (p.subjectKind.keyKind, p.subject) :: resourceNames p.resource
  | .addGroupMember _ group user => [(.group, group), (.user, user)]
  | .replaceNetworkSegment key _ => [(.segment, key)]
  | .createNetworkProfile key _ => [(.segment, key)]
  | .replaceNetworkProfile key _ _ => [(.segment, key)]
  | .noop _ | .createPermission .. | .createRole .. | .createGroup .. | .createUser ..
  | .createServiceAccount .. | .replaceNetworkPolicy .. | .createNetworkSegment .. => []

/-- The key a step records. -/
def Step.makes : Step → List Key
  | .createResource key _ _ _ _ => [(.resource, key)]
  | .createScope key _ _ _ => [(.scope, key)]
  | .createPermission key _ _ => [(.permission, key)]
  | .createRole key _ _ _ => [(.role, key)]
  | .createGroup key _ _ => [(.group, key)]
  | .createUser key _ _ _ => [(.user, key)]
  | .createServiceAccount key _ _ => [(.serviceAccount, key)]
  | .createNetworkSegment key _ => [(.segment, key)]
  | _ => []

/-- The name of the service account that a step, or a call, creates. -/
def Step.newAccount : Step → Option PyStr
  | .createServiceAccount _ name _ => some name
  | _ => none

def Call.newAccount : Call → Option PyStr
  | .createServiceAccount name _ => some name
  | _ => none

/-- The step names the empty resource key where it is read as no key. -/
def Step.emptyKey : Step → Prop
  | .createResource _ _ _ parent _ => parent = some []
  | .assignRole _ _ _ _ resource _ => resource = some []
  | .rebindRole _ p => p.resource = some []
  | _ => False

/-! ## One step -/

theorem isSome_get?_set {ν : Type} (d : Dict PyStr ν) (k k' : PyStr) (v : ν) :
    ((d.set k v).get? k').isSome ↔ (d.get? k').isSome ∨ k = k' := by
  rw [Dict.get?_set]
  by_cases hk : k = k' <;> simp [hk]

theorem lookup_of_isSome {α : Type} {d : Dict PyStr α} {key : PyStr} (h : (d.get? key).isSome) :
    ∃ a, lookup d key = .ok a ∧ d.get? key = some a := by
  obtain ⟨a, ha⟩ := Option.isSome_iff_exists.1 h
  exact ⟨a, by rw [lookup, ha], ha⟩

theorem mapM_lookup {d : Dict PyStr PyStr} {keys : List PyStr} (h : ∀ k ∈ keys, (d.get? k).isSome) :
    ∃ ids, keys.mapM (lookup d) = .ok ids := by
  induction keys with
  | nil => exact ⟨[], rfl⟩
  | cons k keys ih =>
    rw [List.forall_mem_cons] at h
    obtain ⟨a, ha, -⟩ := lookup_of_isSome h.1
    obtain ⟨ids, hids⟩ := ih h.2
    refine ⟨a :: ids, ?_⟩
    rw [List.mapM_cons, ha, hids]
    rfl

theorem subjects_has {r : Resolved} {kind : SubjectKind} {key : PyStr}
    (h : r.has (kind.keyKind, key)) : ((r.subjects kind).get? key).isSome := by
  cases kind with
  | group => exact h
  | user => exact h
  | serviceAccount => exact h

theorem resourceStepId_ok {r : Resolved} {key : Option PyStr}
    (h : ∀ n ∈ resourceNames key, r.has n) :
    resourceStepId r key = .ok ((truthy? key).bind r.resources.get?) := by
  obtain _ | _ | ⟨c, cs⟩ := key
  · rfl
  · rfl
  · obtain ⟨id, hid, hget⟩ := lookup_of_isSome (h (.resource, c :: cs) (by simp [resourceNames]))
    simp [resourceStepId, truthy?, hid, hget, Except.map]

/-- What a record adds. -/
def Record.makes : Record → List Key
  | .resource key => [(.resource, key)]
  | .scope key => [(.scope, key)]
  | .permission key => [(.permission, key)]
  | .role key => [(.role, key)]
  | .group key => [(.group, key)]
  | .user key => [(.user, key)]
  | .serviceAccount key => [(.serviceAccount, key)]
  | .segment key => [(.segment, key)]
  | .nothing | .segmentVersion _ => []

theorem has_record {r : Resolved} {a : Reply} {record : Record} {k : Key}
    (h : r.has k ∨ k ∈ record.makes) : (r.record a record).has k := by
  obtain ⟨kind, key⟩ := k
  cases record <;> cases kind <;>
    simp_all [Resolved.record, Resolved.has, Record.makes, isSome_get?_set] <;> tauto

theorem request_ok {r : Resolved} {step : Step} (h : ∀ n ∈ step.names, r.has n) :
    (∃ key, step = .noop key) ∨ (∃ key p, step = .rebindRole key p) ∨
      ∃ call record, request r step = .ok (some (call, record)) ∧ record.makes = step.makes ∧
        call.newAccount = step.newAccount := by
  cases step with
  | noop key => exact .inl ⟨key, rfl⟩
  | rebindRole key p => exact .inr (.inl ⟨key, p, rfl⟩)
  | createResource | createPermission | createRole | createGroup | createUser | createServiceAccount
  | replaceNetworkPolicy | createNetworkSegment => exact .inr (.inr ⟨_, _, rfl, rfl, rfl⟩)
  | updateResource | createScope | updatePermission | updateRole | updateGroup | updateUser
  | updateServiceAccount =>
    simp only [Step.names, List.forall_mem_singleton, Resolved.has] at h
    obtain ⟨id, hid, -⟩ := lookup_of_isSome h
    exact .inr (.inr ⟨_, _, by rw [request, hid]; rfl, rfl, rfl⟩)
  | grantPermission key role permission effect scopes =>
    simp only [Step.names, List.forall_mem_cons, List.forall_mem_map, Resolved.has] at h
    obtain ⟨roleId, hrole, -⟩ := lookup_of_isSome h.1
    obtain ⟨permissionId, hpermission, -⟩ := lookup_of_isSome h.2.1
    obtain ⟨scopeIds, hscopes⟩ := mapM_lookup h.2.2
    exact .inr (.inr ⟨_, _, by rw [request, hrole, hpermission, hscopes]; rfl, rfl, rfl⟩)
  | assignRole kind key role subject resource inherit =>
    simp only [Step.names, List.forall_mem_cons] at h
    obtain ⟨roleId, hrole, -⟩ := lookup_of_isSome h.1
    obtain ⟨subjectId, hsubject, -⟩ := lookup_of_isSome (subjects_has h.2.1)
    exact .inr (.inr ⟨_, _, by rw [request, hrole, hsubject, resourceStepId_ok h.2.2]; rfl, rfl, rfl⟩)
  | addGroupMember key group user =>
    simp only [Step.names, List.forall_mem_cons] at h
    obtain ⟨groupId, hgroup, -⟩ := lookup_of_isSome h.1
    obtain ⟨userId, huser, -⟩ := lookup_of_isSome h.2.1
    exact .inr (.inr ⟨_, _, by rw [request, hgroup, huser]; rfl, rfl, rfl⟩)
  | replaceNetworkSegment key body =>
    simp only [Step.names, List.forall_mem_singleton, Resolved.has] at h
    obtain ⟨id, hid, -⟩ := lookup_of_isSome h.1
    exact .inr (.inr ⟨_, _, by rw [request, hid]; rfl, rfl, rfl⟩)
  | createNetworkProfile | replaceNetworkProfile =>
    simp only [Step.names, List.forall_mem_singleton, Resolved.has] at h
    obtain ⟨id, hid, -⟩ := lookup_of_isSome h.1
    obtain ⟨version, hversion, -⟩ := lookup_of_isSome h.2
    exact .inr (.inr ⟨_, _, by rw [request, hid, hversion]; rfl, rfl, rfl⟩)

section Run
variable {σ : Type} {serve : Server σ}

/-- Every call succeeds. -/
def Answers (serve : Server σ) : Prop := ∀ s call, ∃ a, (serve s call).2 = .ok a

/-- The server, with the calls it has answered. -/
def recording (serve : Server σ) : Server (σ × List Call) := fun s call =>
  (((serve s.1 call).1, s.2 ++ [call]), (serve s.1 call).2)

/-- The calls a step makes. -/
def callsOf (serve : Server σ) (s : σ) (r : Resolved) (step : Step) : List Call :=
  (runStep (recording serve) (s, []) r step).1.2

theorem Answers.call (h : Answers serve) (s : σ) (call : Call) :
    ∃ s' a, serve s call = (s', .ok a) := by
  obtain ⟨a, ha⟩ := h s call
  exact ⟨(serve s call).1, a, Prod.ext rfl ha⟩

theorem recording_call {s s' : σ} {call : Call} {a : Reply} (h : serve s call = (s', .ok a))
    (calls : List Call) : recording serve (s, calls) call = ((s', calls ++ [call]), .ok a) := by
  simp [recording, h]

theorem Answers.recording (h : Answers serve) : Answers (recording serve) := fun s call => h s.1 call

theorem runStep_request {s s' : σ} {r : Resolved} {step : Step} {call : Call} {record : Record}
    {a : Reply} (hstep : request r step = .ok (some (call, record)))
    (h : serve s call = (s', .ok a)) :
    ∃ secret, runStep serve s r step = (s', .ok (r.record a record, secret)) := by
  cases step with
  | rebindRole key p => cases hstep
  | _ =>
    rw [runStep, hstep]
    · dsimp only
      rw [h]
      exact ⟨_, rfl⟩
    · intro key p hp
      cases hp

theorem rebindRole_ok (hserve : Answers serve) (s : σ) {r : Resolved} {key : PyStr} {p : Rebind}
    (h : ∀ n ∈ (Step.rebindRole key p).names, r.has n) :
    ∃ roleId subjectId s₁ s₂ a₁ a₂,
      serve s (.unassign p.subjectKind roleId subjectId p.previousResourceId) = (s₁, .ok a₁) ∧
      serve s₁ (.assign p.subjectKind roleId subjectId ((truthy? p.resource).bind r.resources.get?)
        (inheritWire p.inherit) p.tenantScope) = (s₂, .ok a₂) ∧
      rebindRole serve s r p = (s₂, .ok ()) := by
  simp only [Step.names, List.forall_mem_cons] at h
  obtain ⟨roleId, hrole, -⟩ := lookup_of_isSome h.1
  obtain ⟨subjectId, hsubject, -⟩ := lookup_of_isSome (subjects_has h.2.1)
  obtain ⟨s₁, a₁, h₁⟩ := hserve.call s (.unassign p.subjectKind roleId subjectId p.previousResourceId)
  obtain ⟨s₂, a₂, h₂⟩ := hserve.call s₁ (.assign p.subjectKind roleId subjectId
    ((truthy? p.resource).bind r.resources.get?) (inheritWire p.inherit) p.tenantScope)
  refine ⟨roleId, subjectId, s₁, s₂, a₁, a₂, h₁, h₂, ?_⟩
  rw [rebindRole, hrole, hsubject, resourceStepId_ok h.2.2]
  simp only [bind, Except.bind, pure, Except.pure, h₁, h₂]

/-- **One step**: with its keys resolved it succeeds, and its key is resolved after it. -/
theorem runStep_ok (hserve : Answers serve) (s : σ) {r : Resolved} {step : Step}
    (h : ∀ n ∈ step.names, r.has n) :
    ∃ s' r' secret, runStep serve s r step = (s', .ok (r', secret)) ∧
      ∀ k, r.has k ∨ k ∈ step.makes → r'.has k := by
  obtain ⟨key, rfl⟩ | ⟨key, p, rfl⟩ | ⟨call, record, hstep, hmakes, -⟩ := request_ok h
  · refine ⟨s, r, none, rfl, fun k hk => ?_⟩
    simpa [Step.makes] using hk
  · obtain ⟨_, _, _, s₂, _, _, -, -, hrun⟩ := rebindRole_ok hserve s h
    refine ⟨s₂, r, none, by rw [runStep, hrun]; rfl, fun k hk => ?_⟩
    simpa [Step.makes] using hk
  · obtain ⟨s', a, hcall⟩ := hserve.call s call
    obtain ⟨secret, hrun⟩ := runStep_request hstep hcall
    exact ⟨s', r.record a record, secret, hrun, fun k hk => has_record (hmakes ▸ hk)⟩

theorem applyStep_ok (repr : PyStr → PyStr) (hserve : Answers serve) {a : Applied σ} {p : Planned}
    (hgood : a.stopped = false) (hnames : ∀ k ∈ p.2.names, a.resolved.has k) :
    (applyStep serve repr a p).stopped = false ∧
      ∀ k, a.resolved.has k ∨ k ∈ p.2.makes → (applyStep serve repr a p).resolved.has k := by
  cases hnoop : p.2.isNoop with
  | true =>
    have happly : (applyStep serve repr a p).stopped = false ∧
        (applyStep serve repr a p).resolved = a.resolved := by
      rw [applyStep, hgood, hnoop]
      exact ⟨rfl, rfl⟩
    refine ⟨happly.1, fun k hk => ?_⟩
    rw [happly.2]
    cases hp : p.2 with
    | noop key => simpa [hp, Step.makes] using hk
    | _ => rw [hp] at hnoop; cases hnoop
  | false =>
    obtain ⟨s', r', secret, hrun, hgrow⟩ := runStep_ok hserve a.server hnames
    rw [applyStep_run serve hgood hnoop, hrun]
    exact ⟨hgood, hgrow⟩

/-- **The run**: a supplied list of steps is executed to its end. -/
theorem execute_supplied (repr : PyStr → PyStr) (hserve : Answers serve) (s : σ) {r : Resolved}
    {steps : List Planned}
    (h : Supplied (fun p : Planned => p.2.names) (fun p => p.2.makes) r.has steps) :
    (execute serve repr s r steps).stopped = false ∧
      ∀ k, After (fun p : Planned => p.2.makes) r.has steps k → (execute serve repr s r steps).resolved.has k := by
  refine h.run (fun a : Applied σ => a.stopped = false) (fun a => a.resolved.has) ?_ rfl (fun k hk => hk)
  intro a p hgood hnames
  exact applyStep_ok repr hserve hgood hnames

/-! ## The ids sent -/

/-- A call carries the ids of the resource keys that its step names. -/
def Carries (r : Resolved) : Step → Call → Prop
  | .createResource _ _ _ (some parent) _, .createResource _ _ parentId _ =>
    ∃ id, r.resources.get? parent = some id ∧ parentId = some id
  | .assignRole _ _ _ _ (some resource) _, .assign _ _ _ resourceId _ _ =>
    ∃ id, r.resources.get? resource = some id ∧ resourceId = some id
  | .rebindRole _ p, .assign _ _ _ resourceId _ _ =>
    ∀ resource, p.resource = some resource → ∃ id, r.resources.get? resource = some id ∧ resourceId = some id
  | _, _ => True

theorem truthy_carries {r : Resolved} {key : PyStr} (h : r.has (.resource, key)) :
    (∃ id, r.resources.get? key = some id ∧ (truthy? (some key)).bind r.resources.get? = some id) ↔
      key ≠ [] := by
  obtain ⟨id, hid⟩ := Option.isSome_iff_exists.1 h
  cases key with
  | nil => simp [truthy?]
  | cons c cs => simpa [truthy?] using ⟨id, hid⟩

theorem callsOf_request (hserve : Answers serve) (s : σ) {r : Resolved} {step : Step} {call : Call}
    {record : Record} (hstep : request r step = .ok (some (call, record))) :
    callsOf serve s r step = [call] := by
  obtain ⟨s', a, hcall⟩ := hserve.call s call
  obtain ⟨secret, hrun⟩ := runStep_request hstep (recording_call hcall [])
  rw [callsOf, hrun]
  rfl

theorem callsOf_rebind (hserve : Answers serve) (s : σ) {r : Resolved} {key : PyStr} {p : Rebind}
    (h : ∀ n ∈ (Step.rebindRole key p).names, r.has n) :
    ∃ roleId subjectId, callsOf serve s r (.rebindRole key p) =
      [.unassign p.subjectKind roleId subjectId p.previousResourceId,
        .assign p.subjectKind roleId subjectId ((truthy? p.resource).bind r.resources.get?)
          (inheritWire p.inherit) p.tenantScope] := by
  obtain ⟨roleId, subjectId, s₁, s₂, a₁, a₂, h₁, h₂, hrun⟩ := rebindRole_ok hserve.recording (s, []) h
  refine ⟨roleId, subjectId, ?_⟩
  have hcalls : (callsOf serve s r (.rebindRole key p)) = s₂.2 := by
    rw [callsOf, runStep, hrun]
  have hs₁ := congrArg (fun x => x.1.2) h₁
  have hs₂ := congrArg (fun x => x.1.2) h₂
  dsimp only [recording] at hs₁ hs₂
  rw [hcalls, ← hs₂, ← hs₁]
  rfl

/-- **What a step sends**: the ids of the keys it names, unless it names the empty resource key. -/
theorem carries_iff (hserve : Answers serve) (s : σ) {r : Resolved} {step : Step}
    (h : ∀ n ∈ step.names, r.has n) :
    (∀ call ∈ callsOf serve s r step, Carries r step call) ↔ ¬ step.emptyKey := by
  cases step with
  | createResource key name resourceType parent metadata =>
    rw [callsOf_request hserve s rfl, List.forall_mem_singleton]
    cases parent with
    | none => simp [Carries, Step.emptyKey]
    | some p =>
      rw [Carries, truthy_carries (h (.resource, p) (by simp [Step.names, resourceNames]))]
      simp [Step.emptyKey]
  | assignRole kind key role subject resource inherit =>
    obtain ⟨key', hnoop⟩ | ⟨key', p, hrebind⟩ | ⟨call, record, hstep, -, -⟩ := request_ok h
    · cases hnoop
    · cases hrebind
    · have hres : ∀ n ∈ resourceNames resource, r.has n := fun n hn => h n (by simp [Step.names, hn])
      rw [callsOf_request hserve s hstep, List.forall_mem_singleton]
      rw [request, resourceStepId_ok hres] at hstep
      cases hrole : lookup r.roles role with
      | error e => rw [hrole] at hstep; cases hstep
      | ok roleId =>
        cases hsubject : lookup (r.subjects kind) subject with
        | error e => rw [hrole, hsubject] at hstep; cases hstep
        | ok subjectId =>
          rw [hrole, hsubject] at hstep
          cases hstep
          cases resource with
          | none => simp [Carries, Step.emptyKey]
          | some key =>
            rw [Carries, truthy_carries (hres (.resource, key) (by simp [resourceNames]))]
            simp [Step.emptyKey]
  | rebindRole key p =>
    obtain ⟨roleId, subjectId, hcalls⟩ := callsOf_rebind hserve s h
    rw [hcalls, List.forall_mem_cons, List.forall_mem_singleton]
    cases hres : p.resource with
    | none => simp [Carries, Step.emptyKey, hres]
    | some resource =>
      have hkey := truthy_carries (h (.resource, resource) (by simp [Step.names, resourceNames, hres]))
      simp only [Carries, Step.emptyKey, hres, true_and, Option.some.injEq, forall_eq']
      rw [hkey]
  | _ => simp [Carries, Step.emptyKey]

end Run

/-! ## What a plan supplies -/

section Plan
variable {m : ManagementManifest} {snapshot : Snapshot} {steps : List Planned} {r : Resolved}
  {ordered : List ResourceSpec} {network : List Planned}

/-- The keys a planned step names, and the one it makes. -/
abbrev planNeeds (p : Planned) : List Key := p.2.names
abbrev planMakes (p : Planned) : List Key := p.2.makes

/-- The step that places `k`: it makes what is missing and changes what is found. -/
structure Places {α : Type} (k : Key) (match? : Option α) (create : Step) (p : Planned) : Prop where
  makes : create.makes = [k]
  missing : match? = none → p.2 = create
  found : ∀ a, match? = some a → planNeeds p ⊆ [k] ∧ planMakes p = [] ∧ ¬ p.2.emptyKey

theorem Places.supplied {α : Type} {k : Key} {match? : Option α} {create : Step} {p : Planned}
    {H : Key → Prop} (h : Places k match? create p) (hfound : match?.isSome → H k)
    (hneeds : ∀ n ∈ create.names, H n) : ∀ n ∈ planNeeds p, H n := by
  intro n hn
  cases hf : match? with
  | none =>
    rw [planNeeds, h.missing hf] at hn
    exact hneeds n hn
  | some a =>
    have hk := (h.found a hf).1 hn
    rw [List.mem_singleton] at hk
    subst hk
    exact hfound (by rw [hf]; rfl)

theorem Places.after {α : Type} {k : Key} {match? : Option α} {create : Step} {p : Planned}
    {H : Key → Prop} {steps : List Planned} (h : Places k match? create p)
    (hfound : match?.isSome → H k) (hp : p ∈ steps) : After planMakes H steps k := by
  cases hf : match? with
  | none =>
    refine .inr ⟨p, hp, ?_⟩
    rw [planMakes, h.missing hf, h.makes]
    exact List.mem_singleton_self k
  | some a => exact .inl (hfound (by rw [hf]; rfl))

theorem Places.emptyKey_iff {α : Type} {k : Key} {match? : Option α} {create : Step} {p : Planned}
    (h : Places k match? create p) : p.2.emptyKey ↔ match? = none ∧ create.emptyKey := by
  cases hf : match? with
  | none => simp [h.missing hf]
  | some a => simp [(h.found a hf).2.2]

theorem found_ite {c : Prop} [Decidable c] {k : Key} {target : Target} {key : PyStr} {p : Planned}
    (hp : planNeeds p ⊆ [k] ∧ planMakes p = [] ∧ ¬ p.2.emptyKey) :
    planNeeds (if c then p else noChange target key) ⊆ [k] ∧
      planMakes (if c then p else noChange target key) = [] ∧
      ¬ (if c then p else noChange target key).2.emptyKey := by
  split
  · exact hp
  · exact ⟨List.nil_subset _, rfl, fun h => h⟩

theorem places_resource (spec : ResourceSpec) (found : Option Resource) :
    Places (.resource, spec.key) found (.createResource spec.key spec.name spec.resourceType spec.parent spec.metadata)
      (planResource spec.key spec found) where
  makes := rfl
  missing h := by
    subst h
    rfl
  found e he := by
    subst he
    exact found_ite ⟨List.Subset.refl _, rfl, fun h => h⟩

theorem places_scope (spec : ResourceSpec) (scope : ScopeSpec) (found : Option Scope) :
    Places (.scope, scope.key) found (.createScope scope.key spec.key scope.name scope.description)
      (planScope spec scope found) where
  makes := rfl
  missing h := by
    subst h
    rfl
  found e he := by
    subst he
    exact ⟨List.nil_subset _, rfl, fun h => h⟩

theorem places_permission (spec : PermissionSpec) (found : Option Permission) :
    Places (.permission, spec.key) found (.createPermission spec.key spec.action spec.description)
      (planPermission spec found) where
  makes := rfl
  missing h := by
    subst h
    rfl
  found e he := by
    subst he
    exact found_ite ⟨List.Subset.refl _, rfl, fun h => h⟩

theorem places_role (spec : RoleSpec) (found : Option Role) :
    Places (.role, spec.key) found (.createRole spec.key spec.name spec.description spec.isGlobal)
      (planRole spec found) where
  makes := rfl
  missing h := by
    subst h
    rfl
  found e he := by
    subst he
    exact found_ite ⟨List.Subset.refl _, rfl, fun h => h⟩

theorem places_group (spec : GroupSpec) (found : Option Group) :
    Places (.group, spec.key) found (.createGroup spec.key spec.name spec.description)
      (planGroup spec found) where
  makes := rfl
  missing h := by
    subst h
    rfl
  found e he := by
    subst he
    exact found_ite ⟨List.Subset.refl _, rfl, fun h => h⟩

theorem places_user (spec : UserSpec) (found : Option User) :
    Places (.user, spec.key) found (.createUser spec.key spec.username spec.email spec.initialPassword)
      (planUser spec found) where
  makes := rfl
  missing h := by
    subst h
    rfl
  found e he := by
    subst he
    exact found_ite ⟨List.Subset.refl _, rfl, fun h => h⟩

theorem places_serviceAccount (spec : ServiceAccountSpec) (found : Option ServiceAccount) :
    Places (.serviceAccount, spec.key) found (.createServiceAccount spec.key spec.name spec.description)
      (planUniqueAccount spec found) where
  makes := rfl
  missing h := by
    subst h
    rfl
  found e he := by
    subst he
    exact found_ite ⟨List.Subset.refl _, rfl, fun h => h⟩

/-- The body of a segment's create request. -/
def segmentCreate (spec : NetworkSegmentSpec) : SegmentCreate where
  kind := spec.kind
  siteKey := spec.site
  name := spec.name
  vlanId := spec.vlanId
  rank := spec.rank.or none
  filterIds := match spec.filterIds with
    | .unset => none
    | .stated names => some names
  enabled := match spec.enabled with
    | .unset => none
    | .stated b => some b

theorem places_segment (spec : NetworkSegmentSpec) (found : Option NetworkSegment) :
    Places (.segment, spec.key) found (.createNetworkSegment spec.key (segmentCreate spec))
      (planSegment spec found) where
  makes := rfl
  missing h := by
    subst h
    rfl
  found e he := by
    subst he
    exact found_ite ⟨List.Subset.refl _, rfl, fun h => h⟩

theorem supplied_resources (hm : WellFormed m) (hr : Resolution m snapshot r) {H : Key → Prop}
    {placed : List PyStr} {specs : List ResourceSpec} (hspecs : ∀ spec ∈ specs, spec ∈ m.resources)
    (hfirst : ParentsFirst (parentOf m) placed (specs.map ResourceSpec.key))
    (hH : ∀ k, r.has k → H k) (hplaced : ∀ p ∈ placed, H (.resource, p)) :
    Supplied planNeeds planMakes H
      (specs.map (fun spec => planResource spec.key spec (matchResource snapshot r.resources spec))) := by
  induction specs generalizing H placed with
  | nil => trivial
  | cons spec specs ih =>
    rw [List.forall_mem_cons] at hspecs
    have hget := hr.resource spec hspecs.1
    have hparent : parentOf m spec.key = spec.parent := by
      rw [parentOf, resourceSpec?_eq hm hspecs.1]
      rfl
    rw [List.map_cons]
    have hplaces := places_resource spec (matchResource snapshot r.resources spec)
    have hfound : (matchResource snapshot r.resources spec).isSome → H (.resource, spec.key) := by
      intro hf
      refine hH (.resource, spec.key) ?_
      rw [Resolved.has, hget, Option.isSome_map]
      exact hf
    refine ⟨hplaces.supplied hfound fun n hn => ?_, ih hspecs.2 hfirst.2 (fun k hk => .inl (hH k hk)) ?_⟩
    · simp only [Step.names, resourceNames, List.mem_map, Option.mem_toList] at hn
      obtain ⟨p, hp, rfl⟩ := hn
      exact hplaced p (hfirst.1 p (hparent.trans hp))
    · rw [List.forall_mem_cons]
      exact ⟨hplaces.after hfound (List.mem_singleton_self _), fun p hp => .inl (hplaced p hp)⟩

theorem planRoleBinding_needs {kind : SubjectKind} {subject : PyStr} {id? : Option PyStr} {b : RoleBinding}
    {bindings : List RoleAssignment} {target : Target} {n : Key}
    (hn : n ∈ planNeeds (planRoleBinding kind subject id? b r bindings target)) :
    n ∈ (.role, roleKey b) :: (kind.keyKind, subject) :: resourceNames (resourceKey b) := by
  rw [planRoleBinding] at hn
  dsimp only at hn
  cases hbound : boundTo r b bindings id? with
  | none =>
    rw [hbound] at hn
    exact hn
  | some existing =>
    rw [hbound] at hn
    dsimp only at hn
    split at hn
    · cases hn
    · exact hn

section Specs
variable {α β : Type} {specs : List α} {kind : KeyKind} {key : α → PyStr} {match? : α → Option β}
  {create : α → Step} {f : α → Planned} {H : Key → Prop}

theorem section_after (hplaces : ∀ s, Places (kind, key s) (match? s) (create s) (f s))
    (hfound : ∀ s ∈ specs, (match? s).isSome → H (kind, key s)) :
    ∀ k ∈ specs.map key, ∀ steps, specs.map f ⊆ steps → After planMakes H steps (kind, k) := by
  intro k hk steps hsub
  obtain ⟨s, hs, rfl⟩ := List.mem_map.1 hk
  exact (hplaces s).after (hfound s hs) (hsub (List.mem_map_of_mem hs))

theorem section_supplied (hplaces : ∀ s, Places (kind, key s) (match? s) (create s) (f s))
    (hfound : ∀ s ∈ specs, (match? s).isSome → H (kind, key s))
    (hneeds : ∀ s ∈ specs, ∀ n ∈ (create s).names, H n) :
    ∀ p ∈ specs.map f, ∀ n ∈ planNeeds p, H n := by
  intro p hp
  obtain ⟨s, hs, rfl⟩ := List.mem_map.1 hp
  exact (hplaces s).supplied (hfound s hs) (hneeds s hs)

theorem section_emptyKey (specs : List α) (hplaces : ∀ s, Places (kind, key s) (match? s) (create s) (f s))
    (hcreate : ∀ s, ¬ (create s).emptyKey) : ∀ p ∈ specs.map f, ¬ p.2.emptyKey := by
  intro p hp he
  obtain ⟨s, -, rfl⟩ := List.mem_map.1 hp
  exact hcreate s ((hplaces s).emptyKey_iff.1 he).2

end Specs

theorem isSome_of_match {α ν : Type} {d : Dict PyStr ν} {key : PyStr} {match? : Option α} {id : α → ν}
    (h : d.get? key = match?.map id) (hf : match?.isSome) : (d.get? key).isSome := by
  rw [h, Option.isSome_map]
  exact hf

/-- Every key of the core sections is resolved by then, given those of the resources. -/
theorem supplied_core (hm : WellFormed m) (hr : Resolution m snapshot r)
    (ha : ambiguousServiceAccounts m snapshot = []) {H : Key → Prop} (hH : ∀ k, r.has k → H k)
    (hresources : ∀ k ∈ m.resources.map ResourceSpec.key, H (.resource, k)) :
    Supplied planNeeds planMakes H (coreSteps m snapshot r) := by
  have hscopeFound : ∀ p ∈ scopeSpecs m, (matchScope snapshot r.resources p.1 p.2).isSome →
      H (.scope, p.2.key) := fun p hp hf => hH (.scope, _) (isSome_of_match (hr.scope p hp) hf)
  have hpermissionFound : ∀ p ∈ m.permissions, (matchPermission snapshot p).isSome →
      H (.permission, p.key) := fun p hp hf => hH (.permission, _) (isSome_of_match (hr.permission p hp) hf)
  have hroleFound : ∀ role ∈ m.roles, (matchRole snapshot role).isSome → H (.role, role.key) :=
    fun role h hf => hH (.role, _) (isSome_of_match (hr.role role h) hf)
  have hgroupFound : ∀ g ∈ m.groups, (matchGroup snapshot g).isSome → H (.group, g.key) :=
    fun g hg hf => hH (.group, _) (isSome_of_match (hr.group g hg) hf)
  have huserFound : ∀ u ∈ m.users, (matchUser snapshot u).isSome → H (.user, u.key) :=
    fun u hu hf => hH (.user, _) (isSome_of_match (hr.user u hu) hf)
  have haccountFound : ∀ s ∈ m.serviceAccounts, (matchServiceAccount snapshot s).isSome →
      H (.serviceAccount, s.key) :=
    fun s hs hf => hH (.serviceAccount, _) (isSome_of_match (hr.serviceAccount s hs) hf)
  have hscopePlaces := fun p : ResourceSpec × ScopeSpec =>
    places_scope p.1 p.2 (matchScope snapshot r.resources p.1 p.2)
  have hscope := section_after hscopePlaces hscopeFound
  have hpermission := section_after (fun p => places_permission p (matchPermission snapshot p))
    hpermissionFound
  have hrole := section_after (fun role => places_role role (matchRole snapshot role)) hroleFound
  have hgroup := section_after (fun g => places_group g (matchGroup snapshot g)) hgroupFound
  have huser := section_after (fun u => places_user u (matchUser snapshot u)) huserFound
  have haccount := section_after (fun s => places_serviceAccount s (matchServiceAccount snapshot s))
    haccountFound
  -- a subject's bindings, once its own key and the roles' are resolved
  have hsubject : ∀ (u : Subject) (H' : Key → Prop), u ∈ subjects m snapshot → (∀ k, H k → H' k) →
      (∀ k ∈ m.roles.map RoleSpec.key, H' (.role, k)) → H' (u.kind.keyKind, u.key) →
      ∀ p ∈ u.roles.map (planSubjectRole snapshot r u), ∀ n ∈ planNeeds p, H' n := by
    intro u H' hu hHH' hrole' hkey p hp n hn
    obtain ⟨b, hb, rfl⟩ := List.mem_map.1 hp
    have hdeclared := subjects_declared hm hu
    have hn' := planRoleBinding_needs hn
    simp only [List.mem_cons, resourceNames, List.mem_map, Option.mem_toList] at hn'
    obtain rfl | rfl | ⟨key, hkey', rfl⟩ := hn'
    · exact hrole' _ (hdeclared.role b hb)
    · exact hkey
    · exact hHH' _ (hresources key (hdeclared.resource b hb key hkey'))
  rw [coreSteps_eq hr ha]
  -- section by section; what a section makes is there for those after it
  have hscopeNeeds : ∀ p ∈ scopeSpecs m, ∀ n ∈ (Step.createScope p.2.key p.1.key p.2.name
      p.2.description).names, H n := by
    intro p hp n hn
    rw [Step.names, List.mem_singleton] at hn
    subst hn
    obtain ⟨spec, hs, hp⟩ := List.mem_flatMap.1 hp
    obtain ⟨scope, -, rfl⟩ := List.mem_map.1 hp
    exact hresources _ (List.mem_map_of_mem hs)
  refine Supplied.extend (Supplied.extend (Supplied.extend (Supplied.extend (Supplied.extend
    (Supplied.extend (Supplied.extend (Supplied.extend (Supplied.extend (Supplied.extend
      (supplied_of_forall (section_supplied hscopePlaces hscopeFound hscopeNeeds))
      ?permissions) ?roles) ?grants) ?groups) ?groupRoles) ?users) ?userRoles) ?accounts)
        ?accountRoles) ?members
  case permissions =>
    exact section_supplied (fun p => places_permission p (matchPermission snapshot p))
      (fun p hp hf => .inl (hpermissionFound p hp hf)) (by simp [Step.names])
  case roles =>
    exact section_supplied (fun role => places_role role (matchRole snapshot role))
      (fun role h hf => .inl (hroleFound role h hf)) (by simp [Step.names])
  case groups =>
    exact section_supplied (fun g => places_group g (matchGroup snapshot g))
      (fun g hg hf => .inl (hgroupFound g hg hf)) (by simp [Step.names])
  case users =>
    exact section_supplied (fun u => places_user u (matchUser snapshot u))
      (fun u hu hf => .inl (huserFound u hu hf)) (by simp [Step.names])
  case accounts =>
    exact section_supplied (fun s => places_serviceAccount s (matchServiceAccount snapshot s))
      (fun s hs hf => .inl (haccountFound s hs hf)) (by simp [Step.names])
  case grants =>
    intro p hp n hn
    obtain ⟨role, hrole', hp⟩ := List.mem_flatMap.1 hp
    obtain ⟨grant, hgrant, rfl⟩ := List.mem_map.1 hp
    rw [planGrant] at hn
    split at hn
    · cases hn
    · simp only [planNeeds, Step.names, List.mem_cons, List.mem_map] at hn
      obtain rfl | rfl | ⟨s, hs, rfl⟩ := hn
      · exact hrole _ (List.mem_map_of_mem hrole') _ (by grind)
      · exact hpermission _ (hm.permission role hrole' grant hgrant) _ (by grind)
      · have hkey := hm.scope role hrole' grant hgrant s hs
        rw [← scopeSpecs_map, List.map_map] at hkey
        exact hscope s hkey _ (by grind)
  case groupRoles =>
    intro p hp
    obtain ⟨g, hg, hp⟩ := List.mem_flatMap.1 hp
    exact hsubject _ _ (groupSubject_mem hg) (fun k hk => .inl hk) (fun k hk => hrole k hk _ (by grind))
      (hgroup _ (List.mem_map_of_mem hg) _ (by grind)) p hp
  case userRoles =>
    intro p hp
    obtain ⟨u, hu, hp⟩ := List.mem_flatMap.1 hp
    exact hsubject _ _ (userSubject_mem hu) (fun k hk => .inl hk) (fun k hk => hrole k hk _ (by grind))
      (huser _ (List.mem_map_of_mem hu) _ (by grind)) p hp
  case accountRoles =>
    intro p hp
    obtain ⟨s, hs, hp⟩ := List.mem_flatMap.1 hp
    exact hsubject _ _ (accountSubject_mem hs) (fun k hk => .inl hk) (fun k hk => hrole k hk _ (by grind))
      (haccount _ (List.mem_map_of_mem hs) _ (by grind)) p hp
  case members =>
    intro p hp n hn
    obtain ⟨u, hu, hp⟩ := List.mem_flatMap.1 hp
    obtain ⟨g, hg, rfl⟩ := List.mem_map.1 hp
    rw [planGroupMember] at hn
    split at hn
    · cases hn
    · simp only [planNeeds, Step.names, List.mem_cons, List.not_mem_nil, or_false] at hn
      obtain rfl | rfl := hn
      · exact hgroup _ (hm.userGroups u hu g hg) _ (by grind)
      · exact huser _ (List.mem_map_of_mem hu) _ (by grind)

theorem collect_mem {ε α β : Type} {f : α → Except ε β} {as : List α} {bs : List β}
    (h : collect f as = .ok bs) : ∀ b ∈ bs, ∃ a ∈ as, f a = .ok b := by
  induction as generalizing bs with
  | nil =>
    cases h
    simp
  | cons a as ih =>
    rw [collect] at h
    cases ha : f a with
    | error e =>
      rw [ha] at h
      cases h
    | ok b =>
      rw [ha] at h
      cases hrest : collect f as with
      | error e =>
        rw [hrest] at h
        cases h
      | ok bs' =>
        rw [hrest] at h
        cases h
        rw [List.forall_mem_cons]
        refine ⟨⟨a, List.mem_cons_self, ha⟩, fun b' hb' => ?_⟩
        obtain ⟨a', ha', he⟩ := ih hrest b' hb'
        exact ⟨a', List.mem_cons_of_mem a ha', he⟩

theorem orderedProfiles_ok {n : NetworkSpec} {ordered : List NetworkProfileSpec}
    (h : orderedProfiles n = .ok ordered) :
    ordered.Perm n.profiles ∧ ∀ p ∈ ordered, p.segment ∈ n.segments.map NetworkSegmentSpec.key := by
  rw [orderedProfiles] at h
  cases hfind : n.profiles.find? (fun p => p.segment ∉ n.segments.map NetworkSegmentSpec.key) with
  | some p =>
    rw [hfind] at h
    cases h
  | none =>
    rw [hfind] at h
    cases h
    have hperm := List.perm_insertionSort
      (fun p q : NetworkProfileSpec => segmentsAfter n q.segment ≤ segmentsAfter n p.segment) n.profiles
    refine ⟨hperm, fun p hp => ?_⟩
    rw [List.find?_eq_none] at hfind
    simpa using hfind p (hperm.mem_iff.1 hp)

theorem planProfile_ok {segments : Dict PyStr PyStr} {spec : NetworkProfileSpec} {p : Planned}
    (h : planProfile snapshot segments spec = .ok p) :
    planNeeds p ⊆ [(.segment, spec.segment)] ∧ planMakes p = [] ∧ ¬ p.2.emptyKey := by
  rw [planProfile] at h
  split at h
  · cases h
    exact ⟨List.Subset.refl _, rfl, fun h => h⟩
  · split at h
    · split at h
      · cases h
      · cases h
        exact ⟨List.Subset.refl _, rfl, fun h => h⟩
    · cases h
      exact ⟨List.nil_subset _, rfl, fun h => h⟩

theorem planNetwork_ok {n : NetworkSpec} (h : planNetwork snapshot n = .ok network) :
    ∃ ordered profiles, orderedProfiles n = .ok ordered ∧
      collect (planProfile snapshot (resolveSegments snapshot n.segments)) ordered = .ok profiles ∧
      network = n.policy.toList.map (planNetworkPolicy snapshot.networkPolicy) ++
        n.segments.map (fun s => planSegment s (matchSegment snapshot s)) ++ profiles := by
  rw [planNetwork] at h
  cases hordered : orderedProfiles n with
  | error e =>
    rw [hordered] at h
    cases h
  | ok ordered =>
    rw [hordered] at h
    dsimp only at h
    cases hprofiles : collect (planProfile snapshot (resolveSegments snapshot n.segments)) ordered with
    | error e =>
      rw [hprofiles] at h
      cases h
    | ok profiles =>
      rw [hprofiles] at h
      cases h
      exact ⟨ordered, profiles, rfl, hprofiles, rfl⟩

theorem supplied_network (hr : Resolution m snapshot r) (h : networkSteps m snapshot = .ok network)
    {H : Key → Prop} (hH : ∀ k, r.has k → H k) : Supplied planNeeds planMakes H network := by
  rw [networkSteps] at h
  cases hn : m.network with
  | none =>
    rw [hn] at h
    cases h
    trivial
  | some n =>
    rw [hn] at h
    obtain ⟨ordered, profiles, hordered, hprofiles, rfl⟩ := planNetwork_ok h
    have hfound : ∀ s ∈ n.segments, (matchSegment snapshot s).isSome → H (.segment, s.key) := by
      intro s hs hf
      exact hH (.segment, _) ⟨isSome_of_match (hr.segment n hn s hs) hf,
        isSome_of_match (hr.segmentVersion n hn s hs) hf⟩
    have hsegment := section_after (fun s => places_segment s (matchSegment snapshot s)) hfound
    refine Supplied.extend (Supplied.extend (supplied_of_forall ?policy) ?segments) ?profiles
    case policy =>
      intro p hp
      obtain ⟨policy, -, rfl⟩ := List.mem_map.1 hp
      rw [planNetworkPolicy]
      split
      · exact fun n hn => by cases hn
      · exact fun n hn => by cases hn
    case segments =>
      exact section_supplied (fun s => places_segment s (matchSegment snapshot s))
        (fun s hs hf => .inl (hfound s hs hf)) (by simp [Step.names])
    case profiles =>
      intro p hp n' hn'
      obtain ⟨spec, hspec, hplan⟩ := collect_mem hprofiles p hp
      have hkey := (planProfile_ok hplan).1 hn'
      rw [List.mem_singleton] at hkey
      subst hkey
      exact hsegment _ ((orderedProfiles_ok hordered).2 spec hspec) _ (by grind)

/-- **A plan supplies its keys.** -/
theorem supplied_of_sections (hm : WellFormed m) (hsec : Sections m snapshot steps r ordered network)
    (ha : ambiguousServiceAccounts m snapshot = []) :
    Supplied planNeeds planMakes r.has steps := by
  have hr := hsec.resolution
  have hordered : ∀ spec ∈ ordered, spec ∈ m.resources := fun spec hs => hsec.perm.mem_iff.1 hs
  have hfound : ∀ spec ∈ ordered, (matchResource snapshot r.resources spec).isSome →
      r.has (.resource, spec.key) :=
    fun spec hs hf => isSome_of_match (hr.resource spec (hordered spec hs)) hf
  have hkeys := section_after
    (fun spec => places_resource spec (matchResource snapshot r.resources spec)) hfound
  rw [hsec.steps_eq, List.append_assoc, supplied_append]
  refine ⟨supplied_resources hm hr hordered hsec.parentsFirst (fun k hk => hk) (by simp), ?_⟩
  rw [supplied_append]
  refine ⟨supplied_core hm hr ha (fun k hk => .inl hk) fun k hk => ?_,
    supplied_network hr hsec.network_eq fun k hk => .inl (.inl hk)⟩
  exact hkeys k ((hsec.perm.map _).mem_iff.2 hk) _ (List.Subset.refl _)

end Plan

/-! ## The empty resource key -/

/-- No step is planned that would read the empty key as no key: every resource below it is there
already, and every binding that names it is as it is planned. -/
structure EmptyKeyUnused (m : ManagementManifest) (snapshot : Snapshot) : Prop where
  parent : ∀ spec ∈ m.resources, spec.parent = some [] → ∃ res, Held m snapshot spec.key res
  binding : ∀ u ∈ subjects m snapshot, ∀ role inherit, RoleBinding.scoped role [] inherit ∈ u.roles →
    ∃ existing, standing m snapshot u (.scoped role [] inherit) = some existing ∧
      existing.inherit = inherit ∧
      ∀ id, existing.resourceId = some id ↔ ∃ res, Held m snapshot [] res ∧ res.id = id

section EmptyKey
variable {m : ManagementManifest} {snapshot : Snapshot} {steps : List Planned} {r : Resolved}
  {ordered : List ResourceSpec} {network : List Planned}

theorem planSubjectRole_emptyKey (hm : WellFormed m) (hr : Resolution m snapshot r) {u : Subject}
    {b : RoleBinding} (hb : roleKey b ∈ m.roles.map RoleSpec.key) :
    (planSubjectRole snapshot r u b).2.emptyKey ↔ resourceKey b = some [] ∧
      ¬ ∃ existing, standing m snapshot u b = some existing ∧
        existing.resourceId = (bindingResourceAndInherit r b).1 ∧
        existing.inherit = (bindingResourceAndInherit r b).2 := by
  rw [planSubjectRole, planRoleBinding, boundTo_eq hm hr hb]
  dsimp only
  cases hstanding : standing m snapshot u b with
  | none => simp [Step.emptyKey]
  | some existing =>
    dsimp only
    split
    · next h => simp [noChange, Step.emptyKey, h]
    · next h =>
      simp only [Step.emptyKey, Option.some.injEq, exists_eq_left']
      exact ⟨fun he => ⟨he, h⟩, fun he => he.1⟩

theorem core_emptyKey (hr : Resolution m snapshot r) (ha : ambiguousServiceAccounts m snapshot = []) :
    (∀ p ∈ coreSteps m snapshot r, ¬ p.2.emptyKey) ↔
      ∀ u ∈ subjects m snapshot, ∀ b ∈ u.roles, ¬ (planSubjectRole snapshot r u b).2.emptyKey := by
  have hgrant : ∀ p ∈ m.roles.flatMap (fun role => role.grants.map (planGrant snapshot r role)),
      ¬ p.2.emptyKey := by
    intro p hp
    obtain ⟨role, -, hp⟩ := List.mem_flatMap.1 hp
    obtain ⟨grant, -, rfl⟩ := List.mem_map.1 hp
    rw [planGrant]
    split
    · exact fun h => h
    · exact fun h => h
  have hmember : ∀ p ∈ m.users.flatMap (fun u => u.groups.map (planGroupMember snapshot r u)),
      ¬ p.2.emptyKey := by
    intro p hp
    obtain ⟨u, -, hp⟩ := List.mem_flatMap.1 hp
    obtain ⟨g, -, rfl⟩ := List.mem_map.1 hp
    rw [planGroupMember]
    split
    · exact fun h => h
    · exact fun h => h
  have hscope := section_emptyKey (scopeSpecs m) (fun p : ResourceSpec × ScopeSpec =>
    places_scope p.1 p.2 (matchScope snapshot r.resources p.1 p.2)) (fun p h => h)
  have hpermission := section_emptyKey m.permissions
    (fun p => places_permission p (matchPermission snapshot p)) (fun p h => h)
  have hrole := section_emptyKey m.roles (fun role => places_role role (matchRole snapshot role))
    (fun p h => h)
  have hgroup := section_emptyKey m.groups (fun g => places_group g (matchGroup snapshot g))
    (fun p h => h)
  have huser := section_emptyKey m.users (fun u => places_user u (matchUser snapshot u))
    (fun p h => h)
  have haccount := section_emptyKey m.serviceAccounts
    (fun s => places_serviceAccount s (matchServiceAccount snapshot s)) (fun p h => h)
  have hg := forall_subjectSteps snapshot r (fun p => ¬ p.2.emptyKey) m.groups (groupSubject snapshot)
  have hu := forall_subjectSteps snapshot r (fun p => ¬ p.2.emptyKey) m.users (userSubject snapshot)
  have hs := forall_subjectSteps snapshot r (fun p => ¬ p.2.emptyKey) m.serviceAccounts (accountSubject snapshot)
  rw [coreSteps_eq hr ha]
  simp only [List.forall_mem_append, subjects]
  tauto

/-- **The steps that read the empty key as no key**, in terms of the manifest and the snapshot. -/
theorem emptyKey_iff (hm : WellFormed m) (hsec : Sections m snapshot steps r ordered network)
    (ha : ambiguousServiceAccounts m snapshot = []) :
    (∀ p ∈ steps, ¬ p.2.emptyKey) ↔ EmptyKeyUnused m snapshot := by
  have hr := hsec.resolution
  have hresources : (∀ p ∈ ordered.map (fun spec => planResource spec.key spec
      (matchResource snapshot r.resources spec)), ¬ p.2.emptyKey) ↔
      ∀ spec ∈ m.resources, spec.parent = some [] → ∃ res, Held m snapshot spec.key res := by
    rw [List.forall_mem_map]
    refine forall_congr' fun spec => ?_
    rw [hsec.perm.mem_iff, (places_resource spec _).emptyKey_iff]
    refine forall_congr' fun hs => ?_
    rw [← held_iff hm hsec (List.mem_map_of_mem hs), hr.resource spec hs, Option.isSome_map]
    cases matchResource snapshot r.resources spec with
    | none => simp [Step.emptyKey]
    | some e => simp
  have hbindings : (∀ u ∈ subjects m snapshot, ∀ b ∈ u.roles,
      ¬ (planSubjectRole snapshot r u b).2.emptyKey) ↔
      ∀ u ∈ subjects m snapshot, ∀ role inherit, RoleBinding.scoped role [] inherit ∈ u.roles →
        ∃ existing, standing m snapshot u (.scoped role [] inherit) = some existing ∧
          existing.inherit = inherit ∧
          ∀ id, existing.resourceId = some id ↔ ∃ res, Held m snapshot [] res ∧ res.id = id := by
    refine forall_congr' fun u => forall_congr' fun hu => ?_
    have hdeclared := subjects_declared hm hu
    constructor
    · intro h role inherit hb
      have hnot := h _ hb
      rw [planSubjectRole_emptyKey hm hr (hdeclared.role _ hb)] at hnot
      obtain ⟨existing, hstanding, hid, hinherit⟩ := not_not.1 (not_and.1 hnot rfl)
      refine ⟨existing, hstanding, hinherit, fun id => ?_⟩
      rw [hid, ← resolved_iff_held hm hsec (hdeclared.resource _ hb _ rfl)]
      rfl
    · intro h b hb he
      rw [planSubjectRole_emptyKey hm hr (hdeclared.role _ hb)] at he
      obtain ⟨hkey, hnot⟩ := he
      obtain role | ⟨role, resource, inherit⟩ := b
      · cases hkey
      · cases hkey
        obtain ⟨existing, hstanding, hinherit, hid⟩ := h role inherit hb
        refine hnot ⟨existing, hstanding, Option.ext fun id => ?_, hinherit⟩
        rw [hid id, ← resolved_iff_held hm hsec (hdeclared.resource _ hb _ rfl)]
        rfl
  have hnetwork : ∀ p ∈ network, ¬ p.2.emptyKey := by
    have h := hsec.network_eq
    rw [networkSteps] at h
    cases hn : m.network with
    | none =>
      rw [hn] at h
      cases h
      simp
    | some n =>
      rw [hn] at h
      obtain ⟨ordered', profiles, -, hprofiles, rfl⟩ := planNetwork_ok h
      have hsegment := section_emptyKey n.segments
        (fun s => places_segment s (matchSegment snapshot s)) (fun p h => h)
      simp only [List.forall_mem_append]
      refine ⟨⟨?_, hsegment⟩, fun p hp => ?_⟩
      · rw [List.forall_mem_map]
        intro policy _
        rw [planNetworkPolicy]
        split
        · exact fun h => h
        · exact fun h => h
      · obtain ⟨spec, -, hplan⟩ := collect_mem hprofiles p hp
        exact (planProfile_ok hplan).2.2
  rw [hsec.steps_eq, List.forall_mem_append, List.forall_mem_append, hresources, core_emptyKey hr ha, hbindings]
  exact ⟨fun h => ⟨h.1.1, h.1.2⟩, fun h => ⟨⟨h.parent, h.binding⟩, hnetwork⟩⟩

end EmptyKey

/-! ## Whole runs -/

section Runs
variable {σ : Type} {serve : Server σ} {repr : PyStr → PyStr}

/-- The run raises no `KeyError`: it is not stopped, every step finds the keys it names, and its calls
carry the ids of the resource keys among them. -/
def ResolvesKeys (serve : Server σ) (repr : PyStr → PyStr) (s : σ) (steps : List Planned) (r : Resolved) :
    Prop :=
  (execute serve repr s r steps).stopped = false ∧
    ∀ pre p post, steps = pre ++ p :: post →
      let a := execute serve repr s r pre
      (∀ k ∈ p.2.names, a.resolved.has k) ∧
        ∀ call ∈ callsOf serve a.server a.resolved p.2, Carries a.resolved p.2 call

theorem resolvesKeys_of_supplied (hserve : Answers serve) (s : σ) {steps : List Planned} {r : Resolved}
    (h : Supplied planNeeds planMakes r.has steps) :
    ResolvesKeys serve repr s steps r ↔ ∀ p ∈ steps, ¬ p.2.emptyKey := by
  have hnamed : ∀ pre p post, steps = pre ++ p :: post →
      ∀ k ∈ p.2.names, (execute serve repr s r pre).resolved.has k := by
    intro pre p post he k hk
    rw [he, supplied_append] at h
    exact (execute_supplied repr hserve s h.1).2 k (h.2.1 k hk)
  constructor
  · intro hrun p hp
    obtain ⟨pre, post, he⟩ := List.append_of_mem hp
    exact (carries_iff hserve _ (hnamed pre p post he)).1 (hrun.2 pre p post he).2
  · intro hsteps
    refine ⟨(execute_supplied repr hserve s h).1, fun pre p post he => ?_⟩
    have hp : p ∈ steps := by simp [he]
    exact ⟨hnamed pre p post he, (carries_iff hserve _ (hnamed pre p post he)).2 (hsteps p hp)⟩

/-- **Every step resolves the keys it names**, and its calls carry their ids, exactly when no step is
planned for an empty resource key. -/
theorem resolvesKeys_iff {m : ManagementManifest} {snapshot : Snapshot} {steps : List Planned}
    {r : Resolved} (hserve : Answers serve) (hplan : Planable m snapshot steps r) (s : σ) :
    ResolvesKeys serve repr s steps r ↔ EmptyKeyUnused m snapshot := by
  obtain ⟨hvalid, ha, hcompute, -⟩ := hplan
  have hm := hvalid.wellFormed
  obtain ⟨ordered, network, hsec⟩ := compute_ok hm hcompute
  rw [resolvesKeys_of_supplied hserve s (supplied_of_sections hm hsec ha), emptyKey_iff hm hsec ha]

theorem not_resolvesKeys {m : ManagementManifest} {snapshot : Snapshot} {steps : List Planned}
    {r : Resolved} (hserve : Answers serve) (hplan : Planable m snapshot steps r) (s : σ) {p : Planned}
    (hp : p ∈ steps) (hempty : p.2.emptyKey) : ¬ ResolvesKeys serve repr s steps r := by
  obtain ⟨hvalid, ha, hcompute, -⟩ := hplan
  obtain ⟨ordered, network, hsec⟩ := compute_ok hvalid.wellFormed hcompute
  rw [resolvesKeys_of_supplied hserve s (supplied_of_sections hvalid.wellFormed hsec ha)]
  exact fun h => h p hp hempty

end Runs

/-! ## A plan with a binding at a resource -/

/-- A server that answers every call with an id it has not used. -/
def counting : Server ℕ := fun n _ => (n + 1, .ok ⟨(List.replicate (n + 1) (lit "i")).flatten, 1, []⟩)

/-- A tenant without anything in it. -/
def emptySnapshot : Snapshot where
  resources := []
  scopes := .empty
  permissions := []
  roles := []
  groups := []
  users := []
  serviceAccounts := []
  roleGrants := .empty
  roleUserBindings := .empty
  roleGroupBindings := .empty
  roleServiceAccountBindings := .empty
  groupMembers := .empty
  networkPolicy := none
  networkSegments := []
  networkProfiles := []

/-- One resource of the given key, with a role bound to a group there. -/
def boundAt (key : PyStr) : ManagementManifest where
  resources := [⟨key, lit "site", lit "site", none, [], none⟩]
  permissions := []
  roles := [⟨lit "editor", lit "editor", [], false, []⟩]
  groups := [⟨lit "staff", lit "staff", [], [.scoped (lit "editor") key true]⟩]
  users := []
  serviceAccounts := []
  network := none

theorem answers_counting : Answers counting := fun _ _ => ⟨_, rfl⟩

theorem scoped_assign_resolved : ∃ steps r, Planable (boundAt (lit "site")) emptySnapshot steps r ∧
    ResolvesKeys counting id 0 steps r := by
  have hplan : Planable (boundAt (lit "site")) emptySnapshot _ _ := ⟨by decide, rfl, rfl, rfl⟩
  refine ⟨_, _, hplan, (resolvesKeys_iff answers_counting hplan 0).2 ⟨?_, ?_⟩⟩
  · simp [boundAt]
  · simp [boundAt, subjects, groupSubject, lit]

theorem empty_key_unscoped : ∃ steps r, Planable (boundAt []) emptySnapshot steps r ∧
    ¬ ResolvesKeys counting id 0 steps r := by
  have hplan : Planable (boundAt []) emptySnapshot _ _ := ⟨by decide, rfl, rfl, rfl⟩
  refine ⟨_, _, hplan, not_resolvesKeys answers_counting hplan 0
    (p := (⟨.create, .groupRole, lit "staff"⟩, .assignRole .group (lit "staff") (lit "editor") (lit "staff")
      (some []) true)) ?_ rfl⟩
  exact List.mem_of_getElem? (i := 3) rfl

end AxiamSdk.Manifest
