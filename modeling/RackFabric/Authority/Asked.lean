import RackFabric.Authority.Limits

/-!
Whether a caller is granted what it asked for. A grant that is issued is; one that is recalled for a request identity
is whatever that identity was first used for. In a run that uses every identity for one request it is what was asked.
-/

namespace RackFabric

open Foundation

/-- The grant is what the request asked for. -/
structure GrantRequest.AnsweredBy (request : GrantRequest) (grant : Grant) : Prop where
  identity : grant.request = request.request
  principal : grant.principal = request.principal
  scope : grant.scope = request.scope
  mode : grant.mode = request.mode
  capacity : grant.capacity = request.capacity

/-- Two requests for the same lease under the same identity. -/
structure GrantRequest.Repeats (request first : GrantRequest) : Prop where
  identity : request.request = first.request
  principal : request.principal = first.principal
  scope : request.scope = first.scope
  mode : request.mode = first.mode
  capacity : request.capacity = first.capacity

theorem GrantRequest.Repeats.answered {request first : GrantRequest} (repeats : request.Repeats first) {grant : Grant} :
    request.AnsweredBy grant ↔ first.AnsweredBy grant := by
  obtain ⟨identity, principal, scope, mode, capacity⟩ := repeats
  constructor
  · rintro ⟨own, caller, resources, sharing, amount⟩
    exact ⟨own.trans identity, caller.trans principal, resources.trans scope, sharing.trans mode, amount.trans capacity⟩
  · rintro ⟨own, caller, resources, sharing, amount⟩
    exact ⟨own.trans identity.symm, caller.trans principal.symm, resources.trans scope.symm, sharing.trans mode.symm,
      amount.trans capacity.symm⟩

theorem GrantRequest.AnsweredBy.terms {request : GrantRequest} {grant moved : Grant} (answered : request.AnsweredBy grant)
    (same : moved.terms = grant.terms) : request.AnsweredBy moved := by
  have fields : moved.terms.request = grant.terms.request ∧ moved.terms.principal = grant.terms.principal ∧
      moved.terms.scope = grant.terms.scope ∧ moved.terms.mode = grant.terms.mode ∧
      moved.terms.capacity = grant.terms.capacity := by
    rw [same]
    exact ⟨rfl, rfl, rfl, rfl, rfl⟩
  obtain ⟨own, caller, resources, sharing, amount⟩ := fields
  exact ⟨own.trans answered.identity, caller.trans answered.principal, resources.trans answered.scope,
    sharing.trans answered.mode, amount.trans answered.capacity⟩

theorem issuedGrant_answers (snapshot : Snapshot) (request : GrantRequest)
    (incarnation nowMs deadline fence : UInt64) (expanded pool : List ResourceRef) :
    request.AnsweredBy (GrantRegistry.issuedGrant snapshot request incarnation nowMs deadline fence expanded pool) :=
  ⟨rfl, rfl, rfl, rfl, rfl⟩

namespace GrantRegistry

/-- The identity of the request is remembered for a grant that is not what the request asks for. -/
def Reuses (registry : GrantRegistry) (request : GrantRequest) : Prop :=
  ∃ outcome grant, registry.outcomes[request.request]? = some outcome ∧ outcome.code = .ok ∧
    registry.grants[outcome.grant]? = some grant ∧ ¬ request.AnsweredBy grant

theorem acquire_remembered {registry : GrantRegistry} {snapshot : Snapshot} {request : GrantRequest}
    {outcome : RequestOutcome} (valid : snapshot.valid = true) (identified : request.request.isSet = true)
    (remembered : registry.outcomes[request.request]? = some outcome) (incarnation nowMs : UInt64) (allowNew : Bool) :
    registry.acquire snapshot request incarnation nowMs allowNew = (registry, registry.replay outcome) := by
  simp only [acquire, valid, identified, remembered, Bool.not_true, Bool.false_eq_true, if_false]

theorem replay_held {registry : GrantRegistry} {outcome : RequestOutcome} {grant : Grant}
    (accepted : outcome.code = .ok) (held : registry.grants[outcome.grant]? = some grant) :
    registry.replay outcome = .ok grant := by
  simp only [replay, accepted, ne_eq, not_true_eq_false, if_false, held]

/-- A request is answered with what it asked for, exactly when its identity is not reused. -/
theorem acquire_answers (registry : GrantRegistry) (snapshot : Snapshot) (request : GrantRequest)
    (incarnation nowMs : UInt64) (allowNew : Bool) :
    (∀ grant, (registry.acquire snapshot request incarnation nowMs allowNew).2 = .ok grant →
        request.AnsweredBy grant) ↔
      (snapshot.valid = true → request.request.isSet = true → ¬ registry.Reuses request) := by
  constructor
  · intro answers valid identified reuses
    obtain ⟨outcome, grant, remembered, accepted, held, other⟩ := reuses
    apply other
    apply answers
    rw [acquire_remembered valid identified remembered]
    exact replay_held accepted held
  · intro first grant granted
    by_cases valid : snapshot.valid = true
    · by_cases identified : request.request.isSet = true
      · cases remembered : registry.outcomes[request.request]? with
        | some outcome =>
          rw [acquire_remembered valid identified remembered] at granted
          obtain ⟨accepted, held⟩ := replay_ok granted
          by_contra other
          exact first valid identified ⟨outcome, grant, remembered, accepted, held, other⟩
        | none =>
          cases acquired : registry.acquire snapshot request incarnation nowMs allowNew with
          | mk next result =>
            rw [acquired] at granted
            cases acquire_decides acquired with
            | refused => cases granted
            | replayed outcome found =>
              rw [remembered] at found
              cases found
            | turnedDown => cases granted
            | burned => cases granted
            | issued deadline expanded pool =>
              cases granted
              exact issuedGrant_answers snapshot request incarnation nowMs deadline _ expanded pool
      · simp only [acquire, valid, identified, Bool.not_true, Bool.not_false, Bool.false_eq_true, if_false, if_true,
          refuse] at granted
        cases granted
    · simp only [acquire, valid, Bool.not_false, if_true, refuse] at granted
      cases granted

/-- What every request identity of a run stands for, and which of them every grant number belongs to. -/
structure Register where
  asks : RequestId → GrantRequest
  owner : UInt64 → RequestId

/-- A call that uses no identity for anything else: requests, grants and outcomes come under the identity that the
register has them under, and a new grant under a number that no live one has. -/
def Register.Keeps (register : Register) (before : GrantRegistry) : RegistryCall → GrantRegistry → Prop
  | .acquire _ request _ _ _, after =>
    request.Repeats (register.asks request.request) ∧
      (before.live < after.live → before.Vacant after.nextFence ∧ register.owner after.nextFence = request.request)
  | .installRecovered _ grant, _ =>
    register.owner grant.id = grant.request ∧ (register.asks grant.request).AnsweredBy grant
  | .installOutcome request outcome, _ => outcome.code = .ok → register.owner outcome.grant = request
  | _, _ => True

/-- A grant held under its number is what the identity of that number asks for. -/
def Register.Owns (register : Register) (id : UInt64) (grant : Grant) : Prop :=
  register.owner id = grant.request ∧ (register.asks grant.request).AnsweredBy grant

/-- What a registry holds and remembers is as the register has it. -/
structure Register.Covers (register : Register) (registry : GrantRegistry) : Prop where
  indexed : registry.Indexed
  held : ∀ (id : UInt64) (grant : Grant), registry.grants[id]? = some grant → register.Owns id grant
  remembered : ∀ (request : RequestId) (outcome : RequestOutcome), registry.outcomes[request]? = some outcome →
    outcome.code = .ok → register.owner outcome.grant = request

variable {register : Register} {registry next : GrantRegistry}

theorem Register.Owns.terms {id : UInt64} {grant moved : Grant} (owns : register.Owns id grant)
    (same : moved.terms = grant.terms) : register.Owns id moved := by
  have request : moved.request = grant.request := by
    have kept := congrArg Grant.request same
    exact kept
  rw [Register.Owns, request]
  exact ⟨owns.1, owns.2.terms same⟩

theorem Register.Covers.unused (covers : register.Covers registry) {request : GrantRequest}
    (repeats : request.Repeats (register.asks request.request)) : ¬ registry.Reuses request := by
  rintro ⟨outcome, grant, remembered, accepted, found, other⟩
  have owner := covers.remembered request.request outcome remembered accepted
  obtain ⟨own, answered⟩ := covers.held outcome.grant grant found
  rw [← own, owner] at answered
  exact other (repeats.answered.mpr answered)

theorem Register.Covers.trims (covers : register.Covers registry) (trims : Trims registry next)
    (outcomes : next.outcomes = registry.outcomes) : register.Covers next := by
  refine ⟨trims.indexed covers.indexed, ?_, outcomes ▸ covers.remembered⟩
  intro id moved found
  obtain ⟨grant, held, same⟩ := trims.source found
  exact (covers.held id grant held).terms same

/-- A grant that enters the table, live or not, as the register has it. -/
theorem Register.Covers.install (covers : register.Covers registry) {grant : Grant}
    (grants : next.grants = registry.grants.insert grant.id grant) (outcomes : next.outcomes = registry.outcomes)
    (indexed : next.Indexed) (owns : register.Owns grant.id grant) : register.Covers next := by
  refine ⟨indexed, ?_, outcomes ▸ covers.remembered⟩
  intro id stored found
  rw [grants, Std.ExtTreeMap.getElem?_insert] at found
  simp only [Std.LawfulEqCmp.compare_eq_iff_eq] at found
  split at found
  · rename_i own
    cases found
    exact own ▸ owns
  · exact covers.held id stored found

/-- An outcome that is remembered, if it names a grant, names one of its own request. -/
theorem Register.Covers.recall (covers : register.Covers registry) {request : RequestId} {outcome : RequestOutcome}
    (owner : outcome.code = .ok → register.owner outcome.grant = request) :
    register.Covers { registry with outcomes := registry.outcomes.insert request outcome } := by
  have same : Aside registry { registry with outcomes := registry.outcomes.insert request outcome } :=
    ⟨rfl, rfl, rfl, rfl, rfl, rfl, rfl, rfl⟩
  refine ⟨covers.indexed.aside same, covers.held, ?_⟩
  intro other known found accepted
  rw [Std.ExtTreeMap.getElem?_insert] at found
  simp only [Std.LawfulEqCmp.compare_eq_iff_eq] at found
  split at found
  · rename_i own
    cases found
    rw [← own]
    exact owner accepted
  · exact covers.remembered other known found accepted

theorem Register.Covers.enlist (covers : register.Covers registry) (snapshot : Snapshot) (request : GrantRequest)
    {grant : Grant} (vacant : registry.Vacant grant.id) (active : grant.state = .active)
    (owns : register.Owns grant.id grant) (own : register.owner grant.id = request.request) :
    register.Covers (registry.takeFence.enlist snapshot request grant) := by
  have books := attach_sameBooks registry.takeFence snapshot grant
  have indexed : (registry.takeFence.enlist snapshot request grant).Indexed :=
    (covers.indexed.enroll snapshot vacant (by rw [Grant.isLive, active]; rfl)).aside
      (enlist_aside registry snapshot request active)
  have installed : register.Covers { registry.takeFence.attach snapshot grant with
      grants := (registry.takeFence.attach snapshot grant).grants.insert grant.id grant
      live := (registry.takeFence.attach snapshot grant).live + 1 } := by
    refine covers.install ?_ books.outcomes ?_ owns
    · rw [books.grants]
      rfl
    · exact indexed.aside ⟨rfl, rfl, rfl, rfl, rfl, rfl, rfl, rfl⟩
  exact installed.recall fun _ => own

theorem Register.Covers.acquire (covers : register.Covers registry) (snapshot : Snapshot) (request : GrantRequest)
    (incarnation nowMs : UInt64) (allowNew : Bool)
    (keeps : register.Keeps registry (.acquire snapshot request incarnation nowMs allowNew)
      (registry.acquire snapshot request incarnation nowMs allowNew).1) :
    register.Covers (registry.acquire snapshot request incarnation nowMs allowNew).1 := by
  cases acquired : registry.acquire snapshot request incarnation nowMs allowNew with
  | mk after result =>
    rw [acquired] at keeps
    cases acquire_decides acquired with
    | refused => exact covers
    | replayed => exact covers
    | turnedDown refusal identified fresh checked =>
      unfold turnedDown
      split
      · refine covers.recall ?_
        intro accepted
        exact absurd accepted (admission_error checked)
      · exact covers
    | burned => exact covers.trims (.single (.aside ⟨rfl, rfl, rfl, rfl, rfl, rfl, rfl, rfl⟩)) rfl
    | issued deadline expanded pool identified fresh checked =>
      obtain ⟨repeats, takes⟩ := keeps
      have aside := enlist_aside registry snapshot request
        (show (issuedGrant snapshot request incarnation nowMs deadline registry.takeFence.nextFence expanded pool).state =
          .active from rfl)
      have counted := aside.live
      rw [show (registry.enroll snapshot _).live = registry.live + 1 from rfl] at counted
      obtain ⟨vacant, owner⟩ := takes (by dsimp only; omega)
      have number : (registry.takeFence.enlist snapshot request (issuedGrant snapshot request incarnation nowMs deadline
          registry.takeFence.nextFence expanded pool)).nextFence = registry.takeFence.nextFence :=
        (attach_sameBooks _ _ _).nextFence
      rw [number] at vacant owner
      have answers := issuedGrant_answers snapshot request incarnation nowMs deadline registry.takeFence.nextFence
        expanded pool
      exact covers.enlist snapshot request vacant rfl ⟨owner, repeats.answered.mp answers⟩ owner

theorem Register.Covers.installRecovered (covers : register.Covers registry) (snapshot : Snapshot) {grant : Grant}
    (owns : register.Owns grant.id grant) : register.Covers (registry.installRecovered snapshot grant).1 := by
  unfold GrantRegistry.installRecovered
  split
  · exact covers
  split
  · exact covers
  split
  · exact covers
  rename_i known
  have fresh : grant.id ∉ registry.grants := by simpa using known
  split
  · exact covers
  split
  · have lost : register.Owns (lostGrant grant).id (lostGrant grant) := owns.terms rfl
    have recorded := covers.indexed.record (show (lostGrant grant).id ∉ registry.grants from fresh)
    refine covers.install rfl rfl (recorded.aside ?_) lost
    exact ⟨rfl, rfl, rfl, rfl, rfl, rfl, rfl, rfl⟩
  · rename_i pool _
    have kept : register.Owns (recoveredGrant grant pool).id (recoveredGrant grant pool) :=
      ⟨owns.1, owns.2.identity, owns.2.principal, owns.2.scope, owns.2.mode, owns.2.capacity⟩
    have absent : (recoveredGrant grant pool).id ∉ registry.grants := fresh
    have books := attach_sameBooks (registry.raiseFence grant.fence) snapshot (recoveredGrant grant pool)
    refine covers.install ?_ books.outcomes ?_ kept
    · rw [reinstate, books.grants]
      rfl
    · exact (covers.indexed.enroll snapshot (vacant_of_absent absent) rfl).aside
        (reinstate_aside registry grant.fence snapshot rfl)

theorem Register.Covers.perform (covers : register.Covers registry) {call : RegistryCall}
    (keeps : register.Keeps registry call (registry.perform call)) : register.Covers (registry.perform call) := by
  cases call with
  | acquire snapshot request incarnation nowMs allowNew =>
    exact covers.acquire snapshot request incarnation nowMs allowNew keeps
  | installRecovered snapshot grant => exact covers.installRecovered snapshot keeps
  | installOutcome request outcome =>
    simp only [GrantRegistry.perform, installOutcome]
    split
    · exact covers
    · split
      · exact covers
      · exact covers.recall keeps
  | renew | release | fenceAll | fenceDevice | expireDue | suspendAll | resumeAll | applyState | revalidate
  | setIncarnation | prune =>
    exact covers.trims (perform_trims covers.indexed (by simp) (by simp))
      (perform_slims registry (by simp) (by simp) (by simp)).outcomes

/-- In a run that uses every identity for one request, and installs no outcome under another's, every request is
answered with what it asked for. -/
theorem answered_while_registered {limits : AuthorityLimits} {process : UInt64} {calls : List RegistryCall}
    (keeps : Along perform register.Keeps { limits := limits, incarnation := process } calls) {request : GrantRequest}
    (repeats : request.Repeats (register.asks request.request)) (snapshot : Snapshot) (incarnation nowMs : UInt64)
    (allowNew : Bool) {grant : Grant}
    (granted : ((afterCalls limits process calls).acquire snapshot request incarnation nowMs allowNew).2 = .ok grant) :
    request.AnsweredBy grant := by
  have blank : register.Covers { limits := limits, incarnation := process } := by
    refine ⟨indexed_empty limits process, ?_, ?_⟩
    · intro id stored found
      simp at found
    · intro request outcome found
      simp at found
  have covers : register.Covers (afterCalls limits process calls) :=
    keeps.invariant blank fun _ _ covers allowed => covers.perform allowed
  exact (acquire_answers _ snapshot request incarnation nowMs allowNew).mpr
    (fun _ _ => covers.unused repeats) grant granted

/-- The first principal leases the device. -/
def firstUse : List RegistryCall :=
  [.acquire smallRack (deviceLease 1 4 50) 1 0 true]

/-- A second principal that sends another request under the same identity is handed the lease of the first. -/
theorem reused_identity_answered :
    ¬ ∀ (limits : AuthorityLimits) (process : UInt64) (calls : List RegistryCall) (snapshot : Snapshot)
      (request : GrantRequest) (incarnation nowMs : UInt64) (allowNew : Bool) (grant : Grant),
      ((afterCalls limits process calls).acquire snapshot request incarnation nowMs allowNew).2 = .ok grant →
        request.AnsweredBy grant := by
  intro claim
  have granted : ((afterCalls {} 1 firstUse).acquire smallRack { deviceLease 1 9 50 with principal := 2 } 1 1 true).2 =
      .ok (issuedGrant smallRack (deviceLease 1 4 50) 1 0 50 1 [⟨.device, 3⟩] [⟨.rack, 7⟩, ⟨.device, 3⟩]) := by
    rfl
  have answered := claim {} 1 firstUse smallRack { deviceLease 1 9 50 with principal := 2 } 1 1 true _ granted
  exact absurd answered.principal (by decide)

end GrantRegistry

end RackFabric
