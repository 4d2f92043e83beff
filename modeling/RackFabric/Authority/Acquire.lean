import RackFabric.Authority.Refusal
import RackFabric.Authority.Sweep

/-!
The ways an acquire can go, and what the checks before an issue establish.
-/

namespace RackFabric

namespace GrantRegistry

/-- How a registry answers a request: the registry it leaves and what the caller is told. -/
inductive Decides (registry : GrantRegistry) (snapshot : Snapshot) (request : GrantRequest)
    (incarnation nowMs : UInt64) (allowNew : Bool) : GrantRegistry → Result Grant → Prop where
  | refused (status : Status) (failed : status.code ≠ .ok) :
      Decides registry snapshot request incarnation nowMs allowNew registry (.error status)
  | replayed (outcome : RequestOutcome) (remembered : registry.outcomes[request.request]? = some outcome) :
      Decides registry snapshot request incarnation nowMs allowNew registry (registry.replay outcome)
  | turnedDown (refusal : Refusal) (identified : request.request.isSet = true)
      (fresh : registry.outcomes[request.request]? = none)
      (checked : registry.admission snapshot request allowNew = .error refusal) :
      Decides registry snapshot request incarnation nowMs allowNew (registry.turnedDown request refusal)
        (.error refusal.status)
  | burned (status : Status) (failed : status.code ≠ .ok) (expanded pool : List ResourceRef)
      (checked : registry.admission snapshot request allowNew = .ok (expanded, pool)) :
      Decides registry snapshot request incarnation nowMs allowNew registry.takeFence (.error status)
  | issued (deadline : UInt64) (expanded pool : List ResourceRef) (identified : request.request.isSet = true)
      (fresh : registry.outcomes[request.request]? = none)
      (checked : registry.admission snapshot request allowNew = .ok (expanded, pool)) :
      Decides registry snapshot request incarnation nowMs allowNew
        (registry.takeFence.enlist snapshot request (issuedGrant snapshot request incarnation nowMs deadline
          registry.takeFence.nextFence expanded pool))
        (.ok (issuedGrant snapshot request incarnation nowMs deadline registry.takeFence.nextFence expanded pool))

theorem acquire_decides {registry next : GrantRegistry} {snapshot : Snapshot} {request : GrantRequest}
    {incarnation nowMs : UInt64} {allowNew : Bool} {result : Result Grant}
    (acquired : registry.acquire snapshot request incarnation nowMs allowNew = (next, result)) :
    Decides registry snapshot request incarnation nowMs allowNew next result := by
  unfold acquire at acquired
  split at acquired
  · cases acquired
    exact .refused _ (by simp)
  · split at acquired
    · cases acquired
      exact .refused _ (by simp)
    · rename_i identified
      split at acquired
      · rename_i outcome remembered
        cases acquired
        exact .replayed outcome remembered
      · rename_i fresh
        split at acquired
        · rename_i refusal checked
          cases acquired
          exact .turnedDown refusal (by simpa using identified) fresh checked
        · rename_i expanded pool checked
          unfold issue at acquired
          split at acquired
          · cases acquired
            exact .burned _ (by simp) expanded pool checked
          · cases acquired
            exact .issued _ expanded pool (by simpa using identified) fresh checked

/-- A request that passes every check is issued its grant. -/
theorem acquire_issues {registry : GrantRegistry} {snapshot : Snapshot} {request : GrantRequest}
    {incarnation nowMs deadline : UInt64} {allowNew : Bool} {expanded pool : List ResourceRef}
    (valid : snapshot.valid = true) (identified : request.request.isSet = true)
    (unused : registry.outcomes[request.request]? = none)
    (checked : registry.admission snapshot request allowNew = .ok (expanded, pool))
    (dated : checkedAddU64 nowMs request.ttlMs = some deadline) :
    registry.acquire snapshot request incarnation nowMs allowNew =
      (registry.takeFence.enlist snapshot request (issuedGrant snapshot request incarnation nowMs deadline
        registry.takeFence.nextFence expanded pool),
       .ok (issuedGrant snapshot request incarnation nowMs deadline registry.takeFence.nextFence expanded pool)) := by
  simp only [acquire, valid, identified, unused, checked, issue, dated, Bool.not_true, Bool.false_eq_true, if_false]

/-- A replay hands out the grant that the remembered outcome names. -/
theorem replay_ok {registry : GrantRegistry} {outcome : RequestOutcome} {grant : Grant}
    (replayed : registry.replay outcome = .ok grant) :
    outcome.code = .ok ∧ registry.grants[outcome.grant]? = some grant := by
  unfold replay at replayed
  split at replayed
  · cases replayed
  · rename_i accepted
    split at replayed
    · cases replayed
    · rename_i found
      cases replayed
      exact ⟨by simpa using accepted, found⟩

/-- A request of an identity not used before, complete and with a lifetime in range. -/
structure Presentable (registry : GrantRegistry) (snapshot : Snapshot) (request : GrantRequest) : Prop where
  valid : snapshot.valid = true
  identified : request.request.isSet = true
  unused : registry.outcomes[request.request]? = none
  principal : request.principal ≠ 0
  named : request.scope.id = 0 → request.scope.kind = .rack
  longEnough : registry.limits.minTtlMs ≤ request.ttlMs
  shortEnough : request.ttlMs ≤ registry.limits.maxTtlMs

/-- The tests of the form, as they are made. -/
theorem Presentable.form {registry : GrantRegistry} {snapshot : Snapshot} {request : GrantRequest}
    (presentable : registry.Presentable snapshot request) :
    (request.principal == 0) = false ∧ ¬ (request.scope.id = 0 ∧ request.scope.kind ≠ .rack) ∧
      (decide (request.ttlMs < registry.limits.minTtlMs) ||
        decide (request.ttlMs > registry.limits.maxTtlMs)) = false := by
  refine ⟨?_, ?_, ?_⟩
  · simpa using presentable.principal
  · intro unnamed
    exact unnamed.2 (presentable.named unnamed.1)
  · simpa using And.intro presentable.longEnough presentable.shortEnough

/-- What a request that passes every check has shown. -/
structure Admitted (registry : GrantRegistry) (snapshot : Snapshot) (request : GrantRequest) (allowNew : Bool)
    (expanded pool : List ResourceRef) : Prop where
  open_ : allowNew = true
  room : registry.live < registry.limits.maxLiveGrants
  memory : registry.outcomes.size < registry.limits.maxRememberedRequests
  expands : expandScope snapshot request.scope = .ok expanded
  indexable : registry.occupancyEntries + expanded.length ≤ registry.limits.maxOccupancyEntries
  exclusive : registry.checkConflicts request.mode expanded = .ok ()
  pools : capacityPoolRefs snapshot request.scope = .ok pool
  funded : registry.checkCapacity snapshot request.capacity pool = .ok ()

theorem admission_ok {registry : GrantRegistry} {snapshot : Snapshot} {request : GrantRequest} {allowNew : Bool}
    {expanded pool : List ResourceRef}
    (passed : registry.admission snapshot request allowNew = .ok (expanded, pool)) :
    Admitted registry snapshot request allowNew expanded pool := by
  unfold admission turnDown at passed
  dsimp only at passed
  split at passed
  · cases passed
  split at passed
  · cases passed
  split at passed
  · cases passed
  split at passed
  · cases passed
  rename_i accepted
  split at passed
  · cases passed
  rename_i room
  split at passed
  · cases passed
  rename_i memory
  split at passed
  · cases passed
  rename_i found expands
  split at passed
  · cases passed
  rename_i indexable
  simp only [bind_eq_ok] at passed
  obtain ⟨_, -, _, exclusive, passed⟩ := passed
  split at passed
  · cases passed
  rename_i refs pools
  split at passed
  · cases passed
  rename_i funded
  cases passed
  exact ⟨by simpa using accepted, by simpa using room, by simpa using memory, expands, by simpa using indexable,
    exclusive, pools, funded⟩

theorem Decides.incarnation {registry next : GrantRegistry} {snapshot : Snapshot} {request : GrantRequest}
    {incarnation nowMs : UInt64} {allowNew : Bool} {result : Result Grant}
    (decides : registry.Decides snapshot request incarnation nowMs allowNew next result) :
    next.incarnation = registry.incarnation := by
  cases decides with
  | refused | replayed | burned => rfl
  | turnedDown refusal =>
    unfold GrantRegistry.turnedDown
    split <;> rfl
  | issued => exact (attach_sameBooks _ snapshot _).incarnation

/-- Whether a request is new to the registry and passes every check. -/
def admits (registry : GrantRegistry) (snapshot : Snapshot) (request : GrantRequest) (allowNew : Bool) : Bool :=
  (registry.outcomes[request.request]?).isNone && (registry.admission snapshot request allowNew).isOk

theorem admits_closed (registry : GrantRegistry) (snapshot : Snapshot) (request : GrantRequest) :
    registry.admits snapshot request false = false := by
  unfold admits
  cases checked : registry.admission snapshot request false with
  | error refusal => exact Bool.and_false _
  | ok => cases (admission_ok checked).open_

/-- Where a request is not admitted the registry issues nothing: whatever it hands out is a grant that it already
had. -/
theorem Decides.unadmitted {registry next : GrantRegistry} {snapshot : Snapshot} {request : GrantRequest}
    {incarnation nowMs : UInt64} {allowNew : Bool} {result : Result Grant}
    (decides : registry.Decides snapshot request incarnation nowMs allowNew next result)
    (refused : registry.admits snapshot request allowNew = false) :
    next.grants = registry.grants ∧ ∀ grant, result = .ok grant → ∃ id : UInt64, registry.grants[id]? = some grant := by
  cases decides with
  | refused status failed => exact ⟨rfl, fun grant granted => by cases granted⟩
  | replayed outcome remembered =>
    refine ⟨rfl, ?_⟩
    intro grant granted
    exact ⟨outcome.grant, (replay_ok granted).2⟩
  | turnedDown refusal =>
    refine ⟨?_, fun grant granted => by cases granted⟩
    unfold GrantRegistry.turnedDown
    split <;> rfl
  | burned => exact ⟨rfl, fun grant granted => by cases granted⟩
  | issued deadline expanded pool identified fresh checked =>
    rw [admits, fresh, checked] at refused
    cases refused

/-- Under a lifecycle that is closed to new authority the registry issues nothing. -/
theorem Decides.closed {registry next : GrantRegistry} {snapshot : Snapshot} {request : GrantRequest}
    {incarnation nowMs : UInt64} {result : Result Grant}
    (decides : registry.Decides snapshot request incarnation nowMs false next result) :
    next.grants = registry.grants ∧ ∀ grant, result = .ok grant → ∃ id : UInt64, registry.grants[id]? = some grant :=
  decides.unadmitted (admits_closed registry snapshot request)

theorem Decides.error_code {registry next : GrantRegistry} {snapshot : Snapshot} {request : GrantRequest}
    {incarnation nowMs : UInt64} {allowNew : Bool} {status : Status}
    (decides : registry.Decides snapshot request incarnation nowMs allowNew next (.error status)) :
    status.code ≠ .ok := by
  generalize refused : (Except.error status : Result Grant) = result at decides
  cases decides with
  | refused _ failed =>
    cases refused
    exact failed
  | replayed outcome remembered =>
    unfold replay at refused
    split at refused
    · rename_i failed
      cases refused
      exact failed
    · split at refused
      · cases refused
        simp
      · cases refused
  | turnedDown refusal identified fresh checked =>
    cases refused
    exact admission_error checked
  | burned _ failed =>
    cases refused
    exact failed
  | issued => cases refused

/-- Releasing ends a live grant its token names, and otherwise changes nothing. -/
theorem release_cases (registry : GrantRegistry) (token : LeaseToken) :
    (registry.release token).1 = registry ∨
      ∃ grant, registry.grants[token.grant]? = some grant ∧ grant.isLive = true ∧
        registry.release token = (registry.endGrant grant .released (text "released by holder"), .ok ()) := by
  unfold release
  split
  · exact .inl rfl
  · rename_i grant found
    split
    · exact .inl rfl
    · split
      · exact .inl rfl
      · rename_i live
        exact .inr ⟨grant, found, by simpa using live, rfl⟩

theorem release_ok {registry next : GrantRegistry} {token : LeaseToken}
    (released : registry.release token = (next, .ok ())) :
    ∃ grant, registry.grants[token.grant]? = some grant ∧
      ((grant.isLive = false ∧ next = registry) ∨
        (grant.isLive = true ∧ next = registry.endGrant grant .released (text "released by holder"))) := by
  unfold release at released
  split at released
  · cases released
  · rename_i grant found
    split at released
    · cases released
    · split at released
      · rename_i ended
        cases released
        exact ⟨grant, found, .inl ⟨by simpa using ended, rfl⟩⟩
      · rename_i live
        cases released
        exact ⟨grant, found, .inr ⟨by simpa using live, rfl⟩⟩

end GrantRegistry

end RackFabric
