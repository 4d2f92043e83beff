import RackFabric.Authority.Grant

/-!
The grant registry: the only component that decides whether authority may exist. It answers from a snapshot
and its own bookkeeping.
-/

namespace RackFabric

structure AuthorityLimits where
  maxLiveGrants : Nat := 4096
  maxRememberedRequests : Nat := 65536
  maxTtlMs : UInt64 := 86400000
  minTtlMs : UInt64 := 1
  maxOccupancyEntries : Nat := 1048576
deriving DecidableEq, Repr

/-- The remembered outcome of a mutating request. -/
structure RequestOutcome where
  code : StatusCode := .ok
  grant : UInt64 := 0
  fence : UInt64 := 0
  incarnation : UInt64 := 0
  requestDigest : Digest := .zero
  detail : Text := []
deriving DecidableEq, Repr

structure Occupant where
  id : UInt64
  mode : GrantMode
deriving DecidableEq, Repr

structure GrantRegistry where
  limits : AuthorityLimits := {}
  grants : Std.ExtTreeMap UInt64 Grant := {}
  outcomes : Std.ExtTreeMap RequestId RequestOutcome := {}
  occupancy : Std.ExtTreeMap ResourceRef (List Occupant) := {}
  footprints : Std.ExtTreeMap UInt64 (List ResourceRef) := {}
  occupancyEntries : Nat := 0
  committed : Std.ExtTreeMap ResourceRef UInt64 := {}
  committedTotal : UInt64 := 0
  nextFence : UInt64 := 0
  incarnation : UInt64 := 0
  live : Nat := 0
  recovering : Nat := 0

def isLiveState : GrantState → Bool
  | .pending | .recovering | .active | .suspended => true
  | .released | .expired | .fenced => false
  | .unnamed .. => false

def isTerminalState (state : GrantState) : Bool :=
  state == .released || state == .fenced || state == .expired

def Grant.isLive (grant : Grant) : Bool :=
  isLiveState grant.state

def requestDigestOf (request : GrantRequest) : Digest :=
  Blake2s256.final ([request.request.hi, request.request.lo, request.principal,
    request.scope.kind.code.toUInt64, request.scope.id, request.mode.code.toUInt64, request.capacity,
    request.ttlMs].foldl Blake2s256.updateLe64
      (Blake2s256.update Blake2s256.reset (text "rnf.request.v1")))

/-- A live occupant is incompatible with a request when either side is exclusive. -/
def occupantConflicts (requested held : GrantMode) : Bool :=
  requested == .exclusive || held == .exclusive

def saturatingAdd (a b : UInt64) : UInt64 :=
  (checkedAddU64 a b).getD maxU64

namespace GrantRegistry

def occupy (grant : Grant) (registry : GrantRegistry) (ref : ResourceRef) : GrantRegistry :=
  let occupants := registry.occupancy.getD ref [] ++ [⟨grant.id, grant.mode⟩]
  { registry with
    occupancy := registry.occupancy.insert ref (sortBy (fun a b => idLess a.id b.id) occupants)
    occupancyEntries := registry.occupancyEntries + 1 }

def commit (grant : Grant) (registry : GrantRegistry) (ref : ResourceRef) : GrantRegistry :=
  { registry with
    committed := registry.committed.insert ref
      (saturatingAdd (registry.committed.getD ref 0) grant.capacity) }

/-- Indexes a grant's footprint and takes its capacity from every pool. -/
def attach (registry : GrantRegistry) (snapshot : Snapshot) (grant : Grant) : GrantRegistry :=
  let registry :=
    match expandScope snapshot grant.scope with
    | .error _ => registry
    | .ok scope =>
      scope.foldl (occupy grant) { registry with footprints := registry.footprints.insert grant.id scope }
  let registry := grant.capacityPool.foldl (commit grant) registry
  { registry with committedTotal := saturatingAdd registry.committedTotal grant.capacity }

def vacate (id : UInt64) (registry : GrantRegistry) (ref : ResourceRef) : GrantRegistry :=
  match registry.occupancy[ref]? with
  | none => registry
  | some occupants =>
    let kept := occupants.filter (·.id != id)
    { registry with
      occupancyEntries := registry.occupancyEntries - (occupants.length - kept.length)
      occupancy := if kept.isEmpty then registry.occupancy.erase ref else registry.occupancy.insert ref kept }

def uncommit (grant : Grant) (registry : GrantRegistry) (ref : ResourceRef) : GrantRegistry :=
  match registry.committed[ref]? with
  | none => registry
  | some amount =>
    match checkedSubU64 amount grant.capacity with
    | none => { registry with committed := registry.committed.erase ref }
    | some next =>
      if next > 0 then { registry with committed := registry.committed.insert ref next }
      else { registry with committed := registry.committed.erase ref }

/-- Removes a grant's footprint from the index and returns its capacity. -/
def detach (registry : GrantRegistry) (grant : Grant) : GrantRegistry :=
  let registry :=
    match registry.footprints[grant.id]? with
    | none => registry
    | some scope =>
      let registry := scope.foldl (vacate grant.id) registry
      { registry with footprints := registry.footprints.erase grant.id }
  let registry := grant.capacityPool.foldl (uncommit grant) registry
  { registry with committedTotal := (checkedSubU64 registry.committedTotal grant.capacity).getD 0 }

/-- What a pool holds before issued authority is taken from it. -/
def poolBase (snapshot : Snapshot) (ref : ResourceRef) : Result UInt64 :=
  if ref.kind = .rack then
    if ref.id ≠ snapshot.data.rack then refuse .outOfRack "capacity query names a different rack"
    else
      match snapshot.find ref with
      | none => refuse .notFound "rack resource is missing from the snapshot"
      | some state =>
        if state.eligibility ≠ .eligible then
          refuse .scopeNotEligible "the rack itself is not eligible"
        else .ok snapshot.data.capacity.uncommitted
  else
    match snapshot.find ref with
    | none => refuse .notAMember "resource is not part of this rack"
    | some state =>
      if !state.capacityKnown then refuse .unknown "resource capacity has not been measured"
      else if state.eligibility ≠ .eligible then refuse .scopeNotEligible "resource is not eligible"
      else
        match checkedSubU64 state.capacity state.obligated with
        | none =>
          refuse .capacityExhausted "imported obligations exceed the capacity of this resource"
        | some afterObligations => .ok afterObligations

/-- Capacity still free in one pool. -/
def available (registry : GrantRegistry) (snapshot : Snapshot) (ref : ResourceRef) : Result UInt64 :=
  if !snapshot.valid then refuse .invalidArgument "snapshot handle is empty"
  else
    match poolBase snapshot ref with
    | .error status => .error status
    | .ok base =>
      match checkedSubU64 base (registry.committed.getD ref 0) with
      | none =>
        .error ⟨.capacityExhausted, text "issued authority already exceeds the capacity of " ++ ref.toText⟩
      | some remaining => .ok remaining

def checkCapacity (registry : GrantRegistry) (snapshot : Snapshot) (requested : UInt64) :
    List ResourceRef → Result Unit
  | [] => .ok ()
  | ref :: rest =>
    match registry.available snapshot ref with
    | .error failure =>
      .error ⟨failure.code, failure.detail ++ text " (resource " ++ ref.toText ++ text ")"⟩
    | .ok free =>
      if free < requested then
        .error ⟨.capacityExhausted, text "requested " ++ decimal requested ++ text " units but only " ++
          decimal free ++ text " are available in " ++ ref.toText⟩
      else checkCapacity registry snapshot requested rest

def remember (registry : GrantRegistry) (request : GrantRequest) (outcome : RequestOutcome) :
    GrantRegistry :=
  { registry with
    outcomes := registry.outcomes.insert request.request
      { outcome with requestDigest := requestDigestOf request } }

/-- Why a request was turned down, and whether a replay has to get the same answer. -/
structure Refusal where
  status : Status
  remembered : Bool
deriving DecidableEq, Repr

def turnDown (code : StatusCode) (detail : Text) (remembered : Bool) : Except Refusal α :=
  .error ⟨⟨code, detail⟩, remembered⟩

def checkEligible (snapshot : Snapshot) : List ResourceRef → Except Refusal Unit
  | [] => .ok ()
  | ref :: rest =>
    match snapshot.find ref with
    | none => turnDown .notFound (text "scope names a resource outside this rack") false
    | some state =>
      if state.eligibility ≠ .eligible then
        turnDown .scopeNotEligible (text "scope contains a resource that is not eligible: " ++ ref.toText ++
          text " (" ++ state.eligibility.toText ++ text ")") true
      else checkEligible snapshot rest

/-- The first live occupant of one resource that the request cannot share it with. -/
def conflictOn (registry : GrantRegistry) (mode : GrantMode) (ref : ResourceRef) : Option Occupant :=
  (registry.occupancy.getD ref []).find? fun occupant =>
    (registry.grants[occupant.id]?).any Grant.isLive && occupantConflicts mode occupant.mode

def checkConflicts (registry : GrantRegistry) (mode : GrantMode) : List ResourceRef → Except Refusal Unit
  | [] => .ok ()
  | ref :: rest =>
    match registry.conflictOn mode ref with
    | some occupant =>
      turnDown .exclusiveConflict (text "conflicts with " ++ occupant.mode.toText ++ text " grant " ++
        hex64 occupant.id ++ text " on " ++ ref.toText) true
    | none => checkConflicts registry mode rest

/-- Every check between the replay of a remembered outcome and the issue of a new grant. -/
def admission (registry : GrantRegistry) (snapshot : Snapshot) (request : GrantRequest) (allowNew : Bool) :
    Except Refusal (List ResourceRef × List ResourceRef) := do
  let limits := registry.limits
  if request.principal == 0 then
    turnDown .invalidIdentity (text "grant request needs a principal") false
  else if request.scope.id = 0 ∧ request.scope.kind ≠ .rack then
    turnDown .invalidScope (text "grant scope has no resource identity") false
  else if request.ttlMs < limits.minTtlMs || request.ttlMs > limits.maxTtlMs then
    turnDown .outOfRange (text "requested lease lifetime is out of range") false
  else if !allowNew then
    turnDown .lifecycleRefused (text "the rack lifecycle does not accept new authority") true
  else if registry.live ≥ limits.maxLiveGrants then
    turnDown .resourceExhausted (text "live grant bound reached") false
  else if registry.outcomes.size ≥ limits.maxRememberedRequests then
    turnDown .resourceExhausted
      (text "remembered request bound reached; restart the daemon to clear it") false
  else
    match expandScope snapshot request.scope with
    | .error status => turnDown status.code status.detail true
    | .ok expanded =>
      if registry.occupancyEntries + expanded.length > limits.maxOccupancyEntries then
        turnDown .resourceExhausted (text "exclusivity index bound reached for this scope") false
      else
        checkEligible snapshot expanded
        checkConflicts registry request.mode expanded
        match capacityPoolRefs snapshot request.scope with
        | .error status => .error ⟨status, false⟩
        | .ok pool =>
          match registry.checkCapacity snapshot request.capacity pool with
          | .error status => turnDown status.code status.detail true
          | .ok () => .ok (expanded, pool)

/-- The grant a request that passed every check is given; its fence is also its identity. -/
def issuedGrant (snapshot : Snapshot) (request : GrantRequest) (incarnation nowMs deadline fence : UInt64)
    (expanded pool : List ResourceRef) : Grant :=
  { id := fence
    request := request.request
    principal := request.principal
    scope := request.scope
    mode := request.mode
    capacity := request.capacity
    generation := snapshot.generation
    epoch := snapshot.epoch
    incarnation := incarnation
    fence := fence
    issuedAtMs := nowMs
    expiresAtMs := deadline
    state := .active
    authorityBasis := authorityBasisDigest snapshot expanded
    capacityPool := pool }

/-- Takes up a new grant: indexed, counted, and its request remembered. -/
def enlist (registry : GrantRegistry) (snapshot : Snapshot) (request : GrantRequest) (grant : Grant) :
    GrantRegistry :=
  let registry := registry.attach snapshot grant
  let registry := { registry with
    grants := registry.grants.insert grant.id grant
    live := registry.live + 1 }
  registry.remember request
    { code := .ok, grant := grant.id, fence := grant.fence, incarnation := grant.incarnation }

def takeFence (registry : GrantRegistry) : GrantRegistry :=
  { registry with nextFence := registry.nextFence + 1 }

/-- Issues a grant that passed every check. The fence is consumed even when the deadline overflows. -/
def issue (registry : GrantRegistry) (snapshot : Snapshot) (request : GrantRequest) (incarnation nowMs : UInt64)
    (expanded pool : List ResourceRef) : GrantRegistry × Result Grant :=
  match checkedAddU64 nowMs request.ttlMs with
  | none => (registry.takeFence, refuse .outOfRange "lease deadline overflowed")
  | some deadline =>
    (registry.takeFence.enlist snapshot request
      (issuedGrant snapshot request incarnation nowMs deadline registry.takeFence.nextFence expanded pool),
     .ok (issuedGrant snapshot request incarnation nowMs deadline registry.takeFence.nextFence expanded pool))

/-- What a replayed request is answered. -/
def replay (registry : GrantRegistry) (outcome : RequestOutcome) : Result Grant :=
  if outcome.code ≠ .ok then .error ⟨outcome.code, outcome.detail⟩
  else
    match registry.grants[outcome.grant]? with
    | none =>
      refuse .indeterminate "the remembered outcome refers to a grant that is no longer present"
    | some grant => .ok grant

/-- Remembers a refusal that a replay has to repeat. -/
def turnedDown (registry : GrantRegistry) (request : GrantRequest) (refusal : Refusal) : GrantRegistry :=
  if refusal.remembered then
    registry.remember request { code := refusal.status.code, detail := refusal.status.detail }
  else registry

/-- Acquire authority, idempotent on the request identity. -/
def acquire (registry : GrantRegistry) (snapshot : Snapshot) (request : GrantRequest)
    (incarnation nowMs : UInt64) (allowNew : Bool) : GrantRegistry × Result Grant :=
  if !snapshot.valid then (registry, refuse .invalidArgument "snapshot handle is empty")
  else if !request.request.isSet then
    (registry, refuse .invalidIdentity "grant request needs a request identity")
  else
    match registry.outcomes[request.request]? with
    | some outcome => (registry, registry.replay outcome)
    | none =>
      match registry.admission snapshot request allowNew with
      | .error refusal => (registry.turnedDown request refusal, .error refusal.status)
      | .ok (expanded, pool) => registry.issue snapshot request incarnation nowMs expanded pool

def checkScope (snapshot : Snapshot) : List ResourceRef → Result Unit
  | [] => .ok ()
  | ref :: rest =>
    match snapshot.find ref with
    | none =>
      refuse .fencedIncarnation "a resource in this grant's scope is no longer part of the rack"
    | some state =>
      if state.eligibility ≠ .eligible then
        .error ⟨.scopeNotEligible, text "scope contains a resource that is not eligible: " ++ ref.toText⟩
      else if state.maintenance then
        .error ⟨.scopeNotEligible,
          text "scope contains a resource inside a maintenance window: " ++ ref.toText⟩
      else checkScope snapshot rest

/-- Only an active grant can authorize; every other state answers with its own refusal. -/
def checkState (grant : Grant) : Result Unit :=
  match grant.state with
  | .released => refuse .refused "grant has been released"
  | .expired => refuse .expired "grant has expired"
  | .fenced => .error ⟨.fencedIncarnation, text "grant was fenced: " ++ grant.reason⟩
  | .recovering | .pending =>
    refuse .indeterminate "grant was recovered from durable state and has not been revalidated"
  | .suspended => .error ⟨.lifecycleRefused, text "grant is suspended: " ++ grant.reason⟩
  | .active => .ok ()
  | .unnamed .. => .ok ()

/-- The checks on a lease that read the snapshot. -/
def checkCurrent (snapshot : Snapshot) (incarnation nowMs : UInt64) (grant : Grant) : Result Unit :=
  if grant.incarnation ≠ incarnation then
    refuse .fencedIncarnation "lease belongs to a superseded daemon incarnation"
  else if grant.expiresAtMs ≤ nowMs then refuse .expired "grant deadline has passed"
  else if grant.epoch ≠ snapshot.epoch then refuse .staleEpoch "rack membership epoch has changed"
  else if grant.generation > snapshot.generation then
    refuse .staleGeneration "grant names a later topology generation"
  else if !lifecycleHonoursExistingAuthority snapshot.lifecycle then
    refuse .lifecycleRefused "the rack lifecycle does not honour leases"
  else
    match expandScope snapshot grant.scope with
    | .error status =>
      .error ⟨.fencedIncarnation, text "grant scope no longer resolves in this rack: " ++ status.detail⟩
    | .ok expanded =>
      if authorityBasisDigest snapshot expanded ≠ grant.authorityBasis then
        refuse .fencedIncarnation "the resources this grant depends on changed since it was issued"
      else checkScope snapshot expanded

/-- Whether a token names a grant as the registry holds it. -/
def checkToken (grant : Grant) (token : LeaseToken) : Result Unit :=
  if grant.fence ≠ token.fence ∨ grant.authorityBasis ≠ token.scopeBasis then
    refuse .fencedIncarnation "lease token does not match the grant record"
  else if grant.incarnation ≠ token.incarnation then
    .error ⟨.fencedIncarnation, text "lease was issued by incarnation " ++ decimal grant.incarnation ++
      text ", token claims " ++ decimal token.incarnation⟩
  else .ok ()

/-- Whether a lease may be used right now. -/
def checkLease (registry : GrantRegistry) (snapshot : Snapshot) (token : LeaseToken) (nowMs : UInt64) :
    Result Grant :=
  if !snapshot.valid then refuse .invalidArgument "snapshot handle is empty"
  else
    match registry.grants[token.grant]? with
    | none => refuse .notFound "no such grant"
    | some grant => do
      checkToken grant token
      checkState grant
      checkCurrent snapshot registry.incarnation nowMs grant
      .ok grant

def validate (registry : GrantRegistry) (snapshot : Snapshot) (token : LeaseToken) (nowMs : UInt64) :
    Result Grant :=
  registry.checkLease snapshot token nowMs

/-- Extend an existing lease that validates as it is. -/
def renew (registry : GrantRegistry) (snapshot : Snapshot) (token : LeaseToken) (ttlMs nowMs : UInt64) :
    GrantRegistry × Result Grant :=
  if ttlMs < registry.limits.minTtlMs || ttlMs > registry.limits.maxTtlMs then
    (registry, refuse .outOfRange "requested lease lifetime is out of range")
  else
    match registry.checkLease snapshot token nowMs with
    | .error status => (registry, .error status)
    | .ok _ =>
      match registry.grants[token.grant]? with
      | none => (registry, refuse .notFound "no such grant")
      | some grant =>
        match checkedAddU64 nowMs ttlMs with
        | none => (registry, refuse .outOfRange "lease deadline overflowed")
        | some deadline =>
          ({ registry with grants := registry.grants.insert token.grant { grant with expiresAtMs := deadline } },
           .ok { grant with expiresAtMs := deadline })

/-- Moves a live grant into a terminal state: its capacity is returned and the counters follow. -/
def endGrant (registry : GrantRegistry) (grant : Grant) (state : GrantState) (reason : Text) :
    GrantRegistry :=
  let registry := registry.detach grant
  { registry with
    recovering := if grant.state = .recovering then registry.recovering - 1 else registry.recovering
    live := registry.live - 1
    grants := registry.grants.insert grant.id { grant with state := state, reason := reason } }

/-- Return a lease early. A grant that already ended is left as it is. -/
def release (registry : GrantRegistry) (token : LeaseToken) : GrantRegistry × Result Unit :=
  match registry.grants[token.grant]? with
  | none => (registry, refuse .notFound "no such grant")
  | some grant =>
    if grant.fence ≠ token.fence ∨ grant.authorityBasis ≠ token.scopeBasis ∨
        grant.incarnation ≠ token.incarnation then
      (registry, refuse .fencedIncarnation "release token does not match the grant record")
    else if !grant.isLive then (registry, .ok ())
    else (registry.endGrant grant .released (text "released by holder"), .ok ())

def visitAt (visit : GrantRegistry → Grant → GrantRegistry) (registry : GrantRegistry) (id : UInt64) :
    GrantRegistry :=
  match registry.grants[id]? with
  | none => registry
  | some grant => visit registry grant

/-- A loop over every grant in id order. -/
def sweep (visit : GrantRegistry → Grant → GrantRegistry) (registry : GrantRegistry) : GrantRegistry :=
  registry.grants.keys.foldl (visitAt visit) registry

def fenceAll (registry : GrantRegistry) (reason : Text) : GrantRegistry :=
  registry.sweep fun registry grant =>
    if grant.isLive then registry.endGrant grant .fenced reason else registry

/-- Whether a grant reaches a device: through its scope, or through a pool it draws from. -/
def touchesDevice (snapshot : Snapshot) (device : UInt64) (grant : Grant) : Bool :=
  (match expandScope snapshot ⟨.device, device⟩ with
    | .error _ => false
    | .ok deviceScope =>
      match expandScope snapshot grant.scope with
      | .error _ => false
      | .ok expanded => scopesIntersect expanded deviceScope) ||
    grant.capacityPool.any fun ref => ref.kind == .device && ref.id == device

def fenceDevice (registry : GrantRegistry) (snapshot : Snapshot) (device : UInt64) (reason : Text) :
    GrantRegistry :=
  registry.sweep fun registry grant =>
    if grant.isLive && touchesDevice snapshot device grant then registry.endGrant grant .fenced reason else registry

/-- Footprints whose grant is unknown or no longer live. -/
def staleFootprints (registry : GrantRegistry) : List UInt64 :=
  registry.footprints.keys.filter fun id => !(registry.grants[id]?).any Grant.isLive

/-- Drops stale footprints and counts them; looking up an unknown grant throws. -/
def prune (registry : GrantRegistry) : Option (GrantRegistry × Nat) := do
  let pruned ← registry.staleFootprints.foldlM
    (fun (pruned : GrantRegistry) id => (pruned.grants[id]?).map fun grant => pruned.detach grant) registry
  some (pruned, registry.staleFootprints.length)

def setIncarnation (registry : GrantRegistry) (incarnation : UInt64) : GrantRegistry :=
  { registry with incarnation := incarnation }

def isDue (nowMs : UInt64) (grant : Grant) : Bool :=
  grant.isLive && grant.expiresAtMs ≤ nowMs

/-- Ends every lease whose deadline has passed and names them in id order. A visit touches only the grant it
visits, so the list is read off before the sweep. -/
def expireDue (registry : GrantRegistry) (nowMs : UInt64) : GrantRegistry × List UInt64 :=
  (registry.sweep fun registry grant =>
    if isDue nowMs grant then registry.endGrant grant .expired (text "lease deadline passed") else registry,
   ((registry.grants.toList.map Prod.snd).filter (isDue nowMs)).map Grant.id)

def suspendAll (registry : GrantRegistry) (reason : Text) : GrantRegistry :=
  registry.sweep fun registry grant =>
    if grant.state = .active then
      { registry with
        grants := registry.grants.insert grant.id { grant with state := .suspended, reason := reason } }
    else registry

def allEligible (snapshot : Snapshot) (expanded : List ResourceRef) : Bool :=
  expanded.all fun ref => (snapshot.find ref).any (·.eligibility == .eligible)

/-- Whether a suspended lease still stands under the current snapshot. -/
def resumable (snapshot : Snapshot) (nowMs : UInt64) (grant : Grant) : Bool :=
  match expandScope snapshot grant.scope with
  | .error _ => false
  | .ok expanded =>
    grant.expiresAtMs > nowMs && grant.epoch == snapshot.epoch &&
      authorityBasisDigest snapshot expanded == grant.authorityBasis && allEligible snapshot expanded

/-- Re-arms suspended grants that still validate and fences the others. -/
def resumeAll (registry : GrantRegistry) (snapshot : Snapshot) (nowMs : UInt64) : GrantRegistry :=
  registry.sweep fun registry grant =>
    if grant.state = .suspended then
      if resumable snapshot nowMs grant then
        { registry with
          grants := registry.grants.insert grant.id { grant with state := .active, reason := [] } }
      else registry.endGrant grant .fenced (text "suspended lease could not be revalidated")
    else registry

/-- The pools a recovered grant reserves from; a record without any has them worked out again. -/
def recoveredPool (snapshot : Snapshot) (grant : Grant) : Result (List ResourceRef) :=
  if grant.capacityPool.isEmpty then capacityPoolRefs snapshot grant.scope else .ok grant.capacityPool

def lostGrant (grant : Grant) : Grant :=
  { grant with
    state := .fenced
    reason := if grant.reason.isEmpty then text "scope no longer resolves after restart" else grant.reason }

def recoveredGrant (grant : Grant) (pool : List ResourceRef) : Grant :=
  { grant with
    state := .recovering
    reason :=
      if grant.reason.isEmpty then text "recovered from durable state; awaiting revalidation" else grant.reason
    capacityPool := pool }

/-- Takes up a recovered grant: indexed and counted, as recovering. -/
def reinstate (registry : GrantRegistry) (snapshot : Snapshot) (grant : Grant) : GrantRegistry :=
  let registry := registry.attach snapshot grant
  { registry with
    grants := registry.grants.insert grant.id grant
    live := registry.live + 1
    recovering := registry.recovering + 1 }

def raiseFence (registry : GrantRegistry) (fence : UInt64) : GrantRegistry :=
  { registry with nextFence := max registry.nextFence fence }

/-- Installs a grant loaded from durable state. It reserves its capacity but cannot authorize anything. -/
def installRecovered (registry : GrantRegistry) (snapshot : Snapshot) (grant : Grant) :
    GrantRegistry × Result Unit :=
  if !snapshot.valid then (registry, refuse .invalidArgument "snapshot handle is empty")
  else if grant.id == 0 then (registry, refuse .invalidIdentity "recovered grant has no identity")
  else if registry.grants.contains grant.id then
    (registry, refuse .duplicateIdentity "recovered grant is already installed")
  else if registry.live ≥ registry.limits.maxLiveGrants then
    (registry, refuse .resourceExhausted "live grant bound reached during recovery")
  else
    match recoveredPool snapshot grant with
    | .error _ =>
      ({ registry.raiseFence grant.fence with
        grants := registry.grants.insert grant.id (lostGrant grant) }, .ok ())
    | .ok pool => ((registry.raiseFence grant.fence).reinstate snapshot (recoveredGrant grant pool), .ok ())

def firstIneligible (snapshot : Snapshot) (expanded : List ResourceRef) : Option ResourceRef :=
  expanded.find? fun ref => !(snapshot.find ref).any (·.eligibility == .eligible)

/-- Why a recovered grant cannot be re-armed; `none` when it can. -/
def revalidationFailure (snapshot : Snapshot) (nowMs : UInt64) (grant : Grant) : Option Text :=
  match expandScope snapshot grant.scope with
  | .error status => some (text "scope no longer resolves: " ++ status.detail)
  | .ok expanded =>
    if grant.expiresAtMs ≤ nowMs then some (text "lease expired while the daemon was down")
    else if grant.epoch ≠ snapshot.epoch then
      some (text "rack membership epoch changed while the daemon was down")
    else if grant.generation > snapshot.generation then
      some (text "durable grant names a generation the rack has not reached")
    else if authorityBasisDigest snapshot expanded ≠ grant.authorityBasis then
      some (text "the resources this grant depends on changed while the daemon was down")
    else
      (firstIneligible snapshot expanded).map fun ref =>
        text "scope contains a resource that is not eligible: " ++ ref.toText

/-- Re-issues one recovered grant under a fresh fence. -/
def rearm (registry : GrantRegistry) (incarnation nowMs : UInt64) (grant : Grant) : GrantRegistry :=
  let fence := registry.nextFence + 1
  { registry with
    nextFence := fence
    recovering := registry.recovering - 1
    grants := registry.grants.insert grant.id { grant with
      state := .active
      incarnation := incarnation
      fence := fence
      issuedAtMs := nowMs
      reason := [] } }

/-- Tries to re-issue every recovering grant under the current incarnation. -/
def revalidate (registry : GrantRegistry) (snapshot : Snapshot) (incarnation nowMs : UInt64) :
    GrantRegistry :=
  sweep (fun registry grant =>
    if grant.state = .recovering then
      match revalidationFailure snapshot nowMs grant with
      | none => registry.rearm incarnation nowMs grant
      | some failure => registry.endGrant grant .fenced failure
    else registry) { registry with incarnation := incarnation }

/-- Installs a remembered outcome loaded from durable state. -/
def installOutcome (registry : GrantRegistry) (request : RequestId) (outcome : RequestOutcome) :
    GrantRegistry :=
  if !request.isSet then registry
  else if registry.outcomes.size ≥ registry.limits.maxRememberedRequests &&
      !registry.outcomes.contains request then registry
  else { registry with outcomes := registry.outcomes.insert request outcome }

/-- Applies a durable state transition; only terminal states are accepted. -/
def applyState (registry : GrantRegistry) (id : UInt64) (state : GrantState) (reason : Text) :
    GrantRegistry × Result Unit :=
  match registry.grants[id]? with
  | none => (registry, refuse .notFound "no such grant")
  | some grant =>
    if isTerminalState state then
      if grant.isLive then (registry.endGrant grant state reason, .ok ())
      else
        ({ registry with
          grants := registry.grants.insert id { grant with state := state, reason := reason } }, .ok ())
    else
      (registry, refuse .invalidArgument "only terminal grant states may be applied from a log record")

def lookupRequest (registry : GrantRegistry) (request : RequestId) : Result RequestOutcome :=
  match registry.outcomes[request]? with
  | none =>
    .error ⟨.unknown, text "this daemon has no record of the request; it was either refused before " ++
      text "being durably remembered or it belongs to a store that was discarded"⟩
  | some outcome => .ok outcome

end GrantRegistry

end RackFabric
