import RackFabric.Persist.Store

/-!
The daemon core: one synchronous state machine over the ledger, the registry, the published snapshot and the
store. Every command reads the clock once and is given what the operating system answers its writes.
-/

namespace RackFabric

structure DaemonConfig where
  rack : RackConfig
  storeDirectory : Text := []
  defaultTtlMs : UInt64 := 60000
  autoCompose : Bool := false
  checkpointEveryRecords : Nat := 4096
  evidenceLimits : EvidenceLimits := {}
  composeLimits : ComposeLimits := {}
  authorityLimits : AuthorityLimits := {}
  maxRecordsPerBatch : Nat := 4096
deriving DecidableEq, Repr

/-- What one call meets outside the process. -/
structure Env where
  now : UInt64
  io : List IoOutcome := []
deriving DecidableEq, Repr

structure DaemonCore where
  config : DaemonConfig
  ledger : EvidenceLedger
  grants : GrantRegistry
  store : Option Store := none
  snapshot : Snapshot := {}
  lifecycle : LifecycleState := .assembling
  generation : UInt64 := 0
  epoch : UInt64 := 0
  memberSetDigest : Digest := .zero
  incarnation : UInt64 := 0
  dirtyRecovery : Bool := false
  membershipInitialized : Bool := false
  started : Bool := false
  stopped : Bool := false

structure EvidenceAckEntry where
  outcome : InsertOutcome
  code : StatusCode
  digest : Digest
  detail : Text
deriving DecidableEq, Repr

structure ComposeResponse where
  code : StatusCode
  generation : UInt64
  epoch : UInt64
  incarnation : UInt64
  digest : Digest := .zero
  diagnostics : UInt32 := 0
  detail : Text := []
deriving DecidableEq, Repr

structure AcquireRequest where
  request : RequestId
  principal : UInt64
  scope : ResourceRef
  mode : GrantMode
  capacity : UInt64
  ttlMs : UInt64
deriving DecidableEq, Repr

/-- A grant as the wire carries it: everything but its capacity pools. -/
structure GrantSummary where
  id : UInt64 := 0
  request : RequestId := {}
  principal : UInt64 := 0
  scope : ResourceRef := {}
  mode : GrantMode := .shared
  capacity : UInt64 := 0
  generation : UInt64 := 0
  epoch : UInt64 := 0
  incarnation : UInt64 := 0
  fence : UInt64 := 0
  issuedAtMs : UInt64 := 0
  expiresAtMs : UInt64 := 0
  state : GrantState := .pending
  basis : Digest := .zero
  reason : Text := []
deriving DecidableEq, Repr

def GrantSummary.ofGrant (grant : Grant) : GrantSummary :=
  { id := grant.id
    request := grant.request
    principal := grant.principal
    scope := grant.scope
    mode := grant.mode
    capacity := grant.capacity
    generation := grant.generation
    epoch := grant.epoch
    incarnation := grant.incarnation
    fence := grant.fence
    issuedAtMs := grant.issuedAtMs
    expiresAtMs := grant.expiresAtMs
    state := grant.state
    basis := grant.authorityBasis
    reason := grant.reason }

structure GrantResponse where
  code : StatusCode
  grant : GrantSummary := {}
  detail : Text := []
deriving DecidableEq, Repr

structure AckResponse where
  code : StatusCode
  detail : Text := []
deriving DecidableEq, Repr

structure LookupResponse where
  code : StatusCode
  remembered : Bool
  outcomeCode : StatusCode := .ok
  grant : UInt64 := 0
  fence : UInt64 := 0
  incarnation : UInt64 := 0
  detail : Text
deriving DecidableEq, Repr

structure LifecycleResponse where
  code : StatusCode
  lifecycle : LifecycleState
  detail : Text
deriving DecidableEq, Repr

def grantToResponse (grant : Grant) (code : StatusCode) : GrantResponse :=
  { code := code, grant := .ofGrant grant, detail := grant.reason }

/-- The outcome a log record carries. -/
def RequestOutcomeRecord.outcome (body : RequestOutcomeRecord) : RequestOutcome :=
  { code := body.code
    grant := body.grant
    fence := body.fence
    incarnation := body.incarnation
    requestDigest := body.requestDigest
    detail := body.detail }

def acceptsCompose (state : LifecycleState) : Bool :=
  state != .retired

namespace DaemonCore

/-- A process that has not started. -/
def create (config : DaemonConfig) : DaemonCore :=
  { config := config
    ledger := { limits := config.evidenceLimits }
    grants := { limits := config.authorityLimits } }

def appendLocked (core : DaemonCore) (record : StoreRecord) : DaemonCore × Result Unit :=
  match core.store with
  | none => (core, .ok ())
  | some store =>
    let (store, result) := store.append record
    ({ core with store := some store }, result)

/-- The checkpoint of the current state, at the current end of the log. -/
def checkpointOf (core : DaemonCore) (store : Store) (snapshotBytes : List UInt8) : Checkpoint :=
  { walOffset := store.logBytes
    generation := core.snapshot.generation
    epoch := core.snapshot.epoch
    lifecycle := core.lifecycle
    memberSetDigest := core.memberSetDigest
    incarnation := core.incarnation
    snapshotDigest := core.snapshot.digest
    ledgerDigest := core.ledger.digest
    ledger := core.ledger.records
    snapshotBytes := snapshotBytes }

def checkpointLocked (core : DaemonCore) (store : Store) : DaemonCore × Result Unit :=
  match core.snapshot.encode with
  | .error status => (core, .error status)
  | .ok encoded =>
    let (store, result) := store.writeCheckpoint (core.checkpointOf store encoded)
    ({ core with store := some store }, result)

/-- The automatic checkpoint, due once enough records were appended by this process. -/
def maybeCheckpointLocked (core : DaemonCore) : DaemonCore × Result Unit :=
  match core.store with
  | none => (core, .ok ())
  | some store =>
    if core.config.checkpointEveryRecords = 0 then (core, .ok ())
    else if store.appends < core.config.checkpointEveryRecords then (core, .ok ())
    else if !core.snapshot.valid then (core, .ok ())
    else core.checkpointLocked store

def composeInput (core : DaemonCore) (target : UInt64) : ComposeInput :=
  { generation := target
    epoch := core.epoch
    lifecycle := core.lifecycle
    limits := core.config.composeLimits }

/-- Publishes a composed snapshot. -/
def publish (core : DaemonCore) (snapshot : Snapshot) : DaemonCore :=
  { core with snapshot := snapshot, generation := snapshot.generation }

/-- The member set changed: the epoch advances, is logged, and the rack is composed again under it. -/
def advanceEpoch (core : DaemonCore) (target : UInt64) (memberSetDigest : Digest) :
    DaemonCore × Result Unit :=
  if core.epoch = maxU64 then
    (core, refuse .resourceExhausted "the rack epoch counter is exhausted")
  else
    let core := { core with epoch := core.epoch + 1, memberSetDigest := memberSetDigest }
    match core.appendLocked (.epoch ⟨core.epoch, memberSetDigest⟩) with
    | (core, .error status) => (core, .error status)
    | (core, .ok ()) =>
      match RackFabric.compose core.ledger core.config.rack (core.composeInput target) with
      | .error status => (core, .error status)
      | .ok outcome => (core.publish outcome.snapshot, .ok ())

def composeLocked (core : DaemonCore) (target : UInt64) : DaemonCore × Result Unit :=
  if !acceptsCompose core.lifecycle then
    (core, refuse .lifecycleRefused "a retired rack does not compose new state")
  else
    match RackFabric.compose core.ledger core.config.rack (core.composeInput target) with
    | .error status => (core, .error status)
    | .ok outcome =>
      let found := outcome.snapshot.data.memberSetDigest
      if !core.membershipInitialized then
        ({ core with membershipInitialized := true, memberSetDigest := found }.publish outcome.snapshot,
          .ok ())
      else if found ≠ core.memberSetDigest then core.advanceEpoch target found
      else (core.publish outcome.snapshot, .ok ())

def ensureSnapshotLocked (core : DaemonCore) : DaemonCore × Result Unit :=
  if core.snapshot.valid then (core, .ok ()) else core.composeLocked core.generation

/-- Applies one replayed record. Grants and their states wait for a composed snapshot. -/
def applyRecoveredRecord (core : DaemonCore) (record : StoreRecord) : DaemonCore × Result Unit :=
  match record with
  | .rackBind body =>
    if body.rack ≠ 0 ∧ body.rack ≠ core.config.rack.rack then
      (core, .error ⟨.outOfRack, text "the store belongs to rack " ++ hex64 body.rack ++
        text " but this daemon is configured for " ++ hex64 core.config.rack.rack⟩)
    else (core, .ok ())
  | .config body =>
    let rack := { core.config.rack with
      headroomFloor := body.headroomFloor
      maxPathsPerPair := body.maxPathsPerPair.toNat
      maxPathHops := body.maxPathHops.toNat }
    ({ core with config := { core.config with rack := rack } }, .ok ())
  | .evidence record => ({ core with ledger := (core.ledger.insert record).1 }, .ok ())
  | .lifecycle body =>
    ({ core with
      lifecycle := body.state
      generation := if body.generation > core.generation then body.generation else core.generation
      epoch := if body.epoch > core.epoch then body.epoch else core.epoch }, .ok ())
  | .generation generation => ({ core with generation := generation }, .ok ())
  | .epoch body =>
    ({ core with
      epoch := body.epoch
      memberSetDigest := body.memberSetDigest
      membershipInitialized := true }, .ok ())
  | .requestOutcome body =>
    ({ core with grants := core.grants.installOutcome body.request body.outcome }, .ok ())
  | .grantCommit _ | .grantState _ | .cleanShutdown _ => (core, .ok ())

def replayRecords (core : DaemonCore) : List StoreRecord → DaemonCore × Result Unit
  | [] => (core, .ok ())
  | record :: rest =>
    match core.applyRecoveredRecord record with
    | (core, .error status) => (core, .error status)
    | (core, .ok ()) => core.replayRecords rest

/-- Starts from the counters and the evidence a checkpoint carries. -/
def loadCheckpoint (core : DaemonCore) (checkpoint : Checkpoint) : DaemonCore :=
  if !checkpoint.present then core
  else
    { core with
      ledger := checkpoint.ledger.foldl (fun ledger record => (ledger.insert record).1) core.ledger
      generation := checkpoint.generation
      epoch := checkpoint.epoch
      lifecycle := checkpoint.lifecycle
      memberSetDigest := checkpoint.memberSetDigest
      membershipInitialized := true }

/-- Opens the store, replays it and takes the next incarnation. -/
def openStore (core : DaemonCore) (disk : Disk) (env : Env) : DaemonCore × Result Unit :=
  if core.config.storeDirectory.isEmpty then ({ core with incarnation := 1 }, .ok ())
  else
    match Store.openDirectory disk {} env.io with
    | .error status => (core, .error status)
    | .ok store =>
      let core := { core with store := some store }
      if store.boundRack ≠ 0 ∧ store.boundRack ≠ core.config.rack.rack then
        (core, .error ⟨.outOfRack, text "the store at " ++ core.config.storeDirectory ++
          text " belongs to rack " ++ hex64 store.boundRack⟩)
      else
        let report := store.recovered.report
        let core := { core with dirtyRecovery := !report.freshStore && !report.cleanShutdown }
        let core := core.loadCheckpoint store.recovered.checkpoint
        match core.replayRecords store.recovered.records with
        | (core, .error status) => (core, .error status)
        | (core, .ok ()) =>
          match store.nextIncarnation with
          | (store, .error status) => ({ core with store := some store }, .error status)
          | (store, .ok incarnation) =>
            let (store, bound) := store.bindRack core.config.rack.rack
            ({ core with store := some store, incarnation := incarnation }, bound)

/-- The lifecycle a start comes up in: recovering after an unclean shutdown, else what was replayed. -/
def startLifecycle (core : DaemonCore) : LifecycleState :=
  if core.dirtyRecovery && core.store.isSome then .recovering
  else if core.lifecycle = .recovering then .assembling
  else core.lifecycle

def installGrants (core : DaemonCore) (grants : List Grant) : DaemonCore :=
  { core with
    grants := grants.foldl
      (fun registry grant => (registry.installRecovered core.snapshot grant).1) core.grants }

def applyStates (core : DaemonCore) (states : List GrantStateRecord) : DaemonCore :=
  { core with
    grants := states.foldl
      (fun registry body => (registry.applyState body.id body.state body.reason).1) core.grants }

def recoveredRecords (core : DaemonCore) : List StoreRecord :=
  match core.store with
  | none => []
  | some store => store.recovered.records

/-- Everything a start does before recovered grants are revalidated. -/
def recover (core : DaemonCore) (disk : Disk) (env : Env) : DaemonCore × Result Unit :=
  match core.openStore disk env with
  | (core, .error status) => (core, .error status)
  | (core, .ok ()) =>
    let core := { core with
      grants := { core.grants with incarnation := core.incarnation }
      lifecycle := core.startLifecycle }
    match core.composeLocked core.generation with
    | (core, .error status) => (core, .error status)
    | (core, .ok ()) =>
      let records := core.recoveredRecords
      ((core.installGrants (commitsOf records)).applyStates (statesOf records), .ok ())

def revalidateGrants (core : DaemonCore) (now : UInt64) : DaemonCore :=
  { core with grants := core.grants.revalidate core.snapshot core.incarnation now }

/-- Opens durable state, replays it, bumps the incarnation and composes. -/
def start (core : DaemonCore) (disk : Disk) (env : Env) : DaemonCore × Result Unit :=
  if core.started then (core, .ok ())
  else
    match { core with started := true }.recover disk env with
    | (core, .error status) => (core, .error status)
    | (core, .ok ()) => (core.revalidateGrants env.now, .ok ())

/-- Fences everything and marks the store cleanly closed. -/
def stop (core : DaemonCore) (now : UInt64) : DaemonCore × Result Unit :=
  if core.stopped then (core, .ok ())
  else
    let core := { core with
      stopped := true
      grants := core.grants.fenceAll (text "daemon stopped") }
    match core.store with
    | none => (core, .ok ())
    | some store =>
      let (store, result) := store.markCleanShutdown now
      ({ core with store := some store }, result)

def expiryRecord (core : DaemonCore) (id : UInt64) : StoreRecord :=
  .grantState ⟨id, .expired, ((core.grants.grants[id]?).map Grant.reason).getD (text "expired")⟩

/-- Expires leases whose deadline has passed and logs each; a failed append is ignored. -/
def expireDueLocked (core : DaemonCore) (now : UInt64) : DaemonCore :=
  let (registry, expired) := core.grants.expireDue now
  let core := { core with grants := registry }
  expired.foldl (fun core id => (core.appendLocked (core.expiryRecord id)).1) core

/-- The rack a membership claim names, when it is not the configured one. -/
def foreignRack (core : DaemonCore) (record : EvidenceRecord) : Option UInt64 :=
  match record.payload with
  | .member claim => if claim.rack ≠ core.config.rack.rack then some claim.rack else none
  | _ => none

/-- Offers one record of a batch: validated, logged, and only then inserted. -/
def offerEvidence (core : DaemonCore) (record : EvidenceRecord) : DaemonCore × EvidenceAckEntry :=
  let digest := evidenceDigest record
  match validateEvidence record with
  | .error status => (core, ⟨.refused, status.code, digest, status.detail⟩)
  | .ok () =>
    match core.foreignRack record with
    | some rack =>
      (core, ⟨.refused, .outOfRack, digest, text "membership claim names rack " ++ hex64 rack ++
        text ", this daemon is authoritative for " ++ hex64 core.config.rack.rack⟩)
    | none =>
      match core.appendLocked (.evidence record) with
      | (core, .error status) =>
        (core, ⟨.refused, status.code, digest,
          text "the record could not be committed durably: " ++ status.detail⟩)
      | (core, .ok ()) =>
        let (ledger, report) := core.ledger.insert record
        ({ core with ledger := ledger }, ⟨report.outcome, report.status.code, digest, report.status.detail⟩)

def offerBatch (core : DaemonCore) : List EvidenceRecord → DaemonCore × List EvidenceAckEntry
  | [] => (core, [])
  | record :: rest =>
    let (core, entry) := core.offerEvidence record
    let (core, entries) := core.offerBatch rest
    (core, entry :: entries)

def submitEvidence (core : DaemonCore) (now : UInt64) (records : List EvidenceRecord) :
    DaemonCore × Result (List EvidenceAckEntry) :=
  if core.lifecycle = .retired then
    (core, refuse .lifecycleRefused "a retired rack accepts no new evidence")
  else if records.length > core.config.maxRecordsPerBatch then
    (core, refuse .oversizeField "evidence batch exceeds the configured daemon bound")
  else
    let core := core.expireDueLocked now
    let (core, entries) := core.offerBatch records
    let core := if core.config.autoCompose then (core.composeLocked core.generation).1 else core
    (core.maybeCheckpointLocked.1, .ok entries)

/-- Moves the generation forward, once the step is logged. -/
def advanceGeneration (core : DaemonCore) (generation : UInt64) : DaemonCore × Result Unit :=
  if generation > core.generation then
    match core.appendLocked (.generation generation) with
    | (core, .error status) => (core, .error status)
    | (core, .ok ()) => ({ core with generation := generation }, .ok ())
  else (core, .ok ())

def compose (core : DaemonCore) (generation : UInt64) : DaemonCore × Result ComposeResponse :=
  if core.lifecycle = .retired then
    (core, refuse .lifecycleRefused "a retired rack does not compose")
  else if generation < core.generation then
    (core, .error ⟨.staleGeneration, text "requested generation " ++ decimal generation ++
      text " is older than the current generation " ++ decimal core.generation⟩)
  else
    match core.advanceGeneration generation with
    | (core, .error status) => (core, .error status)
    | (core, .ok ()) =>
      match core.composeLocked core.generation with
      | (core, .error status) =>
        (core, .ok {
          code := status.code
          generation := core.generation
          epoch := core.epoch
          incarnation := core.incarnation
          detail := status.detail })
      | (core, .ok ()) =>
        let core := core.maybeCheckpointLocked.1
        (core, .ok {
          code := .ok
          generation := core.snapshot.generation
          epoch := core.snapshot.epoch
          incarnation := core.incarnation
          digest := core.snapshot.digest
          diagnostics := .ofNat core.snapshot.data.diagnostics.length })

def grantRequestOf (core : DaemonCore) (request : AcquireRequest) : GrantRequest :=
  { request := request.request
    principal := request.principal
    scope := request.scope
    mode := request.mode
    capacity := request.capacity
    ttlMs := if request.ttlMs = 0 then core.config.defaultTtlMs else request.ttlMs }

def outcomeRecordOf (request : RequestId) (grant : Grant) : RequestOutcomeRecord :=
  { request := request
    code := .ok
    grant := grant.id
    fence := grant.fence
    incarnation := grant.incarnation
    requestDigest := grantDigest grant
    detail := text "grant committed" }

/-- Undoes a grant whose durable record failed. -/
def rollBack (core : DaemonCore) (grant : Grant) : DaemonCore :=
  { core with grants := (core.grants.release grant.token).1 }

/-- Logs a granted request: the commit and then the outcome, each rolled back when it fails. -/
def commitGrant (core : DaemonCore) (request : RequestId) (grant : Grant) : DaemonCore × Result Unit :=
  match core.appendLocked (.grantCommit grant) with
  | (core, .error status) => (core.rollBack grant, .error status)
  | (core, .ok ()) =>
    match core.appendLocked (.requestOutcome (outcomeRecordOf request grant)) with
    | (core, .error status) => (core.rollBack grant, .error status)
    | (core, .ok ()) => (core, .ok ())

def acquire (core : DaemonCore) (now : UInt64) (request : AcquireRequest) :
    DaemonCore × Result GrantResponse :=
  let core := core.expireDueLocked now
  match core.ensureSnapshotLocked with
  | (core, .error status) => (core, .error status)
  | (core, .ok ()) =>
    let allowNew := lifecycleAcceptsNewAuthority core.lifecycle
    let (registry, granted) := core.grants.acquire core.snapshot (core.grantRequestOf request)
      core.incarnation now allowNew
    let core := { core with grants := registry }
    match granted with
    | .error status => (core, .ok { code := status.code, detail := status.detail })
    | .ok grant =>
      match core.commitGrant request.request grant with
      | (core, .error status) => (core, .error status)
      | (core, .ok ()) => (core.maybeCheckpointLocked.1, .ok (grantToResponse grant .ok))

def renew (core : DaemonCore) (now : UInt64) (token : LeaseToken) (ttlMs : UInt64) :
    DaemonCore × Result GrantResponse :=
  match core.ensureSnapshotLocked with
  | (core, .error status) => (core, .error status)
  | (core, .ok ()) =>
    let ttl := if ttlMs = 0 then core.config.defaultTtlMs else ttlMs
    let (registry, renewed) := core.grants.renew core.snapshot token ttl now
    let core := { core with grants := registry }
    match renewed with
    | .error status => (core, .ok { code := status.code, detail := status.detail })
    | .ok grant =>
      match core.appendLocked (.grantCommit grant) with
      | (core, .error status) => (core, .error status)
      | (core, .ok ()) => (core.maybeCheckpointLocked.1, .ok (grantToResponse grant .ok))

def release (core : DaemonCore) (token : LeaseToken) : DaemonCore × Result AckResponse :=
  let (registry, released) := core.grants.release token
  let core := { core with grants := registry }
  match released with
  | .error status => (core, .ok { code := status.code, detail := status.detail })
  | .ok () =>
    let reason := ((core.grants.grants[token.grant]?).map Grant.reason).getD (text "released")
    match core.appendLocked (.grantState ⟨token.grant, .released, reason⟩) with
    | (core, .error status) => (core, .error status)
    | (core, .ok ()) => (core.maybeCheckpointLocked.1, .ok { code := .ok })

def validate (core : DaemonCore) (now : UInt64) (token : LeaseToken) : DaemonCore × Result GrantResponse :=
  match core.ensureSnapshotLocked with
  | (core, .error status) => (core, .error status)
  | (core, .ok ()) =>
    match core.grants.validate core.snapshot token now with
    | .error status => (core, .ok { code := status.code, detail := status.detail })
    | .ok grant => (core, .ok (grantToResponse grant .ok))

def lookup (core : DaemonCore) (request : RequestId) : LookupResponse :=
  match core.grants.lookupRequest request with
  | .error status => { code := .unknown, remembered := false, detail := status.detail }
  | .ok outcome =>
    { code := .ok
      remembered := true
      outcomeCode := outcome.code
      grant := outcome.grant
      fence := outcome.fence
      incarnation := outcome.incarnation
      detail := outcome.detail }

/-- What entering a lifecycle does to grants before anything is composed. -/
def enterLifecycle (core : DaemonCore) (target : LifecycleState) : DaemonCore :=
  let core := { core with lifecycle := target }
  if target = .maintenance then
    { core with grants := core.grants.suspendAll (text "the rack entered a maintenance window") }
  else if target = .retired then
    { core with grants := core.grants.fenceAll (text "the rack was retired") }
  else core

/-- Composes for a lifecycle that serves leases, and re-arms what it finds. -/
def serveLifecycle (core : DaemonCore) (now : UInt64) (previous target : LifecycleState) :
    DaemonCore × Result Unit :=
  if target = .active ∨ target = .degraded then
    match core.composeLocked core.generation with
    | (core, .error status) => (core, .error status)
    | (core, .ok ()) =>
      let core := if previous = .recovering then core.revalidateGrants now else core
      ({ core with grants := core.grants.resumeAll core.snapshot now }, .ok ())
  else (core, .ok ())

def transitionLifecycleLocked (core : DaemonCore) (now : UInt64) (target : LifecycleState) :
    DaemonCore × Result Unit :=
  match (core.enterLifecycle target).serveLifecycle now core.lifecycle target with
  | (core, .error status) => (core, .error status)
  | (core, .ok ()) =>
    match core.appendLocked (.lifecycle ⟨target, core.generation, core.epoch⟩) with
    | (core, .error status) => (core, .error status)
    | (core, .ok ()) => (core.maybeCheckpointLocked.1, .ok ())

def setLifecycle (core : DaemonCore) (now : UInt64) (target : LifecycleState) :
    DaemonCore × LifecycleResponse :=
  if !lifecycleTransitionAllowed core.lifecycle target then
    (core, {
      code := .invalidLifecycleTransition
      lifecycle := core.lifecycle
      detail := text "the rack cannot move from " ++ core.lifecycle.toText ++ text " to " ++ target.toText })
  else
    match core.transitionLifecycleLocked now target with
    | (next, .error status) => (next, { code := status.code, lifecycle := next.lifecycle, detail := [] })
    | (next, .ok ()) =>
      (next, {
        code := .ok
        lifecycle := next.lifecycle
        detail := text "the rack moved from " ++ core.lifecycle.toText ++ text " to " ++ target.toText })

def checkpoint (core : DaemonCore) : DaemonCore × AckResponse :=
  match core.store with
  | none => (core, { code := .unsupported, detail := text "this daemon has no durable store" })
  | some _ =>
    match core.ensureSnapshotLocked with
    | (core, .error status) => (core, { code := status.code, detail := status.detail })
    | (core, .ok ()) =>
      match core.store with
      | none => (core, { code := .unsupported })
      | some store =>
        match core.checkpointLocked store with
        | (core, .error status) => (core, { code := status.code, detail := status.detail })
        | (core, .ok ()) =>
          (core, {
            code := .ok
            detail := text "checkpoint written at log offset " ++ decimal (UInt64.ofNat store.logBytes) })

end DaemonCore

end RackFabric
