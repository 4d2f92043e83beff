import RackFabric.Net.Frame
import RackFabric.Net.GrantListing
import RackFabric.Net.Messages
import RackFabric.Runtime.System

/-!
What the daemon makes of one frame: the request its body decodes to, what the core answers it, and whether the
session goes on. The counters that only the statistics report are handed in.
-/

namespace RackFabric

/-- A message to send: its type, and a body of the form that goes with it. -/
structure Message where
  type : MessageType
  form : MessageForm
  body : form.Body

/-- The bytes `write_message` hands to the connection. -/
def writeMessage (maxPayload : UInt32) (correlation : UInt64) (message : Message) : Result (List UInt8) := do
  let writer ← message.form.encode message.body { limit := maxPayload.toNat }
  sealFrame maxPayload ⟨message.type, correlation, writer.buffer⟩

/-- A failure as it is reported to a peer. -/
def errorMessage (failure : Status) : Message :=
  ⟨.error, .ackResponse, ({ code := failure.code, detail := failure.detail } : AckResponse)⟩

inductive Query where
  | state
  | resources (request : ResourceQuery)
  | paths
  | grants
  | stats
deriving DecidableEq, Repr

/-- What a frame asks for. A command comes with the type its answer is sent under. -/
inductive Request where
  | hello (request : HelloRequest)
  | command (ack : MessageType) (command : Command)
  | query (query : Query)
  | shutdown
deriving DecidableEq, Repr

namespace Request

private def opened (form : MessageForm) (payload : List UInt8) (make : form.Body → Request) :
    Option (Result Request) :=
  some ((form.decode payload).map make)

/-- The request of a frame; none for the types that only answers have. Some requests have no body, and whatever
comes as theirs is not looked at. -/
def decode : MessageType → List UInt8 → Option (Result Request)
  | .hello, payload => opened .helloRequest payload fun (request : HelloRequest) => .hello request
  | .submitEvidence, payload => opened .submitEvidenceRequest payload fun (request : SubmitEvidenceRequest) =>
    .command .evidenceAck (.submitEvidence request.records)
  | .compose, payload => opened .composeCommand payload fun (request : ComposeCommand) =>
    .command .composeAck (.compose request.generation)
  | .acquire, payload => opened .acquireRequest payload fun (request : AcquireRequest) =>
    .command .acquireAck (.acquire request)
  | .renew, payload => opened .renewRequest payload fun (request : RenewRequest) =>
    .command .renewAck (.renew request.token request.ttlMs)
  | .release, payload => opened .tokenMessage payload fun (request : TokenMessage) =>
    .command .releaseAck (.release request.token)
  | .validate, payload => opened .tokenMessage payload fun (request : TokenMessage) =>
    .command .validateAck (.validate request.token)
  | .lookup, payload => opened .lookupRequest payload fun (request : LookupRequest) =>
    .command .lookupAck (.lookup request.request)
  | .queryState, _ => some (.ok (.query .state))
  | .queryResources, payload => opened .resourceQuery payload fun (request : ResourceQuery) =>
    .query (.resources request)
  | .queryPaths, _ => some (.ok (.query .paths))
  | .queryGrants, _ => some (.ok (.query .grants))
  | .lifecycle, payload => opened .lifecycleRequest payload fun (request : LifecycleRequest) =>
    .command .lifecycleAck (.setLifecycle request.target)
  | .checkpoint, _ => some (.ok (.command .checkpointAck .checkpoint))
  | .stats, _ => some (.ok (.query .stats))
  | .shutdown, _ => some (.ok .shutdown)
  | .helloAck, _ | .evidenceAck, _ | .composeAck, _ | .acquireAck, _ | .renewAck, _ | .releaseAck, _
  | .validateAck, _ | .lookupAck, _ | .stateAck, _ | .resourcesAck, _ | .pathsAck, _ | .grantsAck, _
  | .lifecycleAck, _ | .checkpointAck, _ | .statsAck, _ | .shutdownAck, _ | .error, _ => none

end Request

/-- The message of a command's answer. No message asks for expired leases to be swept. -/
def Response.message (ack : MessageType) : Response → Message
  | .evidence entries => ⟨ack, .evidenceAckResponse, (⟨entries⟩ : EvidenceAckResponse)⟩
  | .composed response => ⟨ack, .composeResponse, response⟩
  | .grant response => ⟨ack, .grantResponse, response⟩
  | .ack response => ⟨ack, .ackResponse, response⟩
  | .lookup response => ⟨ack, .lookupResponse, response⟩
  | .lifecycle response => ⟨ack, .lifecycleResponse, response⟩
  | .expired => ⟨ack, .ackResponse, ({ code := .ok } : AckResponse)⟩

namespace DaemonCore

def hello (core : DaemonCore) (request : HelloRequest) : HelloResponse :=
  if request.protocolVersion ≠ kProtocolVersion then
    { protocolVersion := kProtocolVersion
      detail := text "protocol version " ++ decimal request.protocolVersion.toUInt64 ++
        text " is not supported; this daemon speaks " ++ decimal kProtocolVersion.toUInt64 }
  else
    { protocolVersion := kProtocolVersion
      accepted := true
      rack := core.config.rack.rack
      epoch := core.epoch
      generation := core.generation
      incarnation := core.incarnation
      lifecycle := core.lifecycle
      snapshotDigest := if core.snapshot.valid then core.snapshot.digest else .zero
      detail := core.config.rack.name }

def kMaxStateDiagnostics : Nat := 256

def stateOf (core : DaemonCore) : StateResponse :=
  let data := core.snapshot.data
  { code := .ok
    rack := core.config.rack.rack
    generation := core.snapshot.generation
    epoch := core.snapshot.epoch
    incarnation := core.incarnation
    lifecycle := core.lifecycle
    snapshotDigest := core.snapshot.digest
    evidenceDigest := data.evidenceDigest
    memberSetDigest := data.memberSetDigest
    capacity := {
      total := data.capacity.total
      unavailable := data.capacity.unavailable
      usable := data.capacity.usable
      obligated := data.capacity.obligated
      headroomFloor := data.capacity.headroomFloor
      uncommitted := data.capacity.uncommitted
      deficit := data.capacity.deficit
      committedGrants := core.grants.committedTotal }
    devices := .ofNat data.devices.length
    ports := .ofNat data.ports.length
    links := .ofNat data.links.length
    attachments := .ofNat data.attachments.length
    paths := .ofNat data.paths.length
    liveGrants := .ofNat core.grants.live
    recoveringGrants := .ofNat core.grants.recovering
    totalDiagnostics := .ofNat data.diagnostics.length
    diagnostics := (data.diagnostics.take kMaxStateDiagnostics).map fun source =>
      { kind := source.kind, subjectKind := source.subjectKind, subjectId := source.subjectId,
        source := source.source, detail := source.detail }
    cleanShutdown := core.store.any fun store => store.recovered.report.cleanShutdown
    recoveredFromDirtyShutdown := core.store.isSome && core.dirtyRecovery }

def resourceEntry (core : DaemonCore) (state : ResourceState) : ResourceEntry :=
  let entry : ResourceEntry :=
    { ref := state.ref
      eligibility := state.eligibility
      availability := state.availability
      capacityKnown := state.capacityKnown
      capacity := state.capacity
      obligated := state.obligated
      maintenance := state.maintenance
      committed := core.grants.committed.getD state.ref 0 }
  match core.grants.available core.snapshot state.ref with
  | .ok free => { entry with available := free, availableKnown := true, availableCode := .ok }
  | .error status => { entry with availableKnown := false, availableCode := status.code }

/-- The entries of the states that pass the filter, as long as there is room, and whether some were left out. -/
def listResources (core : DaemonCore) (kindFilter : UInt8) : Nat → List ResourceState → List ResourceEntry × Bool
  | _, [] => ([], false)
  | room, state :: rest =>
    if kindFilter ≠ 0 ∧ state.ref.kind.code ≠ kindFilter then core.listResources kindFilter room rest
    else
      match room with
      | 0 => ([], true)
      | room + 1 =>
        let (entries, truncated) := core.listResources kindFilter room rest
        (core.resourceEntry state :: entries, truncated)

def resourcesOf (core : DaemonCore) (request : ResourceQuery) : ResourcesResponse :=
  let limit := if request.limit = 0 then 256 else request.limit.toNat
  let (entries, truncated) := core.listResources request.kindFilter limit core.snapshot.data.resources
  { code := .ok, entries := entries, truncated := truncated }

def pathsOf (core : DaemonCore) : PathsResponse :=
  { code := .ok
    entries := core.snapshot.data.paths.map fun path =>
      { id := path.id, startPort := path.startPort, endPort := path.endPort, hops := .ofNat path.links.length,
        bottleneck := path.bottleneck, bottleneckKnown := path.bottleneckKnown, eligibility := path.eligibility } }

/-- The statistics, with the counters that the process keeps besides the core. -/
def statsOf (core : DaemonCore) (counters : StatsResponse) : StatsResponse :=
  { counters with
    code := .ok
    evidenceRecords := .ofNat core.ledger.slots.size
    evidenceSources := .ofNat core.ledger.sources.size
    evidenceConflicts := core.ledger.conflicts
    evidenceSuperseded := core.ledger.superseded
    detail := [] }

/-- The queries of the snapshot make sure first that there is one. -/
def querySnapshot (core : DaemonCore) (answer : DaemonCore → Message) : DaemonCore × Result Message :=
  match core.ensureSnapshotLocked with
  | (core, .error status) => (core, .error status)
  | (core, .ok ()) => (core, .ok (answer core))

def ask (core : DaemonCore) (counters : StatsResponse) : Query → DaemonCore × Result Message
  | .state => core.querySnapshot fun core => ⟨.stateAck, .stateResponse, core.stateOf⟩
  | .resources request => core.querySnapshot fun core => ⟨.resourcesAck, .resourcesResponse, core.resourcesOf request⟩
  | .paths => core.querySnapshot fun core => ⟨.pathsAck, .pathsResponse, core.pathsOf⟩
  | .grants => (core, .ok ⟨.grantsAck, .grantsResponse, core.queryGrants⟩)
  | .stats => (core, .ok ⟨.statsAck, .statsResponse, core.statsOf counters⟩)

end DaemonCore

/-- What dispatching a frame comes to: the message to send, and what becomes of the session and of the daemon once it
is sent. -/
structure Dispatched where
  core : DaemonCore
  reply : Message
  goesOn : Bool
  stops : Bool := false

namespace DaemonCore

/-- Serves a request that was decoded. A command that fails leaves the session usable. -/
def serve (core : DaemonCore) (now : UInt64) (counters : StatsResponse) : Request → Dispatched
  | .hello request => ⟨core, ⟨.helloAck, .helloResponse, core.hello request⟩, (core.hello request).accepted, false⟩
  | .command ack command =>
    match core.exec now command with
    | (core, .error failure) => ⟨core, errorMessage failure, true, false⟩
    | (core, .ok response) => ⟨core, response.message ack, true, false⟩
  | .query query =>
    match core.ask counters query with
    | (core, .error failure) => ⟨core, errorMessage failure, true, false⟩
    | (core, .ok message) => ⟨core, message, true, false⟩
  | .shutdown =>
    ⟨core, ⟨.shutdownAck, .ackResponse, ({ code := .ok, detail := text "the daemon is shutting down" } : AckResponse)⟩,
      true, true⟩

/-- A body that does not decode is reported and ends the session, since the stream cannot be trusted to be back in
sync. -/
def dispatch (core : DaemonCore) (env : Env) (counters : StatsResponse) (frame : Frame) : Dispatched :=
  match Request.decode frame.type frame.payload with
  | none =>
    ⟨core, errorMessage ⟨.unsupported, text "a response message type arrived at the server"⟩, true, false⟩
  | some (.error failure) => ⟨core, errorMessage failure, false, false⟩
  | some (.ok request) => (core.enter env.io).serve env.now counters request

end DaemonCore

end RackFabric
