import RackFabric.Runtime.Daemon
import RackFabric.Persist.Decoding

/-!
The wire protocol of the daemon. One request produces one response; the body of a frame is the canonical encoding
of one of the structures below, and a decoder accepts nothing after it.
-/

namespace RackFabric

open Foundation ByteReader

structure ProtocolLimits where
  maxEvidenceRecords : Nat := 4096
  maxResources : Nat := 65536
  maxPaths : Nat := 8192
  maxGrants : Nat := 8192
  maxDiagnostics : Nat := 512
  maxDetailText : Nat := 512
deriving DecidableEq, Repr

def kLimits : ProtocolLimits := {}

def finish (writer : ByteWriter) : Result ByteWriter :=
  if !writer.ok then refuse .oversizeField "message exceeds its encoding bound" else .ok writer

def trailing : Decoding Unit := fun remaining =>
  if remaining ≠ [] then refuse .malformedEncoding "message has trailing bytes" else .ok ((), remaining)

/-- A message body and nothing after it. -/
def whole (body : Decoding α) : Decoding α := do
  let message ← body
  trailing
  pure message

/-- Stops the decoding of a body that is well formed but not acceptable. -/
def require (holds : Bool) (code : StatusCode) (detail : String) : Decoding Unit :=
  if holds then pure () else fun _ => refuse code detail

def putRef (writer : ByteWriter) (ref : ResourceRef) : ByteWriter :=
  (writer.u8 ref.kind.code).u64 ref.id

def getRef : Reading ResourceRef := do
  let kind ← u8
  let id ← u64
  if 1 ≤ kind ∧ kind ≤ 6 then pure { kind := .ofCode kind, id } else failure

/-- Encodes the entries of a list one after another, up to the first that fails. -/
def putEach (encode : α → ByteWriter → Result ByteWriter) (entries : List α) (writer : ByteWriter) :
    Result ByteWriter :=
  entries.foldlM (fun writer entry => encode entry writer) writer

def putCount (writer : ByteWriter) (entries : List α) : ByteWriter :=
  writer.u32 (.ofNat entries.length)

/-- A count within its bound and then that many entries. -/
def getEach (maxCount : Nat) (overfull : String) (entry : Decoding α) : Decoding (List α) :=
  readCounted (expect (ByteReader.count maxCount) .oversizeField overfull) entry

def putDetail (writer : ByteWriter) (detail : Text) : ByteWriter :=
  writer.text detail kLimits.maxDetailText

def getDetail : Reading Text :=
  ByteReader.text kLimits.maxDetailText

/-! ### Hello -/

structure HelloRequest where
  protocolVersion : UInt16 := 0
  clientId : UInt32 := 0
deriving DecidableEq, Repr

def HelloRequest.encode (message : HelloRequest) (writer : ByteWriter) : Result ByteWriter :=
  finish ((writer.u16 message.protocolVersion).u32 message.clientId)

def HelloRequest.decode : Decoding HelloRequest :=
  whole (expect (do
    let protocolVersion ← u16
    let clientId ← u32
    pure { protocolVersion, clientId }) .truncated "hello request is truncated")

structure HelloResponse where
  protocolVersion : UInt16 := 0
  accepted : Bool := false
  rack : UInt64 := 0
  epoch : UInt64 := 0
  generation : UInt64 := 0
  incarnation : UInt64 := 0
  lifecycle : LifecycleState := .assembling
  snapshotDigest : Digest := .zero
  detail : Text := []
deriving DecidableEq, Repr

def HelloResponse.encode (message : HelloResponse) (writer : ByteWriter) : Result ByteWriter :=
  finish (putDetail ((((((((writer.u16 message.protocolVersion).boolean message.accepted).u64 message.rack).u64
    message.epoch).u64 message.generation).u64 message.incarnation).u8 message.lifecycle.code).digest
    message.snapshotDigest) message.detail)

def HelloResponse.decode : Decoding HelloResponse :=
  whole (expect (do
    let protocolVersion ← u16
    let accepted ← boolean
    let rack ← u64
    let epoch ← u64
    let generation ← u64
    let incarnation ← u64
    let lifecycle ← u8
    let snapshotDigest ← ByteReader.digest
    let detail ← getDetail
    pure { protocolVersion, accepted, rack, epoch, generation, incarnation, snapshotDigest, detail,
           lifecycle := .ofCode lifecycle }) .truncated "hello response is truncated")

/-! ### Evidence -/

structure SubmitEvidenceRequest where
  records : List EvidenceRecord := []
deriving DecidableEq, Repr

def SubmitEvidenceRequest.encode (message : SubmitEvidenceRequest) (writer : ByteWriter) : Result ByteWriter := do
  let writer ← putEach encodeEvidence message.records (putCount writer message.records)
  finish writer

def SubmitEvidenceRequest.decode : Decoding SubmitEvidenceRequest :=
  whole (do
    let records ← getEach kLimits.maxEvidenceRecords "evidence batch exceeds its bound" decodeEvidence
    pure { records })

structure EvidenceAckResponse where
  entries : List EvidenceAckEntry := []
deriving DecidableEq, Repr

def putAckEntry (writer : ByteWriter) (entry : EvidenceAckEntry) : ByteWriter :=
  putDetail (((writer.u8 entry.outcome.code).u16 entry.code.value).digest entry.digest) entry.detail

def EvidenceAckResponse.encode (message : EvidenceAckResponse) (writer : ByteWriter) : Result ByteWriter :=
  finish (message.entries.foldl putAckEntry (putCount writer message.entries))

def getAckEntry : Reading EvidenceAckEntry := do
  let outcome ← u8
  let code ← u16
  let digest ← ByteReader.digest
  let detail ← getDetail
  pure { digest, detail, outcome := .ofCode outcome, code := .ofValue code }

def EvidenceAckResponse.decode : Decoding EvidenceAckResponse :=
  whole (do
    let entries ← getEach kLimits.maxEvidenceRecords "evidence acknowledgement exceeds its bound"
      (expect getAckEntry .truncated "evidence acknowledgement is truncated")
    pure { entries })

/-! ### Compose -/

structure ComposeCommand where
  generation : UInt64 := 0
deriving DecidableEq, Repr

def ComposeCommand.encode (message : ComposeCommand) (writer : ByteWriter) : Result ByteWriter :=
  finish (writer.u64 message.generation)

def ComposeCommand.decode : Decoding ComposeCommand :=
  whole (expect (do
    let generation ← u64
    pure { generation }) .truncated "compose request is truncated")

def ComposeResponse.encode (message : ComposeResponse) (writer : ByteWriter) : Result ByteWriter :=
  finish (putDetail ((((((writer.u16 message.code.value).u64 message.generation).u64 message.epoch).u64
    message.incarnation).digest message.digest).u32 message.diagnostics) message.detail)

def ComposeResponse.decode : Decoding ComposeResponse :=
  whole (expect (do
    let code ← u16
    let generation ← u64
    let epoch ← u64
    let incarnation ← u64
    let digest ← ByteReader.digest
    let diagnostics ← u32
    let detail ← getDetail
    pure { generation, epoch, incarnation, digest, diagnostics, detail, code := .ofValue code })
    .truncated "compose response is truncated")

/-! ### Grants -/

def AcquireRequest.encode (message : AcquireRequest) (writer : ByteWriter) : Result ByteWriter :=
  finish (((((putRef (((writer.u64 message.request.hi).u64 message.request.lo).u64 message.principal)
    message.scope).u8 message.mode.code).u64 message.capacity).u64 message.ttlMs))

def AcquireRequest.decode : Decoding AcquireRequest :=
  whole (do
    let message : AcquireRequest ← expect (do
      let hi ← u64
      let lo ← u64
      let principal ← u64
      let scope ← getRef
      let mode ← u8
      let capacity ← u64
      let ttlMs ← u64
      pure { principal, scope, capacity, ttlMs, request := { hi, lo }, mode := .ofCode mode })
      .truncated "acquire request is truncated"
    require (message.mode = .shared ∨ message.mode = .exclusive) .outOfRange
      "acquire request has an unknown grant mode"
    pure message)

def GrantSummary.encode (message : GrantSummary) (writer : ByteWriter) : Result ByteWriter :=
  finish (putDetail ((((((((((((putRef ((((writer.u64 message.id).u64 message.request.hi).u64 message.request.lo).u64
    message.principal) message.scope).u8 message.mode.code).u64 message.capacity).u64 message.generation).u64
    message.epoch).u64 message.incarnation).u64 message.fence).u64 message.issuedAtMs).u64 message.expiresAtMs).u8
    message.state.code).digest message.basis)) message.reason)

def GrantSummary.decode : Decoding GrantSummary :=
  expect (do
    let id ← u64
    let hi ← u64
    let lo ← u64
    let principal ← u64
    let scope ← getRef
    let mode ← u8
    let capacity ← u64
    let generation ← u64
    let epoch ← u64
    let incarnation ← u64
    let fence ← u64
    let issuedAtMs ← u64
    let expiresAtMs ← u64
    let state ← u8
    let basis ← ByteReader.digest
    let reason ← getDetail
    pure { id, principal, scope, capacity, generation, epoch, incarnation, fence, issuedAtMs, expiresAtMs, basis,
           reason, request := { hi, lo }, mode := .ofCode mode, state := .ofCode state })
    .truncated "grant summary is truncated"

/-- The grant is left out when it has no identity. -/
def GrantResponse.encode (message : GrantResponse) (writer : ByteWriter) : Result ByteWriter := do
  let writer := (writer.u16 message.code.value).boolean (message.grant.id != 0)
  let writer ← if message.grant.id != 0 then message.grant.encode writer else .ok writer
  finish (putDetail writer message.detail)

def GrantResponse.decode : Decoding GrantResponse :=
  whole (do
    let code ← expect u16 .truncated "grant response is truncated"
    let present ← expect boolean .truncated "grant response is truncated"
    let grant ← if present then GrantSummary.decode else pure {}
    let detail ← expect getDetail .truncated "grant response is truncated"
    pure { grant, detail, code := .ofValue code })

structure TokenMessage where
  token : LeaseToken
deriving DecidableEq, Repr

def TokenMessage.encode (message : TokenMessage) (writer : ByteWriter) : Result ByteWriter :=
  finish ((((writer.u64 message.token.grant).u64 message.token.fence).u64 message.token.incarnation).digest
    message.token.scopeBasis)

/-- The token ends the body, or is the front of a larger one. -/
def TokenMessage.decode (requireEnd : Bool) : Decoding TokenMessage := do
  let message : TokenMessage ← expect (do
    let grant ← u64
    let fence ← u64
    let incarnation ← u64
    let scopeBasis ← ByteReader.digest
    pure { token := { grant, fence, incarnation, scopeBasis } }) .truncated "lease token is truncated"
  if requireEnd then trailing else pure ()
  pure message

structure RenewRequest where
  token : LeaseToken
  ttlMs : UInt64 := 60000
deriving DecidableEq, Repr

def RenewRequest.encode (message : RenewRequest) (writer : ByteWriter) : Result ByteWriter := do
  let writer ← TokenMessage.encode { token := message.token } writer
  finish (writer.u64 message.ttlMs)

def RenewRequest.decode : Decoding RenewRequest :=
  whole (do
    let message ← TokenMessage.decode false
    let ttlMs ← expect u64 .truncated "renew request is truncated"
    pure { token := message.token, ttlMs })

structure LookupRequest where
  request : RequestId := {}
deriving DecidableEq, Repr

def LookupRequest.encode (message : LookupRequest) (writer : ByteWriter) : Result ByteWriter :=
  finish ((writer.u64 message.request.hi).u64 message.request.lo)

def LookupRequest.decode : Decoding LookupRequest :=
  whole (expect (do
    let hi ← u64
    let lo ← u64
    pure { request := { hi, lo } }) .truncated "lookup request is truncated")

def LookupResponse.encode (message : LookupResponse) (writer : ByteWriter) : Result ByteWriter :=
  finish (putDetail ((((((writer.u16 message.code.value).boolean message.remembered).u16
    message.outcomeCode.value).u64 message.grant).u64 message.fence).u64 message.incarnation) message.detail)

def LookupResponse.decode : Decoding LookupResponse :=
  whole (expect (do
    let code ← u16
    let remembered ← boolean
    let outcomeCode ← u16
    let grant ← u64
    let fence ← u64
    let incarnation ← u64
    let detail ← getDetail
    pure { remembered, grant, fence, incarnation, detail, code := .ofValue code,
           outcomeCode := .ofValue outcomeCode }) .truncated "lookup response is truncated")

/-! ### Inspection -/

structure DiagnosticEntry where
  kind : DiagnosticKind
  subjectKind : EvidenceKind
  subjectId : UInt64 := 0
  source : UInt64 := 0
  detail : Text := []
deriving DecidableEq, Repr

def DiagnosticEntry.encode (message : DiagnosticEntry) (writer : ByteWriter) : Result ByteWriter :=
  finish (putDetail ((((writer.u8 message.kind.code).u8 message.subjectKind.code).u64 message.subjectId).u64
    message.source) message.detail)

def DiagnosticEntry.decode : Decoding DiagnosticEntry :=
  expect (do
    let kind ← u8
    let subjectKind ← u8
    let subjectId ← u64
    let source ← u64
    let detail ← getDetail
    pure { subjectId, source, detail, kind := .ofCode kind, subjectKind := .ofCode subjectKind })
    .truncated "diagnostic entry is truncated"

structure CapacityMessage where
  total : UInt64 := 0
  unavailable : UInt64 := 0
  usable : UInt64 := 0
  obligated : UInt64 := 0
  headroomFloor : UInt64 := 0
  uncommitted : UInt64 := 0
  deficit : UInt64 := 0
  committedGrants : UInt64 := 0
deriving DecidableEq, Repr

def CapacityMessage.encode (message : CapacityMessage) (writer : ByteWriter) : Result ByteWriter :=
  finish ((((((((writer.u64 message.total).u64 message.unavailable).u64 message.usable).u64 message.obligated).u64
    message.headroomFloor).u64 message.uncommitted).u64 message.deficit).u64 message.committedGrants)

def CapacityMessage.decode : Decoding CapacityMessage :=
  expect (do
    let total ← u64
    let unavailable ← u64
    let usable ← u64
    let obligated ← u64
    let headroomFloor ← u64
    let uncommitted ← u64
    let deficit ← u64
    let committedGrants ← u64
    pure { total, unavailable, usable, obligated, headroomFloor, uncommitted, deficit, committedGrants })
    .truncated "capacity message is truncated"

structure StateResponse where
  code : StatusCode := .ok
  rack : UInt64 := 0
  generation : UInt64 := 0
  epoch : UInt64 := 0
  incarnation : UInt64 := 0
  lifecycle : LifecycleState := .assembling
  snapshotDigest : Digest := .zero
  evidenceDigest : Digest := .zero
  memberSetDigest : Digest := .zero
  capacity : CapacityMessage := {}
  devices : UInt32 := 0
  ports : UInt32 := 0
  links : UInt32 := 0
  attachments : UInt32 := 0
  paths : UInt32 := 0
  liveGrants : UInt32 := 0
  recoveringGrants : UInt32 := 0
  cleanShutdown : Bool := false
  recoveredFromDirtyShutdown : Bool := false
  totalDiagnostics : UInt32 := 0
  diagnostics : List DiagnosticEntry := []
  detail : Text := []
deriving DecidableEq, Repr

def StateResponse.encode (message : StateResponse) (writer : ByteWriter) : Result ByteWriter := do
  let writer := ((((((((writer.u16 message.code.value).u64 message.rack).u64 message.generation).u64
    message.epoch).u64 message.incarnation).u8 message.lifecycle.code).digest message.snapshotDigest).digest
    message.evidenceDigest).digest message.memberSetDigest
  let writer ← message.capacity.encode writer
  let writer := (((((((((writer.u32 message.devices).u32 message.ports).u32 message.links).u32
    message.attachments).u32 message.paths).u32 message.liveGrants).u32 message.recoveringGrants).boolean
    message.cleanShutdown).boolean message.recoveredFromDirtyShutdown).u32 message.totalDiagnostics
  let writer ← putEach DiagnosticEntry.encode message.diagnostics (putCount writer message.diagnostics)
  finish (putDetail writer message.detail)

def StateResponse.decode : Decoding StateResponse :=
  whole (do
    let code ← expect u16 .truncated "state response is truncated"
    let rack ← expect u64 .truncated "state response is truncated"
    let generation ← expect u64 .truncated "state response is truncated"
    let epoch ← expect u64 .truncated "state response is truncated"
    let incarnation ← expect u64 .truncated "state response is truncated"
    let lifecycle ← expect u8 .truncated "state response is truncated"
    let snapshotDigest ← expect ByteReader.digest .truncated "state response is truncated"
    let evidenceDigest ← expect ByteReader.digest .truncated "state response is truncated"
    let memberSetDigest ← expect ByteReader.digest .truncated "state response is truncated"
    let capacity ← CapacityMessage.decode
    let devices ← expect u32 .truncated "state response is truncated"
    let ports ← expect u32 .truncated "state response is truncated"
    let links ← expect u32 .truncated "state response is truncated"
    let attachments ← expect u32 .truncated "state response is truncated"
    let paths ← expect u32 .truncated "state response is truncated"
    let liveGrants ← expect u32 .truncated "state response is truncated"
    let recoveringGrants ← expect u32 .truncated "state response is truncated"
    let cleanShutdown ← expect boolean .truncated "state response is truncated"
    let recoveredFromDirtyShutdown ← expect boolean .truncated "state response is truncated"
    let totalDiagnostics ← expect u32 .truncated "state response is truncated"
    let diagnostics ← getEach kLimits.maxDiagnostics "diagnostic list exceeds its bound" DiagnosticEntry.decode
    let detail ← expect getDetail .truncated "state response is truncated"
    pure { rack, generation, epoch, incarnation, snapshotDigest, evidenceDigest, memberSetDigest, capacity, devices,
           ports, links, attachments, paths, liveGrants, recoveringGrants, cleanShutdown,
           recoveredFromDirtyShutdown, totalDiagnostics, diagnostics, detail, code := .ofValue code,
           lifecycle := .ofCode lifecycle })

structure ResourceQuery where
  limit : UInt32 := 256
  kindFilter : UInt8 := 0
deriving DecidableEq, Repr

def ResourceQuery.encode (message : ResourceQuery) (writer : ByteWriter) : Result ByteWriter :=
  finish ((writer.u32 message.limit).u8 message.kindFilter)

def ResourceQuery.decode : Decoding ResourceQuery :=
  whole (expect (do
    let limit ← u32
    let kindFilter ← u8
    pure { limit, kindFilter }) .truncated "resource query is truncated")

/-- A resource as the wire carries it, with what is left of it when that could be computed. -/
structure ResourceEntry where
  ref : ResourceRef := {}
  eligibility : Eligibility
  availability : Availability
  capacityKnown : Bool := false
  capacity : UInt64 := 0
  obligated : UInt64 := 0
  committed : UInt64 := 0
  available : UInt64 := 0
  availableKnown : Bool := false
  availableCode : StatusCode := .ok
  maintenance : Bool := false
deriving DecidableEq, Repr

def ResourceEntry.encode (message : ResourceEntry) (writer : ByteWriter) : Result ByteWriter :=
  finish (((((((((((putRef writer message.ref).u8 message.eligibility.code).u8 message.availability.code).boolean
    message.capacityKnown).u64 message.capacity).u64 message.obligated).u64 message.committed).u64
    message.available).boolean message.availableKnown).u16 message.availableCode.value).boolean message.maintenance)

def ResourceEntry.decode : Decoding ResourceEntry :=
  expect (do
    let ref ← getRef
    let eligibility ← u8
    let availability ← u8
    let capacityKnown ← boolean
    let capacity ← u64
    let obligated ← u64
    let committed ← u64
    let available ← u64
    let availableKnown ← boolean
    let availableCode ← u16
    let maintenance ← boolean
    pure { ref, capacityKnown, capacity, obligated, committed, available, availableKnown, maintenance,
           eligibility := .ofCode eligibility, availability := .ofCode availability,
           availableCode := .ofValue availableCode }) .truncated "resource entry is truncated"

/-- The three listings share one layout: a code, whether the list was cut, the entries and a text. -/
structure Listing (α : Type) where
  code : StatusCode := .ok
  entries : List α := []
  truncated : Bool := false
  detail : Text := []
deriving DecidableEq, Repr

def Listing.encode (entry : α → ByteWriter → Result ByteWriter) (message : Listing α) (writer : ByteWriter) :
    Result ByteWriter := do
  let writer := (writer.u16 message.code.value).boolean message.truncated
  let writer ← putEach entry message.entries (putCount writer message.entries)
  finish (putDetail writer message.detail)

def Listing.decode (maxCount : Nat) (cut overfull : String) (entry : Decoding α) : Decoding (Listing α) :=
  whole (do
    let code ← expect u16 .truncated cut
    let truncated ← expect boolean .truncated cut
    let entries ← getEach maxCount overfull entry
    let detail ← expect getDetail .truncated cut
    pure { entries, truncated, detail, code := .ofValue code })

abbrev ResourcesResponse := Listing ResourceEntry

def ResourcesResponse.encode (message : ResourcesResponse) (writer : ByteWriter) : Result ByteWriter :=
  Listing.encode ResourceEntry.encode message writer

def ResourcesResponse.decode : Decoding ResourcesResponse :=
  Listing.decode kLimits.maxResources "resources response is truncated" "resource list exceeds its bound"
    ResourceEntry.decode

structure PathEntry where
  id : UInt64 := 0
  startPort : UInt64 := 0
  endPort : UInt64 := 0
  hops : UInt32 := 0
  bottleneck : UInt64 := 0
  bottleneckKnown : Bool := false
  eligibility : Eligibility
deriving DecidableEq, Repr

def PathEntry.encode (message : PathEntry) (writer : ByteWriter) : Result ByteWriter :=
  finish (((((((writer.u64 message.id).u64 message.startPort).u64 message.endPort).u32 message.hops).u64
    message.bottleneck).boolean message.bottleneckKnown).u8 message.eligibility.code)

def PathEntry.decode : Decoding PathEntry :=
  expect (do
    let id ← u64
    let startPort ← u64
    let endPort ← u64
    let hops ← u32
    let bottleneck ← u64
    let bottleneckKnown ← boolean
    let eligibility ← u8
    pure { id, startPort, endPort, hops, bottleneck, bottleneckKnown, eligibility := .ofCode eligibility })
    .truncated "path entry is truncated"

abbrev PathsResponse := Listing PathEntry

def PathsResponse.encode (message : PathsResponse) (writer : ByteWriter) : Result ByteWriter :=
  Listing.encode PathEntry.encode message writer

def PathsResponse.decode : Decoding PathsResponse :=
  Listing.decode kLimits.maxPaths "paths response is truncated" "path list exceeds its bound" PathEntry.decode

abbrev GrantsResponse := Listing GrantSummary

def GrantsResponse.encode (message : GrantsResponse) (writer : ByteWriter) : Result ByteWriter :=
  Listing.encode GrantSummary.encode message writer

def GrantsResponse.decode : Decoding GrantsResponse :=
  Listing.decode kLimits.maxGrants "grants response is truncated" "grant list exceeds its bound" GrantSummary.decode

/-! ### Control -/

structure LifecycleRequest where
  target : LifecycleState := .active
deriving DecidableEq, Repr

def LifecycleRequest.encode (message : LifecycleRequest) (writer : ByteWriter) : Result ByteWriter :=
  finish (writer.u8 message.target.code)

def LifecycleRequest.decode : Decoding LifecycleRequest :=
  whole (do
    let target ← expect u8 .truncated "lifecycle request is truncated"
    require (1 ≤ target ∧ target ≤ 7) .outOfRange "lifecycle request names an unknown state"
    pure { target := .ofCode target })

def LifecycleResponse.encode (message : LifecycleResponse) (writer : ByteWriter) : Result ByteWriter :=
  finish (putDetail ((writer.u16 message.code.value).u8 message.lifecycle.code) message.detail)

def LifecycleResponse.decode : Decoding LifecycleResponse :=
  whole (expect (do
    let code ← u16
    let lifecycle ← u8
    let detail ← getDetail
    pure { detail, code := .ofValue code, lifecycle := .ofCode lifecycle })
    .truncated "lifecycle response is truncated")

structure StatsResponse where
  code : StatusCode := .ok
  uptimeMs : UInt64 := 0
  evidenceRecords : UInt64 := 0
  evidenceSources : UInt64 := 0
  evidenceConflicts : UInt64 := 0
  evidenceSuperseded : UInt64 := 0
  logRecords : UInt64 := 0
  logBytes : UInt64 := 0
  checkpoints : UInt64 := 0
  requestsServed : UInt64 := 0
  connectionsAccepted : UInt64 := 0
  connectionsRejected : UInt64 := 0
  framesRejected : UInt64 := 0
  bytesSent : UInt64 := 0
  bytesReceived : UInt64 := 0
  composes : UInt64 := 0
  grantsIssued : UInt64 := 0
  grantsRefused : UInt64 := 0
  grantsFenced : UInt64 := 0
  detail : Text := []
deriving DecidableEq, Repr

def StatsResponse.encode (message : StatsResponse) (writer : ByteWriter) : Result ByteWriter :=
  finish (putDetail (((((((((((((((((((writer.u16 message.code.value).u64 message.uptimeMs).u64
    message.evidenceRecords).u64 message.evidenceSources).u64 message.evidenceConflicts).u64
    message.evidenceSuperseded).u64 message.logRecords).u64 message.logBytes).u64 message.checkpoints).u64
    message.requestsServed).u64 message.connectionsAccepted).u64 message.connectionsRejected).u64
    message.framesRejected).u64 message.bytesSent).u64 message.bytesReceived).u64 message.composes).u64
    message.grantsIssued).u64 message.grantsRefused).u64 message.grantsFenced) message.detail)

def StatsResponse.decode : Decoding StatsResponse :=
  whole (expect (do
    let code ← u16
    let uptimeMs ← u64
    let evidenceRecords ← u64
    let evidenceSources ← u64
    let evidenceConflicts ← u64
    let evidenceSuperseded ← u64
    let logRecords ← u64
    let logBytes ← u64
    let checkpoints ← u64
    let requestsServed ← u64
    let connectionsAccepted ← u64
    let connectionsRejected ← u64
    let framesRejected ← u64
    let bytesSent ← u64
    let bytesReceived ← u64
    let composes ← u64
    let grantsIssued ← u64
    let grantsRefused ← u64
    let grantsFenced ← u64
    let detail ← getDetail
    pure { uptimeMs, evidenceRecords, evidenceSources, evidenceConflicts, evidenceSuperseded, logRecords, logBytes,
           checkpoints, requestsServed, connectionsAccepted, connectionsRejected, framesRejected, bytesSent,
           bytesReceived, composes, grantsIssued, grantsRefused, grantsFenced, detail, code := .ofValue code })
    .truncated "stats response is truncated")

def AckResponse.encode (message : AckResponse) (writer : ByteWriter) : Result ByteWriter :=
  finish (putDetail (writer.u16 message.code.value) message.detail)

def AckResponse.decode : Decoding AckResponse :=
  whole (expect (do
    let code ← u16
    let detail ← getDetail
    pure { detail, code := .ofValue code }) .truncated "acknowledgement is truncated")

end RackFabric
