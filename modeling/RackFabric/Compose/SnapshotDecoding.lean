import RackFabric.Compose.Snapshot
import RackFabric.Persist.EvidenceCodec
import RackFabric.Core.Writer

/-!
Decoding a snapshot. The sections follow each other in a fixed order, each with its own bound on the number of its
records, and nothing may follow the last one.
-/

namespace RackFabric

open Foundation ByteReader ByteWriter

/-- The most records the decoder accepts of each section. -/
structure SnapshotBounds where
  devices : Nat
  ports : Nat
  links : Nat
  attachments : Nat
  paths : Nat
  pathLinks : Nat
  maintenance : Nat
  obligations : Nat
  resources : Nat
  owners : Nat
  diagnostics : Nat

def kMaxOwnersPerResource : Nat := 64

/-- The bounds of `decode_snapshot`. Attachments are not counted among the resources. -/
def decodeBounds : SnapshotBounds :=
  let limits := defaultComposeLimits
  { devices := limits.maxDevices
    ports := limits.maxPorts
    links := limits.maxLinks
    attachments := limits.maxAttachments
    paths := limits.maxPaths
    pathLinks := limits.maxLinks
    maintenance := limits.maxMaintenance
    obligations := limits.maxObligations
    resources := limits.maxPorts + limits.maxLinks + limits.maxPaths + limits.maxDevices + 4
    owners := kMaxOwnersPerResource
    diagnostics := limits.maxDiagnostics }

def decodeOwnerRef : Reading OwnerRef := do
  let device ← u64
  let incarnation ← u64
  pure { device, incarnation }

def decodeResource (maxOwners : Nat) : Reading ResourceState := do
  let kind ← u8
  let id ← u64
  let eligibility ← u8
  let availability ← u8
  let capacityKnown ← boolean
  let capacity ← u64
  let obligated ← u64
  let maintenance ← boolean
  let owners ← readCounted (ByteReader.count maxOwners) decodeOwnerRef
  pure {
    capacityKnown, capacity, obligated, maintenance, owners
    ref := { kind := .ofCode kind, id }
    eligibility := .ofCode eligibility
    availability := .ofCode availability }

def decodeDeviceRecord : Reading DeviceRecord := do
  let id ← u64
  let role ← u8
  let incarnation ← u64
  let capacity ← u64
  let capacityKnown ← boolean
  let eligibility ← u8
  let availability ← u8
  pure {
    id, incarnation, capacity, capacityKnown
    role := .ofCode role
    eligibility := .ofCode eligibility
    availability := .ofCode availability }

def decodePortRecord : Reading PortRecord := do
  let id ← u64
  let device ← u64
  let index ← u16
  let role ← u8
  let capacity ← u64
  let capacityKnown ← boolean
  let availability ← u8
  let admin ← u8
  let eligibility ← u8
  pure {
    id, device, index, capacity, capacityKnown
    role := .ofCode role
    availability := .ofCode availability
    admin := .ofCode admin
    eligibility := .ofCode eligibility }

def decodeLinkRecord : Reading LinkRecord := do
  let id ← u64
  let portA ← u64
  let portB ← u64
  let kind ← u8
  let capacity ← u64
  let capacityKnown ← boolean
  let availability ← u8
  let eligibility ← u8
  pure {
    id, portA, portB, capacity, capacityKnown
    kind := .ofCode kind
    availability := .ofCode availability
    eligibility := .ofCode eligibility }

def decodeAttachmentRecord : Reading AttachmentRecord := do
  let id ← u64
  let device ← u64
  let port ← u64
  let hostKey ← ByteReader.text kMaxTextField
  let eligibility ← u8
  pure { id, device, port, hostKey, eligibility := .ofCode eligibility }

/-- A count within its bound and then that many records. -/
def decodeSection (maxCount : Nat) (overfull : String) (element : Decoding α) : Decoding (List α) :=
  readCounted (expect (ByteReader.count maxCount) .malformedEncoding overfull) element

def decodePathRecord (maxLinks : Nat) : Decoding PathRecord := do
  let id ← expect u64 .truncated "path record is truncated"
  let startPort ← expect u64 .truncated "path record is truncated"
  let endPort ← expect u64 .truncated "path record is truncated"
  let links ← decodeSection maxLinks "path link count exceeds its bound"
    (expect u64 .truncated "path link list is truncated")
  let bottleneck ← expect u64 .truncated "path record is truncated"
  let bottleneckKnown ← expect boolean .truncated "path record is truncated"
  let eligibility ← expect u8 .truncated "path record is truncated"
  pure { id, startPort, endPort, links, bottleneck, bottleneckKnown, eligibility := .ofCode eligibility }

def decodeMaintenanceRecord : Reading MaintenanceRecord := do
  let action ← u8
  let targetKind ← u8
  let targetId ← u64
  let source ← u64
  let sequence ← u64
  let reason ← ByteReader.text kMaxTextField
  pure {
    source, sequence, reason
    action := .ofCode action
    target := { kind := .ofCode targetKind, id := targetId } }

def decodeObligationRecord : Reading ObligationRecord := do
  let id ← u64
  let targetKind ← u8
  let targetId ← u64
  let capacity ← u64
  let holder ← u64
  let source ← u64
  let authority ← ByteReader.text kMaxTextField
  pure { id, capacity, holder, source, authority, target := { kind := .ofCode targetKind, id := targetId } }

def decodeDiagnostic : Reading Diagnostic := do
  let kind ← u8
  let subjectKind ← u8
  let subjectId ← u64
  let source ← u64
  let detail ← ByteReader.text kMaxDiagnosticDetail
  pure { subjectId, source, detail, kind := .ofCode kind, subjectKind := .ofCode subjectKind }

def decodeCapacityLedger : Reading CapacityLedger := do
  let total ← u64
  let unavailable ← u64
  let usable ← u64
  let obligated ← u64
  let headroomFloor ← u64
  let uncommitted ← u64
  let deficit ← u64
  pure { total, unavailable, usable, obligated, headroomFloor, uncommitted, deficit }

/-- The sections of a snapshot, under given bounds. -/
def decodeSections (bounds : SnapshotBounds) : Decoding SnapshotData := do
  let rack ← expect u64 .truncated "snapshot header is truncated"
  let generation ← expect u64 .truncated "snapshot header is truncated"
  let epoch ← expect u64 .truncated "snapshot header is truncated"
  let lifecycle ← expect u8 .truncated "snapshot header is truncated"
  let evidenceDigest ← expect ByteReader.digest .truncated "snapshot header is truncated"
  let memberSetDigest ← expect ByteReader.digest .truncated "snapshot header is truncated"
  let capacity ← expect decodeCapacityLedger .truncated "capacity ledger is truncated"
  let devices ← decodeSection bounds.devices "device count exceeds its bound"
    (expect decodeDeviceRecord .truncated "device record is truncated")
  let ports ← decodeSection bounds.ports "port count exceeds its bound"
    (expect decodePortRecord .truncated "port record is truncated")
  let links ← decodeSection bounds.links "link count exceeds its bound"
    (expect decodeLinkRecord .truncated "link record is truncated")
  let attachments ← decodeSection bounds.attachments "attachment count exceeds its bound"
    (expect decodeAttachmentRecord .truncated "attachment record is truncated")
  let paths ← decodeSection bounds.paths "path count exceeds its bound" (decodePathRecord bounds.pathLinks)
  let maintenance ← decodeSection bounds.maintenance "maintenance count exceeds its bound"
    (expect decodeMaintenanceRecord .truncated "maintenance record is truncated")
  let obligations ← decodeSection bounds.obligations "obligation count exceeds its bound"
    (expect decodeObligationRecord .truncated "obligation record is truncated")
  let resources ← decodeSection bounds.resources "resource count exceeds its bound"
    (expect (decodeResource bounds.owners) .truncated "resource state is truncated")
  let diagnostics ← decodeSection bounds.diagnostics "diagnostic count exceeds its bound"
    (expect decodeDiagnostic .truncated "diagnostic record is truncated")
  pure {
    rack, generation, epoch, evidenceDigest, memberSetDigest, capacity, devices, ports, links, attachments, paths
    maintenance, obligations, resources, diagnostics
    lifecycle := .ofCode lifecycle }

/-- Decodes a whole buffer: the sections, nothing after them, and a capacity ledger that closes. -/
def decodeSnapshot (data : List UInt8) : Result SnapshotData :=
  match decodeSections decodeBounds data with
  | .error status => .error status
  | .ok (snapshot, rest) =>
    if rest ≠ [] then refuse .malformedEncoding "trailing bytes after snapshot payload"
    else if !snapshot.capacity.closes then refuse .integrityFailure "decoded capacity ledger does not close"
    else .ok snapshot

end RackFabric
