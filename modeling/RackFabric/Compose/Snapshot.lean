import RackFabric.Model.Evidence

/-!
The composed view of one rack at one generation, its canonical encoding and its lookups.
-/

namespace RackFabric

structure ComposeLimits where
  maxDevices : Nat := 4096
  maxPorts : Nat := 16384
  maxLinks : Nat := 16384
  maxAttachments : Nat := 16384
  maxPaths : Nat := 4096
  maxDiagnostics : Nat := 4096
  maxObligations : Nat := 8192
  maxMaintenance : Nat := 8192
  maxEncodedSnapshot : Nat := 16777216
deriving DecidableEq, Repr

def defaultComposeLimits : ComposeLimits := {}

/-- One device that owns, or participates in, a resource. -/
structure OwnerRef where
  device : UInt64
  incarnation : UInt64
deriving DecidableEq, Repr

def OwnerRef.less (a b : OwnerRef) : Bool :=
  if a.device ≠ b.device then a.device < b.device else a.incarnation < b.incarnation

def ResourceRef.less (a b : ResourceRef) : Bool :=
  if a.kind ≠ b.kind then a.kind.code < b.kind.code else a.id < b.id

/-- The authoritative view of a single resource. -/
structure ResourceState where
  ref : ResourceRef
  eligibility : Eligibility
  availability : Availability
  capacityKnown : Bool
  capacity : UInt64
  obligated : UInt64
  maintenance : Bool
  owners : List OwnerRef
deriving DecidableEq, Repr

structure DeviceRecord where
  id : UInt64
  role : DeviceRole := .unknown
  incarnation : UInt64
  capacity : UInt64 := 0
  capacityKnown : Bool := false
  eligibility : Eligibility := .unknown
  availability : Availability := .unknown
deriving DecidableEq, Repr

structure PortRecord where
  id : UInt64
  device : UInt64
  index : UInt16
  role : PortRole
  capacity : UInt64
  capacityKnown : Bool
  availability : Availability
  admin : AdminState
  eligibility : Eligibility := .unknown
deriving DecidableEq, Repr

structure LinkRecord where
  id : UInt64
  portA : UInt64
  portB : UInt64
  kind : LinkKind
  capacity : UInt64
  capacityKnown : Bool
  availability : Availability
  eligibility : Eligibility := .unknown
deriving DecidableEq, Repr

structure AttachmentRecord where
  id : UInt64
  device : UInt64
  port : UInt64
  hostKey : Text
  eligibility : Eligibility := .unknown
deriving DecidableEq, Repr

/-- A simple, bounded chain of links between two ports of the rack. -/
structure PathRecord where
  id : UInt64
  startPort : UInt64
  endPort : UInt64
  links : List UInt64
  bottleneck : UInt64
  bottleneckKnown : Bool
  eligibility : Eligibility
deriving DecidableEq, Repr

structure MaintenanceRecord where
  action : MaintenanceKind
  target : ResourceRef
  reason : Text
  source : UInt64
  sequence : UInt64
deriving DecidableEq, Repr

structure ObligationRecord where
  id : UInt64
  target : ResourceRef
  capacity : UInt64
  holder : UInt64
  authority : Text
  source : UInt64
deriving DecidableEq, Repr

/-- Rack capacity accounting. -/
structure CapacityLedger where
  total : UInt64 := 0
  unavailable : UInt64 := 0
  usable : UInt64 := 0
  obligated : UInt64 := 0
  headroomFloor : UInt64 := 0
  uncommitted : UInt64 := 0
  deficit : UInt64 := 0
deriving DecidableEq, Repr

/-- `total = unavailable + usable` and `usable + deficit = obligated + headroomFloor + uncommitted`, with no
addition overflowing. -/
def CapacityLedger.closes (ledger : CapacityLedger) : Bool :=
  match checkedAddU64 ledger.unavailable ledger.usable with
  | none => false
  | some lhs =>
    if lhs ≠ ledger.total then false
    else
      match checkedAddU64 ledger.obligated ledger.headroomFloor with
      | none => false
      | some claimed =>
        match checkedAddU64 claimed ledger.uncommitted with
        | none => false
        | some rhs => checkedAddU64 ledger.usable ledger.deficit == some rhs

/-- Everything the runtime knows about the rack at one generation. -/
structure SnapshotData where
  rack : UInt64 := 0
  generation : UInt64 := 0
  epoch : UInt64 := 0
  lifecycle : LifecycleState := .assembling
  evidenceDigest : Digest := .zero
  memberSetDigest : Digest := .zero
  capacity : CapacityLedger := {}
  devices : List DeviceRecord := []
  ports : List PortRecord := []
  links : List LinkRecord := []
  attachments : List AttachmentRecord := []
  paths : List PathRecord := []
  maintenance : List MaintenanceRecord := []
  obligations : List ObligationRecord := []
  resources : List ResourceState := []
  diagnostics : List Diagnostic := []
deriving DecidableEq, Repr

def memberSetDigest (devices : List DeviceRecord) : Digest :=
  Blake2s256.final (devices.foldl
    (fun hasher device =>
      Blake2s256.update hasher (Blake2s256.le64 device.id ++ Blake2s256.le64 device.incarnation))
    (Blake2s256.update Blake2s256.reset (text "rnf.members.v1")))

def encodeResource (writer : ByteWriter) (state : ResourceState) : ByteWriter :=
  let writer := writer.u8 state.ref.kind.code
  let writer := writer.u64 state.ref.id
  let writer := writer.u8 state.eligibility.code
  let writer := writer.u8 state.availability.code
  let writer := writer.boolean state.capacityKnown
  let writer := writer.u64 state.capacity
  let writer := writer.u64 state.obligated
  let writer := writer.boolean state.maintenance
  writer.list state.owners fun writer owner => (writer.u64 owner.device).u64 owner.incarnation

def encodeDeviceRecord (writer : ByteWriter) (device : DeviceRecord) : ByteWriter :=
  let writer := writer.u64 device.id
  let writer := writer.u8 device.role.code
  let writer := writer.u64 device.incarnation
  let writer := writer.u64 device.capacity
  let writer := writer.boolean device.capacityKnown
  let writer := writer.u8 device.eligibility.code
  writer.u8 device.availability.code

def encodePortRecord (writer : ByteWriter) (port : PortRecord) : ByteWriter :=
  let writer := writer.u64 port.id
  let writer := writer.u64 port.device
  let writer := writer.u16 port.index
  let writer := writer.u8 port.role.code
  let writer := writer.u64 port.capacity
  let writer := writer.boolean port.capacityKnown
  let writer := writer.u8 port.availability.code
  let writer := writer.u8 port.admin.code
  writer.u8 port.eligibility.code

def encodeLinkRecord (writer : ByteWriter) (link : LinkRecord) : ByteWriter :=
  let writer := writer.u64 link.id
  let writer := writer.u64 link.portA
  let writer := writer.u64 link.portB
  let writer := writer.u8 link.kind.code
  let writer := writer.u64 link.capacity
  let writer := writer.boolean link.capacityKnown
  let writer := writer.u8 link.availability.code
  writer.u8 link.eligibility.code

def encodeAttachmentRecord (writer : ByteWriter) (attachment : AttachmentRecord) : ByteWriter :=
  let writer := writer.u64 attachment.id
  let writer := writer.u64 attachment.device
  let writer := writer.u64 attachment.port
  let writer := writer.text attachment.hostKey kMaxTextField
  writer.u8 attachment.eligibility.code

def encodePathRecord (writer : ByteWriter) (path : PathRecord) : ByteWriter :=
  let writer := writer.u64 path.id
  let writer := writer.u64 path.startPort
  let writer := writer.u64 path.endPort
  let writer := writer.list path.links ByteWriter.u64
  let writer := writer.u64 path.bottleneck
  let writer := writer.boolean path.bottleneckKnown
  writer.u8 path.eligibility.code

def encodeMaintenanceRecord (writer : ByteWriter) (record : MaintenanceRecord) : ByteWriter :=
  let writer := writer.u8 record.action.code
  let writer := writer.u8 record.target.kind.code
  let writer := writer.u64 record.target.id
  let writer := writer.u64 record.source
  let writer := writer.u64 record.sequence
  writer.text record.reason kMaxTextField

def encodeObligationRecord (writer : ByteWriter) (record : ObligationRecord) : ByteWriter :=
  let writer := writer.u64 record.id
  let writer := writer.u8 record.target.kind.code
  let writer := writer.u64 record.target.id
  let writer := writer.u64 record.capacity
  let writer := writer.u64 record.holder
  let writer := writer.u64 record.source
  writer.text record.authority kMaxTextField

def kMaxDiagnosticDetail : Nat := 256

def encodeDiagnostic (writer : ByteWriter) (diagnostic : Diagnostic) : ByteWriter :=
  let writer := writer.u8 diagnostic.kind.code
  let writer := writer.u8 diagnostic.subjectKind.code
  let writer := writer.u64 diagnostic.subjectId
  let writer := writer.u64 diagnostic.source
  writer.text diagnostic.detail kMaxDiagnosticDetail

def encodeCapacityLedger (writer : ByteWriter) (capacity : CapacityLedger) : ByteWriter :=
  let writer := writer.u64 capacity.total
  let writer := writer.u64 capacity.unavailable
  let writer := writer.u64 capacity.usable
  let writer := writer.u64 capacity.obligated
  let writer := writer.u64 capacity.headroomFloor
  let writer := writer.u64 capacity.uncommitted
  writer.u64 capacity.deficit

def encodeSnapshotData (data : SnapshotData) (writer : ByteWriter) : Result ByteWriter :=
  let writer := writer.u64 data.rack
  let writer := writer.u64 data.generation
  let writer := writer.u64 data.epoch
  let writer := writer.u8 data.lifecycle.code
  let writer := writer.digest data.evidenceDigest
  let writer := writer.digest data.memberSetDigest
  let writer := encodeCapacityLedger writer data.capacity
  let writer := writer.list data.devices encodeDeviceRecord
  let writer := writer.list data.ports encodePortRecord
  let writer := writer.list data.links encodeLinkRecord
  let writer := writer.list data.attachments encodeAttachmentRecord
  let writer := writer.list data.paths encodePathRecord
  let writer := writer.list data.maintenance encodeMaintenanceRecord
  let writer := writer.list data.obligations encodeObligationRecord
  let writer := writer.list data.resources encodeResource
  let writer := writer.list data.diagnostics encodeDiagnostic
  if !writer.ok then refuse .resourceExhausted "snapshot encoding exceeded its bound" else .ok writer

def snapshotDigest (data : SnapshotData) : Digest :=
  match encodeSnapshotData data { limit := defaultComposeLimits.maxEncodedSnapshot } with
  | .ok writer => Blake2s256.hash writer.buffer
  | .error status =>
    Blake2s256.final (Blake2s256.updateLe64
      (Blake2s256.update Blake2s256.reset (text "rnf.snapshot.unencodable")) status.code.value.toUInt64)

/-- Handle to a composed snapshot; an empty handle is invalid. -/
structure Snapshot where
  handle : Option SnapshotData := none
  digest : Digest := .zero
deriving DecidableEq, Repr

/-- The halving search of `std::lower_bound`: the suffix from the first element it settles on. -/
def lowerBoundLoop (below : α → Bool) : Nat → List α → Nat → List α
  | 0, first, _ => first
  | fuel + 1, first, len =>
    if len = 0 then first
    else
      match first.drop (len / 2) with
      | [] => first
      | middle :: rest =>
        if below middle then lowerBoundLoop below fuel rest (len - len / 2 - 1)
        else lowerBoundLoop below fuel first (len / 2)

def lowerBound (below : α → Bool) (container : List α) : List α :=
  lowerBoundLoop below (container.length + 1) container container.length

/-- Lookup by binary search; the container is assumed, not checked, to be sorted by the key. -/
def findSorted [DecidableEq κ] (less : κ → κ → Bool) (project : α → κ) (container : List α) (key : κ) :
    Option α :=
  match lowerBound (fun element => less (project element) key) container with
  | [] => none
  | element :: _ => if project element = key then some element else none

theorem mem_of_lowerBoundLoop {below : α → Bool} {element : α} {fuel len : Nat} {first : List α}
    (member : element ∈ lowerBoundLoop below fuel first len) : element ∈ first := by
  induction fuel generalizing first len with
  | zero => exact member
  | succ fuel ih =>
    rw [lowerBoundLoop] at member
    split at member
    · exact member
    · split at member
      · exact member
      · rename_i middle rest half
        split at member
        · have later : element ∈ first.drop (len / 2) := by
            rw [half]
            exact List.mem_cons_of_mem _ (ih member)
          exact List.mem_of_mem_drop later
        · exact ih member

/-- What a search finds is in the container, under the key. -/
theorem findSorted_some [DecidableEq κ] {less : κ → κ → Bool} {project : α → κ} {container : List α} {key : κ}
    {element : α} (found : findSorted less project container key = some element) :
    element ∈ container ∧ project element = key := by
  unfold findSorted at found
  split at found
  · cases found
  · rename_i first rest bound
    split at found
    · rename_i own
      cases found
      exact ⟨mem_of_lowerBoundLoop (by rw [lowerBound] at bound; rw [bound]; simp), own⟩
    · cases found

def idLess (a b : UInt64) : Bool :=
  decide (a < b)

namespace Snapshot

def valid (snapshot : Snapshot) : Bool :=
  snapshot.handle.isSome

def data (snapshot : Snapshot) : SnapshotData :=
  snapshot.handle.getD {}

def generation (snapshot : Snapshot) : UInt64 :=
  snapshot.data.generation

def epoch (snapshot : Snapshot) : UInt64 :=
  snapshot.data.epoch

def lifecycle (snapshot : Snapshot) : LifecycleState :=
  snapshot.data.lifecycle

def find (snapshot : Snapshot) (ref : ResourceRef) : Option ResourceState :=
  findSorted ResourceRef.less ResourceState.ref snapshot.data.resources ref

def findDevice (snapshot : Snapshot) (id : UInt64) : Option DeviceRecord :=
  findSorted idLess DeviceRecord.id snapshot.data.devices id

def findPort (snapshot : Snapshot) (id : UInt64) : Option PortRecord :=
  findSorted idLess PortRecord.id snapshot.data.ports id

def findLink (snapshot : Snapshot) (id : UInt64) : Option LinkRecord :=
  findSorted idLess LinkRecord.id snapshot.data.links id

/-- Paths are searched by id although they are sorted by their endpoints. -/
def findPath (snapshot : Snapshot) (id : UInt64) : Option PathRecord :=
  findSorted idLess PathRecord.id snapshot.data.paths id

def findAttachment (snapshot : Snapshot) (id : UInt64) : Option AttachmentRecord :=
  findSorted idLess AttachmentRecord.id snapshot.data.attachments id

def encode (snapshot : Snapshot) : Result (List UInt8) :=
  match snapshot.handle with
  | none => refuse .invalidArgument "snapshot handle is empty"
  | some data =>
    match encodeSnapshotData data { limit := defaultComposeLimits.maxEncodedSnapshot } with
    | .error status => .error status
    | .ok writer => .ok writer.buffer

end Snapshot

end RackFabric
