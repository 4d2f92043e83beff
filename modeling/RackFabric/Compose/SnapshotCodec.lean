import RackFabric.Compose.SnapshotDecoding

/-!
The snapshot encoding is canonical: the decoder accepts exactly the encodings of the snapshots within its bounds.
-/

namespace RackFabric

open Foundation ByteReader ByteWriter

/-- A text of the snapshot that both sides accept. -/
abbrev ShortText (maxLen : Nat) (value : Text) : Prop :=
  isValidUtf8 value = true ∧ value.length ≤ maxLen

def ownerRefBytes (owner : OwnerRef) : List UInt8 :=
  Blake2s256.le64 owner.device ++ Blake2s256.le64 owner.incarnation

theorem exact_ownerRef : Exact decodeOwnerRef ownerRefBytes fun _ => True := by
  apply Exact.start
  refine Exact.field OwnerRef.device exact_u64 fun device => ?_
  refine Exact.lastField OwnerRef.incarnation _ exact_u64 ?_
  rintro incarnation ⟨⟩
  simp only [OwnerRef.mk.injEq]
  grind

def deviceRecordBytes (device : DeviceRecord) : List UInt8 :=
  Blake2s256.le64 device.id ++ ([device.role.code] ++ (Blake2s256.le64 device.incarnation ++ (
    Blake2s256.le64 device.capacity ++ ([if device.capacityKnown then 1 else 0] ++ (
    [device.eligibility.code] ++ [device.availability.code])))))

theorem exact_deviceRecord : Exact decodeDeviceRecord deviceRecordBytes fun _ => True := by
  apply Exact.start
  refine Exact.field DeviceRecord.id exact_u64 fun id => ?_
  refine Exact.field (fun device : DeviceRecord => device.role.code) exact_u8 fun role => ?_
  refine Exact.field DeviceRecord.incarnation exact_u64 fun incarnation => ?_
  refine Exact.field DeviceRecord.capacity exact_u64 fun capacity => ?_
  refine Exact.field DeviceRecord.capacityKnown exact_boolean fun capacityKnown => ?_
  refine Exact.field (fun device : DeviceRecord => device.eligibility.code) exact_u8 fun eligibility => ?_
  refine Exact.lastField (fun device : DeviceRecord => device.availability.code) _ exact_u8 ?_
  rintro availability ⟨⟩
  simp only [DeviceRecord.mk.injEq, DeviceRole.code_eq_iff, Eligibility.code_eq_iff, Availability.code_eq_iff]
  grind

def portRecordBytes (port : PortRecord) : List UInt8 :=
  Blake2s256.le64 port.id ++ (Blake2s256.le64 port.device ++ (le16 port.index ++ ([port.role.code] ++ (
    Blake2s256.le64 port.capacity ++ ([if port.capacityKnown then 1 else 0] ++ ([port.availability.code] ++ (
    [port.admin.code] ++ [port.eligibility.code])))))))

theorem exact_portRecord : Exact decodePortRecord portRecordBytes fun _ => True := by
  apply Exact.start
  refine Exact.field PortRecord.id exact_u64 fun id => ?_
  refine Exact.field PortRecord.device exact_u64 fun device => ?_
  refine Exact.field PortRecord.index exact_u16 fun index => ?_
  refine Exact.field (fun port : PortRecord => port.role.code) exact_u8 fun role => ?_
  refine Exact.field PortRecord.capacity exact_u64 fun capacity => ?_
  refine Exact.field PortRecord.capacityKnown exact_boolean fun capacityKnown => ?_
  refine Exact.field (fun port : PortRecord => port.availability.code) exact_u8 fun availability => ?_
  refine Exact.field (fun port : PortRecord => port.admin.code) exact_u8 fun admin => ?_
  refine Exact.lastField (fun port : PortRecord => port.eligibility.code) _ exact_u8 ?_
  rintro eligibility ⟨⟩
  simp only [PortRecord.mk.injEq, PortRole.code_eq_iff, Availability.code_eq_iff, AdminState.code_eq_iff,
    Eligibility.code_eq_iff]
  grind

def linkRecordBytes (link : LinkRecord) : List UInt8 :=
  Blake2s256.le64 link.id ++ (Blake2s256.le64 link.portA ++ (Blake2s256.le64 link.portB ++ (
    [link.kind.code] ++ (Blake2s256.le64 link.capacity ++ ([if link.capacityKnown then 1 else 0] ++ (
    [link.availability.code] ++ [link.eligibility.code]))))))

theorem exact_linkRecord : Exact decodeLinkRecord linkRecordBytes fun _ => True := by
  apply Exact.start
  refine Exact.field LinkRecord.id exact_u64 fun id => ?_
  refine Exact.field LinkRecord.portA exact_u64 fun portA => ?_
  refine Exact.field LinkRecord.portB exact_u64 fun portB => ?_
  refine Exact.field (fun link : LinkRecord => link.kind.code) exact_u8 fun kind => ?_
  refine Exact.field LinkRecord.capacity exact_u64 fun capacity => ?_
  refine Exact.field LinkRecord.capacityKnown exact_boolean fun capacityKnown => ?_
  refine Exact.field (fun link : LinkRecord => link.availability.code) exact_u8 fun availability => ?_
  refine Exact.lastField (fun link : LinkRecord => link.eligibility.code) _ exact_u8 ?_
  rintro eligibility ⟨⟩
  simp only [LinkRecord.mk.injEq, LinkKind.code_eq_iff, Availability.code_eq_iff, Eligibility.code_eq_iff]
  grind

def attachmentRecordBytes (attachment : AttachmentRecord) : List UInt8 :=
  Blake2s256.le64 attachment.id ++ (Blake2s256.le64 attachment.device ++ (Blake2s256.le64 attachment.port ++ (
    blobBytes attachment.hostKey ++ [attachment.eligibility.code])))

theorem exact_attachmentRecord :
    Exact decodeAttachmentRecord attachmentRecordBytes fun attachment => ShortText kMaxTextField attachment.hostKey := by
  apply Exact.startPart
  refine Exact.field AttachmentRecord.id exact_u64 fun id => ?_
  refine Exact.field AttachmentRecord.device exact_u64 fun device => ?_
  refine Exact.field AttachmentRecord.port exact_u64 fun port => ?_
  refine Exact.part AttachmentRecord.hostKey (exact_text (by decide)) fun hostKey => ?_
  refine Exact.lastField (fun attachment : AttachmentRecord => attachment.eligibility.code) _ exact_u8 ?_
  rintro eligibility ⟨⟩
  simp only [AttachmentRecord.mk.injEq, Eligibility.code_eq_iff]
  grind

def maintenanceRecordBytes (record : MaintenanceRecord) : List UInt8 :=
  [record.action.code] ++ ([record.target.kind.code] ++ (Blake2s256.le64 record.target.id ++ (
    Blake2s256.le64 record.source ++ (Blake2s256.le64 record.sequence ++ blobBytes record.reason))))

theorem exact_maintenanceRecord :
    Exact decodeMaintenanceRecord maintenanceRecordBytes fun record => ShortText kMaxTextField record.reason := by
  apply Exact.start
  refine Exact.field (fun record : MaintenanceRecord => record.action.code) exact_u8 fun action => ?_
  refine Exact.field (fun record : MaintenanceRecord => record.target.kind.code) exact_u8 fun targetKind => ?_
  refine Exact.field (fun record : MaintenanceRecord => record.target.id) exact_u64 fun targetId => ?_
  refine Exact.field MaintenanceRecord.source exact_u64 fun source => ?_
  refine Exact.field MaintenanceRecord.sequence exact_u64 fun sequence => ?_
  refine Exact.lastPart MaintenanceRecord.reason _ (exact_text (by decide)) ?_
  rintro reason ⟨_, ⟨_, _⟩, _, _, _⟩
  simp only [MaintenanceRecord.mk.injEq, ResourceRef.mk.injEq, MaintenanceKind.code_eq_iff,
    ResourceKind.code_eq_iff]
  grind

def obligationRecordBytes (record : ObligationRecord) : List UInt8 :=
  Blake2s256.le64 record.id ++ ([record.target.kind.code] ++ (Blake2s256.le64 record.target.id ++ (
    Blake2s256.le64 record.capacity ++ (Blake2s256.le64 record.holder ++ (Blake2s256.le64 record.source ++
    blobBytes record.authority)))))

theorem exact_obligationRecord :
    Exact decodeObligationRecord obligationRecordBytes fun record => ShortText kMaxTextField record.authority := by
  apply Exact.start
  refine Exact.field ObligationRecord.id exact_u64 fun id => ?_
  refine Exact.field (fun record : ObligationRecord => record.target.kind.code) exact_u8 fun targetKind => ?_
  refine Exact.field (fun record : ObligationRecord => record.target.id) exact_u64 fun targetId => ?_
  refine Exact.field ObligationRecord.capacity exact_u64 fun capacity => ?_
  refine Exact.field ObligationRecord.holder exact_u64 fun holder => ?_
  refine Exact.field ObligationRecord.source exact_u64 fun source => ?_
  refine Exact.lastPart ObligationRecord.authority _ (exact_text (by decide)) ?_
  rintro authority ⟨_, ⟨_, _⟩, _, _, _, _⟩
  simp only [ObligationRecord.mk.injEq, ResourceRef.mk.injEq, ResourceKind.code_eq_iff]
  grind

def diagnosticBytes (diagnostic : Diagnostic) : List UInt8 :=
  [diagnostic.kind.code] ++ ([diagnostic.subjectKind.code] ++ (Blake2s256.le64 diagnostic.subjectId ++ (
    Blake2s256.le64 diagnostic.source ++ blobBytes diagnostic.detail)))

theorem exact_diagnostic :
    Exact decodeDiagnostic diagnosticBytes fun diagnostic => ShortText kMaxDiagnosticDetail diagnostic.detail := by
  apply Exact.start
  refine Exact.field (fun diagnostic : Diagnostic => diagnostic.kind.code) exact_u8 fun kind => ?_
  refine Exact.field (fun diagnostic : Diagnostic => diagnostic.subjectKind.code) exact_u8 fun subjectKind => ?_
  refine Exact.field Diagnostic.subjectId exact_u64 fun subjectId => ?_
  refine Exact.field Diagnostic.source exact_u64 fun source => ?_
  refine Exact.lastPart Diagnostic.detail _ (exact_text (by decide)) ?_
  rintro detail ⟨⟩
  simp only [Diagnostic.mk.injEq, DiagnosticKind.code_eq_iff, EvidenceKind.code_eq_iff]
  grind

def capacityLedgerBytes (capacity : CapacityLedger) : List UInt8 :=
  Blake2s256.le64 capacity.total ++ (Blake2s256.le64 capacity.unavailable ++ (
    Blake2s256.le64 capacity.usable ++ (Blake2s256.le64 capacity.obligated ++ (
    Blake2s256.le64 capacity.headroomFloor ++ (Blake2s256.le64 capacity.uncommitted ++
    Blake2s256.le64 capacity.deficit)))))

theorem exact_capacityLedger : Exact decodeCapacityLedger capacityLedgerBytes fun _ => True := by
  apply Exact.start
  refine Exact.field CapacityLedger.total exact_u64 fun total => ?_
  refine Exact.field CapacityLedger.unavailable exact_u64 fun unavailable => ?_
  refine Exact.field CapacityLedger.usable exact_u64 fun usable => ?_
  refine Exact.field CapacityLedger.obligated exact_u64 fun obligated => ?_
  refine Exact.field CapacityLedger.headroomFloor exact_u64 fun headroomFloor => ?_
  refine Exact.field CapacityLedger.uncommitted exact_u64 fun uncommitted => ?_
  refine Exact.lastField CapacityLedger.deficit _ exact_u64 ?_
  rintro deficit ⟨⟩
  simp only [CapacityLedger.mk.injEq]
  grind

def resourceStateBytes (state : ResourceState) : List UInt8 :=
  [state.ref.kind.code] ++ (Blake2s256.le64 state.ref.id ++ ([state.eligibility.code] ++
    ([state.availability.code] ++ ([if state.capacityKnown then 1 else 0] ++ (Blake2s256.le64 state.capacity ++
      (Blake2s256.le64 state.obligated ++ ([if state.maintenance then 1 else 0] ++
        listBytes ownerRefBytes state.owners)))))))

theorem exact_resource {maxOwners : Nat} (counted : maxOwners < 2 ^ 32) :
    Exact (decodeResource maxOwners) resourceStateBytes fun state => state.owners.length ≤ maxOwners := by
  apply Exact.start
  refine Exact.field (fun state : ResourceState => state.ref.kind.code) exact_u8 fun kind => ?_
  refine Exact.field (fun state : ResourceState => state.ref.id) exact_u64 fun id => ?_
  refine Exact.field (fun state : ResourceState => state.eligibility.code) exact_u8 fun eligibility => ?_
  refine Exact.field (fun state : ResourceState => state.availability.code) exact_u8 fun availability => ?_
  refine Exact.field ResourceState.capacityKnown exact_boolean fun capacityKnown => ?_
  refine Exact.field ResourceState.capacity exact_u64 fun capacity => ?_
  refine Exact.field ResourceState.obligated exact_u64 fun obligated => ?_
  refine Exact.field ResourceState.maintenance exact_boolean fun maintenance => ?_
  refine Exact.lastPart ResourceState.owners _ (exact_ownerRef.countedAll (exact_count counted)) ?_
  rintro owners ⟨⟨_, _⟩, _, _, _, _, _, _, _⟩
  simp only [ResourceState.mk.injEq, ResourceRef.mk.injEq, ResourceKind.code_eq_iff, Eligibility.code_eq_iff,
    Availability.code_eq_iff]
  grind

theorem exact_section {α : Type} {element : Decoding α} {items : α → List UInt8} {fits : α → Prop} {maxCount : Nat}
    (exact_ : Exact element items fits) (overfull : String) (counted : maxCount < 2 ^ 32) :
    Exact (decodeSection maxCount overfull element) (listBytes items)
      fun values => values.length ≤ maxCount ∧ ∀ value ∈ values, fits value :=
  exact_.counted (exact_expect (exact_count counted) _ _)

theorem exact_sectionAll {α : Type} {element : Decoding α} {items : α → List UInt8} {maxCount : Nat}
    (exact_ : Exact element items fun _ => True) (overfull : String) (counted : maxCount < 2 ^ 32) :
    Exact (decodeSection maxCount overfull element) (listBytes items) fun values => values.length ≤ maxCount :=
  exact_.countedAll (exact_expect (exact_count counted) _ _)

def pathRecordBytes (path : PathRecord) : List UInt8 :=
  Blake2s256.le64 path.id ++ (Blake2s256.le64 path.startPort ++ (Blake2s256.le64 path.endPort ++
    (listBytes Blake2s256.le64 path.links ++ (Blake2s256.le64 path.bottleneck ++
      ([if path.bottleneckKnown then 1 else 0] ++ [path.eligibility.code])))))

theorem exact_pathRecord {maxLinks : Nat} (counted : maxLinks < 2 ^ 32) :
    Exact (decodePathRecord maxLinks) pathRecordBytes fun path => path.links.length ≤ maxLinks := by
  apply Exact.startPart
  refine Exact.field PathRecord.id (exact_expect exact_u64 _ _) fun id => ?_
  refine Exact.field PathRecord.startPort (exact_expect exact_u64 _ _) fun startPort => ?_
  refine Exact.field PathRecord.endPort (exact_expect exact_u64 _ _) fun endPort => ?_
  refine Exact.part PathRecord.links (exact_sectionAll (exact_expect exact_u64 _ _) _ counted) fun links => ?_
  refine Exact.field PathRecord.bottleneck (exact_expect exact_u64 _ _) fun bottleneck => ?_
  refine Exact.field PathRecord.bottleneckKnown (exact_expect exact_boolean _ _) fun bottleneckKnown => ?_
  refine Exact.lastField (fun path : PathRecord => path.eligibility.code) _ (exact_expect exact_u8 _ _) ?_
  rintro eligibility ⟨⟩
  simp only [PathRecord.mk.injEq, Eligibility.code_eq_iff]
  grind

/-! ### The whole snapshot -/

def snapshotBytes (data : SnapshotData) : List UInt8 :=
  Blake2s256.le64 data.rack ++ (Blake2s256.le64 data.generation ++ (Blake2s256.le64 data.epoch ++
    ([data.lifecycle.code] ++ (data.evidenceDigest.bytes ++ (data.memberSetDigest.bytes ++
      (capacityLedgerBytes data.capacity ++ (listBytes deviceRecordBytes data.devices ++
        (listBytes portRecordBytes data.ports ++ (listBytes linkRecordBytes data.links ++
          (listBytes attachmentRecordBytes data.attachments ++ (listBytes pathRecordBytes data.paths ++
            (listBytes maintenanceRecordBytes data.maintenance ++
              (listBytes obligationRecordBytes data.obligations ++ (listBytes resourceStateBytes data.resources ++
                listBytes diagnosticBytes data.diagnostics))))))))))))))

/-- Every section is within its bound and every text is acceptable. -/
def SnapshotData.Within (bounds : SnapshotBounds) (data : SnapshotData) : Prop :=
  data.devices.length ≤ bounds.devices ∧ data.ports.length ≤ bounds.ports ∧ data.links.length ≤ bounds.links ∧
  (data.attachments.length ≤ bounds.attachments ∧
    ∀ attachment ∈ data.attachments, ShortText kMaxTextField attachment.hostKey) ∧
  (data.paths.length ≤ bounds.paths ∧ ∀ path ∈ data.paths, path.links.length ≤ bounds.pathLinks) ∧
  (data.maintenance.length ≤ bounds.maintenance ∧
    ∀ record ∈ data.maintenance, ShortText kMaxTextField record.reason) ∧
  (data.obligations.length ≤ bounds.obligations ∧
    ∀ record ∈ data.obligations, ShortText kMaxTextField record.authority) ∧
  (data.resources.length ≤ bounds.resources ∧ ∀ state ∈ data.resources, state.owners.length ≤ bounds.owners) ∧
  (data.diagnostics.length ≤ bounds.diagnostics ∧
    ∀ diagnostic ∈ data.diagnostics, ShortText kMaxDiagnosticDetail diagnostic.detail)

/-- Bounds that a count on the wire can express. -/
structure SnapshotBounds.Countable (bounds : SnapshotBounds) : Prop where
  devices : bounds.devices < 2 ^ 32
  ports : bounds.ports < 2 ^ 32
  links : bounds.links < 2 ^ 32
  attachments : bounds.attachments < 2 ^ 32
  paths : bounds.paths < 2 ^ 32
  pathLinks : bounds.pathLinks < 2 ^ 32
  maintenance : bounds.maintenance < 2 ^ 32
  obligations : bounds.obligations < 2 ^ 32
  resources : bounds.resources < 2 ^ 32
  owners : bounds.owners < 2 ^ 32
  diagnostics : bounds.diagnostics < 2 ^ 32

theorem exact_sections {bounds : SnapshotBounds} (countable : bounds.Countable) :
    Exact (decodeSections bounds) snapshotBytes (SnapshotData.Within bounds) := by
  apply Exact.start
  refine Exact.field SnapshotData.rack (exact_expect exact_u64 _ _) fun rack => ?_
  refine Exact.field SnapshotData.generation (exact_expect exact_u64 _ _) fun generation => ?_
  refine Exact.field SnapshotData.epoch (exact_expect exact_u64 _ _) fun epoch => ?_
  refine Exact.field (fun data : SnapshotData => data.lifecycle.code) (exact_expect exact_u8 _ _) fun lifecycle => ?_
  refine Exact.field SnapshotData.evidenceDigest (exact_expect exact_digest _ _) fun evidenceDigest => ?_
  refine Exact.field SnapshotData.memberSetDigest (exact_expect exact_digest _ _) fun memberSetDigest => ?_
  refine Exact.field SnapshotData.capacity (exact_expect exact_capacityLedger _ _) fun capacity => ?_
  refine Exact.part SnapshotData.devices
    (exact_sectionAll (exact_expect exact_deviceRecord _ _) _ countable.devices) fun devices => ?_
  refine Exact.part SnapshotData.ports
    (exact_sectionAll (exact_expect exact_portRecord _ _) _ countable.ports) fun ports => ?_
  refine Exact.part SnapshotData.links
    (exact_sectionAll (exact_expect exact_linkRecord _ _) _ countable.links) fun links => ?_
  refine Exact.part SnapshotData.attachments
    (exact_section (exact_expect exact_attachmentRecord _ _) _ countable.attachments) fun attachments => ?_
  refine Exact.part SnapshotData.paths
    (exact_section (exact_pathRecord countable.pathLinks) _ countable.paths) fun paths => ?_
  refine Exact.part SnapshotData.maintenance
    (exact_section (exact_expect exact_maintenanceRecord _ _) _ countable.maintenance) fun maintenance => ?_
  refine Exact.part SnapshotData.obligations
    (exact_section (exact_expect exact_obligationRecord _ _) _ countable.obligations) fun obligations => ?_
  refine Exact.part SnapshotData.resources
    (exact_section (exact_expect (exact_resource countable.owners) _ _) _ countable.resources) fun resources => ?_
  refine Exact.lastPart SnapshotData.diagnostics _
    (exact_section (exact_expect exact_diagnostic _ _) _ countable.diagnostics) ?_
  rintro diagnostics ⟨⟩
  simp only [SnapshotData.mk.injEq, LifecycleState.code_eq_iff]
  grind

theorem decodeBounds_countable : decodeBounds.Countable := by
  constructor <;> decide

/-- The decoder accepts a buffer exactly when it is the encoding of a snapshot within its bounds that closes. -/
theorem decodeSnapshot_ok_iff {bytes : List UInt8} {data : SnapshotData} :
    decodeSnapshot bytes = .ok data ↔
      data.Within decodeBounds ∧ data.capacity.closes = true ∧ bytes = snapshotBytes data := by
  have sections := exact_sections decodeBounds_countable
  constructor
  · intro decoded
    unfold decodeSnapshot at decoded
    split at decoded
    · cases decoded
    · rename_i snapshot rest read
      split at decoded
      · cases decoded
      · rename_i ended
        split at decoded
        · cases decoded
        · rename_i closes
          cases decoded
          obtain ⟨within, rfl⟩ := sections.returns_iff.mp read
          rw [ne_eq, Decidable.not_not] at ended
          subst ended
          exact ⟨within, by simpa using closes, List.append_nil _⟩
  · rintro ⟨within, closes, rfl⟩
    have read := sections.reads data within []
    rw [List.append_nil] at read
    unfold decodeSnapshot
    rw [read]
    simp [pure, Except.pure, closes]

end RackFabric
