import RackFabric.Compose.Bounds
import RackFabric.Compose.Depth
import RackFabric.Compose.Scope
import RackFabric.Compose.SnapshotCanonical

/-!
Which composed snapshots the decoder takes back. The composer's limits and the decoder's bounds agree on every
section but the resources: the decoder admits few owners a resource, and leaves the attachments out of its count.
-/

namespace RackFabric

open ByteWriter

/-! ### Owners -/

theorem OwnerRef.orders : Orders OwnerRef.less where
  asymm a b less := by
    simp only [OwnerRef.less] at less ⊢
    grind
  trans a b c first second := by
    simp only [OwnerRef.less] at first second ⊢
    grind

theorem OwnerRef.eq_of_not_less (a b : OwnerRef) (first : a.less b = false) (second : b.less a = false) : a = b := by
  obtain ⟨device, incarnation⟩ := a
  obtain ⟨other, later⟩ := b
  simp only [OwnerRef.less] at first second
  grind

theorem nodup_ownersOf (owners : List OwnerRef) : (ownersOf owners).Nodup :=
  nodup_uniqueBy OwnerRef.eq_of_not_less (sortBy_inOrder OwnerRef.orders owners)

/-- The owner that a device record stands for. -/
def DeviceRecord.owner (device : DeviceRecord) : OwnerRef :=
  ⟨device.id, device.incarnation⟩

section Owners

variable {ledger : EvidenceLedger} {config : RackConfig} {request : ComposeInput} {data : SnapshotData}

theorem Composed.nodup_owners (composed : Composed ledger config request data) :
    (data.devices.map DeviceRecord.owner).Nodup := by
  have ids := composeDevices_ids_nodup (gather ledger config request)
  rw [← composed.devices] at ids
  refine List.Nodup.of_map OwnerRef.device ?_
  rw [List.map_map]
  exact ids

theorem mem_ownerOfDevice {devices : List DeviceRecord} {id : UInt64} {owner : OwnerRef}
    (member : owner ∈ ownerOfDevice devices id) : owner ∈ devices.map DeviceRecord.owner := by
  unfold ownerOfDevice at member
  split at member
  · cases member
  · rename_i device found
    rw [List.mem_singleton.mp member]
    exact List.mem_map.mpr ⟨device, (findSorted_some found).1, rfl⟩

theorem mem_ownerOfPort {devices : List DeviceRecord} {ports : List PortRecord} {id : UInt64} {owner : OwnerRef}
    (member : owner ∈ ownerOfPort devices ports id) : owner ∈ devices.map DeviceRecord.owner := by
  unfold ownerOfPort at member
  split at member
  · cases member
  · exact mem_ownerOfDevice member

theorem nodup_ownerOfDevice (devices : List DeviceRecord) (id : UInt64) : (ownerOfDevice devices id).Nodup := by
  unfold ownerOfDevice
  split
  · exact List.nodup_nil
  · simp

/-- The owners of a resource are distinct devices of the snapshot. -/
theorem ResourceInputs.owners_devices {inputs : ResourceInputs} {state : ResourceState}
    (member : state ∈ inputs.resources) :
    state.owners.Nodup ∧ state.owners ⊆ inputs.devices.map DeviceRecord.owner := by
  have ends : ∀ link : LinkRecord, ∀ owner ∈ ownerOfPort inputs.devices inputs.ports link.portA ++
      ownerOfPort inputs.devices inputs.ports link.portB, owner ∈ inputs.devices.map DeviceRecord.owner := by
    intro link owner listed
    rcases List.mem_append.mp listed with first | second
    · exact mem_ownerOfPort first
    · exact mem_ownerOfPort second
  rcases ResourceInputs.mem_resources member with rfl | ⟨device, found, rfl⟩ | ⟨port, found, rfl⟩ |
    ⟨link, found, rfl⟩ | ⟨attachment, found, rfl⟩ | ⟨path, found, rfl⟩
  · exact ⟨nodup_ownersOf _, fun owner listed => mem_ownersOf.mp listed⟩
  · refine ⟨List.nodup_singleton _, ?_⟩
    intro owner listed
    rw [List.mem_singleton.mp listed]
    exact List.mem_map.mpr ⟨device, found, rfl⟩
  · exact ⟨nodup_ownerOfDevice _ _, fun owner listed => mem_ownerOfDevice listed⟩
  · exact ⟨nodup_ownersOf _, fun owner listed => ends link owner (mem_ownersOf.mp listed)⟩
  · exact ⟨nodup_ownerOfDevice _ _, fun owner listed => mem_ownerOfDevice listed⟩
  · refine ⟨nodup_ownersOf _, ?_⟩
    intro owner listed
    obtain ⟨id, -, owned⟩ := List.mem_flatMap.mp (mem_ownersOf.mp listed)
    unfold ResourceInputs.linkOwners at owned
    split at owned
    · cases owned
    · rename_i link _
      exact ends link owner owned

/-! ### Resources -/

/-- The resources that a composition names, once each. -/
def ResourceInputs.refs (inputs : ResourceInputs) : List ResourceRef :=
  ⟨.rack, inputs.config.rack⟩ :: inputs.devices.map (fun device => ⟨.device, device.id⟩) ++
    inputs.ports.map (fun port => ⟨.port, port.id⟩) ++ inputs.links.map (fun link => ⟨.link, link.id⟩) ++
    inputs.attachments.map (fun attachment => ⟨.attachment, attachment.id⟩) ++
    ((inputs.paths.map PathRecord.id).dedup.map fun id => ⟨.path, id⟩)

theorem ResourceInputs.resources_refs (inputs : ResourceInputs) :
    (inputs.resources.map ResourceState.ref).Nodup ∧
      ∀ ref, ref ∈ inputs.resources.map ResourceState.ref ↔ ref ∈ inputs.refs := by
  unfold ResourceInputs.resources
  dsimp only
  rw [uniqueBy_map ResourceState.ref]
  constructor
  · refine nodup_uniqueBy ResourceRef.eq_of_not_less (List.pairwise_map.mpr (sortBy_inOrder ?_ _))
    exact ⟨fun a b => ResourceRef.orders.asymm a.ref b.ref, fun a b c => ResourceRef.orders.trans a.ref b.ref c.ref⟩
  · intro ref
    rw [mem_uniqueBy, ((sortBy_perm _ _).map _).mem_iff]
    simp only [ResourceInputs.refs, List.map_cons, List.map_append, List.map_map, List.mem_append, List.mem_cons,
      List.cons_append, List.mem_map, List.mem_dedup, Function.comp_apply]
    simp only [rackResource, deviceResource, portResource, linkResource, attachmentResource, pathResource,
      exists_exists_and_eq_and]

/-- The rack is among the resources. -/
theorem ResourceInputs.rack_listed (inputs : ResourceInputs) : inputs.rackResource ∈ inputs.resources := by
  have listed := (inputs.resources_refs.2 ⟨.rack, inputs.config.rack⟩).mpr (by simp [ResourceInputs.refs])
  obtain ⟨state, member, same⟩ := List.mem_map.mp listed
  rcases ResourceInputs.mem_resources member with rfl | ⟨device, found, rfl⟩ | ⟨port, found, rfl⟩ |
    ⟨link, found, rfl⟩ | ⟨attachment, found, rfl⟩ | ⟨path, found, rfl⟩
  · exact member
  all_goals cases congrArg ResourceRef.kind same

/-- Every resource keeps within a bound on owners exactly when the rack has no more devices than that. -/
theorem Composed.owners_le_iff (composed : Composed ledger config request data) (bound : Nat) :
    (∀ state ∈ data.resources, state.owners.length ≤ bound) ↔ data.devices.length ≤ bound := by
  obtain ⟨inputs, published, -, -, devices, -⟩ := composed.resources
  have distinct := composed.nodup_owners
  rw [published]
  constructor
  · intro within
    have rack := within inputs.rackResource inputs.rack_listed
    have all : data.devices.map DeviceRecord.owner ⊆ inputs.rackResource.owners := by
      intro owner member
      rw [← devices] at member
      exact mem_ownersOf.mpr member
    have most := (List.subperm_of_subset distinct all).length_le
    rw [List.length_map] at most
    omega
  · intro within state member
    obtain ⟨nodup, inside⟩ := ResourceInputs.owners_devices member
    have most := (List.subperm_of_subset nodup inside).length_le
    rw [List.length_map, devices] at most
    omega

private theorem nodup_tagged {α : Type} (kind : ResourceKind) (id : α → UInt64) {values : List α}
    (distinct : (values.map id).Nodup) : (values.map fun value => (⟨kind, id value⟩ : ResourceRef)).Nodup := by
  refine List.Nodup.of_map ResourceRef.id ?_
  rw [List.map_map]
  exact distinct

/-- References of different kinds differ, so it is enough that each kind has no identity twice. -/
theorem ResourceInputs.nodup_refs {inputs : ResourceInputs}
    (devices : (inputs.devices.map DeviceRecord.id).Nodup) (ports : (inputs.ports.map PortRecord.id).Nodup)
    (links : (inputs.links.map LinkRecord.id).Nodup)
    (attachments : (inputs.attachments.map AttachmentRecord.id).Nodup) : inputs.refs.Nodup := by
  have paths := nodup_tagged .path id (by simpa using List.nodup_dedup (inputs.paths.map PathRecord.id))
  unfold ResourceInputs.refs
  refine List.Nodup.append (List.Nodup.append (List.Nodup.append (List.Nodup.append (List.nodup_cons.mpr ⟨?_, ?_⟩)
    (nodup_tagged .port PortRecord.id ports) ?_) (nodup_tagged .link LinkRecord.id links) ?_)
    (nodup_tagged .attachment AttachmentRecord.id attachments) ?_) paths ?_
  · simp
  · exact nodup_tagged .device DeviceRecord.id devices
  all_goals
    intro ref first second
    simp only [List.mem_append, List.mem_cons, List.mem_map] at first second
    grind

theorem Composed.resources_length (composed : Composed ledger config request data) :
    data.resources.length = 1 + data.devices.length + data.ports.length + data.links.length +
      data.attachments.length + (data.paths.map PathRecord.id).dedup.length := by
  obtain ⟨inputs, published, -, -, devices, ports, links, attachments, paths⟩ := composed.resources
  obtain ⟨portNotes, portsPublished⟩ := composed.ports
  obtain ⟨linkNotes, linksPublished⟩ := composed.links
  obtain ⟨attachmentNotes, attachmentsPublished⟩ := composed.attachments
  have distinctDevices := composeDevices_ids_nodup (gather ledger config request)
  have distinctPorts := composePorts_ids_nodup (gather ledger config request) data.devices portNotes
  have distinctLinks := composeLinks_ids_nodup (gather ledger config request) data.ports linkNotes
  have distinctAttachments :=
    composeAttachments_ids_nodup (gather ledger config request) data.devices data.ports attachmentNotes
  rw [← composed.devices] at distinctDevices
  rw [← portsPublished] at distinctPorts
  rw [← linksPublished] at distinctLinks
  rw [← attachmentsPublished] at distinctAttachments
  obtain ⟨nodup, same⟩ := inputs.resources_refs
  have distinct : inputs.refs.Nodup := by
    refine ResourceInputs.nodup_refs ?_ ?_ ?_ ?_
    · rwa [devices]
    · rwa [ports]
    · rwa [links]
    · rwa [attachments]
  have total := ((List.perm_ext_iff_of_nodup nodup distinct).mpr same).length_eq
  rw [List.length_map, ← published] at total
  rw [total, ResourceInputs.refs, devices, ports, links, attachments, paths]
  simp only [List.length_append, List.length_cons, List.length_map]
  omega

end Owners

/-! ### The published order -/

theorem idsLess_iff (a b : List UInt64) : idsLess a b = true ↔ a < b := by
  induction a generalizing b with
  | nil => cases b <;> simp [idsLess]
  | cons x xs ih =>
    cases b with
    | nil => simp [idsLess]
    | cons y ys => simp [idsLess, List.cons_lt_cons_iff, ih]

theorem endpointsLess_iff (startA endA startB endB : UInt64) (linksA linksB : List UInt64) :
    endpointsLess startA endA startB endB linksA linksB = true ↔
      startA < startB ∨ (startA = startB ∧ (endA < endB ∨ (endA = endB ∧ linksA < linksB))) := by
  unfold endpointsLess
  by_cases starts : startA = startB
  · by_cases ends : endA = endB
    · simp [starts, ends, idsLess_iff]
    · simp [starts, ends]
  · simp [starts]

theorem endpointsLess_false_iff (startA endA startB endB : UInt64) (linksA linksB : List UInt64) :
    endpointsLess startA endA startB endB linksA linksB = false ↔
      startB < startA ∨ (startB = startA ∧ (endB < endA ∨ (endB = endA ∧ linksB ≤ linksA))) := by
  rw [← Bool.not_eq_true, endpointsLess_iff]
  by_cases starts : startA = startB
  · by_cases ends : endA = endB
    · simp [starts, ends]
    · simp [starts, ends, Ne.symm ends, UInt64.not_lt, UInt64.le_iff_lt_or_eq]
  · simp [starts, Ne.symm starts, UInt64.not_lt, UInt64.le_iff_lt_or_eq]

theorem endpointsLess_orders {α : Type} (start finish : α → UInt64) (links : α → List UInt64) :
    Orders (fun a b => endpointsLess (start a) (finish a) (start b) (finish b) (links a) (links b)) := by
  constructor
  · intro a b before
    rw [endpointsLess_iff] at before
    rw [endpointsLess_false_iff]
    rcases before with starts | ⟨starts, ends | ⟨ends, less⟩⟩
    · exact .inl starts
    · exact .inr ⟨starts, .inl ends⟩
    · exact .inr ⟨starts, .inr ⟨ends, List.le_of_lt less⟩⟩
  · intro a b c first second
    rw [endpointsLess_false_iff] at first second ⊢
    rcases first with starts | ⟨starts, first⟩
    · rcases second with later | ⟨same, -⟩
      · exact .inl (UInt64.lt_trans starts later)
      · exact .inl (same ▸ starts)
    · rw [starts]
      rcases second with later | ⟨same, second⟩
      · exact .inl later
      · refine .inr ⟨same, ?_⟩
        rcases first with ends | ⟨ends, first⟩
        · rcases second with later | ⟨same, -⟩
          · exact .inl (UInt64.lt_trans ends later)
          · exact .inl (same ▸ ends)
        · rw [ends]
          rcases second with later | ⟨same, second⟩
          · exact .inl later
          · exact .inr ⟨same, List.le_trans first second⟩

theorem foldl_composePath_keys (links : List LinkRecord) (candidates : List PathCandidate)
    (state : List PathRecord × Diagnostics) :
    (candidates.foldl (composePath links) state).1.map (fun path => (path.startPort, path.endPort, path.links)) =
      state.1.map (fun path => (path.startPort, path.endPort, path.links)) ++
        candidates.map (fun candidate => (candidate.start, candidate.finish, candidate.links)) := by
  induction candidates generalizing state with
  | nil => simp
  | cons candidate rest ih =>
    rw [List.foldl_cons, ih]
    simp [composePath]

/-- The records come out of the enumeration in the order in which they are published. -/
theorem foldl_composePath_inOrder (links : List LinkRecord) {candidates : List PathCandidate}
    (sorted : InOrder (fun a b => endpointsLess a.start a.finish b.start b.finish a.links b.links) candidates)
    (diagnostics : Diagnostics) :
    InOrder (fun a b => endpointsLess a.startPort a.endPort b.startPort b.endPort a.links b.links)
      (candidates.foldl (composePath links) ([], diagnostics)).1 := by
  let less (a b : UInt64 × UInt64 × List UInt64) : Bool := endpointsLess a.1 a.2.1 b.1 b.2.1 a.2.2 b.2.2
  have keys := foldl_composePath_keys links candidates ([], diagnostics)
  have ordered : InOrder less (candidates.map fun candidate => (candidate.start, candidate.finish, candidate.links)) :=
    List.pairwise_map.mpr sorted
  rw [List.map_nil, List.nil_append] at keys
  rw [← keys] at ordered
  exact List.pairwise_map.mp ordered

/-! ### The round trip -/

/-- The identities of the paths that the search over a composition's topology finds. -/
def enumeratedPaths (ledger : EvidenceLedger) (config : RackConfig) (request : ComposeInput) : List UInt64 :=
  let gathered := gather ledger config request
  let (devices, diagnostics) := composeDevices gathered
  let (ports, diagnostics) := composePorts gathered devices diagnostics
  let (links, diagnostics) := composeLinks gathered ports diagnostics
  let (attachments, _) := composeAttachments gathered devices ports diagnostics
  match searchFrom config request.limits (adjacencyOf links) (exitPorts ports) (accessPorts attachments) {} with
  | .error _ => []
  | .ok search =>
    let candidates := uniqueBy (fun a b => a.links == b.links)
      (sortBy (fun a b => endpointsLess a.start a.finish b.start b.finish a.links b.links) search.candidates)
    (candidates.take request.limits.maxPaths).map fun candidate => pathIdentity candidate.links

/-- One resource for the rack, for each member, for each port claimed on a member, for each link and attachment
claimed and for each path found. -/
def resourceCount (ledger : EvidenceLedger) (config : RackConfig) (request : ComposeInput) : Nat :=
  let gathered := gather ledger config request
  1 + gathered.members.size +
    (gathered.portClaims.toList.filter fun entry => gathered.members.contains entry.2.value.device).length +
    gathered.linkClaims.size + gathered.attachmentClaims.size + (enumeratedPaths ledger config request).dedup.length

section RoundTrip

variable {ledger : EvidenceLedger} {config : RackConfig} {request : ComposeInput} {outcome : ComposeOutcome}
  {data : SnapshotData}

/-- The published identities are those of the link sequences found, in the order of their endpoints. -/
theorem compose_paths (composed : compose ledger config request = .ok outcome)
    (held : outcome.snapshot.handle = some data) :
    data.paths.map PathRecord.id = enumeratedPaths ledger config request := by
  simp only [compose, bind_eq_ok] at composed
  obtain ⟨_, _, _, _, _, _, _, _, _, _, _, _, _, _, pass, _, _, _, rest⟩ := composed
  obtain ⟨capacity, -, rest⟩ := rest
  obtain ⟨paths, searched, rest⟩ := rest
  cases rest
  cases held
  obtain ⟨search, found, rest⟩ := bind_eq_ok.mp searched
  cases rest
  unfold enumeratedPaths
  dsimp only
  rw [found, sortBy_of_inOrder, foldl_composePath_ids]
  · rfl
  · apply foldl_composePath_inOrder
    exact ((sortBy_inOrder (endpointsLess_orders PathCandidate.start PathCandidate.finish PathCandidate.links) _).sublist
      (uniqueBy_sublist _ _)).sublist (List.take_sublist _ _)

theorem compose_resourceCount (composed : compose ledger config request = .ok outcome)
    (held : outcome.snapshot.handle = some data) (passes : Composed ledger config request data) :
    data.resources.length = resourceCount ledger config request := by
  obtain ⟨portNotes, ports⟩ := passes.ports
  obtain ⟨linkNotes, links⟩ := passes.links
  obtain ⟨attachmentNotes, attachments⟩ := passes.attachments
  rw [passes.resources_length, passes.devices, composeDevices_length, ports, composePorts_length, links,
    composeLinks_length, attachments, composeAttachments_length, compose_paths composed held,
    resourceCount]

/-- The composer's default limits leave the decoder two bounds to check. -/
theorem Composed.within_iff (passes : Composed ledger config request data) (bounded : data.Bounded {})
    (legible : data.Legible) :
    data.Within decodeBounds ↔
      data.devices.length ≤ kMaxOwnersPerResource ∧ data.resources.length ≤ decodeBounds.resources := by
  obtain ⟨hostKeys, reasons, authorities, details⟩ := legible
  constructor
  · rintro ⟨-, -, -, -, -, -, -, ⟨resources, owners⟩, -⟩
    exact ⟨(passes.owners_le_iff _).mp owners, resources⟩
  · rintro ⟨devices, resources⟩
    have links : ∀ path ∈ data.paths, path.links.length ≤ decodeBounds.pathLinks := by
      intro path member
      exact (passes.path_length member).trans bounded.ports
    exact ⟨bounded.devices, bounded.ports, bounded.links, ⟨bounded.attachments, hostKeys⟩, ⟨bounded.paths, links⟩,
      ⟨bounded.maintenance, reasons⟩, ⟨bounded.obligations, authorities⟩,
      ⟨resources, (passes.owners_le_iff _).mpr devices⟩, ⟨bounded.diagnostics (by decide), details⟩⟩

theorem Snapshot.encode_ok_iff {snapshot : Snapshot} {bytes : List UInt8} (held : snapshot.handle = some data) :
    snapshot.encode = .ok bytes ↔
      data.Legible ∧ bytes.length ≤ defaultComposeLimits.maxEncodedSnapshot ∧ bytes = snapshotBytes data := by
  rw [← encodeSnapshotData_ok_iff]
  unfold Snapshot.encode
  rw [held]
  dsimp only
  split
  · rename_i refused
    simp [refused]
  · rename_i writer written
    simp [written]

/-- A snapshot that was composed under the default limits and encoded is taken back, field for field, exactly when
the rack has no more members than a resource may have owners, and the decoder's bound holds its resources. -/
theorem composed_snapshot_decodes (defaults : request.limits = {})
    (composed : compose ledger config request = .ok outcome) {bytes : List UInt8}
    (encoded : outcome.snapshot.encode = .ok bytes) :
    (∃ data, outcome.snapshot.handle = some data ∧ decodeSnapshot bytes = .ok data) ↔
      (gather ledger config request).members.size ≤ kMaxOwnersPerResource ∧
        resourceCount ledger config request ≤ decodeBounds.resources := by
  obtain ⟨data, held, passes⟩ := compose_composed composed
  have bounded := compose_bounded composed held
  rw [defaults] at bounded
  obtain ⟨legible, -, spelled⟩ := (Snapshot.encode_ok_iff held).mp encoded
  have members : data.devices.length = (gather ledger config request).members.size := by
    rw [passes.devices, composeDevices_length]
  rw [← members, ← compose_resourceCount composed held passes, ← passes.within_iff bounded legible]
  constructor
  · rintro ⟨other, same, decoded⟩
    rw [held, Option.some.injEq] at same
    subst same
    exact (decodeSnapshot_ok_iff.mp decoded).1
  · intro within
    exact ⟨data, held, decodeSnapshot_ok_iff.mpr ⟨within, bounded.closes, spelled⟩⟩

end RoundTrip

/-- A rack of sixty-five members, none of them observed. -/
def crowdedLedger : EvidenceLedger :=
  EvidenceLedger.insertAll {} ((List.range 65).map fun index =>
    { provenance := { source := 1, sequence := 1 }
      payload := .member { device := UInt64.ofNat (index + 1), rack := 7, incarnation := 1 } })

/-- How many bytes the sections of a snapshot take. -/
def SnapshotData.bodyLength (data : SnapshotData) : Nat :=
  (listBytes deviceRecordBytes data.devices).length + ((listBytes portRecordBytes data.ports).length +
    ((listBytes linkRecordBytes data.links).length + ((listBytes attachmentRecordBytes data.attachments).length +
      ((listBytes pathRecordBytes data.paths).length + ((listBytes maintenanceRecordBytes data.maintenance).length +
        ((listBytes obligationRecordBytes data.obligations).length +
          ((listBytes resourceStateBytes data.resources).length +
            (listBytes diagnosticBytes data.diagnostics).length)))))))

/-- The note about a member without an observation, which the encoder accepts. -/
def unobservedNote : Text :=
  text "member device has no device observation"

/-- A small snapshot with no texts but that note is encoded. -/
private theorem encode_small {snapshot : Snapshot} {data : SnapshotData} (held : snapshot.handle = some data)
    (small : data.bodyLength ≤ 1000000) (hosts : ∀ attachment ∈ data.attachments, attachment.hostKey = [])
    (maintenance : data.maintenance = []) (obligations : data.obligations = [])
    (notes : ∀ diagnostic ∈ data.diagnostics, diagnostic.detail = unobservedNote) :
    snapshot.encode = .ok (snapshotBytes data) := by
  refine (Snapshot.encode_ok_iff held).mpr ⟨⟨?_, ?_, ?_, ?_⟩, ?_, rfl⟩
  · intro attachment member
    rw [hosts attachment member]
    decide
  · simp [maintenance]
  · simp [obligations]
  · intro diagnostic member
    rw [notes diagnostic member]
    decide +kernel
  · have capacity : (capacityLedgerBytes data.capacity).length ≤ 100 := by simp [capacityLedgerBytes]
    have limit : defaultComposeLimits.maxEncodedSnapshot = 16777216 := rfl
    have spelled : (snapshotBytes data).length =
        8 + (8 + (8 + (1 + (32 + (32 + ((capacityLedgerBytes data.capacity).length + data.bodyLength)))))) := by
      simp only [snapshotBytes, List.length_append, Blake2s256.length_le64, List.length_singleton, Digest.sized,
        SnapshotData.bodyLength]
    omega

/-- How many records each section has. -/
def SnapshotData.sizes (data : SnapshotData) : List Nat :=
  [data.devices.length, data.ports.length, data.links.length, data.attachments.length, data.paths.length,
    data.maintenance.length, data.obligations.length, data.resources.length, data.diagnostics.length]

/-- The crowded rack is composed and encoded, and its encoding is not taken back: the rack has sixty-five owners. -/
theorem crowded_snapshot_refused :
    ∃ outcome bytes, compose crowdedLedger { rack := 7 } ⟨0, 1, .active, {}⟩ = .ok outcome ∧
      outcome.snapshot.encode = .ok bytes ∧
      ¬ ∃ data, outcome.snapshot.handle = some data ∧ decodeSnapshot bytes = .ok data := by
  have evaluated : (match compose crowdedLedger { rack := 7 } ⟨0, 1, .active, {}⟩ with
      | .ok outcome => some (outcome.snapshot.data.sizes,
          outcome.snapshot.data.diagnostics.all fun diagnostic => decide (diagnostic.detail = unobservedNote))
      | .error _ => none) = some ([65, 0, 0, 0, 0, 0, 0, 66, 65], true) := by
    decide +kernel
  split at evaluated
  · rename_i outcome composed
    obtain ⟨data, held, passes⟩ := compose_composed composed
    simp only [Snapshot.data, held, Option.getD_some, SnapshotData.sizes, Option.some.injEq, Prod.mk.injEq,
      List.cons.injEq, and_true, List.length_eq_zero_iff, List.all_eq_true, decide_eq_true_eq] at evaluated
    obtain ⟨⟨crowd, ports, links, attachments, paths, maintenance, obligations, listed, noted⟩, notes⟩ := evaluated
    have owners := (passes.owners_le_iff 65).mpr (Nat.le_of_eq crowd)
    have small : data.bodyLength ≤ 1000000 := by
      have devices : (listBytes deviceRecordBytes data.devices).length ≤ 4 + data.devices.length * 100 :=
        length_listBytes_le fun device _ => by simp [deviceRecordBytes]
      have resources : (listBytes resourceStateBytes data.resources).length ≤ 4 + data.resources.length * 1200 := by
        refine length_listBytes_le fun state member => ?_
        have few : (listBytes ownerRefBytes state.owners).length ≤ 4 + state.owners.length * 16 :=
          length_listBytes_le fun owner _ => by simp [ownerRefBytes]
        have most := owners state member
        simp only [resourceStateBytes, List.length_append, Blake2s256.length_le64, List.length_singleton]
        omega
      have diagnostics : (listBytes diagnosticBytes data.diagnostics).length ≤ 4 + data.diagnostics.length * 100 := by
        refine length_listBytes_le fun diagnostic member => ?_
        have spelled : unobservedNote.length = 39 := by rfl
        simp [diagnosticBytes, notes diagnostic member, spelled]
      have empty : ∀ {α : Type} (items : α → List UInt8), (listBytes items []).length = 4 := by simp [listBytes]
      rw [crowd] at devices
      rw [listed] at resources
      rw [noted] at diagnostics
      simp only [SnapshotData.bodyLength, ports, links, attachments, paths, maintenance, obligations, empty]
      omega
    refine ⟨outcome, _, composed, encode_small held small (by simp [attachments]) maintenance obligations notes, ?_⟩
    rintro ⟨other, same, decoded⟩
    rw [held, Option.some.injEq] at same
    subst same
    obtain ⟨⟨-, -, -, -, -, -, -, ⟨-, within⟩, -⟩, -⟩ := decodeSnapshot_ok_iff.mp decoded
    have few := (passes.owners_le_iff _).mp within
    rw [crowd] at few
    exact absurd few (by decide)
  · cases evaluated

/-- The furnished rack is taken back. -/
theorem furnished_snapshot_decodes :
    ∃ outcome bytes, compose furnishedLedger { rack := 7 } ⟨0, 1, .active, {}⟩ = .ok outcome ∧
      outcome.snapshot.encode = .ok bytes ∧
      ∃ data, outcome.snapshot.handle = some data ∧ decodeSnapshot bytes = .ok data := by
  have evaluated : (match compose furnishedLedger { rack := 7 } ⟨0, 1, .active, {}⟩ with
      | .ok outcome => some (outcome.snapshot.data.sizes, decide (outcome.snapshot.data.bodyLength ≤ 1000000),
          outcome.snapshot.data.attachments.all (·.hostKey.isEmpty))
      | .error _ => none) = some ([1, 2, 1, 1, 1, 0, 0, 7, 0], true, true) := by
    decide +kernel
  split at evaluated
  · rename_i outcome composed
    obtain ⟨data, held, -⟩ := compose_composed composed
    simp only [Snapshot.data, held, Option.getD_some, SnapshotData.sizes, Option.some.injEq, Prod.mk.injEq,
      List.cons.injEq, and_true, List.length_eq_zero_iff, List.all_eq_true, List.isEmpty_iff,
      decide_eq_true_eq] at evaluated
    obtain ⟨⟨-, -, -, -, -, maintenance, obligations, -, diagnostics⟩, small, hosts⟩ := evaluated
    have encoded := encode_small held small hosts maintenance obligations (by simp [diagnostics])
    refine ⟨outcome, _, composed, encoded, (composed_snapshot_decodes rfl composed encoded).mpr ⟨?_, ?_⟩⟩
    · decide +kernel
    · decide +kernel
  · cases evaluated

end RackFabric
