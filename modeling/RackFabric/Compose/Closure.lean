import RackFabric.Compose.Membership
import RackFabric.Compose.Passes
import RackFabric.Compose.Arrival

/-!
Eligibility is closed: whatever a snapshot offers as eligible rests on eligible records of the same snapshot,
down to devices that applicable membership claims place in this rack under one incarnation.
-/

namespace RackFabric

/-- The owner is an eligible device of the snapshot, a member of this rack by an applicable claim, under the one
incarnation all such claims agree on. -/
def Rightful (ledger : EvidenceLedger) (config : RackConfig) (data : SnapshotData) (owner : OwnerRef) : Prop :=
  (∃ device ∈ data.devices, device.id = owner.device ∧ device.incarnation = owner.incarnation ∧
    device.eligibility = .eligible) ∧
  ClaimedAmong ledger.slots.toList config data.generation owner.device owner.incarnation ∧
  ∀ incarnation, ClaimedAmong ledger.slots.toList config data.generation owner.device incarnation →
    incarnation = owner.incarnation

/-- Eligible records of a snapshot rest on eligible records of that snapshot. -/
structure Closed (ledger : EvidenceLedger) (config : RackConfig) (data : SnapshotData) : Prop where
  identities : (data.devices.map DeviceRecord.id).Nodup ∧ (data.ports.map PortRecord.id).Nodup ∧
    (data.links.map LinkRecord.id).Nodup
  resources : ∀ state ∈ data.resources, state.ref.kind ≠ .rack → state.eligibility = .eligible →
    state.capacityKnown = true ∧ state.owners ≠ [] ∧ ∀ owner ∈ state.owners, Rightful ledger config data owner
  ports : ∀ port ∈ data.ports, port.eligibility = .eligible →
    ∃ device ∈ data.devices, device.id = port.device ∧ device.eligibility = .eligible
  links : ∀ link ∈ data.links, link.eligibility = .eligible →
    (∃ port ∈ data.ports, port.id = link.portA ∧ port.eligibility = .eligible ∧ link.capacity ≤ port.capacity) ∧
    ∃ port ∈ data.ports, port.id = link.portB ∧ port.eligibility = .eligible ∧ link.capacity ≤ port.capacity
  attachments : ∀ attachment ∈ data.attachments, attachment.eligibility = .eligible →
    (∃ device ∈ data.devices, device.id = attachment.device ∧ device.eligibility = .eligible) ∧
    ∃ port ∈ data.ports, port.id = attachment.port ∧ port.eligibility = .eligible ∧ port.device = attachment.device
  paths : ∀ path ∈ data.paths, path.eligibility = .eligible →
    ∀ id ∈ path.links, ∃ link ∈ data.links, link.id = id ∧ link.eligibility = .eligible

namespace Composed

variable {ledger : EvidenceLedger} {config : RackConfig} {request : ComposeInput} {data : SnapshotData}

theorem device_cleared (composed : Composed ledger config request data) {device : DeviceRecord}
    (member : device ∈ data.devices) (eligible : device.eligibility = .eligible) :
    DeviceCleared (gather ledger config request) device :=
  composeDevices_cleared (composed.devices ▸ member) eligible

theorem port_cleared (composed : Composed ledger config request data) {port : PortRecord}
    (member : port ∈ data.ports) (eligible : port.eligibility = .eligible) :
    PortCleared (gather ledger config request) data.devices port := by
  obtain ⟨diagnostics, published⟩ := composed.ports
  rw [published] at member
  exact composePorts_cleared member eligible

theorem link_cleared (composed : Composed ledger config request data) {link : LinkRecord}
    (member : link ∈ data.links) (eligible : link.eligibility = .eligible) :
    LinkCleared (gather ledger config request) data.ports link := by
  obtain ⟨diagnostics, published⟩ := composed.links
  rw [published] at member
  exact composeLinks_cleared member eligible

theorem attachment_cleared (composed : Composed ledger config request data) {attachment : AttachmentRecord}
    (member : attachment ∈ data.attachments) (eligible : attachment.eligibility = .eligible) :
    AttachmentCleared data.devices data.ports attachment := by
  obtain ⟨diagnostics, published⟩ := composed.attachments
  rw [published] at member
  exact composeAttachments_cleared member eligible

theorem path_cleared (composed : Composed ledger config request data) {path : PathRecord}
    (member : path ∈ data.paths) (eligible : path.eligibility = .eligible) : PathCleared data.links path := by
  obtain ⟨diagnostics, paths, searched, published⟩ := composed.paths
  rw [published] at member
  exact composePaths_cleared searched member eligible

end Composed

/-- An eligible device is a rightful owner under its own incarnation. -/
theorem rightful_device {ledger : EvidenceLedger} {config : RackConfig} {request : ComposeInput}
    {data : SnapshotData} (composed : Composed ledger config request data)
    (generation : data.generation = request.generation) {device : DeviceRecord} (member : device ∈ data.devices)
    (eligible : device.eligibility = .eligible) :
    Rightful ledger config data ⟨device.id, device.incarnation⟩ := by
  obtain ⟨info, found, settled, same⟩ := (composed.device_cleared member eligible).member
  obtain ⟨claimed, all⟩ := (gather_vouched ledger config request).agreed device.id info found settled
  refine ⟨⟨device, member, rfl, rfl, eligible⟩, ?_, ?_⟩
  · rw [generation, ← same]
    exact claimed
  · rw [generation, ← same]
    exact all

/-- Owners that are all rightful, with at least one among them. -/
def WellOwned (ledger : EvidenceLedger) (config : RackConfig) (data : SnapshotData) (owners : List OwnerRef) : Prop :=
  owners ≠ [] ∧ ∀ owner ∈ owners, Rightful ledger config data owner

section Owners

variable {ledger : EvidenceLedger} {config : RackConfig} {request : ComposeInput} {data : SnapshotData}
  {owners others : List OwnerRef}

theorem WellOwned.append (first : WellOwned ledger config data owners) (second : WellOwned ledger config data others) :
    WellOwned ledger config data (owners ++ others) := by
  constructor
  · intro empty
    exact first.1 (List.append_eq_nil_iff.mp empty).1
  · intro owner member
    rcases List.mem_append.mp member with left | right
    · exact first.2 owner left
    · exact second.2 owner right

theorem mem_ownersOf {owner : OwnerRef} : owner ∈ ownersOf owners ↔ owner ∈ owners := by
  unfold ownersOf
  rw [mem_uniqueBy]
  exact (sortBy_perm _ _).mem_iff

theorem WellOwned.sorted (owned : WellOwned ledger config data owners) :
    WellOwned ledger config data (ownersOf owners) := by
  constructor
  · intro empty
    obtain ⟨owner, member⟩ := List.exists_mem_of_ne_nil owners owned.1
    have kept := mem_ownersOf.mpr member
    rw [empty] at kept
    cases kept
  · intro owner member
    exact owned.2 owner (mem_ownersOf.mp member)

theorem ownerOfDevice_wellOwned (composed : Composed ledger config request data)
    (generation : data.generation = request.generation) {id : UInt64} {device : DeviceRecord}
    (found : deviceRecord data.devices id = some device) (eligible : device.eligibility = .eligible) :
    WellOwned ledger config data (ownerOfDevice data.devices id) := by
  simp only [ownerOfDevice, found]
  refine ⟨List.cons_ne_nil _ _, ?_⟩
  intro owner member
  rw [List.mem_singleton.mp member]
  exact rightful_device composed generation (findSorted_some found).1 eligible

theorem ownerOfPort_wellOwned (composed : Composed ledger config request data)
    (generation : data.generation = request.generation) {id : UInt64} {port : PortRecord}
    (found : portRecord data.ports id = some port) (eligible : port.eligibility = .eligible) :
    WellOwned ledger config data (ownerOfPort data.devices data.ports id) := by
  simp only [ownerOfPort, found]
  obtain ⟨device, foundDevice, usable⟩ := (composed.port_cleared (findSorted_some found).1 eligible).owner
  exact ownerOfDevice_wellOwned composed generation foundDevice usable

/-- The two ends of an eligible link are rightfully owned. -/
theorem endpoints_wellOwned (composed : Composed ledger config request data)
    (generation : data.generation = request.generation) {link : LinkRecord} (member : link ∈ data.links)
    (eligible : link.eligibility = .eligible) :
    WellOwned ledger config data
      (ownerOfPort data.devices data.ports link.portA ++ ownerOfPort data.devices data.ports link.portB) := by
  obtain ⟨-, -, ⟨a, foundA, usableA, -⟩, ⟨b, foundB, usableB, -⟩⟩ := composed.link_cleared member eligible
  exact (ownerOfPort_wellOwned composed generation foundA usableA).append
    (ownerOfPort_wellOwned composed generation foundB usableB)

end Owners

/-- A resource state of the snapshot is the rack's, or a record's of one of the five kinds. -/
theorem ResourceInputs.mem_resources {inputs : ResourceInputs} {state : ResourceState}
    (member : state ∈ inputs.resources) :
    state = inputs.rackResource ∨ (∃ device ∈ inputs.devices, state = inputs.deviceResource device) ∨
      (∃ port ∈ inputs.ports, state = inputs.portResource port) ∨
      (∃ link ∈ inputs.links, state = inputs.linkResource link) ∨
      (∃ attachment ∈ inputs.attachments, state = inputs.attachmentResource attachment) ∨
      ∃ path ∈ inputs.paths, state = inputs.pathResource path := by
  have listed := (sortBy_perm _ _).mem_iff.mp (mem_of_uniqueBy member)
  simp only [List.mem_cons, List.mem_append, List.mem_map, List.cons_append] at listed
  rcases listed with rack | (((device | port) | link) | attachment) | path
  · exact .inl rack
  · obtain ⟨device, found, rfl⟩ := device
    exact .inr (.inl ⟨device, found, rfl⟩)
  · obtain ⟨port, found, rfl⟩ := port
    exact .inr (.inr (.inl ⟨port, found, rfl⟩))
  · obtain ⟨link, found, rfl⟩ := link
    exact .inr (.inr (.inr (.inl ⟨link, found, rfl⟩)))
  · obtain ⟨attachment, found, rfl⟩ := attachment
    exact .inr (.inr (.inr (.inr (.inl ⟨attachment, found, rfl⟩))))
  · obtain ⟨path, found, rfl⟩ := path
    exact .inr (.inr (.inr (.inr (.inr ⟨path, found, rfl⟩))))

/-- An eligible resource other than the rack has a known capacity and rightful owners. -/
theorem resource_wellOwned {ledger : EvidenceLedger} {config : RackConfig} {request : ComposeInput}
    {data : SnapshotData} (composed : Composed ledger config request data)
    (generation : data.generation = request.generation) {state : ResourceState} (member : state ∈ data.resources)
    (notRack : state.ref.kind ≠ .rack) (eligible : state.eligibility = .eligible) :
    state.capacityKnown = true ∧ WellOwned ledger config data state.owners := by
  obtain ⟨inputs, published, -, -, devices, ports, links, attachments, paths⟩ := composed.resources
  rw [published] at member
  rcases ResourceInputs.mem_resources member with rfl | ⟨device, found, rfl⟩ | ⟨port, found, rfl⟩ |
    ⟨link, found, rfl⟩ | ⟨attachment, found, rfl⟩ | ⟨path, found, rfl⟩
  · exact absurd rfl notRack
  · rw [devices] at found
    refine ⟨(composed.device_cleared found eligible).known, List.cons_ne_nil _ _, ?_⟩
    intro owner own
    rw [List.mem_singleton.mp own]
    exact rightful_device composed generation found eligible
  · rw [ports] at found
    obtain ⟨known, -, device, foundDevice, usable⟩ := composed.port_cleared found eligible
    refine ⟨known, ?_⟩
    simp only [ResourceInputs.portResource, devices]
    exact ownerOfDevice_wellOwned composed generation foundDevice usable
  · rw [links] at found
    refine ⟨(composed.link_cleared found eligible).known, ?_⟩
    simp only [ResourceInputs.linkResource, devices, ports]
    exact (endpoints_wellOwned composed generation found eligible).sorted
  · rw [attachments] at found
    obtain ⟨⟨device, foundDevice, usable⟩, port, foundPort, usablePort, -⟩ :=
      composed.attachment_cleared found eligible
    constructor
    · have known := (composed.port_cleared (findSorted_some foundPort).1 usablePort).known
      simp only [ResourceInputs.attachmentResource, ResourceInputs.attachmentCapacity, ports, devices, foundPort,
        known, foundDevice]
      rfl
    · simp only [ResourceInputs.attachmentResource, devices]
      exact ownerOfDevice_wellOwned composed generation foundDevice usable
  · rw [paths] at found
    obtain ⟨known, nonempty, usable⟩ := composed.path_cleared found eligible
    refine ⟨known, WellOwned.sorted ?_⟩
    have linkOwned : ∀ id ∈ path.links, WellOwned ledger config data (inputs.linkOwners id) := by
      intro id own
      obtain ⟨link, foundLink, usableLink⟩ := usable id own
      simp only [ResourceInputs.linkOwners, links, foundLink, devices, ports]
      exact endpoints_wellOwned composed generation (findSorted_some foundLink).1 usableLink
    constructor
    · obtain ⟨id, own⟩ := List.exists_mem_of_ne_nil path.links nonempty
      intro empty
      exact (linkOwned id own).1 (List.flatMap_eq_nil_iff.mp empty id own)
    · intro owner member
      obtain ⟨id, own, owned⟩ := List.mem_flatMap.mp member
      exact (linkOwned id own).2 owner owned

/-- What a composition publishes as eligible rests on eligible records of the same snapshot, and on members of
this rack in the end. -/
theorem compose_closed (ledger : EvidenceLedger) (config : RackConfig) (request : ComposeInput)
    (outcome : ComposeOutcome) (succeeds : compose ledger config request = .ok outcome) :
    ∃ data, outcome.snapshot.handle = some data ∧ data.generation = request.generation ∧
      Closed ledger config data := by
  obtain ⟨data, published, composed⟩ := compose_composed succeeds
  obtain ⟨same, again, -, generation, -⟩ := compose_header succeeds
  rw [published] at again
  cases again
  refine ⟨data, published, generation, ?_⟩
  constructor
  · obtain ⟨portNotes, ports⟩ := composed.ports
    obtain ⟨linkNotes, links⟩ := composed.links
    refine ⟨?_, ?_, ?_⟩
    · rw [composed.devices]
      exact composeDevices_ids_nodup _
    · rw [ports]
      exact composePorts_ids_nodup _ _ _
    · rw [links]
      exact composeLinks_ids_nodup _ _ _
  · intro state member notRack eligible
    exact resource_wellOwned composed generation member notRack eligible
  · intro port member eligible
    obtain ⟨device, found, usable⟩ := (composed.port_cleared member eligible).owner
    obtain ⟨listed, same⟩ := findSorted_some found
    exact ⟨device, listed, same, usable⟩
  · intro link member eligible
    obtain ⟨-, -, ⟨a, foundA, usableA, atMostA⟩, ⟨b, foundB, usableB, atMostB⟩⟩ :=
      composed.link_cleared member eligible
    obtain ⟨listedA, sameA⟩ := findSorted_some foundA
    obtain ⟨listedB, sameB⟩ := findSorted_some foundB
    exact ⟨⟨a, listedA, sameA, usableA, atMostA⟩, ⟨b, listedB, sameB, usableB, atMostB⟩⟩
  · intro attachment member eligible
    obtain ⟨⟨device, foundDevice, usable⟩, port, foundPort, usablePort, owns⟩ :=
      composed.attachment_cleared member eligible
    obtain ⟨listedDevice, sameDevice⟩ := findSorted_some foundDevice
    obtain ⟨listedPort, samePort⟩ := findSorted_some foundPort
    exact ⟨⟨device, listedDevice, sameDevice, usable⟩, ⟨port, listedPort, samePort, usablePort, owns⟩⟩
  · intro path member eligible id own
    obtain ⟨link, found, usable⟩ := (composed.path_cleared member eligible).links id own
    obtain ⟨listed, same⟩ := findSorted_some found
    exact ⟨link, listed, same, usable⟩

/-- One switch with an access port, an uplink and a link between them, and a host at the access port. -/
def furnishedRack : List EvidenceRecord :=
  let seen (payload : EvidencePayload) : EvidenceRecord :=
    { provenance := { source := 1, sequence := 1 }, payload := payload }
  let port (id : UInt64) (index : UInt16) (role : PortRole) : EvidenceRecord :=
    seen (.port ⟨id, 3, index, role, 10, true, .enabled, .up⟩)
  [seen (.member { device := 3, rack := 7, incarnation := 1 }),
   seen (.device { device := 3, role := .switch, capacity := 10, capacityKnown := true, availability := .up }),
   port 4 1 .access, port 5 2 .uplink,
   seen (.link ⟨6, 4, 5, .physical, 9, true, .up⟩),
   seen (.attachment { attachment := 8, device := 3, port := 4, hostKey := [] })]

def furnishedLedger : EvidenceLedger :=
  EvidenceLedger.insertAll {} furnishedRack

/-- All seven resources of the furnished rack are eligible, a path among them. -/
theorem furnished_composes :
    ∃ outcome, compose furnishedLedger { rack := 7 } ⟨0, 1, .active, {}⟩ = .ok outcome ∧
      outcome.snapshot.data.resources.map (fun state => (state.ref.kind, state.eligibility)) =
        [(.rack, .eligible), (.device, .eligible), (.port, .eligible), (.port, .eligible), (.link, .eligible),
          (.attachment, .eligible), (.path, .eligible)] := by
  have held : (compose furnishedLedger { rack := 7 } ⟨0, 1, .active, {}⟩).passes fun outcome =>
      outcome.snapshot.data.resources.map (fun state => (state.ref.kind, state.eligibility)) ==
        [(.rack, .eligible), (.device, .eligible), (.port, .eligible), (.port, .eligible), (.link, .eligible),
          (.attachment, .eligible), (.path, .eligible)] := by
    rfl
  obtain ⟨outcome, succeeds, listed⟩ := Result.exists_of_passes held
  exact ⟨outcome, succeeds, eq_of_beq listed⟩

/-- The closure holds of the furnished rack, whose seven resources are eligible. -/
theorem furnished_closed :
    ∃ outcome data, compose furnishedLedger { rack := 7 } ⟨0, 1, .active, {}⟩ = .ok outcome ∧
      outcome.snapshot.handle = some data ∧ Closed furnishedLedger { rack := 7 } data ∧
      data.resources.map (fun state => (state.ref.kind, state.eligibility)) =
        [(.rack, .eligible), (.device, .eligible), (.port, .eligible), (.port, .eligible), (.link, .eligible),
          (.attachment, .eligible), (.path, .eligible)] := by
  obtain ⟨outcome, succeeds, listed⟩ := furnished_composes
  obtain ⟨data, published, -, closed⟩ := compose_closed _ _ _ outcome succeeds
  refine ⟨outcome, data, succeeds, published, closed, ?_⟩
  rwa [Snapshot.data, published] at listed

end RackFabric
