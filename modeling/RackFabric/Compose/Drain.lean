import RackFabric.Compose.Closure
import RackFabric.Compose.Horizon

/-!
Drains. A stored directive that applies keeps its target out of service whatever else the ledger holds: another
source's clear does not lift it, an older record of its own source does not displace it, and the exclusion reaches
everything that rests on the target.
-/

namespace RackFabric

open EvidenceLedger

namespace Gathered

/-- Gathering a further record lifts no exclusion. -/
theorem gatherRecord_excluded {gathered : Gathered} {kind : ResourceKind} {id : UInt64} (config : RackConfig)
    (target : UInt64) (entry : EvidenceSlot × EvidenceRecord) (excluded : gathered.excludedEntry kind id = true) :
    (gatherRecord config target gathered entry).excludedEntry kind id = true := by
  have unmoved : ∀ next : Gathered, next.maintenance = gathered.maintenance →
      next.excludedEntry kind id = true := by
    intro next same
    rw [← excluded]
    simp only [excludedEntry, same]
  simp only [gatherRecord]
  split
  · exact unmoved _ rfl
  · exact unmoved _ rfl
  · simp only [gatherPayload]
    split
    · simp only [gatherMember]
      split
      · exact unmoved _ rfl
      · split
        · exact unmoved _ rfl
        · split
          · exact unmoved _ rfl
          · exact unmoved _ rfl
    · exact unmoved _ rfl
    · exact unmoved _ rfl
    · exact unmoved _ rfl
    · exact unmoved _ rfl
    · rename_i claim _
      by_cases same : packRef claim.targetKind claim.targetId = packRef kind id
      · simp only [gatherMaintenance, excludedEntry, same, Std.ExtTreeMap.getElem?_insert_self]
        split
        · rfl
        · simp only [excludedEntry] at excluded
          split at excluded
          · cases excluded
          · rename_i target entry found
            simp only [found]
            exact excluded
      · refine Eq.trans ?_ excluded
        simp only [gatherMaintenance, excludedEntry, Std.ExtTreeMap.getElem?_insert]
        rw [if_neg (by simpa using same)]
    · exact unmoved _ rfl

theorem foldl_gatherRecord_excluded {gathered : Gathered} {kind : ResourceKind} {id : UInt64} (config : RackConfig)
    (target : UInt64) (entries : List (EvidenceSlot × EvidenceRecord))
    (excluded : gathered.excludedEntry kind id = true) :
    (entries.foldl (gatherRecord config target) gathered).excludedEntry kind id = true := by
  induction entries generalizing gathered with
  | nil => exact excluded
  | cons entry rest ih => exact ih (gatherRecord_excluded config target entry excluded)

/-- A directive that is no clear and applies excludes its target. -/
theorem gatherRecord_excludes {gathered : Gathered} {claim : MaintenanceClaim} (config : RackConfig)
    {target : UInt64} {entry : EvidenceSlot × EvidenceRecord} (payload : entry.2.payload = .maintenance claim)
    (directs : claim.action ≠ .clear) (applies : applicabilityOf entry.2 target = .apply) :
    (gatherRecord config target gathered entry).excludedEntry claim.targetKind claim.targetId = true := by
  simp only [gatherRecord, applies, gatherPayload, payload, gatherMaintenance, excludedEntry,
    Std.ExtTreeMap.getElem?_insert_self]
  split
  · rfl
  · rename_i kept
    simp only [ne_eq, directs, not_false_eq_true, true_and, not_or, Bool.not_eq_true, Bool.not_eq_false'] at kept
    exact kept.1

end Gathered

theorem gather_excludes {ledger : EvidenceLedger} {slot : EvidenceSlot} {record : EvidenceRecord}
    {claim : MaintenanceClaim} (config : RackConfig) {request : ComposeInput}
    (stored : ledger.slots[slot]? = some record) (payload : record.payload = .maintenance claim)
    (directs : claim.action ≠ .clear) (applies : applicabilityOf record request.generation = .apply) :
    (gather ledger config request).excludedEntry claim.targetKind claim.targetId = true := by
  have listed : (slot, record) ∈ ledger.slots.toList := Std.ExtTreeMap.mem_toList_iff_getElem?_eq_some.mpr stored
  obtain ⟨before, after, split⟩ := List.append_of_mem listed
  unfold gather
  rw [split, List.foldl_append, List.foldl_cons]
  exact Gathered.foldl_gatherRecord_excluded config _ after
    (Gathered.gatherRecord_excludes config payload directs applies)

/-- No record of the resource is eligible. -/
def Barred (data : SnapshotData) (ref : ResourceRef) : Prop :=
  match ref.kind with
  | .device => ∀ device ∈ data.devices, device.id = ref.id → device.eligibility ≠ .eligible
  | .port => ∀ port ∈ data.ports, port.id = ref.id → port.eligibility ≠ .eligible
  | .link => ∀ link ∈ data.links, link.id = ref.id → link.eligibility ≠ .eligible
  | .attachment => ∀ attachment ∈ data.attachments, attachment.id = ref.id → attachment.eligibility ≠ .eligible
  | _ => True

/-- Nothing in the snapshot offers the resource: neither its state nor its own record is eligible. -/
def Shut (data : SnapshotData) (ref : ResourceRef) : Prop :=
  (∀ state ∈ data.resources, state.ref = ref → state.eligibility ≠ .eligible) ∧ Barred data ref

/-- A link has the port at one of its ends. -/
def LinkRecord.touches (link : LinkRecord) (port : UInt64) : Prop :=
  link.portA = port ∨ link.portB = port

/-- What a directive on a target takes out of service. -/
def Drained (data : SnapshotData) (target : ResourceRef) : Prop :=
  match target.kind with
  | .rack =>
    (∀ state ∈ data.resources, state.eligibility ≠ .eligible) ∧ data.capacity.usable = 0 ∧ data.paths = []
  | .device =>
    Shut data target ∧
    (∀ port ∈ data.ports, port.device = target.id → Shut data ⟨.port, port.id⟩) ∧
    (∀ link ∈ data.links, ∀ port ∈ data.ports, port.device = target.id → link.touches port.id →
      Shut data ⟨.link, link.id⟩) ∧
    ∀ attachment ∈ data.attachments, attachment.device = target.id → Shut data ⟨.attachment, attachment.id⟩
  | .port =>
    Shut data target ∧
    (∀ link ∈ data.links, link.touches target.id → Shut data ⟨.link, link.id⟩) ∧
    ∀ attachment ∈ data.attachments, attachment.port = target.id → Shut data ⟨.attachment, attachment.id⟩
  | .link => Shut data target
  | _ => True

section Shut

variable {ledger : EvidenceLedger} {config : RackConfig} {request : ComposeInput} {data : SnapshotData}

/-- An eligible state other than the rack's or a path's is that of an eligible record of the same identity. -/
theorem Composed.state_record (composed : Composed ledger config request data) {state : ResourceState}
    (member : state ∈ data.resources) (eligible : state.eligibility = .eligible) :
    match state.ref.kind with
    | .device => ∃ device ∈ data.devices, device.id = state.ref.id ∧ device.eligibility = .eligible
    | .port => ∃ port ∈ data.ports, port.id = state.ref.id ∧ port.eligibility = .eligible
    | .link => ∃ link ∈ data.links, link.id = state.ref.id ∧ link.eligibility = .eligible
    | .attachment => ∃ attachment ∈ data.attachments, attachment.id = state.ref.id ∧
        attachment.eligibility = .eligible
    | .path => ∃ path ∈ data.paths, path.id = state.ref.id ∧ path.eligibility = .eligible
    | _ => state.ref.kind = .rack ∧ (gather ledger config request).rackExcluded = false := by
  obtain ⟨inputs, published, gathered, -, devices, ports, links, attachments, paths⟩ := composed.resources
  rw [published] at member
  rcases ResourceInputs.mem_resources member with rfl | ⟨device, found, rfl⟩ | ⟨port, found, rfl⟩ |
    ⟨link, found, rfl⟩ | ⟨attachment, found, rfl⟩ | ⟨path, found, rfl⟩
  · simp only [ResourceInputs.rackResource] at eligible
    split at eligible
    · cases eligible
    · rename_i open_
      rw [gathered] at open_
      exact ⟨rfl, by simpa using open_⟩
  · exact ⟨device, devices ▸ found, rfl, eligible⟩
  · exact ⟨port, ports ▸ found, rfl, eligible⟩
  · exact ⟨link, links ▸ found, rfl, eligible⟩
  · exact ⟨attachment, attachments ▸ found, rfl, eligible⟩
  · exact ⟨path, paths ▸ found, rfl, eligible⟩

theorem Composed.shut (composed : Composed ledger config request data) {ref : ResourceRef}
    (recorded : ref.kind ∈ [ResourceKind.device, .port, .link, .attachment]) (barred : Barred data ref) :
    Shut data ref := by
  refine ⟨?_, barred⟩
  intro state member own eligible
  have rests := composed.state_record member eligible
  rw [own] at rests
  obtain ⟨kind, id⟩ := ref
  simp only [List.mem_cons, List.not_mem_nil, or_false] at recorded
  rcases recorded with rfl | rfl | rfl | rfl
  all_goals
    obtain ⟨record, found, same, usable⟩ := rests
    exact barred record found same usable

theorem Composed.port_ids (composed : Composed ledger config request data) :
    (data.ports.map PortRecord.id).Nodup := by
  obtain ⟨diagnostics, published⟩ := composed.ports
  rw [published]
  exact composePorts_ids_nodup _ _ _

theorem Composed.link_ids (composed : Composed ledger config request data) :
    (data.links.map LinkRecord.id).Nodup := by
  obtain ⟨diagnostics, published⟩ := composed.links
  rw [published]
  exact composeLinks_ids_nodup _ _ _

theorem Composed.attachment_ids (composed : Composed ledger config request data) :
    (data.attachments.map AttachmentRecord.id).Nodup := by
  obtain ⟨diagnostics, published⟩ := composed.attachments
  rw [published]
  exact composeAttachments_ids_nodup _ _ _ _

/-- What rests on a shut port is shut. -/
theorem Composed.shut_port_links (composed : Composed ledger config request data) {port : UInt64}
    (barred : Barred data ⟨.port, port⟩) {link : LinkRecord} (member : link ∈ data.links)
    (touches : link.touches port) : Shut data ⟨.link, link.id⟩ := by
  refine composed.shut (by simp) ?_
  intro other found same eligible
  have own : other = link := List.inj_on_of_nodup_map composed.link_ids found member same
  subst own
  obtain ⟨-, -, ⟨a, foundA, usableA, -⟩, ⟨b, foundB, usableB, -⟩⟩ := composed.link_cleared member eligible
  obtain ⟨listedA, sameA⟩ := findSorted_some foundA
  obtain ⟨listedB, sameB⟩ := findSorted_some foundB
  rcases touches with rfl | rfl
  · exact barred a listedA sameA usableA
  · exact barred b listedB sameB usableB

theorem Composed.shut_port_attachments (composed : Composed ledger config request data) {port : UInt64}
    (barred : Barred data ⟨.port, port⟩) {attachment : AttachmentRecord} (member : attachment ∈ data.attachments)
    (own : attachment.port = port) : Shut data ⟨.attachment, attachment.id⟩ := by
  refine composed.shut (by simp) ?_
  intro other found same eligible
  have equal : other = attachment := List.inj_on_of_nodup_map composed.attachment_ids found member same
  subst equal
  obtain ⟨-, port, foundPort, usable, -⟩ := composed.attachment_cleared member eligible
  obtain ⟨listed, named⟩ := findSorted_some foundPort
  exact barred port listed (named.trans own) usable

/-- The ports and attachments of a shut device are shut. -/
theorem Composed.barred_device_port (composed : Composed ledger config request data) {device : UInt64}
    (barred : Barred data ⟨.device, device⟩) {port : PortRecord} (member : port ∈ data.ports)
    (own : port.device = device) : Barred data ⟨.port, port.id⟩ := by
  intro other found same eligible
  have equal : other = port := List.inj_on_of_nodup_map composed.port_ids found member same
  subst equal
  obtain ⟨device, foundDevice, usable⟩ := (composed.port_cleared member eligible).owner
  obtain ⟨listed, named⟩ := findSorted_some foundDevice
  exact barred device listed (named.trans own) usable

theorem Composed.shut_device_attachments (composed : Composed ledger config request data) {device : UInt64}
    (barred : Barred data ⟨.device, device⟩) {attachment : AttachmentRecord}
    (member : attachment ∈ data.attachments) (own : attachment.device = device) :
    Shut data ⟨.attachment, attachment.id⟩ := by
  refine composed.shut (by simp) ?_
  intro other found same eligible
  have equal : other = attachment := List.inj_on_of_nodup_map composed.attachment_ids found member same
  subst equal
  obtain ⟨⟨device, foundDevice, usable⟩, -⟩ := composed.attachment_cleared member eligible
  obtain ⟨listed, named⟩ := findSorted_some foundDevice
  exact barred device listed (named.trans own) usable

/-- A device whose entry is excluded is not eligible. -/
theorem Composed.barred_device (composed : Composed ledger config request data) {device : UInt64}
    (excluded : (gather ledger config request).exclusionOf .device device = true) :
    Barred data ⟨.device, device⟩ := by
  intro record found same eligible
  obtain ⟨-, clear, info, member, -⟩ := composed.device_cleared found eligible
  have present : (gather ledger config request).members.contains record.id = true := by
    rw [Std.ExtTreeMap.contains_eq_isSome_getElem?, member]
    rfl
  rw [Gathered.deviceExcluded, present, same, excluded] at clear
  cases clear

/-! ### The whole rack -/

theorem Composed.no_device (composed : Composed ledger config request data)
    (excluded : (gather ledger config request).rackExcluded = true) {device : DeviceRecord}
    (member : device ∈ data.devices) : device.eligibility ≠ .eligible := by
  have everywhere : (gather ledger config request).exclusionOf .device device.id = true := by
    rw [Gathered.exclusionOf, excluded, Bool.true_or]
  exact composed.barred_device everywhere device member rfl

theorem Composed.no_port (composed : Composed ledger config request data)
    (excluded : (gather ledger config request).rackExcluded = true) {port : PortRecord}
    (member : port ∈ data.ports) : port.eligibility ≠ .eligible := by
  intro eligible
  obtain ⟨device, found, usable⟩ := (composed.port_cleared member eligible).owner
  exact composed.no_device excluded (findSorted_some found).1 usable

theorem Composed.no_attachment (composed : Composed ledger config request data)
    (excluded : (gather ledger config request).rackExcluded = true) {attachment : AttachmentRecord}
    (member : attachment ∈ data.attachments) : attachment.eligibility ≠ .eligible := by
  intro eligible
  obtain ⟨⟨device, found, usable⟩, -⟩ := composed.attachment_cleared member eligible
  exact composed.no_device excluded (findSorted_some found).1 usable

/-- Without an eligible attachment no search starts. -/
theorem Composed.no_path (composed : Composed ledger config request data)
    (excluded : (gather ledger config request).rackExcluded = true) : data.paths = [] := by
  obtain ⟨diagnostics, paths, searched, published⟩ := composed.paths
  have nowhere : accessPorts data.attachments = [] := by
    have none : data.attachments.filter (·.eligibility == .eligible) = [] := by
      refine List.filter_eq_nil_iff.mpr ?_
      intro attachment member
      simpa using composed.no_attachment excluded member
    rw [accessPorts, none]
    rfl
  rw [composePaths, nowhere] at searched
  cases searched
  simp [published, sortBy, uniqueBy]

/-- Where no device is eligible, all of the known capacity is unavailable. -/
theorem foldlM_addDeviceCapacity_unavailable {devices : List DeviceRecord} {sums after : UInt64 × UInt64}
    (none : ∀ device ∈ devices, device.eligibility ≠ .eligible) (balanced : sums.1 = sums.2)
    (summed : devices.foldlM addDeviceCapacity sums = .ok after) : after.1 = after.2 := by
  induction devices generalizing sums with
  | nil =>
    cases summed
    exact balanced
  | cons device rest ih =>
    rw [List.foldlM_cons] at summed
    obtain ⟨next, added, summed⟩ := bind_eq_ok.mp summed
    refine ih (fun other member => none other (List.mem_cons_of_mem _ member)) ?_ summed
    simp only [addDeviceCapacity] at added
    split at added
    · cases added
      exact balanced
    · split at added
      · cases added
      · rename_i total sum
        rw [if_pos (.inl (none device List.mem_cons_self))] at added
        split at added
        · cases added
        · rename_i unavailable also
          cases added
          rw [balanced, also] at sum
          exact (Option.some.inj sum).symm

theorem Composed.usable_zero (composed : Composed ledger config request data)
    (excluded : (gather ledger config request).rackExcluded = true) : data.capacity.usable = 0 := by
  obtain ⟨obligated, diagnostics, capacity, summed, published⟩ := composed.capacity
  rw [composeCapacity] at summed
  obtain ⟨⟨total, unavailable⟩, counted, summed⟩ := bind_eq_ok.mp summed
  have balanced : total = unavailable :=
    foldlM_addDeviceCapacity_unavailable (fun device => composed.no_device excluded) rfl counted
  subst balanced
  have nothing : checkedSubU64 total total = some 0 := by simp [checkedSubU64]
  simp only [nothing] at summed
  obtain ⟨claimed, -, summed⟩ := bind_eq_ok.mp summed
  split at summed
  · cases summed
  · rename_i sum _
    by_cases exceeds : sum > 0
    · simp only [exceeds, decide_true, if_true] at summed
      split at summed
      · cases summed
      · cases summed
        rw [published]
    · simp only [exceeds, decide_false, Bool.false_eq_true, if_false] at summed
      split at summed
      · cases summed
      · cases summed
        rw [published]

theorem Composed.rack_drained (composed : Composed ledger config request data)
    (excluded : (gather ledger config request).rackExcluded = true) : Drained data ⟨.rack, 0⟩ := by
  refine ⟨?_, composed.usable_zero excluded, composed.no_path excluded⟩
  intro state member eligible
  have rests := composed.state_record member eligible
  split at rests
  · obtain ⟨device, found, -, usable⟩ := rests
    exact composed.no_device excluded found usable
  · obtain ⟨port, found, -, usable⟩ := rests
    exact composed.no_port excluded found usable
  · obtain ⟨link, found, -, usable⟩ := rests
    obtain ⟨-, -, ⟨port, foundPort, usablePort, -⟩, -⟩ := composed.link_cleared found usable
    exact composed.no_port excluded (findSorted_some foundPort).1 usablePort
  · obtain ⟨attachment, found, -, usable⟩ := rests
    exact composed.no_attachment excluded found usable
  · obtain ⟨path, found, -, -⟩ := rests
    rw [composed.no_path excluded] at found
    cases found
  · rw [rests.2] at excluded
    cases excluded

/-- The directive's target and what rests on it are out of service. -/
theorem Composed.drained (composed : Composed ledger config request data) {target : ResourceRef}
    (excluded : (gather ledger config request).excludedEntry target.kind target.id = true)
    (whole : target.kind = .rack → target.id = 0) : Drained data target := by
  obtain ⟨kind, id⟩ := target
  have excludes : (gather ledger config request).exclusionOf kind id = true := by
    rw [Gathered.exclusionOf, excluded, Bool.or_true]
  cases kind with
  | rack =>
    obtain rfl : id = 0 := whole rfl
    exact composed.rack_drained excluded
  | device =>
    have barred := composed.barred_device excludes
    refine ⟨composed.shut (by simp) barred, ?_, ?_, ?_⟩
    · intro port member own
      exact composed.shut (by simp) (composed.barred_device_port barred member own)
    · intro link member port found own touches
      exact composed.shut_port_links (composed.barred_device_port barred found own) member touches
    · intro attachment member own
      exact composed.shut_device_attachments barred member own
  | port =>
    have barred : Barred data ⟨.port, id⟩ := by
      intro port found same eligible
      have clear := (composed.port_cleared found eligible).clear.2
      rw [same, excludes] at clear
      cases clear
    refine ⟨composed.shut (by simp) barred, ?_, ?_⟩
    · intro link member touches
      exact composed.shut_port_links barred member touches
    · intro attachment member own
      exact composed.shut_port_attachments barred member own
  | link =>
    refine composed.shut (by simp) ?_
    intro link found same eligible
    have clear := (composed.link_cleared found eligible).clear
    rw [same, excludes] at clear
    cases clear
  | _ => trivial

end Shut

/-! ### Later evidence -/

/-- Every stored record passed validation and sits in its own slot. -/
def EvidenceLedger.Stocked (ledger : EvidenceLedger) : Prop :=
  ∀ (slot : EvidenceSlot) (record : EvidenceRecord), ledger.slots[slot]? = some record →
    validateEvidence record = .ok () ∧ slotOf record = slot

theorem EvidenceLedger.Stocked.insert {ledger : EvidenceLedger} (stocked : ledger.Stocked) (record : EvidenceRecord) :
    (ledger.insert record).1.Stocked := by
  by_cases valid : validateEvidence record = .ok ()
  · rcases insert_slots ledger record with same | placed
    · intro slot stored found
      rw [same] at found
      exact stocked slot stored found
    · intro slot stored found
      rw [placed, Std.ExtTreeMap.getElem?_insert] at found
      split at found
      · rename_i own
        cases found
        exact ⟨valid, Std.LawfulEqCmp.eq_of_compare own⟩
      · exact stocked slot stored found
  · rw [insert_invalid valid]
    exact stocked

theorem EvidenceLedger.stocked_insertAll {ledger : EvidenceLedger} (stocked : ledger.Stocked)
    (records : List EvidenceRecord) : (ledger.insertAll records).Stocked := by
  induction records generalizing ledger with
  | nil => exact stocked
  | cons record rest ih => exact ih (stocked.insert record)

/-- A record for another slot, or of a lower rank, does not displace a stored one. -/
theorem insert_keeps_stored {ledger : EvidenceLedger} {record other : EvidenceRecord} (filed : ledger.Filed)
    (stored : ledger.slots[slotOf record]? = some record)
    (outranked : slotOf other = slotOf record → rankLess other record = true) :
    (ledger.insert other).1.slots[slotOf record]? = some record := by
  by_cases valid : validateEvidence other = .ok ()
  · rcases insert_effect filed valid with ⟨taken, places⟩ | ⟨-, leaves⟩
    · rw [places.slots, Std.ExtTreeMap.getElem?_insert]
      split
      · rename_i own
        have same : slotOf other = slotOf record := Std.LawfulEqCmp.eq_of_compare own
        have below := outranked same
        simp only [takes, same, stored, Bool.and_eq_true, decide_eq_true_eq, grade_lt_iff] at taken
        rcases taken.2 with above | ⟨level, -⟩
        · rw [rankLess_asymm above] at below
          cases below
        · rw [level] at below
          cases below
      · exact stored
    · rw [leaves.slots]
      exact stored
  · rw [insert_invalid valid]
    exact stored

theorem insertAll_filed {ledger : EvidenceLedger} (filed : ledger.Filed) (records : List EvidenceRecord) :
    (ledger.insertAll records).Filed := by
  induction records generalizing ledger with
  | nil => exact filed
  | cons record rest ih => exact ih (insert_filed filed record)

theorem insertAll_keeps_stored {ledger : EvidenceLedger} {record : EvidenceRecord} (filed : ledger.Filed)
    (stored : ledger.slots[slotOf record]? = some record) {later : List EvidenceRecord}
    (outranked : ∀ other ∈ later, slotOf other = slotOf record → rankLess other record = true) :
    (ledger.insertAll later).slots[slotOf record]? = some record := by
  induction later generalizing ledger with
  | nil => exact stored
  | cons other rest ih =>
    refine ih (insert_filed filed other) ?_ (fun another member => outranked another (List.mem_cons_of_mem _ member))
    exact insert_keeps_stored filed stored (outranked other List.mem_cons_self)

/-- A rack-wide directive carries no resource id, by validation. -/
theorem rack_target_zero {record : EvidenceRecord} {claim : MaintenanceClaim}
    (valid : validateEvidence record = .ok ()) (payload : record.payload = .maintenance claim)
    (rack : claim.targetKind = .rack) : claim.targetId = 0 := by
  obtain ⟨_, checked, -⟩ := bind_eq_ok.mp valid
  rw [payload] at checked
  simp only [validateClaim, rack, true_and, ne_eq, not_true, false_and] at checked
  by_contra other
  rw [if_pos other] at checked
  cases checked

/-- A stored directive to drain or maintain that applies keeps its target and all that rests on it out of service,
also after any evidence of other sources, for other slots, or of a lower rank for its own. -/
theorem drain_survives (limits : EvidenceLimits) (offered later : List EvidenceRecord) (config : RackConfig)
    (request : ComposeInput) (record : EvidenceRecord) (claim : MaintenanceClaim) (outcome : ComposeOutcome)
    (stored : (insertAll { limits := limits } offered).slots[slotOf record]? = some record)
    (payload : record.payload = .maintenance claim)
    (directs : claim.action = .drain ∨ claim.action = .maintenance)
    (applies : applicabilityOf record request.generation = .apply)
    (outranked : ∀ other ∈ later, other.provenance.source ≠ record.provenance.source ∨
      slotOf other ≠ slotOf record ∨ rankLess other record = true)
    (succeeds : compose ((insertAll { limits := limits } offered).insertAll later) config request = .ok outcome) :
    ∃ data, outcome.snapshot.handle = some data ∧ Drained data ⟨claim.targetKind, claim.targetId⟩ := by
  have below : ∀ other ∈ later, slotOf other = slotOf record → rankLess other record = true := by
    intro other member same
    rcases outranked other member with elsewhere | apart | lower
    · exact absurd (by rw [← slotOf_source other, same, slotOf_source]) elsewhere
    · exact absurd same apart
    · exact lower
  have filed : (insertAll { limits := limits } offered).Filed := insertAll_filed (reflects_empty limits).filed offered
  have kept := insertAll_keeps_stored filed stored below
  have stocked : (insertAll { limits := limits } offered).Stocked :=
    stocked_insertAll (fun slot record absent => by simp at absent) offered
  obtain ⟨data, published, composed⟩ := compose_composed succeeds
  refine ⟨data, published, composed.drained ?_ (rack_target_zero (stocked _ _ stored).1 payload)⟩
  refine gather_excludes config kept payload ?_ applies
  rcases directs with drain | maintenance
  · rw [drain]
    nofun
  · rw [maintenance]
    nofun

/-- A directive on the furnished rack's only switch. -/
def switchOrder (source sequence : UInt64) (action : MaintenanceKind) : EvidenceRecord :=
  { provenance := { source := source, sequence := sequence }, payload := .maintenance ⟨action, .device, 3, []⟩ }

/-- The drained switch stays drained when another source clears it and an older clear of its own source returns. -/
theorem furnished_drain_survives :
    ∃ outcome data, compose ((insertAll {} (furnishedRack ++ [switchOrder 1 100 .drain])).insertAll
        [switchOrder 2 999 .clear, switchOrder 1 50 .clear]) { rack := 7 } ⟨0, 1, .active, {}⟩ = .ok outcome ∧
      outcome.snapshot.handle = some data ∧ data.ports.length = 2 ∧ Drained data ⟨.device, 3⟩ := by
  have evaluated : (compose ((insertAll {} (furnishedRack ++ [switchOrder 1 100 .drain])).insertAll
      [switchOrder 2 999 .clear, switchOrder 1 50 .clear]) { rack := 7 } ⟨0, 1, .active, {}⟩).passes fun outcome =>
        outcome.snapshot.data.ports.length == 2 := by decide +kernel
  obtain ⟨outcome, succeeds, evaluated⟩ := Result.exists_of_passes evaluated
  obtain ⟨data, published, drained⟩ := drain_survives {} (furnishedRack ++ [switchOrder 1 100 .drain])
    [switchOrder 2 999 .clear, switchOrder 1 50 .clear] { rack := 7 } ⟨0, 1, .active, {}⟩
    (switchOrder 1 100 .drain) ⟨.drain, .device, 3, []⟩ outcome rfl rfl (.inl rfl)
    (by decide +kernel) (by decide +kernel) succeeds
  refine ⟨outcome, data, succeeds, published, ?_, drained⟩
  rw [Snapshot.data, published] at evaluated
  simpa using evaluated

end RackFabric
