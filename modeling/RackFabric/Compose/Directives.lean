import RackFabric.Compose.Disputes
import RackFabric.Compose.Drain
import RackFabric.Compose.Walks

/-!
Maintenance flags from the directives that stand. A flag is looked up under packed keys, once where eligibility is
decided and once more where the state is built; what it says is compared here with what the directives name.
-/

namespace RackFabric

open Foundation

/-- What a drain or maintenance directive names. -/
def EvidencePayload.windowed : EvidencePayload → Option ResourceRef
  | .maintenance claim =>
    if claim.action = .drain ∨ claim.action = .maintenance then some ⟨claim.targetKind, claim.targetId⟩ else none
  | _ => none

theorem EvidencePayload.directed_of_windowed {payload : EvidencePayload} {ref : ResourceRef}
    (window : payload.windowed = some ref) : payload.directed = some ref := by
  cases payload with
  | maintenance claim =>
    simp only [windowed] at window
    split at window
    · rename_i acts
      rw [directed, if_neg, window]
      intro cleared
      rcases acts with drains | maintains
      · rw [drains] at cleared
        cases cleared
      · rw [maintains] at cleared
        cases cleared
    · cases window
  | _ => cases window

section Grounds

variable (ports : List PortRecord) (links : List LinkRecord)

def deviceOfPort (port : UInt64) : List ResourceRef :=
  (portRecord ports port).toList.map fun record => ⟨.device, record.device⟩

/-- The resources whose directives flag a device, a port or a link, as the resource pass looks them up. -/
def consulted (ref : ResourceRef) : List ResourceRef :=
  ⟨.rack, 0⟩ :: match ref.kind with
    | .device => [ref]
    | .port => ref :: deviceOfPort ports ref.id
    | .link => ref :: (linkRecord links ref.id).toList.flatMap fun link =>
        deviceOfPort ports link.portA ++ deviceOfPort ports link.portB
    | _ => []

def endpointsOf (ref : ResourceRef) : List ResourceRef :=
  match ref.kind with
  | .link => (linkRecord links ref.id).toList.flatMap fun link => [⟨.port, link.portA⟩, ⟨.port, link.portB⟩]
  | _ => []

/-- The resources whose windows may take a resource out of service: itself, what it rests on, and the rack. -/
def grounds (config : RackConfig) (ref : ResourceRef) : List ResourceRef :=
  ⟨.rack, config.rack⟩ :: endpointsOf links ref ++ consulted ports links ref

end Grounds

section Flags

variable {ledger : EvidenceLedger} {config : RackConfig} {request : ComposeInput} {data : SnapshotData}

/-- A drain or maintenance directive that applies names exactly this resource. -/
def Windowed (ledger : EvidenceLedger) (request : ComposeInput) (ref : ResourceRef) : Prop :=
  ∃ record ∈ ledger.applied request.generation, record.payload.windowed = some ref

theorem Composed.port_member (composed : Composed ledger config request data) {port : PortRecord}
    (member : port ∈ data.ports) : (gather ledger config request).members.contains port.device = true := by
  obtain ⟨claim, -, published⟩ := composed.port_published member
  have inside := publishedPort_member published
  obtain ⟨record, same, -, device, -⟩ := publishedPort_some (gather ledger config request) data.devices port.id inside
  rw [published] at same
  cases same
  rw [device]
  exact inside

theorem Gathered.deviceExcluded_of_member {gathered : Gathered} {device : UInt64}
    (member : gathered.members.contains device = true) :
    gathered.deviceExcluded device = gathered.exclusionOf .device device := by
  rw [Gathered.deviceExcluded, member, Bool.true_and]

theorem Composed.portDeviceExcluded_iff (composed : Composed ledger config request data) (port : UInt64) :
    portDeviceExcluded (gather ledger config request) data.ports port = true ↔
      ∃ ref ∈ deviceOfPort data.ports port, (gather ledger config request).exclusionOf ref.kind ref.id = true := by
  rw [portDeviceExcluded, deviceOfPort]
  cases found : portRecord data.ports port with
  | none => simp
  | some record =>
    have listed := composed.port_member (composed.portRecord_iff.mp found).1
    simp [Gathered.deviceExcluded_of_member listed]

/-- A device, port or link is flagged exactly when something it is looked up under is excluded. -/
theorem Composed.flag_iff (composed : Composed ledger config request data) {state : ResourceState}
    (member : state ∈ data.resources) (kind : state.ref.kind ∈ [ResourceKind.device, .port, .link]) :
    state.maintenance = true ↔ ∃ ref ∈ consulted data.ports data.links state.ref,
      (gather ledger config request).excludedEntry ref.kind ref.id = true := by
  obtain ⟨inputs, published, gathered, -, devices, ports, links, -⟩ := composed.resources
  rw [published] at member
  rcases ResourceInputs.mem_resources member with rfl | ⟨device, found, rfl⟩ | ⟨port, found, rfl⟩ |
    ⟨link, found, rfl⟩ | ⟨attachment, found, rfl⟩ | ⟨path, found, rfl⟩
  · simp [ResourceInputs.rackResource] at kind
  · have listed : (gather ledger config request).members.contains device.id = true := by
      rw [Std.ExtTreeMap.contains_iff_mem, ← mem_composeDevices_ids, ← composed.devices, ← devices]
      exact List.mem_map_of_mem found
    simp only [ResourceInputs.deviceResource, gathered, consulted, Gathered.deviceExcluded_of_member listed,
      Gathered.exclusionOf, Gathered.rackExcluded]
    simp
  · rw [ports] at found
    have own : portRecord data.ports port.id = some port := composed.portRecord_iff.mpr ⟨found, rfl⟩
    simp only [ResourceInputs.portResource, gathered, consulted, deviceOfPort, own,
      Gathered.deviceExcluded_of_member (composed.port_member found), Gathered.exclusionOf, Gathered.rackExcluded]
    simp
    tauto
  · rw [links] at found
    have own : linkRecord data.links link.id = some link := composed.linkRecord_iff.mpr ⟨found, rfl⟩
    simp only [ResourceInputs.linkResource, gathered, consulted, own, ports, Bool.or_eq_true,
      composed.portDeviceExcluded_iff, Gathered.exclusionOf, Gathered.rackExcluded, List.exists_mem_cons_iff,
      Option.toList_some, List.flatMap_cons, List.flatMap_nil, List.append_nil, List.mem_append]
    by_cases rack : (gather ledger config request).excludedEntry .rack 0 = true
    · simp [rack]
    · simp only [rack, Bool.false_eq_true, false_or, or_and_right, exists_or]
      exact or_comm
  · simp [ResourceInputs.attachmentResource] at kind
  · simp [ResourceInputs.pathResource] at kind

/-! ### No collateral maintenance -/

/-- Whatever is flagged has a drain or maintenance directive that names it or something it rests on. -/
def FlagsGrounded (ledger : EvidenceLedger) (config : RackConfig) (request : ComposeInput) (data : SnapshotData) : Prop :=
  ∀ state ∈ data.resources, state.ref.kind ∈ [ResourceKind.device, .port, .link] → state.maintenance = true →
    ∃ ref ∈ grounds data.ports data.links config state.ref, Windowed ledger request ref

/-- The devices, ports and links that the evidence gives rise to. -/
def composedSubjects (ledger : EvidenceLedger) (config : RackConfig) (request : ComposeInput) : List ResourceRef :=
  (composedDevices ledger config request).map (fun device => ⟨.device, device.id⟩) ++
    (composedPorts ledger config request).map (fun port => ⟨.port, port.id⟩) ++
    (composedLinks ledger config request).map fun link => ⟨.link, link.id⟩

/-- A directive that is neither a clear nor names what is looked up, or is of no known action, but has its packed key,
is harmless: a window on the same resource or what it rests on is open anyway. -/
def AliasesCovered (ledger : EvidenceLedger) (config : RackConfig) (request : ComposeInput) : Prop :=
  ∀ subject ∈ composedSubjects ledger config request,
    ∀ ref ∈ consulted (composedPorts ledger config request) (composedLinks ledger config request) subject,
    ∀ record ∈ ledger.applied request.generation, ∀ named, record.payload.directed = some named →
      packRef named.kind named.id = packRef ref.kind ref.id →
      named ≠ ref ∨ record.payload.windowed = none →
      ∃ ground ∈ grounds (composedPorts ledger config request) (composedLinks ledger config request) config subject,
        Windowed ledger request ground

theorem Composed.mem_composedSubjects (composed : Composed ledger config request data) (own : data.rack = config.rack)
    (ref : ResourceRef) : ref ∈ composedSubjects ledger config request ↔
      ref ∈ data.resources.map ResourceState.ref ∧ ref.kind ∈ [ResourceKind.device, .port, .link] := by
  rw [composed.mem_subjects own, data.mem_subjects_iff, composedSubjects, ← composed.devices_eq, ← composed.ports_eq,
    ← composed.links_eq]
  simp only [List.mem_append, List.mem_cons, List.mem_map, List.not_mem_nil, or_false]
  constructor
  · intro listed
    rcases listed with (⟨device, found, rfl⟩ | ⟨port, found, rfl⟩) | ⟨link, found, rfl⟩
    · exact ⟨.inr (.inl ⟨device, found, rfl⟩), .inl rfl⟩
    · exact ⟨.inr (.inr (.inl ⟨port, found, rfl⟩)), .inr (.inl rfl)⟩
    · exact ⟨.inr (.inr (.inr (.inl ⟨link, found, rfl⟩))), .inr (.inr rfl)⟩
  · intro stated
    obtain ⟨rfl | found | found | found | ⟨_, _, rfl⟩ | ⟨_, _, rfl⟩, kind⟩ := stated
    · simp at kind
    · exact .inl (.inl found)
    · exact .inl (.inr found)
    · exact .inr found
    · simp at kind
    · simp at kind

/-- Flags are grounded when the directives that merely share a key with something are covered, and not otherwise. -/
theorem compose_flags_grounded_iff {outcome : ComposeOutcome} (composed : compose ledger config request = .ok outcome) :
    FlagsGrounded ledger config request outcome.snapshot.data ↔ AliasesCovered ledger config request := by
  obtain ⟨data, held, passes⟩ := compose_composed composed
  obtain ⟨same, first, own, -⟩ := compose_header composed
  rw [held] at first
  cases first
  have stored : outcome.snapshot.data = data := by rw [Snapshot.data, held, Option.getD_some]
  rw [stored]
  constructor
  · intro grounded subject listed ref looked record applies named directed shared _
    obtain ⟨stated, kind⟩ := (passes.mem_composedSubjects own subject).mp listed
    obtain ⟨state, member, rfl⟩ := List.mem_map.mp stated
    rw [← passes.ports_eq, ← passes.links_eq] at looked ⊢
    refine grounded state member kind ((passes.flag_iff member kind).mpr ⟨ref, looked, ?_⟩)
    exact (gather_excludedEntry ledger config request ref.kind ref.id).mpr ⟨record, applies, named, directed, shared⟩
  · intro covered state member kind flagged
    obtain ⟨ref, looked, excluded⟩ := (passes.flag_iff member kind).mp flagged
    obtain ⟨record, applies, named, directed, shared⟩ :=
      (gather_excludedEntry ledger config request ref.kind ref.id).mp excluded
    by_cases plain : named = ref ∧ record.payload.windowed ≠ none
    · obtain ⟨rfl, acts⟩ := plain
      obtain ⟨window, acting⟩ := Option.ne_none_iff_exists'.mp acts
      have same := EvidencePayload.directed_of_windowed acting
      rw [directed] at same
      cases same
      exact ⟨named, List.mem_append_right _ looked, record, applies, acting⟩
    · have listed := (passes.mem_composedSubjects own state.ref).mpr ⟨List.mem_map_of_mem member, kind⟩
      rw [passes.ports_eq, passes.links_eq] at looked ⊢
      refine covered state.ref listed ref looked record applies named directed shared ?_
      by_cases same : named = ref
      · right
        by_contra acts
        exact plain ⟨same, acts⟩
      · exact .inl same

/-! ### The two maintenance computations -/

/-- What the link pass takes a link with two known ports out of service for. -/
def Gathered.linkExcluded (gathered : Gathered) (link : UInt64) (a b : PortRecord) : Bool :=
  gathered.deviceExcluded a.device || gathered.deviceExcluded b.device || gathered.exclusionOf .port a.id ||
    gathered.exclusionOf .port b.id || gathered.exclusionOf .link link

/-- Links and attachments with known ports are flagged exactly when a directive excludes what they rest on. -/
structure FlagsAgree (gathered : Gathered) (data : SnapshotData) : Prop where
  links : ∀ link ∈ data.links, ∀ a b, portRecord data.ports link.portA = some a →
    portRecord data.ports link.portB = some b → ∀ state ∈ data.resources, state.ref = ⟨.link, link.id⟩ →
    (state.maintenance = true ↔ gathered.linkExcluded link.id a b = true)
  attachments : ∀ attachment ∈ data.attachments, (portRecord data.ports attachment.port).isSome = true →
    ∀ state ∈ data.resources, state.ref = ⟨.attachment, attachment.id⟩ →
    (state.maintenance = true ↔ gathered.exclusionOf .port attachment.port = true ∨
      gathered.exclusionOf .device attachment.device = true)

/-- A directive on a port does not stand alone: something else the flags of its links and attachments do consult is under
a directive too, and no attachment to a known port under a directive names a device from elsewhere. -/
structure PortsCovered (gathered : Gathered) (ports : List PortRecord) (links : List LinkRecord)
    (attachments : List AttachmentRecord) : Prop where
  links : ∀ link ∈ links, ∀ a b, portRecord ports link.portA = some a → portRecord ports link.portB = some b →
    gathered.excludedEntry .port a.id = true ∨ gathered.excludedEntry .port b.id = true →
    gathered.exclusionOf .device a.device = true ∨ gathered.exclusionOf .device b.device = true ∨
      gathered.exclusionOf .link link.id = true
  attachments : ∀ attachment ∈ attachments, (portRecord ports attachment.port).isSome = true →
    gathered.exclusionOf .port attachment.port = true ∨ gathered.exclusionOf .device attachment.device = true →
    gathered.members.contains attachment.device = true ∧ gathered.exclusionOf .device attachment.device = true

theorem Composed.link_state (composed : Composed ledger config request data) {link : LinkRecord}
    (member : link ∈ data.links) {a b : PortRecord} (first : portRecord data.ports link.portA = some a)
    (second : portRecord data.ports link.portB = some b) {state : ResourceState} (stated : state ∈ data.resources)
    (own : state.ref = ⟨.link, link.id⟩) :
    state.maintenance = true ↔ (gather ledger config request).exclusionOf .device a.device = true ∨
      (gather ledger config request).exclusionOf .device b.device = true ∨
      (gather ledger config request).exclusionOf .link link.id = true := by
  have found : linkRecord data.links link.id = some link := composed.linkRecord_iff.mpr ⟨member, rfl⟩
  rw [composed.flag_iff stated (by simp [own]), own]
  simp only [consulted, found, deviceOfPort, first, second, Gathered.exclusionOf, Gathered.rackExcluded,
    Option.toList_some, List.flatMap_cons, List.flatMap_nil, List.append_nil, List.map_cons, List.map_nil,
    List.cons_append, List.nil_append, List.exists_mem_cons_iff, List.not_mem_nil, false_and, exists_false, or_false,
    Bool.or_eq_true]
  constructor
  · intro looked
    rcases looked with rack | own | device | device
    · exact .inl (.inl rack)
    · exact .inr (.inr (.inr own))
    · exact .inl (.inr device)
    · exact .inr (.inl (.inr device))
  · intro excluded
    rcases excluded with (rack | device) | (rack | device) | rack | own
    · exact .inl rack
    · exact .inr (.inr (.inl device))
    · exact .inl rack
    · exact .inr (.inr (.inr device))
    · exact .inl rack
    · exact .inr (.inl own)

theorem Composed.linkExcluded_iff (composed : Composed ledger config request data) {link : UInt64} {a b : PortRecord}
    (first : a ∈ data.ports) (second : b ∈ data.ports) :
    (gather ledger config request).linkExcluded link a b = true ↔
      ((gather ledger config request).excludedEntry .port a.id = true ∨
        (gather ledger config request).excludedEntry .port b.id = true) ∨
      (gather ledger config request).exclusionOf .device a.device = true ∨
      (gather ledger config request).exclusionOf .device b.device = true ∨
      (gather ledger config request).exclusionOf .link link = true := by
  simp only [Gathered.linkExcluded, Gathered.deviceExcluded_of_member (composed.port_member first),
    Gathered.deviceExcluded_of_member (composed.port_member second), Gathered.exclusionOf, Bool.or_eq_true]
  tauto

theorem Composed.attachment_state (composed : Composed ledger config request data) {attachment : AttachmentRecord}
    (member : attachment ∈ data.attachments) {state : ResourceState} (stated : state ∈ data.resources)
    (own : state.ref = ⟨.attachment, attachment.id⟩) :
    state.maintenance = (gather ledger config request).deviceExcluded attachment.device ∧
      state.eligibility = attachment.eligibility := by
  obtain ⟨inputs, published, gathered, -, -, -, -, attachments, -⟩ := composed.resources
  rw [published] at stated
  rcases ResourceInputs.mem_resources stated with rfl | ⟨_, _, rfl⟩ | ⟨_, _, rfl⟩ | ⟨_, _, rfl⟩ |
    ⟨other, found, rfl⟩ | ⟨_, _, rfl⟩
  · cases own
  · cases own
  · cases own
  · cases own
  · rw [attachments] at found
    have same : other = attachment :=
      List.inj_on_of_nodup_map composed.attachment_ids found member (congrArg ResourceRef.id own)
    subst same
    simp only [ResourceInputs.attachmentResource, gathered, and_self]
  · cases own

/-- The two computations agree where no directive stands on a port alone, and nowhere else. -/
theorem compose_flags_agree_iff {outcome : ComposeOutcome} (composed : compose ledger config request = .ok outcome) :
    FlagsAgree (gather ledger config request) outcome.snapshot.data ↔
      PortsCovered (gather ledger config request) (composedPorts ledger config request)
        (composedLinks ledger config request) (composedAttachments ledger config request) := by
  obtain ⟨data, held, passes⟩ := compose_composed composed
  obtain ⟨same, first, own, -⟩ := compose_header composed
  rw [held] at first
  cases first
  have stored : outcome.snapshot.data = data := by rw [Snapshot.data, held, Option.getD_some]
  rw [stored, ← passes.ports_eq, ← passes.links_eq, ← passes.attachments_eq]
  have stated : ∀ ref ∈ data.subjects, ∃ state ∈ data.resources, state.ref = ref := by
    intro ref subject
    exact List.mem_map.mp ((passes.mem_subjects own ref).mpr subject)
  constructor
  · intro agree
    constructor
    · intro link member a b foundA foundB port
      obtain ⟨state, listed, named⟩ := stated ⟨.link, link.id⟩
        ((data.mem_subjects_iff _).mpr (.inr (.inr (.inr (.inl ⟨link, member, rfl⟩)))))
      refine (passes.link_state member foundA foundB listed named).mp ?_
      refine (agree.links link member a b foundA foundB state listed named).mpr ?_
      exact (passes.linkExcluded_iff (findSorted_some foundA).1 (findSorted_some foundB).1).mpr (.inl port)
    · intro attachment member known excluded
      obtain ⟨state, listed, named⟩ := stated ⟨.attachment, attachment.id⟩
        ((data.mem_subjects_iff _).mpr (.inr (.inr (.inr (.inr (.inl ⟨attachment, member, rfl⟩))))))
      have flagged := (agree.attachments attachment member known state listed named).mpr excluded
      rwa [(passes.attachment_state member listed named).1, Gathered.deviceExcluded, Bool.and_eq_true] at flagged
  · intro covered
    constructor
    · intro link member a b foundA foundB state listed named
      rw [passes.link_state member foundA foundB listed named,
        passes.linkExcluded_iff (findSorted_some foundA).1 (findSorted_some foundB).1]
      exact ⟨.inr, fun excluded => excluded.elim (covered.links link member a b foundA foundB) fun rest => rest⟩
    · intro attachment member known state listed named
      rw [(passes.attachment_state member listed named).1]
      constructor
      · intro flagged
        rw [Gathered.deviceExcluded, Bool.and_eq_true] at flagged
        exact .inr flagged.2
      · intro excluded
        rw [Gathered.deviceExcluded, Bool.and_eq_true]
        exact covered.attachments attachment member known excluded

/-! ### Directives on attachments and paths -/

/-- A window on an attachment or a path that the snapshot has a state of keeps that state from being eligible. -/
def WindowsFelt (ledger : EvidenceLedger) (request : ComposeInput) (data : SnapshotData) : Prop :=
  ∀ (slot : EvidenceSlot) (record : EvidenceRecord) (target : ResourceRef), ledger.slots[slot]? = some record →
    applicabilityOf record request.generation = .apply → record.payload.windowed = some target →
    target.kind = .attachment ∨ target.kind = .path →
    ∀ state ∈ data.resources, state.ref = target → state.eligibility ≠ .eligible

/-- A claim binds a host to an eligible port of the eligible device it names. -/
def Binds (devices : List DeviceRecord) (ports : List PortRecord) (claim : Selection AttachmentClaim) : Prop :=
  claim.conflicted = false ∧ ∃ device port, deviceRecord devices claim.value.device = some device ∧
    portRecord ports claim.value.port = some port ∧ port.device = claim.value.device ∧
    device.eligibility = .eligible ∧ port.eligibility = .eligible

/-- No window is open on a path that the search finds, nor on an attachment that binds. -/
structure WindowsIdle (ledger : EvidenceLedger) (config : RackConfig) (request : ComposeInput) : Prop where
  paths : ∀ id ∈ enumeratedPaths ledger config request, ¬ Windowed ledger request ⟨.path, id⟩
  attachments : ∀ id, Windowed ledger request ⟨.attachment, id⟩ →
    ∀ claim, (gather ledger config request).attachmentClaims[id]? = some claim →
      ¬ Binds (composedDevices ledger config request) (composedPorts ledger config request) claim

theorem publishedAttachment_eligible {devices : List DeviceRecord} {ports : List PortRecord} {id : UInt64}
    {claim : Selection AttachmentClaim} {attachment : AttachmentRecord}
    (published : publishedAttachment devices ports (id, claim) = some attachment) :
    attachment.eligibility = .eligible ↔ Binds devices ports claim := by
  simp only [publishedAttachment, composeAttachment] at published
  cases foundDevice : deviceRecord devices claim.value.device with
  | none =>
    simp only [foundDevice] at published
    cases published
    simp [Binds, foundDevice]
  | some device =>
    cases foundPort : portRecord ports claim.value.port with
    | none =>
      simp only [foundDevice, foundPort] at published
      cases published
      simp [Binds, foundPort]
    | some port =>
      simp only [foundDevice, foundPort] at published
      by_cases strange : port.device ≠ claim.value.device
      · rw [if_pos strange] at published
        cases published
        simp [Binds, foundPort, strange]
      rw [if_neg strange] at published
      by_cases conflicted : claim.conflicted = true
      · rw [if_pos conflicted] at published
        cases published
        simp [Binds, conflicted]
      rw [if_neg conflicted] at published
      by_cases unusable : device.eligibility ≠ .eligible ∨ port.eligibility ≠ .eligible
      · rw [if_pos unusable] at published
        cases published
        simp only [Binds, foundDevice, foundPort, Option.some.injEq, exists_and_left, exists_eq_left']
        simp
        tauto
      · rw [if_neg unusable] at published
        cases published
        rw [not_or, not_not, not_not] at unusable
        simp only [Binds, foundDevice, foundPort, Option.some.injEq, true_iff]
        exact ⟨by simpa using conflicted, device, port, rfl, rfl, not_not.mp strange, unusable.1, unusable.2⟩

theorem windows_applied {target : ResourceRef} : Windowed ledger request target ↔
    ∃ (slot : EvidenceSlot) (record : EvidenceRecord), ledger.slots[slot]? = some record ∧
      applicabilityOf record request.generation = .apply ∧ record.payload.windowed = some target := by
  simp only [Windowed, EvidenceLedger.mem_applied]
  constructor
  · intro window
    obtain ⟨record, ⟨slot, stored, applies⟩, named⟩ := window
    exact ⟨slot, record, stored, applies, named⟩
  · intro window
    obtain ⟨slot, record, stored, applies, named⟩ := window
    exact ⟨record, ⟨slot, stored, applies⟩, named⟩

theorem Composed.path_state (composed : Composed ledger config request data) {state : ResourceState}
    (stated : state ∈ data.resources) (own : state.ref.kind = .path) :
    ∃ path ∈ data.paths, path.id = state.ref.id ∧ state.eligibility = path.eligibility := by
  obtain ⟨inputs, published, -, -, -, -, -, -, paths⟩ := composed.resources
  rw [published] at stated
  rcases ResourceInputs.mem_resources stated with rfl | ⟨_, _, rfl⟩ | ⟨_, _, rfl⟩ | ⟨_, _, rfl⟩ | ⟨_, _, rfl⟩ |
    ⟨path, found, rfl⟩
  · cases own
  · cases own
  · cases own
  · cases own
  · cases own
  · exact ⟨path, paths ▸ found, rfl, rfl⟩

/-- Windows on attachments and paths are felt where they are idle anyway, and nowhere else. -/
theorem compose_windows_felt_iff {outcome : ComposeOutcome} (composed : compose ledger config request = .ok outcome) :
    WindowsFelt ledger request outcome.snapshot.data ↔ WindowsIdle ledger config request := by
  obtain ⟨data, held, passes⟩ := compose_composed composed
  obtain ⟨same, first, own, -⟩ := compose_header composed
  rw [held] at first
  cases first
  have paths := compose_paths composed held
  have stored : outcome.snapshot.data = data := by rw [Snapshot.data, held, Option.getD_some]
  have sound : ∀ path ∈ data.paths, path.eligibility = .eligible := by
    intro path member
    exact (passes.paths_sound path member).eligible
  rw [stored]
  have stated : ∀ ref ∈ data.subjects, ∃ state ∈ data.resources, state.ref = ref := by
    intro ref subject
    exact List.mem_map.mp ((passes.mem_subjects own ref).mpr subject)
  constructor
  · intro felt
    constructor
    · intro id listed window
      obtain ⟨slot, record, held, applies, named⟩ := windows_applied.mp window
      rw [← paths] at listed
      obtain ⟨path, member, rfl⟩ := List.mem_map.mp listed
      obtain ⟨state, listed, ref⟩ := stated ⟨.path, path.id⟩
        ((data.mem_subjects_iff _).mpr (.inr (.inr (.inr (.inr (.inr ⟨path, member, rfl⟩))))))
      obtain ⟨other, found, -, same⟩ := passes.path_state listed (by rw [ref])
      exact felt slot record _ held applies named (.inr rfl) state listed ref (same.trans (sound other found))
    · intro id window claim chosen binds
      obtain ⟨slot, record, held, applies, named⟩ := windows_applied.mp window
      rw [← passes.devices_eq, ← passes.ports_eq] at binds
      obtain ⟨attachment, published, same, -⟩ := publishedAttachment_some data.devices data.ports (id, claim)
      subst same
      have member : attachment ∈ data.attachments := passes.attachment_published.mpr ⟨claim, chosen, published⟩
      obtain ⟨state, listed, ref⟩ := stated ⟨.attachment, attachment.id⟩
        ((data.mem_subjects_iff _).mpr (.inr (.inr (.inr (.inr (.inl ⟨attachment, member, rfl⟩))))))
      refine felt slot record _ held applies named (.inl rfl) state listed ref ?_
      rw [(passes.attachment_state member listed ref).2]
      exact (publishedAttachment_eligible published).mpr binds
  · intro idle slot record target held applies named kind state listed ref eligible
    have window : Windowed ledger request target := windows_applied.mpr ⟨slot, record, held, applies, named⟩
    obtain ⟨kindOf, id⟩ := target
    rcases kind with rfl | rfl
    · have subject := (passes.mem_subjects own _).mp (List.mem_map_of_mem listed)
      rw [ref] at subject
      obtain ⟨attachment, member, same⟩ : ∃ attachment ∈ data.attachments, attachment.id = id := by
        rcases (data.mem_subjects_iff _).mp subject with other | ⟨_, _, other⟩ | ⟨_, _, other⟩ | ⟨_, _, other⟩ |
          ⟨attachment, member, same⟩ | ⟨_, _, other⟩
        · cases other
        · cases other
        · cases other
        · cases other
        · exact ⟨attachment, member, congrArg ResourceRef.id same⟩
        · cases other
      subst same
      obtain ⟨claim, chosen, published⟩ := passes.attachment_published.mp member
      apply idle.attachments attachment.id window claim chosen
      rw [← passes.devices_eq, ← passes.ports_eq]
      apply (publishedAttachment_eligible published).mp
      rw [← (passes.attachment_state member listed ref).2]
      exact eligible
    · obtain ⟨path, member, same, -⟩ := passes.path_state listed (by rw [ref])
      apply idle.paths id ?_ window
      rw [← paths, List.mem_map]
      exact ⟨path, member, same.trans (congrArg ResourceRef.id ref)⟩

end Flags

/-! ### Directives on the furnished rack -/

/-- A drain of one resource. -/
def drainOf (kind : ResourceKind) (id : UInt64) : EvidenceRecord where
  provenance := { source := 1, sequence := 2 }
  payload := .maintenance { action := .drain, targetKind := kind, targetId := id, reason := [] }

def withDrain (kind : ResourceKind) (id : UInt64) : EvidenceLedger :=
  EvidenceLedger.insertAll {} (furnishedRack ++ [drainOf kind id])

/-- A drain of a device whose identity ends like the switch's flags the switch. -/
theorem far_drain_flags_switch :
    ∃ outcome, compose (withDrain .device 0x0100000000000003) { rack := 7 } ⟨0, 1, .active, {}⟩ = .ok outcome ∧
      ¬ FlagsGrounded (withDrain .device 0x0100000000000003) { rack := 7 } ⟨0, 1, .active, {}⟩
        outcome.snapshot.data := by
  have held : (compose (withDrain .device 0x0100000000000003) { rack := 7 } ⟨0, 1, .active, {}⟩).passes fun outcome =>
      outcome.snapshot.data.resources.any fun state => state.maintenance && state.ref == ⟨.device, 3⟩ := by rfl
  have elsewhere : ∀ record ∈ (withDrain .device 0x0100000000000003).applied 0,
      record.payload.windowed ∉ [some ⟨.rack, 7⟩, some ⟨.rack, 0⟩, some ⟨.device, 3⟩] := by decide +kernel
  obtain ⟨outcome, composed, held⟩ := Result.exists_of_passes held
  refine ⟨outcome, composed, ?_⟩
  intro grounded
  obtain ⟨state, member, flagged⟩ := List.any_eq_true.mp held
  simp only [Bool.and_eq_true, beq_iff_eq] at flagged
  obtain ⟨ref, listed, record, applies, window⟩ := grounded state member (by simp [flagged.2]) flagged.1
  apply elsewhere record applies
  rw [window]
  simpa [grounds, endpointsOf, consulted, flagged.2] using listed

/-- A drain of the switch flags what rests on it, for cause. -/
theorem drained_switch_grounded :
    ∃ outcome, compose (withDrain .device 3) { rack := 7 } ⟨0, 1, .active, {}⟩ = .ok outcome ∧
      FlagsGrounded (withDrain .device 3) { rack := 7 } ⟨0, 1, .active, {}⟩ outcome.snapshot.data ∧
      (outcome.snapshot.data.resources.filter fun state => state.maintenance).length = 5 := by
  have held : (compose (withDrain .device 3) { rack := 7 } ⟨0, 1, .active, {}⟩).passes fun outcome =>
      (outcome.snapshot.data.resources.filter fun state => state.maintenance).length == 5 := by rfl
  have plain : ∀ record ∈ (withDrain .device 3).applied 0, record.payload.directed.all (fun named =>
      decide (record.payload.windowed = some named) &&
        (composedSubjects (withDrain .device 3) { rack := 7 } ⟨0, 1, .active, {}⟩).all fun subject =>
          (consulted (composedPorts (withDrain .device 3) { rack := 7 } ⟨0, 1, .active, {}⟩)
            (composedLinks (withDrain .device 3) { rack := 7 } ⟨0, 1, .active, {}⟩) subject).all fun ref =>
              packRef named.kind named.id != packRef ref.kind ref.id || named == ref) = true := by decide +kernel
  obtain ⟨outcome, composed, held⟩ := Result.exists_of_passes held
  refine ⟨outcome, composed, (compose_flags_grounded_iff composed).mpr ?_, by simpa using held⟩
  intro subject listed ref looked record applies named directed shared strange
  have exact := plain record applies
  rw [directed, Option.all_some, Bool.and_eq_true, decide_eq_true_eq] at exact
  have alike := List.all_eq_true.mp (List.all_eq_true.mp exact.2 subject listed) ref looked
  rcases strange with apart | acts
  · simp [shared, apart] at alike
  · rw [exact.1] at acts
    cases acts

/-- A drain of port 4 excludes the port of the attachment, whose flag stays unset. -/
theorem drained_port_unflagged :
    ∃ outcome, compose (withDrain .port 4) { rack := 7 } ⟨0, 1, .active, {}⟩ = .ok outcome ∧
      ¬ FlagsAgree (gather (withDrain .port 4) { rack := 7 } ⟨0, 1, .active, {}⟩) outcome.snapshot.data := by
  have held : (compose (withDrain .port 4) { rack := 7 } ⟨0, 1, .active, {}⟩).passes fun outcome =>
      (outcome.snapshot.data.attachments.any fun attachment => attachment.id == 8 && attachment.port == 4 &&
        (portRecord outcome.snapshot.data.ports attachment.port).isSome) &&
      outcome.snapshot.data.resources.any fun state => !state.maintenance && state.ref == ⟨.attachment, 8⟩ := by
    rfl
  have excluded : (gather (withDrain .port 4) { rack := 7 } ⟨0, 1, .active, {}⟩).exclusionOf .port 4 = true := by
    rfl
  obtain ⟨outcome, composed, held⟩ := Result.exists_of_passes held
  refine ⟨outcome, composed, ?_⟩
  intro agree
  simp only [Bool.and_eq_true, List.any_eq_true, Bool.not_eq_true', beq_iff_eq] at held
  obtain ⟨⟨attachment, member, ⟨named, port⟩, known⟩, state, stated, unflagged, own⟩ := held
  have flagged := (agree.attachments attachment member known state stated (by rw [own, named])).mpr
    (.inl (by rw [port]; exact excluded))
  rw [unflagged] at flagged
  cases flagged

/-- A drain of the switch is seen by both computations. -/
theorem drained_switch_agrees :
    ∃ outcome, compose (withDrain .device 3) { rack := 7 } ⟨0, 1, .active, {}⟩ = .ok outcome ∧
      FlagsAgree (gather (withDrain .device 3) { rack := 7 } ⟨0, 1, .active, {}⟩) outcome.snapshot.data ∧
      outcome.snapshot.data.links.length = 1 ∧ outcome.snapshot.data.attachments.length = 1 := by
  have held : (compose (withDrain .device 3) { rack := 7 } ⟨0, 1, .active, {}⟩).passes fun outcome =>
      outcome.snapshot.data.links.length == 1 && outcome.snapshot.data.attachments.length == 1 := by rfl
  have ports : ∀ port ∈ composedPorts (withDrain .device 3) { rack := 7 } ⟨0, 1, .active, {}⟩,
      (gather (withDrain .device 3) { rack := 7 } ⟨0, 1, .active, {}⟩).excludedEntry .port port.id = false := by
    decide +kernel
  have attachments : ∀ attachment ∈ composedAttachments (withDrain .device 3) { rack := 7 } ⟨0, 1, .active, {}⟩,
      (gather (withDrain .device 3) { rack := 7 } ⟨0, 1, .active, {}⟩).members.contains attachment.device = true ∧
        (gather (withDrain .device 3) { rack := 7 } ⟨0, 1, .active, {}⟩).exclusionOf .device attachment.device =
          true := by decide +kernel
  obtain ⟨outcome, composed, held⟩ := Result.exists_of_passes held
  simp only [Bool.and_eq_true, beq_iff_eq] at held
  refine ⟨outcome, composed, (compose_flags_agree_iff composed).mpr ?_, held⟩
  constructor
  · intro link member a b foundA foundB excluded
    rw [ports a (findSorted_some foundA).1, ports b (findSorted_some foundB).1] at excluded
    simp at excluded
  · intro attachment member _ _
    exact attachments attachment member

/-- A drain of the attachment leaves it in service. -/
theorem drained_attachment_eligible :
    ∃ outcome, compose (withDrain .attachment 8) { rack := 7 } ⟨0, 1, .active, {}⟩ = .ok outcome ∧
      ¬ WindowsFelt (withDrain .attachment 8) ⟨0, 1, .active, {}⟩ outcome.snapshot.data := by
  have held : (compose (withDrain .attachment 8) { rack := 7 } ⟨0, 1, .active, {}⟩).passes fun outcome =>
      outcome.snapshot.data.resources.any fun state =>
        state.ref == ⟨.attachment, 8⟩ && state.eligibility == .eligible := by rfl
  have open_ : ∃ record ∈ (withDrain .attachment 8).applied 0,
      record.payload.windowed = some ⟨.attachment, 8⟩ := by decide +kernel
  obtain ⟨outcome, composed, held⟩ := Result.exists_of_passes held
  refine ⟨outcome, composed, ?_⟩
  intro felt
  obtain ⟨state, listed, shape⟩ := List.any_eq_true.mp held
  simp only [Bool.and_eq_true, beq_iff_eq] at shape
  obtain ⟨record, applied, named⟩ := open_
  obtain ⟨slot, stored, applies⟩ := EvidenceLedger.mem_applied.mp applied
  exact felt slot record _ stored applies named (.inl rfl) state listed shape.1 shape.2

/-- A drain of the attachment beside one of its switch is felt. -/
theorem drained_switch_felt :
    ∃ outcome, compose ((withDrain .attachment 8).insertAll [drainOf .device 3]) { rack := 7 } ⟨0, 1, .active, {}⟩ =
      .ok outcome ∧ WindowsFelt ((withDrain .attachment 8).insertAll [drainOf .device 3]) ⟨0, 1, .active, {}⟩
        outcome.snapshot.data ∧
      outcome.snapshot.data.attachments.map AttachmentRecord.eligibility = [.ineligible] := by
  have held : (compose ((withDrain .attachment 8).insertAll [drainOf .device 3]) { rack := 7 }
      ⟨0, 1, .active, {}⟩).passes fun outcome =>
      outcome.snapshot.data.attachments.map AttachmentRecord.eligibility == [.ineligible] := by rfl
  have none : enumeratedPaths ((withDrain .attachment 8).insertAll [drainOf .device 3]) { rack := 7 }
      ⟨0, 1, .active, {}⟩ = [] := by rfl
  have shut : ∀ device ∈ composedDevices ((withDrain .attachment 8).insertAll [drainOf .device 3]) { rack := 7 }
      ⟨0, 1, .active, {}⟩, device.eligibility ≠ .eligible := by decide +kernel
  obtain ⟨outcome, composed, held⟩ := Result.exists_of_passes held
  refine ⟨outcome, composed, (compose_windows_felt_iff composed).mpr ?_, by simpa using held⟩
  constructor
  · intro id listed
    rw [none] at listed
    cases listed
  · intro id _ claim _ binds
    obtain ⟨-, device, port, found, -, -, eligible, -⟩ := binds
    exact shut device (findSorted_some found).1 eligible

end RackFabric
