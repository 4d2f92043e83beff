import RackFabric.Compose.Scope

/-!
Composition: accepted evidence in, authoritative snapshot out. The passes follow the order of the source:
applicable records are gathered per subject, then devices, ports, links, attachments, maintenance records,
obligations, the capacity ledger, paths and resource states are derived from what was gathered.
-/

namespace RackFabric

/-- Static description of the rack this runtime is authoritative for. -/
structure RackConfig where
  rack : UInt64
  name : Text := []
  headroomFloor : UInt64 := 0
  maxPathsPerPair : Nat := 2
  maxPathHops : Nat := 6
deriving DecidableEq, Repr

structure ComposeInput where
  generation : UInt64
  epoch : UInt64
  lifecycle : LifecycleState
  limits : ComposeLimits := {}
deriving DecidableEq, Repr

structure ComposeStats where
  slotsConsidered : Nat := 0
  slotsApplied : Nat := 0
  slotsStale : Nat := 0
  slotsOutOfRack : Nat := 0
  memberDevices : Nat := 0
  pathsEnumerated : Nat := 0
  diagnostics : Nat := 0
deriving DecidableEq, Repr

structure ComposeOutcome where
  snapshot : Snapshot
  stats : ComposeStats
deriving DecidableEq, Repr

inductive Applicability where
  | apply | stale | future
deriving DecidableEq, Repr

def applicabilityOf (record : EvidenceRecord) (target : UInt64) : Applicability :=
  if record.generation > target then .future
  else if record.durability = .ephemeral ∧ record.generation ≠ target then .stale
  else .apply

/-- Bounded diagnostic collector. -/
structure Diagnostics where
  limit : Nat
  dropped : Nat := 0
  items : List Diagnostic := []
deriving DecidableEq, Repr

namespace Diagnostics

def note (diagnostics : Diagnostics) (kind : DiagnosticKind) (subjectKind : EvidenceKind)
    (subjectId source : UInt64) (detail : String) : Diagnostics :=
  if diagnostics.items.length ≥ diagnostics.limit then
    { diagnostics with dropped := diagnostics.dropped + 1 }
  else
    { diagnostics with items := diagnostics.items ++ [⟨kind, subjectKind, subjectId, source, text detail⟩] }

def noteIf (diagnostics : Diagnostics) (condition : Bool) (kind : DiagnosticKind)
    (subjectKind : EvidenceKind) (subjectId source : UInt64) (detail : String) : Diagnostics :=
  if condition then diagnostics.note kind subjectKind subjectId source detail else diagnostics

def truncation : Diagnostic :=
  ⟨.incompleteTopology, .member, 0, 0, text "diagnostic list truncated at its configured bound"⟩

def finish (diagnostics : Diagnostics) : List Diagnostic :=
  let items := uniqueBy (· == ·) (sortBy Diagnostic.less diagnostics.items)
  if diagnostics.dropped > 0 then
    let items := if items.length ≥ diagnostics.limit then items.dropLast else items
    sortBy Diagnostic.less (items ++ [truncation])
  else items

end Diagnostics

/-- Newest-wins selection for one subject. -/
structure Selection (α : Type) where
  conflicted : Bool := false
  generation : UInt64
  sequence : UInt64
  digest : Digest
  source : UInt64
  value : α
deriving DecidableEq, Repr

def strictlyNewer (candidate incumbent : Selection α) : Bool :=
  if candidate.generation ≠ incumbent.generation then candidate.generation > incumbent.generation
  else candidate.sequence > incumbent.sequence

def sameRank (a b : Selection α) : Bool :=
  a.generation == b.generation && a.sequence == b.sequence

/-- Offers a candidate to the selection of its subject. A conflict once seen stays marked. -/
def offer (slot : Option (Selection α)) (candidate : Selection α) : Selection α :=
  match slot with
  | none => candidate
  | some incumbent =>
    if strictlyNewer candidate incumbent then { candidate with conflicted := incumbent.conflicted }
    else if sameRank candidate incumbent then
      if candidate.digest = incumbent.digest then incumbent
      else if candidate.digest.less incumbent.digest then { candidate with conflicted := true }
      else { incumbent with conflicted := true }
    else incumbent

def packRef (kind : ResourceKind) (id : UInt64) : UInt64 :=
  (kind.code.toUInt64 <<< 56) ||| (id &&& 0x00FFFFFFFFFFFFFF)

def pathIdentity (links : List UInt64) : UInt64 :=
  let digest := Blake2s256.final (links.foldl Blake2s256.updateLe64
    (Blake2s256.update Blake2s256.reset (text "rnf.path.v1")))
  let value := (List.range 8).foldl
    (fun value i => value ||| ((digest.bytes.getD i 0).toUInt64 <<< UInt64.ofNat (8 * i))) 0
  if value == 0 then 1 else value

def isUsable (availability : Availability) : Bool :=
  availability == .up || availability == .degraded

def minCapacity (a b : UInt64) : UInt64 :=
  if a ≤ b then a else b

structure MemberInfo where
  indeterminate : Bool := false
  incarnation : UInt64
  source : UInt64
deriving DecidableEq, Repr

structure MaintenanceEntry where
  excluded : Bool := false
  action : MaintenanceKind := .drain
  reason : Text := []
  source : UInt64 := 0
  sequence : UInt64 := 0
deriving DecidableEq, Repr

/-- What the first pass over the ledger gathers. -/
structure Gathered where
  members : Std.ExtTreeMap UInt64 MemberInfo := {}
  deviceClaims : Std.ExtTreeMap UInt64 (Selection DeviceClaim) := {}
  portClaims : Std.ExtTreeMap UInt64 (Selection PortClaim) := {}
  linkClaims : Std.ExtTreeMap UInt64 (Selection LinkClaim) := {}
  attachmentClaims : Std.ExtTreeMap UInt64 (Selection AttachmentClaim) := {}
  maintenance : Std.ExtTreeMap UInt64 (ResourceRef × MaintenanceEntry) := {}
  obligations : Std.ExtTreeMap UInt64 (ResourceRef × Selection ObligationClaim) := {}
  diagnostics : Diagnostics
  stats : ComposeStats := {}

def candidateOf (record : EvidenceRecord) (value : α) : Selection α :=
  { generation := record.generation
    sequence := record.provenance.sequence
    digest := evidenceDigest record
    source := record.provenance.source
    value := value }

/-- Offers a claim under its subject's key. -/
def offerClaim (claims : Std.ExtTreeMap UInt64 (Selection α)) (key : UInt64) (record : EvidenceRecord)
    (claim : α) : Std.ExtTreeMap UInt64 (Selection α) :=
  claims.insert key (offer claims[key]? (candidateOf record claim))

def gatherMember (config : RackConfig) (gathered : Gathered) (record : EvidenceRecord)
    (claim : MemberClaim) : Gathered :=
  let source := record.provenance.source
  if claim.rack ≠ config.rack then
    { gathered with
      stats := { gathered.stats with slotsOutOfRack := gathered.stats.slotsOutOfRack + 1 }
      diagnostics := gathered.diagnostics.note .outOfRack .member claim.device source
        "membership claim names a different rack" }
  else
    match gathered.members[claim.device]? with
    | none =>
      { gathered with
        members := gathered.members.insert claim.device
          { incarnation := claim.incarnation, source := source } }
    | some info =>
      if info.incarnation ≠ claim.incarnation then
        { gathered with
          members := gathered.members.insert claim.device { info with
            indeterminate := true
            incarnation := max info.incarnation claim.incarnation }
          diagnostics := gathered.diagnostics.note .conflictingEvidence .member claim.device source
            "membership incarnation disagrees with another source" }
      else gathered

/-- A drain or maintenance directive keeps its target excluded; a clear removes nothing another source set. -/
def gatherMaintenance (gathered : Gathered) (record : EvidenceRecord) (claim : MaintenanceClaim) :
    Gathered :=
  let key := packRef claim.targetKind claim.targetId
  let entry := ((gathered.maintenance[key]?).map Prod.snd).getD {}
  let sequence := record.provenance.sequence
  let entry :=
    if claim.action ≠ .clear ∧ (!entry.excluded ∨ sequence ≥ entry.sequence) then
      { excluded := true
        action := claim.action
        reason := claim.reason
        source := record.provenance.source
        sequence := sequence }
    else entry
  { gathered with
    maintenance := gathered.maintenance.insert key (⟨claim.targetKind, claim.targetId⟩, entry) }

/-- The target of an obligation is the last one offered, whichever claim is selected. -/
def gatherObligation (gathered : Gathered) (record : EvidenceRecord) (claim : ObligationClaim) :
    Gathered :=
  let selected := (gathered.obligations[claim.obligation]?).map Prod.snd
  { gathered with
    obligations := gathered.obligations.insert claim.obligation
      (⟨claim.targetKind, claim.targetId⟩, offer selected (candidateOf record claim)) }

def gatherPayload (config : RackConfig) (gathered : Gathered) (record : EvidenceRecord) : Gathered :=
  match record.payload with
  | .member claim => gatherMember config gathered record claim
  | .device claim =>
    { gathered with deviceClaims := offerClaim gathered.deviceClaims claim.device record claim }
  | .port claim => { gathered with portClaims := offerClaim gathered.portClaims claim.port record claim }
  | .link claim => { gathered with linkClaims := offerClaim gathered.linkClaims claim.link record claim }
  | .attachment claim =>
    { gathered with
      attachmentClaims := offerClaim gathered.attachmentClaims claim.attachment record claim }
  | .maintenance claim => gatherMaintenance gathered record claim
  | .obligation claim => gatherObligation gathered record claim

def gatherRecord (config : RackConfig) (target : UInt64) (gathered : Gathered)
    (entry : EvidenceSlot × EvidenceRecord) : Gathered :=
  let (slot, record) := entry
  let stats := { gathered.stats with slotsConsidered := gathered.stats.slotsConsidered + 1 }
  match applicabilityOf record target with
  | .future =>
    { gathered with
      stats := { stats with slotsStale := stats.slotsStale + 1 }
      diagnostics := gathered.diagnostics.note .staleEvidence record.kind slot.subjectA
        record.provenance.source "observation names a later generation than the one being composed" }
  | .stale =>
    { gathered with
      stats := { stats with slotsStale := stats.slotsStale + 1 }
      diagnostics := gathered.diagnostics.note .staleEvidence record.kind slot.subjectA
        record.provenance.source "ephemeral observation does not apply to this generation" }
  | .apply =>
    gatherPayload config
      { gathered with stats := { stats with slotsApplied := stats.slotsApplied + 1 } } record

def gather (ledger : EvidenceLedger) (config : RackConfig) (request : ComposeInput) : Gathered :=
  ledger.slots.toList.foldl (gatherRecord config request.generation)
    { diagnostics := { limit := request.limits.maxDiagnostics } }

namespace Gathered

def excludedEntry (gathered : Gathered) (kind : ResourceKind) (id : UInt64) : Bool :=
  match gathered.maintenance[packRef kind id]? with
  | none => false
  | some (_, entry) => entry.excluded

def rackExcluded (gathered : Gathered) : Bool :=
  gathered.excludedEntry .rack 0

def exclusionOf (gathered : Gathered) (kind : ResourceKind) (id : UInt64) : Bool :=
  gathered.rackExcluded || gathered.excludedEntry kind id

/-- Only members have an entry in the table of excluded devices. -/
def deviceExcluded (gathered : Gathered) (device : UInt64) : Bool :=
  gathered.members.contains device && gathered.exclusionOf .device device

end Gathered

def composeDevice (gathered : Gathered) (state : List DeviceRecord × Diagnostics)
    (entry : UInt64 × Selection DeviceClaim) : List DeviceRecord × Diagnostics :=
  let (devices, diagnostics) := state
  let (device, selection) := entry
  match gathered.members[device]? with
  | none =>
    (devices, diagnostics.note .unknownMember .device device selection.source
      "device observation has no matching membership claim")
  | some info =>
    let claim := selection.value
    let excluded := gathered.deviceExcluded device
    let diagnostics := diagnostics.noteIf selection.conflicted .conflictingEvidence .device device
      selection.source "sources disagree about this device at the same generation"
    let diagnostics := diagnostics.noteIf info.indeterminate .conflictingEvidence .device device
      selection.source "membership incarnation is indeterminate"
    let diagnostics := diagnostics.noteIf (!claim.capacityKnown) .unknownCapacity .device device
      selection.source "device capacity was not measured"
    let diagnostics := diagnostics.noteIf excluded .maintenanceExclusion .device device
      selection.source "device is inside a drain or maintenance window"
    let conflicted := selection.conflicted || info.indeterminate
    let eligibility : Eligibility :=
      if conflicted || excluded || !claim.capacityKnown || !isUsable claim.availability then
        if conflicted then .incomplete else .ineligible
      else .eligible
    (devices ++ [{
      id := device
      role := claim.role
      incarnation := info.incarnation
      capacity := claim.capacity
      capacityKnown := claim.capacityKnown
      eligibility := eligibility
      availability := claim.availability }], diagnostics)

/-- Members nobody observed are reported and published as incomplete. -/
def composeUnobserved (gathered : Gathered) (state : List DeviceRecord × Diagnostics)
    (entry : UInt64 × MemberInfo) : List DeviceRecord × Diagnostics :=
  let (devices, diagnostics) := state
  let (device, info) := entry
  if gathered.deviceClaims.contains device then (devices, diagnostics)
  else
    (devices ++ [{ id := device, incarnation := info.incarnation, eligibility := .incomplete }],
      diagnostics.note .incompleteTopology .device device info.source
        "member device has no device observation")

def composeDevices (gathered : Gathered) : List DeviceRecord × Diagnostics :=
  let state := gathered.deviceClaims.toList.foldl (composeDevice gathered) ([], gathered.diagnostics)
  let (devices, diagnostics) := gathered.members.toList.foldl (composeUnobserved gathered) state
  (uniqueBy (fun a b => a.id == b.id) (sortBy (fun a b => idLess a.id b.id) devices), diagnostics)

def deviceRecord (devices : List DeviceRecord) (id : UInt64) : Option DeviceRecord :=
  findSorted idLess DeviceRecord.id devices id

def portRecord (ports : List PortRecord) (id : UInt64) : Option PortRecord :=
  findSorted idLess PortRecord.id ports id

def linkRecord (links : List LinkRecord) (id : UInt64) : Option LinkRecord :=
  findSorted idLess LinkRecord.id links id

structure PortPass where
  ports : List PortRecord := []
  portKeys : List ((UInt64 × UInt16) × UInt64) := []
  diagnostics : Diagnostics

def composePort (gathered : Gathered) (devices : List DeviceRecord) (pass : PortPass)
    (entry : UInt64 × Selection PortClaim) : PortPass :=
  let (port, selection) := entry
  let claim := selection.value
  if !gathered.members.contains claim.device then
    { pass with
      diagnostics := pass.diagnostics.note .outOfRack .port port selection.source
        "port belongs to a device that is not a member of this rack" }
  else
    let diagnostics := pass.diagnostics.noteIf selection.conflicted .conflictingEvidence .port port
      selection.source "sources disagree about this port at the same generation"
    let key := (claim.device, claim.index)
    let existing := pass.portKeys.lookup key
    let duplicated := existing.any (· != port)
    let diagnostics := diagnostics.noteIf duplicated .conflictingEvidence .port port selection.source
      "two port identities claim the same device/index pair"
    let portKeys := if existing.isSome then pass.portKeys else pass.portKeys ++ [(key, port)]
    let excluded := gathered.deviceExcluded claim.device || gathered.exclusionOf .port port
    let diagnostics := diagnostics.noteIf excluded .maintenanceExclusion .port port selection.source
      "port is inside a drain or maintenance window"
    let diagnostics := diagnostics.noteIf (!claim.capacityKnown) .unknownCapacity .port port
      selection.source "port capacity was not measured"
    let ownerUsable := (deviceRecord devices claim.device).any (·.eligibility == .eligible)
    let eligibility : Eligibility :=
      if selection.conflicted then .incomplete
      else if excluded || !ownerUsable then .ineligible
      else if !claim.capacityKnown || !isUsable claim.availability || claim.admin != .enabled then
        .ineligible
      else .eligible
    { ports := pass.ports ++ [{
        id := port
        device := claim.device
        index := claim.index
        role := claim.role
        capacity := claim.capacity
        capacityKnown := claim.capacityKnown
        availability := claim.availability
        admin := claim.admin
        eligibility := eligibility }]
      portKeys := portKeys
      diagnostics := diagnostics }

def composePorts (gathered : Gathered) (devices : List DeviceRecord) (diagnostics : Diagnostics) :
    List PortRecord × Diagnostics :=
  let pass := gathered.portClaims.toList.foldl (composePort gathered devices)
    { diagnostics := diagnostics }
  (sortBy (fun a b => idLess a.id b.id) pass.ports, pass.diagnostics)

/-- A link between two known ports carries at most what its weakest endpoint carries. -/
def composeJoinedLink (gathered : Gathered) (link : UInt64) (selection : Selection LinkClaim)
    (a b : PortRecord) (diagnostics : Diagnostics) : LinkRecord × Diagnostics :=
  let claim := selection.value
  let diagnostics := diagnostics.noteIf selection.conflicted .conflictingEvidence .link link
    selection.source "sources disagree about this link at the same generation"
  let excluded := gathered.deviceExcluded a.device || gathered.deviceExcluded b.device ||
    gathered.exclusionOf .port a.id || gathered.exclusionOf .port b.id || gathered.exclusionOf .link link
  let diagnostics := diagnostics.noteIf excluded .maintenanceExclusion .link link selection.source
    "link touches a resource inside a drain or maintenance window"
  let availability :=
    combineAvailability (combineAvailability claim.availability a.availability) b.availability
  let diagnostics := diagnostics.noteIf (!claim.capacityKnown) .unknownCapacity .link link
    selection.source "link capacity was not measured"
  let bothKnown := a.capacityKnown && b.capacityKnown
  let capacity :=
    if bothKnown then minCapacity (minCapacity claim.capacity a.capacity) b.capacity else claim.capacity
  let capacityKnown := bothKnown && claim.capacityKnown
  let eligibility : Eligibility :=
    if selection.conflicted then .incomplete
    else if excluded then .ineligible
    else if !capacityKnown || !isUsable availability || a.eligibility != .eligible ||
        b.eligibility != .eligible then .ineligible
    else .eligible
  ({ id := link
     portA := claim.portA
     portB := claim.portB
     kind := claim.kind
     capacity := capacity
     capacityKnown := capacityKnown
     availability := availability
     eligibility := eligibility }, diagnostics)

def composeLink (gathered : Gathered) (ports : List PortRecord) (state : List LinkRecord × Diagnostics)
    (entry : UInt64 × Selection LinkClaim) : List LinkRecord × Diagnostics :=
  let (links, diagnostics) := state
  let (link, selection) := entry
  let claim := selection.value
  match portRecord ports claim.portA, portRecord ports claim.portB with
  | some a, some b =>
    let (record, diagnostics) := composeJoinedLink gathered link selection a b diagnostics
    (links ++ [record], diagnostics)
  | _, _ =>
    (links ++ [{
      id := link
      portA := claim.portA
      portB := claim.portB
      kind := claim.kind
      capacity := claim.capacity
      capacityKnown := claim.capacityKnown
      availability := claim.availability
      eligibility := .incomplete }],
     diagnostics.note .incompleteTopology .link link selection.source
      "link endpoint is not a known port in this rack")

def composeLinks (gathered : Gathered) (ports : List PortRecord) (diagnostics : Diagnostics) :
    List LinkRecord × Diagnostics :=
  let (links, diagnostics) := gathered.linkClaims.toList.foldl (composeLink gathered ports) ([], diagnostics)
  (sortBy (fun a b => idLess a.id b.id) links, diagnostics)

def composeAttachment (devices : List DeviceRecord) (ports : List PortRecord)
    (state : List AttachmentRecord × Diagnostics) (entry : UInt64 × Selection AttachmentClaim) :
    List AttachmentRecord × Diagnostics :=
  let (attachments, diagnostics) := state
  let (attachment, selection) := entry
  let claim := selection.value
  let publish := fun (eligibility : Eligibility) (diagnostics : Diagnostics) =>
    (attachments ++ [({
      id := attachment
      device := claim.device
      port := claim.port
      hostKey := claim.hostKey
      eligibility := eligibility } : AttachmentRecord)], diagnostics)
  match deviceRecord devices claim.device with
  | none =>
    publish .incomplete (diagnostics.note .outOfRack .attachment attachment selection.source
      "attachment names a device that is not a member of this rack")
  | some device =>
    match portRecord ports claim.port with
    | none =>
      publish .incomplete (diagnostics.note .unresolvedReference .attachment attachment selection.source
        "attachment names a port that is not known")
    | some port =>
      if port.device ≠ claim.device then
        publish .incomplete (diagnostics.note .conflictingEvidence .attachment attachment selection.source
          "attachment device does not own the named port")
      else if selection.conflicted then
        publish .incomplete (diagnostics.note .conflictingEvidence .attachment attachment selection.source
          "sources disagree about this attachment at the same generation")
      else if device.eligibility ≠ .eligible ∨ port.eligibility ≠ .eligible then
        publish .ineligible diagnostics
      else publish .eligible diagnostics

def composeAttachments (gathered : Gathered) (devices : List DeviceRecord) (ports : List PortRecord)
    (diagnostics : Diagnostics) : List AttachmentRecord × Diagnostics :=
  let (attachments, diagnostics) :=
    gathered.attachmentClaims.toList.foldl (composeAttachment devices ports) ([], diagnostics)
  (sortBy (fun a b => idLess a.id b.id) attachments, diagnostics)

def maintenanceLess (a b : MaintenanceRecord) : Bool :=
  if a.target ≠ b.target then a.target.less b.target else a.source < b.source

def composeMaintenance (gathered : Gathered) : List MaintenanceRecord :=
  sortBy maintenanceLess (gathered.maintenance.values.filterMap fun (target, entry) =>
    if entry.excluded then
      some {
        action := entry.action
        target := target
        reason := entry.reason
        source := entry.source
        sequence := entry.sequence }
    else none)

structure ObligationPass where
  obligations : List ObligationRecord := []
  obligatedByTarget : Std.ExtTreeMap ResourceRef UInt64 := {}
  diagnostics : Diagnostics
  outOfRack : Nat := 0

def targetInRack (gathered : Gathered) (config : RackConfig) (ports : List PortRecord)
    (links : List LinkRecord) (target : ResourceRef) : Bool :=
  match target.kind with
  | .rack => target.id == config.rack || target.id == 0
  | .device => gathered.members.contains target.id
  | .port => (portRecord ports target.id).isSome
  | .link => (linkRecord links target.id).isSome
  | .attachment => gathered.attachmentClaims.contains target.id
  | .path => false
  | .unnamed .. => false

def composeObligation (gathered : Gathered) (config : RackConfig) (ports : List PortRecord)
    (links : List LinkRecord) (pass : ObligationPass)
    (entry : UInt64 × ResourceRef × Selection ObligationClaim) : Result ObligationPass :=
  let (id, target, selection) := entry
  let claim := selection.value
  if !targetInRack gathered config ports links target then
    .ok { pass with
      outOfRack := pass.outOfRack + 1
      diagnostics := pass.diagnostics.note .outOfRack .obligation target.id selection.source
        "imported obligation names a resource outside this rack" }
  else
    match checkedAddU64 (pass.obligatedByTarget.getD target 0) claim.capacity with
    | none => refuse .outOfRange "obligation capacity overflowed"
    | some sum =>
      .ok { pass with
        obligations := pass.obligations ++ [{
          id := id
          target := target
          capacity := claim.capacity
          holder := claim.holder
          authority := claim.authority
          source := selection.source }]
        obligatedByTarget := pass.obligatedByTarget.insert target sum }

def composeObligations (gathered : Gathered) (config : RackConfig) (ports : List PortRecord)
    (links : List LinkRecord) (diagnostics : Diagnostics) : Result ObligationPass := do
  let pass ← gathered.obligations.toList.foldlM (composeObligation gathered config ports links)
    { diagnostics := diagnostics }
  .ok { pass with obligations := sortBy (fun a b => idLess a.id b.id) pass.obligations }

/-- Sums of known device capacity: all of it, and what no eligible usable device provides. -/
def addDeviceCapacity (sums : UInt64 × UInt64) (device : DeviceRecord) : Result (UInt64 × UInt64) :=
  let (total, unavailable) := sums
  if !device.capacityKnown then .ok sums
  else
    match checkedAddU64 total device.capacity with
    | none => refuse .outOfRange "device capacity sum overflowed"
    | some nextTotal =>
      if device.eligibility ≠ .eligible ∨ !isUsable device.availability then
        match checkedAddU64 unavailable device.capacity with
        | none => refuse .outOfRange "unavailable capacity sum overflowed"
        | some nextUnavailable => .ok (nextTotal, nextUnavailable)
      else .ok (nextTotal, unavailable)

def addObligated (sum : UInt64) (amount : UInt64) : Result UInt64 :=
  match checkedAddU64 sum amount with
  | none => refuse .outOfRange "obligation sum overflowed"
  | some sum => .ok sum

def composeCapacity (config : RackConfig) (devices : List DeviceRecord)
    (obligatedByTarget : Std.ExtTreeMap ResourceRef UInt64) (diagnostics : Diagnostics) :
    Result (CapacityLedger × Diagnostics) := do
  let (total, unavailable) ← devices.foldlM addDeviceCapacity (0, 0)
  match checkedSubU64 total unavailable with
  | none => refuse .integrityFailure "capacity accounting underflowed"
  | some usable =>
    let obligated ← obligatedByTarget.values.foldlM addObligated 0
    match checkedAddU64 obligated config.headroomFloor with
    | none => refuse .outOfRange "headroom plus obligations overflowed"
    | some claimed =>
      let overcommitted := decide (claimed > usable)
      let capacity : CapacityLedger := {
        total := total
        unavailable := unavailable
        usable := usable
        obligated := obligated
        headroomFloor := config.headroomFloor
        uncommitted := if overcommitted then 0 else usable - claimed
        deficit := if overcommitted then claimed - usable else 0 }
      if !capacity.closes then refuse .integrityFailure "composed capacity ledger does not close"
      else
        .ok (capacity, diagnostics.noteIf overcommitted .capacityOvercommit .member 0 0
          "obligations and reserved headroom exceed usable rack capacity")

structure PathCandidate where
  links : List UInt64
  start : UInt64
  finish : UInt64
deriving DecidableEq, Repr

def idsLess : List UInt64 → List UInt64 → Bool
  | [], [] => false
  | [], _ :: _ => true
  | _ :: _, [] => false
  | x :: xs, y :: ys => x < y || (x == y && idsLess xs ys)

def endpointsLess (startA endA startB endB : UInt64) (linksA linksB : List UInt64) : Bool :=
  if startA ≠ startB then startA < startB
  else if endA ≠ endB then endA < endB
  else idsLess linksA linksB

abbrev Adjacency := Std.ExtTreeMap UInt64 (List (UInt64 × UInt64))

def neighbourLess (a b : UInt64 × UInt64) : Bool :=
  if a.1 ≠ b.1 then a.1 < b.1 else a.2 < b.2

/-- The neighbours of every port over eligible links, in link order. -/
def adjacencyOf (links : List LinkRecord) : Adjacency :=
  let adjacency := (links.filter (·.eligibility == .eligible)).foldl
    (fun (adjacency : Adjacency) link =>
      let adjacency := adjacency.insert link.portA (adjacency.getD link.portA [] ++ [(link.id, link.portB)])
      adjacency.insert link.portB (adjacency.getD link.portB [] ++ [(link.id, link.portA)])) {}
  adjacency.map fun _ neighbours => sortBy neighbourLess neighbours

structure PathFrame where
  port : UInt64
  nextNeighbour : Nat
deriving DecidableEq, Repr

/-- State of the depth first search. The last frame of the source's vector is the head of `frames`. -/
structure PathSearch where
  candidates : List PathCandidate := []
  expansions : Nat := 0
  truncated : Bool := false
  frames : List PathFrame := []
  stack : List UInt64 := []
  visited : List UInt64 := []
  foundPerEndpoint : Std.ExtTreeMap UInt64 Nat := {}

def kMaxExpansions : Nat := 262144

/-- What one neighbour adds: nothing when visited or too deep, a candidate at an exit, else a frame. -/
def visitNeighbour (config : RackConfig) (limits : ComposeLimits) (exitPorts : List UInt64) (start : UInt64)
    (linkId nextPort : UInt64) (search : PathSearch) : Result PathSearch :=
  if search.visited.contains nextPort then .ok search
  else if search.stack.length ≥ config.maxPathHops then .ok { search with truncated := true }
  else if exitPorts.contains nextPort then
    let count := search.foundPerEndpoint.getD nextPort 0
    let search :=
      if count < config.maxPathsPerPair then
        { search with
          foundPerEndpoint := search.foundPerEndpoint.insert nextPort (count + 1)
          candidates := search.candidates ++ [⟨search.stack ++ [linkId], start, nextPort⟩] }
      else { search with truncated := true }
    if search.candidates.length > limits.maxPaths then
      refuse .resourceExhausted "path count exceeds the compose bound"
    else .ok search
  else
    .ok { search with
      visited := nextPort :: search.visited
      stack := search.stack ++ [linkId]
      frames := ⟨nextPort, 0⟩ :: search.frames }

def searchLoop (config : RackConfig) (limits : ComposeLimits) (adjacency : Adjacency)
    (exitPorts : List UInt64) (start : UInt64) : Nat → PathSearch → Result PathSearch
  | 0, search => .ok { search with truncated := true }
  | fuel + 1, search =>
    match search.frames with
    | [] => .ok search
    | frame :: frames =>
      let search := { search with expansions := search.expansions + 1 }
      if search.expansions > kMaxExpansions then .ok { search with truncated := true }
      else
        match (adjacency.getD frame.port [])[frame.nextNeighbour]? with
        | none =>
          searchLoop config limits adjacency exitPorts start fuel { search with
            visited := search.visited.erase frame.port
            frames := frames
            stack := search.stack.dropLast }
        | some (linkId, nextPort) => do
          let search := { search with frames := { frame with nextNeighbour := frame.nextNeighbour + 1 } :: frames }
          let search ← visitNeighbour config limits exitPorts start linkId nextPort search
          searchLoop config limits adjacency exitPorts start fuel search

/-- Searches from every access port in turn, giving up on the rest once anything was truncated. -/
def searchFrom (config : RackConfig) (limits : ComposeLimits) (adjacency : Adjacency)
    (exitPorts : List UInt64) : List UInt64 → PathSearch → Result PathSearch
  | [], search => .ok search
  | start :: rest, search => do
    let search ← searchLoop config limits adjacency exitPorts start (kMaxExpansions + 1)
      { search with
        frames := [⟨start, 0⟩]
        stack := []
        visited := [start]
        foundPerEndpoint := {} }
    if search.truncated then .ok search
    else searchFrom config limits adjacency exitPorts rest search

def accessPorts (attachments : List AttachmentRecord) : List UInt64 :=
  uniqueBy (· == ·) (sortBy idLess
    ((attachments.filter (·.eligibility == .eligible)).map AttachmentRecord.port))

def exitPorts (ports : List PortRecord) : List UInt64 :=
  (ports.filter fun port => port.role == .uplink || port.role == .fabric || port.role == .peer).map
    PortRecord.id

/-- The weakest link of a path, when every link is known and eligible. -/
def pathBottleneck (links : List LinkRecord) : List UInt64 → Option UInt64 → Bool × UInt64
  | [], bottleneck => (true, bottleneck.getD 0)
  | linkId :: rest, bottleneck =>
    match linkRecord links linkId with
    | none => (false, bottleneck.getD 0)
    | some link =>
      if link.eligibility ≠ .eligible ∨ !link.capacityKnown then (false, bottleneck.getD 0)
      else
        pathBottleneck links rest (some (match bottleneck with
          | none => link.capacity
          | some least => minCapacity least link.capacity))

def composePath (links : List LinkRecord) (state : List PathRecord × Diagnostics)
    (candidate : PathCandidate) : List PathRecord × Diagnostics :=
  let (paths, diagnostics) := state
  let (known, bottleneck) := pathBottleneck links candidate.links none
  let id := pathIdentity candidate.links
  (paths ++ [{
    id := id
    startPort := candidate.start
    endPort := candidate.finish
    links := candidate.links
    bottleneck := bottleneck
    bottleneckKnown := known
    eligibility := if known then .eligible else .incomplete }],
   diagnostics.noteIf (!known) .unknownCapacity .link id 0
    "path contains a link whose capacity is not known")

def composePaths (config : RackConfig) (limits : ComposeLimits) (ports : List PortRecord)
    (links : List LinkRecord) (attachments : List AttachmentRecord) (diagnostics : Diagnostics) :
    Result (List PathRecord × Diagnostics) := do
  let search ← searchFrom config limits (adjacencyOf links) (exitPorts ports) (accessPorts attachments) {}
  let candidates := uniqueBy (fun a b => a.links == b.links)
    (sortBy (fun a b => endpointsLess a.start a.finish b.start b.finish a.links b.links) search.candidates)
  let truncated := search.truncated || decide (candidates.length > limits.maxPaths)
  let diagnostics := diagnostics.noteIf truncated .incompleteTopology .link 0 0
    "path enumeration was truncated at a configured bound"
  let (paths, diagnostics) :=
    (candidates.take limits.maxPaths).foldl (composePath links) ([], diagnostics)
  .ok (sortBy (fun a b => endpointsLess a.startPort a.endPort b.startPort b.endPort a.links b.links) paths,
    diagnostics)

def ownersOf (owners : List OwnerRef) : List OwnerRef :=
  uniqueBy (· == ·) (sortBy OwnerRef.less owners)

def ownerOfDevice (devices : List DeviceRecord) (device : UInt64) : List OwnerRef :=
  match deviceRecord devices device with
  | none => []
  | some record => [⟨record.id, record.incarnation⟩]

def ownerOfPort (devices : List DeviceRecord) (ports : List PortRecord) (port : UInt64) : List OwnerRef :=
  match portRecord ports port with
  | none => []
  | some record => ownerOfDevice devices record.device

def portDeviceExcluded (gathered : Gathered) (ports : List PortRecord) (port : UInt64) : Bool :=
  match portRecord ports port with
  | none => false
  | some record => gathered.deviceExcluded record.device

structure ResourceInputs where
  gathered : Gathered
  config : RackConfig
  obligatedByTarget : Std.ExtTreeMap ResourceRef UInt64
  total : UInt64
  devices : List DeviceRecord
  ports : List PortRecord
  links : List LinkRecord
  attachments : List AttachmentRecord
  paths : List PathRecord

namespace ResourceInputs

def obligatedOn (inputs : ResourceInputs) (ref : ResourceRef) : UInt64 :=
  inputs.obligatedByTarget.getD ref 0

/-- The rack's own obligations are looked up under identity zero. -/
def rackResource (inputs : ResourceInputs) : ResourceState :=
  let excluded := inputs.gathered.rackExcluded
  { ref := ⟨.rack, inputs.config.rack⟩
    eligibility := if excluded then .ineligible else .eligible
    availability := .up
    capacityKnown := true
    capacity := inputs.total
    obligated := inputs.obligatedOn ⟨.rack, 0⟩
    maintenance := excluded
    owners := ownersOf (inputs.devices.map fun device => ⟨device.id, device.incarnation⟩) }

def deviceResource (inputs : ResourceInputs) (device : DeviceRecord) : ResourceState :=
  { ref := ⟨.device, device.id⟩
    eligibility := device.eligibility
    availability := device.availability
    capacityKnown := device.capacityKnown
    capacity := device.capacity
    obligated := inputs.obligatedOn ⟨.device, device.id⟩
    maintenance := inputs.gathered.deviceExcluded device.id
    owners := [⟨device.id, device.incarnation⟩] }

def portResource (inputs : ResourceInputs) (port : PortRecord) : ResourceState :=
  { ref := ⟨.port, port.id⟩
    eligibility := port.eligibility
    availability := port.availability
    capacityKnown := port.capacityKnown
    capacity := port.capacity
    obligated := inputs.obligatedOn ⟨.port, port.id⟩
    maintenance := inputs.gathered.deviceExcluded port.device || inputs.gathered.exclusionOf .port port.id
    owners := ownerOfDevice inputs.devices port.device }

/-- The maintenance flag of a link leaves out directives on its endpoint ports. -/
def linkResource (inputs : ResourceInputs) (link : LinkRecord) : ResourceState :=
  { ref := ⟨.link, link.id⟩
    eligibility := link.eligibility
    availability := link.availability
    capacityKnown := link.capacityKnown
    capacity := link.capacity
    obligated := inputs.obligatedOn ⟨.link, link.id⟩
    maintenance := portDeviceExcluded inputs.gathered inputs.ports link.portA ||
      portDeviceExcluded inputs.gathered inputs.ports link.portB ||
      inputs.gathered.exclusionOf .link link.id
    owners := ownersOf (ownerOfPort inputs.devices inputs.ports link.portA ++
      ownerOfPort inputs.devices inputs.ports link.portB) }

/-- An attachment carries what its port carries, capped by its device when that is known. -/
def attachmentCapacity (inputs : ResourceInputs) (attachment : AttachmentRecord) : Bool × UInt64 :=
  match portRecord inputs.ports attachment.port with
  | none => (false, 0)
  | some port =>
    if !port.capacityKnown then (false, 0)
    else
      match deviceRecord inputs.devices attachment.device with
      | none => (true, port.capacity)
      | some device =>
        (true, if device.capacityKnown then minCapacity port.capacity device.capacity else port.capacity)

def attachmentResource (inputs : ResourceInputs) (attachment : AttachmentRecord) : ResourceState :=
  { ref := ⟨.attachment, attachment.id⟩
    eligibility := attachment.eligibility
    availability := .up
    capacityKnown := (inputs.attachmentCapacity attachment).1
    capacity := (inputs.attachmentCapacity attachment).2
    obligated := inputs.obligatedOn ⟨.attachment, attachment.id⟩
    maintenance := inputs.gathered.deviceExcluded attachment.device
    owners := ownerOfDevice inputs.devices attachment.device }

def linkOwners (inputs : ResourceInputs) (linkId : UInt64) : List OwnerRef :=
  match linkRecord inputs.links linkId with
  | none => []
  | some link =>
    ownerOfPort inputs.devices inputs.ports link.portA ++ ownerOfPort inputs.devices inputs.ports link.portB

def pathResource (inputs : ResourceInputs) (path : PathRecord) : ResourceState :=
  { ref := ⟨.path, path.id⟩
    eligibility := path.eligibility
    availability := .up
    capacityKnown := path.bottleneckKnown
    capacity := path.bottleneck
    obligated := inputs.obligatedOn ⟨.path, path.id⟩
    maintenance := false
    owners := ownersOf (path.links.flatMap inputs.linkOwners) }

def resources (inputs : ResourceInputs) : List ResourceState :=
  let states := inputs.rackResource :: inputs.devices.map inputs.deviceResource ++
    inputs.ports.map inputs.portResource ++ inputs.links.map inputs.linkResource ++
    inputs.attachments.map inputs.attachmentResource ++ inputs.paths.map inputs.pathResource
  uniqueBy (fun a b => a.ref == b.ref) (sortBy (fun a b => a.ref.less b.ref) states)

end ResourceInputs

/-- Fails when a collection of the snapshot has outgrown its bound. -/
def checkBound (size limit : Nat) (detail : String) : Result Unit :=
  if size > limit then refuse .resourceExhausted detail else .ok ()

def checkRack (config : RackConfig) : Result Unit :=
  if config.rack == 0 then refuse .invalidIdentity "rack configuration has no rack identity" else .ok ()

/-- Compose a snapshot: a pure function of the ledger, the configuration and the request. -/
def compose (ledger : EvidenceLedger) (config : RackConfig) (request : ComposeInput) :
    Result ComposeOutcome := do
  checkRack config
  let limits := request.limits
  let gathered := gather ledger config request
  checkBound gathered.members.size limits.maxDevices "member count exceeds the compose bound"
  let (devices, diagnostics) := composeDevices gathered
  checkBound devices.length limits.maxDevices "device count exceeds the compose bound"
  let (ports, diagnostics) := composePorts gathered devices diagnostics
  checkBound ports.length limits.maxPorts "port count exceeds the compose bound"
  let (links, diagnostics) := composeLinks gathered ports diagnostics
  checkBound links.length limits.maxLinks "link count exceeds the compose bound"
  let (attachments, diagnostics) := composeAttachments gathered devices ports diagnostics
  checkBound attachments.length limits.maxAttachments "attachment count exceeds the compose bound"
  let maintenance := composeMaintenance gathered
  checkBound maintenance.length limits.maxMaintenance "maintenance record count exceeds the compose bound"
  let pass ← composeObligations gathered config ports links diagnostics
  checkBound pass.obligations.length limits.maxObligations "obligation count exceeds the compose bound"
  let (capacity, diagnostics) ← composeCapacity config devices pass.obligatedByTarget pass.diagnostics
  let (paths, diagnostics) ← composePaths config limits ports links attachments diagnostics
  let inputs : ResourceInputs := {
    gathered := gathered
    config := config
    obligatedByTarget := pass.obligatedByTarget
    total := capacity.total
    devices := devices
    ports := ports
    links := links
    attachments := attachments
    paths := paths }
  let published := diagnostics.finish
  let data : SnapshotData := {
    rack := config.rack
    generation := request.generation
    epoch := request.epoch
    lifecycle := request.lifecycle
    evidenceDigest := ledger.digest
    memberSetDigest := memberSetDigest devices
    capacity := capacity
    devices := devices
    ports := ports
    links := links
    attachments := attachments
    paths := paths
    maintenance := maintenance
    obligations := pass.obligations
    resources := inputs.resources
    diagnostics := published }
  .ok {
    snapshot := { handle := some data, digest := snapshotDigest data }
    stats := { gathered.stats with
      slotsOutOfRack := gathered.stats.slotsOutOfRack + pass.outOfRack
      memberDevices := devices.length
      pathsEnumerated := paths.length
      diagnostics := published.length } }

/-- A composed snapshot carries the request it was composed for. -/
theorem compose_header {ledger : EvidenceLedger} {config : RackConfig} {request : ComposeInput}
    {outcome : ComposeOutcome} (composed : compose ledger config request = .ok outcome) :
    ∃ data, outcome.snapshot.handle = some data ∧ data.rack = config.rack ∧
      data.generation = request.generation ∧ data.epoch = request.epoch ∧
      data.lifecycle = request.lifecycle := by
  simp only [compose, bind_eq_ok] at composed
  obtain ⟨_, _, _, _, _, _, _, _, _, _, _, _, _, _, pass, _, _, _, rest⟩ := composed
  obtain ⟨capacity, _, rest⟩ := rest
  obtain ⟨paths, _, rest⟩ := rest
  cases rest
  exact ⟨_, rfl, rfl, rfl, rfl, rfl⟩

end RackFabric
