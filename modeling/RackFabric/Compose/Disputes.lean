import RackFabric.Compose.Published

/-!
Disputes. A subject is held incomplete after a contest among the claims about it, in slot order. That is the same as a
disagreement of its newest claims only as long as no older contest is remembered and no two newest records that say the
same are told apart by who said it.
-/

namespace RackFabric

open Foundation

/-- Two of the newest claims say different things. -/
def Disagree {α : Type} (claims : List (Carried α)) : Prop :=
  ∃ first ∈ claims, ∃ second ∈ claims, (∀ other ∈ claims, other.newness ≤ first.newness) ∧
    second.newness = first.newness ∧ first.2 ≠ second.2

/-- Some claim was as new as everything offered before it, and had another digest than one of those as new. -/
abbrev Disputed {α : Type} (claims : List (Carried α)) : Prop :=
  Contested Carried.newness Carried.contentMark claims

theorem selected_disputed {α : Type} {pick : EvidencePayload → Option (UInt64 × α)} {records : List EvidenceRecord}
    {id : UInt64} {claim : Selection α} (chosen : selected pick records id = some claim) :
    claim.conflicted = true ↔ Disputed (claimsFor pick records id) := by
  obtain ⟨carried, -, -, disputed⟩ := selected_tops chosen
  exact disputed

theorem not_disputed_nil {α : Type} : ¬ Disputed ([] : List (Carried α)) := by
  rintro ⟨before, value, after, split, -⟩
  cases before <;> cases split

/-! ### What the passes make of a dispute -/

theorem observedDevice_incomplete {gathered : Gathered} {id : UInt64} {claim : Selection DeviceClaim}
    {device : DeviceRecord} {info : MemberInfo} (published : observedDevice gathered (id, claim) = some device)
    (member : gathered.members[id]? = some info) (determinate : info.indeterminate = false) :
    device.eligibility = .incomplete ↔ claim.conflicted = true := by
  simp only [observedDevice, composeDevice, member] at published
  cases published
  dsimp only
  rw [determinate, Bool.or_false]
  by_cases conflicted : claim.conflicted = true
  · simp [conflicted]
  · rw [Bool.not_eq_true] at conflicted
    simp only [conflicted, Bool.false_or, Bool.false_eq_true, if_false, iff_false]
    split <;> simp

theorem publishedPort_some (gathered : Gathered) (devices : List DeviceRecord) (id : UInt64)
    {claim : Selection PortClaim} (member : gathered.members.contains claim.value.device = true) :
    ∃ port, publishedPort gathered devices (id, claim) = some port ∧ port.id = id ∧
      port.device = claim.value.device ∧ (port.eligibility = .incomplete ↔ claim.conflicted = true) := by
  simp only [publishedPort, composePort, member, Bool.not_true, Bool.false_eq_true, if_false, List.nil_append,
    List.head?_cons]
  refine ⟨_, rfl, rfl, rfl, ?_⟩
  dsimp only
  by_cases conflicted : claim.conflicted = true
  · simp [conflicted]
  · rw [if_neg conflicted]
    refine iff_of_false ?_ conflicted
    split
    · simp
    · split <;> simp

theorem publishedPort_member {gathered : Gathered} {devices : List DeviceRecord} {id : UInt64}
    {claim : Selection PortClaim} {port : PortRecord}
    (published : publishedPort gathered devices (id, claim) = some port) :
    gathered.members.contains claim.value.device = true := by
  simp only [publishedPort, composePort] at published
  split at published
  · cases published
  · rename_i inside
    simpa using inside

theorem publishedLink_incomplete {gathered : Gathered} {ports : List PortRecord} {id : UInt64}
    {claim : Selection LinkClaim} {link : LinkRecord} (published : publishedLink gathered ports (id, claim) = some link)
    (first : (portRecord ports claim.value.portA).isSome = true)
    (second : (portRecord ports claim.value.portB).isSome = true) :
    link.eligibility = .incomplete ↔ claim.conflicted = true := by
  obtain ⟨a, foundA⟩ := Option.isSome_iff_exists.mp first
  obtain ⟨b, foundB⟩ := Option.isSome_iff_exists.mp second
  simp only [publishedLink, composeLink, composeJoinedLink, foundA, foundB] at published
  cases published
  dsimp only
  by_cases conflicted : claim.conflicted = true
  · simp [conflicted]
  · rw [if_neg conflicted]
    refine iff_of_false ?_ conflicted
    split
    · simp
    · split <;> simp

theorem publishedAttachment_incomplete {devices : List DeviceRecord} {ports : List PortRecord} {id : UInt64}
    {claim : Selection AttachmentClaim} {attachment : AttachmentRecord} {port : PortRecord}
    (published : publishedAttachment devices ports (id, claim) = some attachment)
    (known : (deviceRecord devices claim.value.device).isSome = true)
    (found : portRecord ports claim.value.port = some port) (owns : port.device = claim.value.device) :
    attachment.eligibility = .incomplete ↔ claim.conflicted = true := by
  obtain ⟨device, foundDevice⟩ := Option.isSome_iff_exists.mp known
  simp only [publishedAttachment, composeAttachment, foundDevice, found, owns, ne_eq, not_true_eq_false, if_false]
    at published
  by_cases conflicted : claim.conflicted = true
  · simp only [conflicted, if_true] at published
    cases published
    simp [conflicted]
  · simp only [if_neg conflicted] at published
    refine iff_of_false ?_ conflicted
    split at published
    · cases published
      simp
    · cases published
      simp

section Disputes

variable (ledger : EvidenceLedger) (config : RackConfig) (request : ComposeInput) (data : SnapshotData)

/-- The claims that apply to a subject, in slot order. -/
def EvidenceLedger.claims {α : Type} (pick : EvidencePayload → Option (UInt64 × α)) (id : UInt64) : List (Carried α) :=
  claimsFor pick (ledger.applied request.generation) id

/-- The subjects are held incomplete for a dispute exactly when their newest claims disagree. -/
structure DisputesSettled : Prop where
  devices : ∀ device ∈ data.devices, ∀ info, (gather ledger config request).members[device.id]? = some info →
    info.indeterminate = false →
    ((ledger.claims request EvidencePayload.deviceClaim device.id ≠ [] ∧ device.eligibility = .incomplete) ↔
      Disagree (ledger.claims request EvidencePayload.deviceClaim device.id))
  ports : ∀ port ∈ data.ports,
    (port.eligibility = .incomplete ↔ Disagree (ledger.claims request EvidencePayload.portClaim port.id))
  links : ∀ link ∈ data.links, (portRecord data.ports link.portA).isSome → (portRecord data.ports link.portB).isSome →
    (link.eligibility = .incomplete ↔ Disagree (ledger.claims request EvidencePayload.linkClaim link.id))
  attachments : ∀ attachment ∈ data.attachments, (deviceRecord data.devices attachment.device).isSome →
    ∀ port, portRecord data.ports attachment.port = some port → port.device = attachment.device →
    (attachment.eligibility = .incomplete ↔
      Disagree (ledger.claims request EvidencePayload.attachmentClaim attachment.id))

/-- Of every subject that the passes judge, the claims were contested exactly when the newest of them disagree. -/
structure DisputesMeant : Prop where
  devices : ∀ id info, (gather ledger config request).members[id]? = some info → info.indeterminate = false →
    (Disputed (ledger.claims request EvidencePayload.deviceClaim id) ↔
      Disagree (ledger.claims request EvidencePayload.deviceClaim id))
  ports : ∀ id claim, selected EvidencePayload.portClaim (ledger.applied request.generation) id = some claim →
    (gather ledger config request).members.contains claim.value.device →
    (Disputed (ledger.claims request EvidencePayload.portClaim id) ↔
      Disagree (ledger.claims request EvidencePayload.portClaim id))
  links : ∀ id claim, selected EvidencePayload.linkClaim (ledger.applied request.generation) id = some claim →
    (portRecord (composedPorts ledger config request) claim.value.portA).isSome →
    (portRecord (composedPorts ledger config request) claim.value.portB).isSome →
    (Disputed (ledger.claims request EvidencePayload.linkClaim id) ↔
      Disagree (ledger.claims request EvidencePayload.linkClaim id))
  attachments : ∀ id claim,
    selected EvidencePayload.attachmentClaim (ledger.applied request.generation) id = some claim →
    (deviceRecord (composedDevices ledger config request) claim.value.device).isSome →
    ∀ port, portRecord (composedPorts ledger config request) claim.value.port = some port →
    port.device = claim.value.device →
    (Disputed (ledger.claims request EvidencePayload.attachmentClaim id) ↔
      Disagree (ledger.claims request EvidencePayload.attachmentClaim id))

end Disputes

section Judged

variable {ledger : EvidenceLedger} {config : RackConfig} {request : ComposeInput} {data : SnapshotData}

theorem Composed.device_incomplete (composed : Composed ledger config request data) {device : DeviceRecord}
    (member : device ∈ data.devices) {info : MemberInfo}
    (own : (gather ledger config request).members[device.id]? = some info) (determinate : info.indeterminate = false) :
    (ledger.claims request EvidencePayload.deviceClaim device.id ≠ [] ∧ device.eligibility = .incomplete) ↔
      Disputed (ledger.claims request EvidencePayload.deviceClaim device.id) := by
  rcases composed.device_published member with ⟨claim, chosen, published⟩ | ⟨unclaimed, -⟩
  · rw [gather_deviceClaims] at chosen
    have claimed : ledger.claims request EvidencePayload.deviceClaim device.id ≠ [] := by
      intro nothing
      rw [selected_none.mpr nothing] at chosen
      cases chosen
    rw [observedDevice_incomplete published own determinate, selected_disputed chosen]
    exact and_iff_right claimed
  · rw [gather_deviceClaims, selected_none] at unclaimed
    have nothing : ledger.claims request EvidencePayload.deviceClaim device.id = [] := unclaimed
    rw [nothing]
    exact iff_of_false (fun both => both.1 rfl) not_disputed_nil

theorem Composed.port_incomplete (composed : Composed ledger config request data) {port : PortRecord}
    (member : port ∈ data.ports) :
    port.eligibility = .incomplete ↔ Disputed (ledger.claims request EvidencePayload.portClaim port.id) := by
  obtain ⟨claim, chosen, published⟩ := composed.port_published member
  have owned := publishedPort_member published
  obtain ⟨same, found, -, -, incomplete⟩ := publishedPort_some (gather ledger config request) data.devices port.id owned
  rw [published] at found
  cases found
  rw [gather_portClaims] at chosen
  exact incomplete.trans (selected_disputed chosen)

theorem Composed.link_incomplete (composed : Composed ledger config request data) {link : LinkRecord}
    (member : link ∈ data.links) (first : (portRecord data.ports link.portA).isSome = true)
    (second : (portRecord data.ports link.portB).isSome = true) :
    link.eligibility = .incomplete ↔ Disputed (ledger.claims request EvidencePayload.linkClaim link.id) := by
  obtain ⟨claim, chosen, published⟩ := composed.link_published.mp member
  obtain ⟨same, found, -, portA, portB⟩ := publishedLink_some (gather ledger config request) data.ports (link.id, claim)
  rw [published] at found
  cases found
  rw [portA] at first
  rw [portB] at second
  rw [gather_linkClaims] at chosen
  exact (publishedLink_incomplete published first second).trans (selected_disputed chosen)

theorem Composed.attachment_incomplete (composed : Composed ledger config request data)
    {attachment : AttachmentRecord} {port : PortRecord} (member : attachment ∈ data.attachments)
    (known : (deviceRecord data.devices attachment.device).isSome = true)
    (found : portRecord data.ports attachment.port = some port) (owns : port.device = attachment.device) :
    attachment.eligibility = .incomplete ↔
      Disputed (ledger.claims request EvidencePayload.attachmentClaim attachment.id) := by
  obtain ⟨claim, chosen, published⟩ := composed.attachment_published.mp member
  obtain ⟨same, again, -, device, bound⟩ := publishedAttachment_some data.devices data.ports (attachment.id, claim)
  rw [published] at again
  cases again
  rw [device] at known owns
  rw [bound] at found
  rw [gather_attachmentClaims] at chosen
  exact (publishedAttachment_incomplete published known found owns).trans (selected_disputed chosen)

/-- The disputes that a composition publishes are those among the newest claims exactly when the contests are. -/
theorem compose_disputes_iff {outcome : ComposeOutcome} (composed : compose ledger config request = .ok outcome) :
    DisputesSettled ledger config request outcome.snapshot.data ↔ DisputesMeant ledger config request := by
  obtain ⟨data, held, passes⟩ := compose_composed composed
  have stored : outcome.snapshot.data = data := by
    rw [Snapshot.data, held, Option.getD_some]
  rw [stored]
  constructor
  · intro settled
    constructor
    · intro id info own determinate
      have listed : id ∈ data.devices.map DeviceRecord.id := by
        rw [passes.devices]
        exact (mem_composeDevices_ids _ id).mpr (Std.ExtTreeMap.mem_iff_isSome_getElem?.mpr (by rw [own]; rfl))
      obtain ⟨device, member, rfl⟩ := List.mem_map.mp listed
      rw [← passes.device_incomplete member own determinate]
      exact settled.devices device member info own determinate
    · intro id claim chosen owned
      obtain ⟨port, published, rfl, -⟩ := publishedPort_some (gather ledger config request) data.devices id owned
      rw [← gather_portClaims ledger config request] at chosen
      have member : port ∈ data.ports := passes.port_listed chosen published
      rw [← passes.port_incomplete member]
      exact settled.ports port member
    · intro id claim chosen first second
      rw [← passes.ports_eq] at first second
      obtain ⟨link, published, own, portA, portB⟩ :=
        publishedLink_some (gather ledger config request) data.ports (id, claim)
      dsimp only at own portA portB
      subst own
      rw [← gather_linkClaims ledger config request] at chosen
      have member : link ∈ data.links := passes.link_published.mpr ⟨claim, chosen, published⟩
      rw [← portA] at first
      rw [← portB] at second
      rw [← passes.link_incomplete member first second]
      exact settled.links link member first second
    · intro id claim chosen known port found owns
      rw [← passes.devices_eq] at known
      rw [← passes.ports_eq] at found
      obtain ⟨attachment, published, own, device, bound⟩ :=
        publishedAttachment_some data.devices data.ports (id, claim)
      dsimp only at own device bound
      subst own
      rw [← gather_attachmentClaims ledger config request] at chosen
      have member : attachment ∈ data.attachments := passes.attachment_published.mpr ⟨claim, chosen, published⟩
      rw [← device] at known owns
      rw [← bound] at found
      rw [← passes.attachment_incomplete member known found owns]
      exact settled.attachments attachment member known port found owns
  · intro meant
    constructor
    · intro device member info own determinate
      rw [passes.device_incomplete member own determinate]
      exact meant.devices device.id info own determinate
    · intro port member
      obtain ⟨claim, chosen, published⟩ := passes.port_published member
      rw [passes.port_incomplete member]
      rw [gather_portClaims] at chosen
      exact meant.ports port.id claim chosen (publishedPort_member published)
    · intro link member first second
      obtain ⟨claim, chosen, published⟩ := passes.link_published.mp member
      obtain ⟨same, found, -, portA, portB⟩ :=
        publishedLink_some (gather ledger config request) data.ports (link.id, claim)
      rw [published] at found
      cases found
      rw [passes.link_incomplete member first second]
      rw [gather_linkClaims] at chosen
      rw [portA, passes.ports_eq] at first
      rw [portB, passes.ports_eq] at second
      exact meant.links link.id claim chosen first second
    · intro attachment member known port found owns
      obtain ⟨claim, chosen, published⟩ := passes.attachment_published.mp member
      obtain ⟨same, again, -, device, bound⟩ := publishedAttachment_some data.devices data.ports (attachment.id, claim)
      rw [published] at again
      cases again
      rw [passes.attachment_incomplete member known found owns]
      rw [gather_attachmentClaims] at chosen
      rw [device, passes.devices_eq] at known
      rw [bound, passes.ports_eq] at found
      rw [device] at owns
      exact meant.attachments attachment.id claim chosen known port found owns

end Judged

/-! ### Racks with and without disputes -/

instance {α : Type} [DecidableEq α] (claims : List (Carried α)) : Decidable (Disagree claims) :=
  inferInstanceAs (Decidable (∃ first ∈ claims, ∃ second ∈ claims, (∀ other ∈ claims, other.newness ≤ first.newness) ∧
    second.newness = first.newness ∧ first.2 ≠ second.2))

/-- A subject with one claim is not in dispute, by either account. -/
theorem disputed_iff_of_short {α : Type} {claims : List (Carried α)} (short : claims.length ≤ 1) :
    Disputed claims ↔ Disagree claims := by
  cases claims with
  | nil =>
    refine iff_of_false not_disputed_nil ?_
    rintro ⟨first, member, -⟩
    cases member
  | cons only rest =>
    have none_more : rest = [] := List.length_eq_zero_iff.mp (by simpa using short)
    subst none_more
    refine iff_of_false ?_ ?_
    · rintro ⟨before, value, after, split, -, other, among, -⟩
      cases before with
      | nil => cases among
      | cons head tail => cases tail <;> cases split
    · rintro ⟨first, member, second, also, -, -, apart⟩
      rw [List.mem_singleton.mp member, List.mem_singleton.mp also] at apart
      exact apart rfl

theorem claimsFor_short {α : Type} {pick : EvidencePayload → Option (UInt64 × α)} {records : List EvidenceRecord}
    (distinct : ((records.filterMap fun record => pick record.payload).map Prod.fst).Nodup) (id : UInt64) :
    (claimsFor pick records id).length ≤ 1 := by
  have absent : ∀ rest : List EvidenceRecord,
      id ∉ (rest.filterMap fun record => pick record.payload).map Prod.fst → claimsFor pick rest id = [] := by
    intro rest fresh
    rw [List.eq_nil_iff_forall_not_mem]
    intro carried member
    obtain ⟨among, picked⟩ := mem_claimsFor.mp member
    exact fresh (List.mem_map.mpr ⟨_, List.mem_filterMap.mpr ⟨carried.1, among, picked⟩, rfl⟩)
  induction records with
  | nil => exact Nat.zero_le 1
  | cons record rest ih =>
    cases picked : pick record.payload with
    | none =>
      rw [List.filterMap_cons, picked] at distinct
      have same : claimsFor pick (record :: rest) id = claimsFor pick rest id := by
        simp [claimsFor, picked]
      rw [same]
      exact ih distinct
    | some entry =>
      obtain ⟨own, claim⟩ := entry
      rw [List.filterMap_cons, picked, List.map_cons, List.nodup_cons] at distinct
      by_cases same : own = id
      · subst same
        have one : claimsFor pick (record :: rest) own = (record, claim) :: claimsFor pick rest own := by
          simp [claimsFor, picked]
        rw [one, absent rest distinct.1]
        exact Nat.le_refl 1
      · have other : claimsFor pick (record :: rest) id = claimsFor pick rest id := by
          simp [claimsFor, picked, same]
        rw [other]
        exact ih distinct.2

/-- A report on switch 3. -/
def switchReport (source sequence capacity : UInt64) : EvidenceRecord where
  provenance := { source := source, sequence := sequence }
  payload := .device
    { device := 3, role := .switch, capacity := capacity, capacityKnown := true, availability := .up }

/-- Two sources say the same about the switch. -/
def echoedLedger : EvidenceLedger :=
  EvidenceLedger.insertAll {} (furnishedRack ++ [switchReport 2 1 10])

/-- Two sources differed about the switch before a third reported later. -/
def supersededLedger : EvidenceLedger :=
  EvidenceLedger.insertAll {} (furnishedRack ++ [switchReport 2 1 12, switchReport 3 2 10])

private theorem not_settled_of_switch {ledger : EvidenceLedger}
    (held : ((compose ledger { rack := 7 } ⟨0, 1, .active, {}⟩).passes fun outcome =>
      outcome.snapshot.data.devices.any fun device => device.id == 3 && device.eligibility == .incomplete) = true)
    (determinate : ((gather ledger { rack := 7 } ⟨0, 1, .active, {}⟩).members[(3 : UInt64)]?.any
      fun info => !info.indeterminate) = true)
    (claimed : ledger.claims ⟨0, 1, .active, {}⟩ EvidencePayload.deviceClaim 3 ≠ [])
    (agreed : ¬ Disagree (ledger.claims ⟨0, 1, .active, {}⟩ EvidencePayload.deviceClaim 3)) :
    ∃ outcome, compose ledger { rack := 7 } ⟨0, 1, .active, {}⟩ = .ok outcome ∧
      ¬ DisputesSettled ledger { rack := 7 } ⟨0, 1, .active, {}⟩ outcome.snapshot.data := by
  obtain ⟨outcome, composed, held⟩ := Result.exists_of_passes held
  refine ⟨outcome, composed, ?_⟩
  intro settled
  obtain ⟨device, member, incomplete⟩ := List.any_eq_true.mp held
  simp only [Bool.and_eq_true, beq_iff_eq] at incomplete
  obtain ⟨own, incomplete⟩ := incomplete
  obtain ⟨info, found, undisputed⟩ := (Option.any_eq_true _ _).mp determinate
  have judged := settled.devices device member info (by rw [own]; exact found) (by simpa using undisputed)
  rw [own] at judged
  exact agreed (judged.mp ⟨claimed, incomplete⟩)

/-- Neither an echo nor a dispute that is over leaves the switch in service. -/
theorem agreed_switch_incomplete :
    (∃ outcome, compose echoedLedger { rack := 7 } ⟨0, 1, .active, {}⟩ = .ok outcome ∧
      ¬ DisputesSettled echoedLedger { rack := 7 } ⟨0, 1, .active, {}⟩ outcome.snapshot.data) ∧
    ∃ outcome, compose supersededLedger { rack := 7 } ⟨0, 1, .active, {}⟩ = .ok outcome ∧
      ¬ DisputesSettled supersededLedger { rack := 7 } ⟨0, 1, .active, {}⟩ outcome.snapshot.data := by
  constructor
  · exact not_settled_of_switch (by decide +kernel) (by decide +kernel) (by decide +kernel) (by decide +kernel)
  · exact not_settled_of_switch (by decide +kernel) (by decide +kernel) (by decide +kernel) (by decide +kernel)

/-- Two sources differ about the switch. -/
def rivalLedger : EvidenceLedger :=
  EvidenceLedger.insertAll {} (furnishedRack ++ [switchReport 2 1 12])

theorem rivalLedger_disputed (id : UInt64) :
    Disputed (rivalLedger.claims ⟨0, 1, .active, {}⟩ EvidencePayload.deviceClaim id) ↔
      Disagree (rivalLedger.claims ⟨0, 1, .active, {}⟩ EvidencePayload.deviceClaim id) := by
  by_cases own : id = 3
  · subst own
    have conflicted : (selected EvidencePayload.deviceClaim (rivalLedger.applied 0) 3).any (·.conflicted) = true := by
      decide +kernel
    obtain ⟨claim, chosen, conflicted⟩ := (Option.any_eq_true _ _).mp conflicted
    exact iff_of_true ((selected_disputed chosen).mp conflicted) (by decide +kernel)
  · have named : ∀ record ∈ rivalLedger.applied 0,
        record.payload.deviceClaim.all (fun claim => claim.1 == 3) = true := by decide +kernel
    have none : rivalLedger.claims ⟨0, 1, .active, {}⟩ EvidencePayload.deviceClaim id = [] := by
      rw [List.eq_nil_iff_forall_not_mem]
      intro carried member
      obtain ⟨among, picked⟩ := mem_claimsFor.mp member
      have three := named carried.1 among
      rw [picked] at three
      exact own (by simpa using three)
    rw [none]
    exact disputed_iff_of_short (Nat.zero_le 1)

/-- The two newest claims about the switch differ and it is held incomplete; the others are claimed once and are not. -/
theorem rival_disputes_settled :
    ∃ outcome, compose rivalLedger { rack := 7 } ⟨0, 1, .active, {}⟩ = .ok outcome ∧
      DisputesSettled rivalLedger { rack := 7 } ⟨0, 1, .active, {}⟩ outcome.snapshot.data ∧
      outcome.snapshot.data.devices.map (fun device => (device.id, device.eligibility)) = [(3, .incomplete)] := by
  have held : (compose rivalLedger { rack := 7 } ⟨0, 1, .active, {}⟩).passes fun outcome =>
      outcome.snapshot.data.devices.map (fun device => (device.id, device.eligibility)) == [(3, .incomplete)] := by
    decide +kernel
  have ports : (((rivalLedger.applied 0).filterMap fun record => record.payload.portClaim).map
    Prod.fst).Nodup := by decide +kernel
  have links : (((rivalLedger.applied 0).filterMap fun record => record.payload.linkClaim).map
    Prod.fst).Nodup := by decide +kernel
  have attachments : (((rivalLedger.applied 0).filterMap fun record => record.payload.attachmentClaim).map
    Prod.fst).Nodup := by decide +kernel
  have meant : DisputesMeant rivalLedger { rack := 7 } ⟨0, 1, .active, {}⟩ := by
    constructor
    · intro id _ _ _
      exact rivalLedger_disputed id
    · intro id _ _ _
      exact disputed_iff_of_short (claimsFor_short ports id)
    · intro id _ _ _ _
      exact disputed_iff_of_short (claimsFor_short links id)
    · intro id _ _ _ _ _ _
      exact disputed_iff_of_short (claimsFor_short attachments id)
  obtain ⟨outcome, composed, held⟩ := Result.exists_of_passes held
  exact ⟨outcome, composed, (compose_disputes_iff composed).mpr meant, by simpa using held⟩

end RackFabric
