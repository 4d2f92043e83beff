import RackFabric.Compose.Published
import RackFabric.Persist.EvidenceCodec

/-!
From the claims that are selected to what the passes make of them: when a link is in service, and when a subject is
held in dispute.
-/

namespace RackFabric

open Foundation

/-! ### Availability -/

/-- An eligible port was claimed on a member, undisputed, with a usable availability and a known capacity. -/
theorem publishedPort_eligible {gathered : Gathered} {devices : List DeviceRecord} {id : UInt64}
    {claim : Selection PortClaim} {port : PortRecord}
    (published : publishedPort gathered devices (id, claim) = some port) (eligible : port.eligibility = .eligible) :
    isUsable claim.value.availability = true ∧ port.availability = claim.value.availability ∧
      port.capacityKnown = true ∧ port.id = id ∧ gathered.deviceExcluded port.device = false ∧
      gathered.exclusionOf .port id = false := by
  simp only [publishedPort, composePort] at published
  split at published
  · cases published
  · cases published
    simp only at eligible ⊢
    split at eligible
    · cases eligible
    · split at eligible
      · cases eligible
      · rename_i clear
        split at eligible
        · cases eligible
        · rename_i measured
          simp only [Bool.or_eq_true, Bool.not_eq_true', not_or, Bool.not_eq_true, Bool.not_eq_false] at clear measured
          exact ⟨measured.1.2, trivial, measured.1.1, trivial, clear.1.1, clear.1.2⟩

/-- Beside two usable observations a third is passed over when it is usable, or when its byte has no meaning. -/
theorem combine_usable_iff {a b : Availability} (first : isUsable a = true) (second : isUsable b = true)
    (claimed : Availability) : isUsable (combineAvailability (combineAvailability claimed a) b) = true ↔
      isUsable claimed = true ∨ 4 < claimed.code := by
  simp only [isUsable, Bool.or_eq_true, beq_iff_eq] at first second
  cases claimed with
  | unnamed byte fresh =>
    have excess : (4 : UInt8) < (Availability.unnamed byte fresh).code := fresh
    have passed : ∀ usable : Availability, (usable = .up ∨ usable = .degraded) →
        combineAvailability (.unnamed byte fresh) usable = usable := by
      intro usable known
      rw [combineAvailability, if_neg]
      rw [UInt8.not_le]
      refine UInt8.lt_of_le_of_lt ?_ excess
      rcases known with rfl | rfl
      · decide
      · decide
    rw [passed a first]
    refine iff_of_true ?_ (.inr excess)
    rcases first with rfl | rfl <;> rcases second with rfl | rfl <;> decide
  | _ => rcases first with rfl | rfl <;> rcases second with rfl | rfl <;> decide

/-- What a link needs besides its availability: no dispute, no directive, a capacity, and two eligible ports. -/
structure LinkInOrder (gathered : Gathered) (ports : List PortRecord) (id : UInt64) (claim : Selection LinkClaim) :
    Prop where
  settled : claim.conflicted = false
  clear : gathered.exclusionOf .link id = false
  known : claim.value.capacityKnown = true
  first : ∃ port, portRecord ports claim.value.portA = some port ∧ port.eligibility = .eligible
  second : ∃ port, portRecord ports claim.value.portB = some port ∧ port.eligibility = .eligible

section Usable

variable {ledger : EvidenceLedger} {config : RackConfig} {request : ComposeInput} {data : SnapshotData}

theorem Composed.port_usable (composed : Composed ledger config request data) {id : UInt64} {port : PortRecord}
    (found : portRecord data.ports id = some port) (eligible : port.eligibility = .eligible) :
    isUsable port.availability = true ∧ port.capacityKnown = true ∧
      (gather ledger config request).deviceExcluded port.device = false ∧
      (gather ledger config request).exclusionOf .port port.id = false ∧
      ∃ claim, selected EvidencePayload.portClaim (ledger.applied request.generation) id = some claim ∧
        isUsable claim.value.availability = true := by
  obtain ⟨member, rfl⟩ := composed.portRecord_iff.mp found
  obtain ⟨claim, chosen, published⟩ := composed.port_published member
  obtain ⟨usable, own, known, -, device, clear⟩ := publishedPort_eligible published eligible
  rw [gather_portClaims] at chosen
  exact ⟨own ▸ usable, known, device, clear, claim, chosen, usable⟩

/-- A link is eligible when it is in order and its availability, beside that of its ports, passes for usable. -/
theorem Composed.link_eligible_iff (composed : Composed ledger config request data) {id : UInt64}
    {claim : Selection LinkClaim} {link : LinkRecord}
    (published : publishedLink (gather ledger config request) data.ports (id, claim) = some link) :
    link.eligibility = .eligible ↔ LinkInOrder (gather ledger config request) data.ports id claim ∧
      (isUsable claim.value.availability = true ∨ 4 < claim.value.availability.code) := by
  simp only [publishedLink, composeLink, composeJoinedLink] at published
  cases foundA : portRecord data.ports claim.value.portA with
  | none =>
    rw [foundA] at published
    cases published
    refine iff_of_false (by simp) ?_
    rintro ⟨order, -⟩
    obtain ⟨port, found, -⟩ := order.first
    rw [foundA] at found
    cases found
  | some a =>
    cases foundB : portRecord data.ports claim.value.portB with
    | none =>
      rw [foundA, foundB] at published
      cases published
      refine iff_of_false (by simp) ?_
      rintro ⟨order, -⟩
      obtain ⟨port, found, -⟩ := order.second
      rw [foundB] at found
      cases found
    | some b =>
      rw [foundA, foundB] at published
      cases published
      dsimp only
      constructor
      · intro eligible
        split at eligible
        · cases eligible
        · rename_i settled
          split at eligible
          · cases eligible
          · rename_i clear
            split at eligible
            · cases eligible
            · rename_i sound
              simp only [Bool.or_eq_true, Bool.not_eq_true', not_or, Bool.not_eq_true, Bool.not_eq_false,
                bne_eq_false_iff_eq, Bool.and_eq_true] at settled clear sound
              obtain ⟨⟨⟨known, usable⟩, usableA⟩, usableB⟩ := sound
              refine ⟨⟨settled, clear.2, known.2, ⟨a, foundA, usableA⟩, ⟨b, foundB, usableB⟩⟩, ?_⟩
              exact (combine_usable_iff (composed.port_usable foundA usableA).1
                (composed.port_usable foundB usableB).1 _).mp usable
      · rintro ⟨order, available⟩
        obtain ⟨port, found, usableA⟩ := order.first
        rw [foundA] at found
        cases found
        obtain ⟨port, found, usableB⟩ := order.second
        rw [foundB] at found
        cases found
        obtain ⟨upA, knownA, deviceA, clearA, -⟩ := composed.port_usable foundA usableA
        obtain ⟨upB, knownB, deviceB, clearB, -⟩ := composed.port_usable foundB usableB
        have usable := (combine_usable_iff upA upB _).mpr available
        simp [order.settled, deviceA, deviceB, clearA, clearB, order.clear, knownA, knownB, order.known, usable, usableA,
          usableB]

/-- An eligible link and both its ports were claimed with a usable availability. -/
def LinksObservedUsable (ledger : EvidenceLedger) (request : ComposeInput) (data : SnapshotData) : Prop :=
  ∀ link ∈ data.links, link.eligibility = .eligible →
    (∃ claim, selected EvidencePayload.linkClaim (ledger.applied request.generation) link.id = some claim ∧
      isUsable claim.value.availability = true) ∧
    ∀ port ∈ [link.portA, link.portB],
      ∃ claim, selected EvidencePayload.portClaim (ledger.applied request.generation) port = some claim ∧
        isUsable claim.value.availability = true

/-- Eligible links rest on usable observations exactly when no link that is otherwise in order was claimed with an
availability byte that has no meaning. -/
theorem compose_links_usable_iff {outcome : ComposeOutcome} (composed : compose ledger config request = .ok outcome) :
    LinksObservedUsable ledger request outcome.snapshot.data ↔
      ∀ id claim, selected EvidencePayload.linkClaim (ledger.applied request.generation) id = some claim →
        LinkInOrder (gather ledger config request) (composedPorts ledger config request) id claim →
        claim.value.availability.code ≤ 4 := by
  obtain ⟨data, held, passes⟩ := compose_composed composed
  have stored : outcome.snapshot.data = data := by
    rw [Snapshot.data, held, Option.getD_some]
  rw [stored, ← passes.ports_eq]
  constructor
  · intro usable id claim chosen order
    obtain ⟨link, published, own, -⟩ := publishedLink_some (gather ledger config request) data.ports (id, claim)
    dsimp only at own
    subst own
    rw [← gather_linkClaims ledger config request] at chosen
    have member : link ∈ data.links := passes.link_published.mpr ⟨claim, chosen, published⟩
    by_contra excess
    rw [UInt8.not_le] at excess
    have eligible := (passes.link_eligible_iff published).mpr ⟨order, .inr excess⟩
    obtain ⟨⟨other, found, known⟩, -⟩ := usable link member eligible
    rw [gather_linkClaims] at chosen
    rw [chosen] at found
    cases found
    simp only [isUsable, Bool.or_eq_true, beq_iff_eq] at known
    rcases known with known | known
    · rw [known] at excess
      exact absurd excess (by decide)
    · rw [known] at excess
      exact absurd excess (by decide)
  · intro meant link member eligible
    obtain ⟨claim, chosen, published⟩ := passes.link_published.mp member
    obtain ⟨order, available⟩ := (passes.link_eligible_iff published).mp eligible
    obtain ⟨same, found, -, portA, portB⟩ := publishedLink_some (gather ledger config request) data.ports (link.id, claim)
    rw [published] at found
    cases found
    rw [gather_linkClaims] at chosen
    constructor
    · refine ⟨claim, chosen, ?_⟩
      rcases available with usable | excess
      · exact usable
      · exact absurd (meant link.id claim chosen order) (UInt8.not_le.mpr excess)
    · intro port listed
      simp only [List.mem_cons, List.not_mem_nil, or_false] at listed
      rcases listed with rfl | rfl
      · obtain ⟨record, found, usable⟩ := order.first
        rw [portA]
        exact (passes.port_usable found usable).2.2.2.2
      · obtain ⟨record, found, usable⟩ := order.second
        rw [portB]
        exact (passes.port_usable found usable).2.2.2.2

end Usable

/-- The furnished rack, whose link reports an availability that no sender should know. -/
def strayRack : List EvidenceRecord :=
  furnishedRack.take 4 ++
    [{ provenance := { source := 1, sequence := 1 }
       payload := .link ⟨6, 4, 5, .physical, 9, true, .unnamed 9 (by decide)⟩ }] ++ furnishedRack.drop 5

/-- The decoder takes every record of the stray rack, and its link is put into service. -/
theorem stray_link_eligible :
    (∀ record ∈ strayRack, decodeEvidence (evidenceBytes record) = .ok (record, [])) ∧
      ∃ outcome, compose (EvidenceLedger.insertAll {} strayRack) { rack := 7 } ⟨0, 1, .active, {}⟩ = .ok outcome ∧
        ¬ LinksObservedUsable (EvidenceLedger.insertAll {} strayRack) ⟨0, 1, .active, {}⟩ outcome.snapshot.data := by
  constructor
  · have valid : ∀ record ∈ strayRack, validateEvidence record = .ok () := by decide +kernel
    intro record member
    have read := exact_evidence.reads record (valid record member) []
    rwa [List.append_nil] at read
  · have inService : (compose (EvidenceLedger.insertAll {} strayRack) { rack := 7 } ⟨0, 1, .active, {}⟩).passes fun outcome =>
        outcome.snapshot.data.links.any fun link => link.id == 6 && link.eligibility == .eligible := by rfl
    have claimed : ∀ entry ∈ (gather (EvidenceLedger.insertAll {} strayRack) { rack := 7 }
        ⟨0, 1, .active, {}⟩).linkClaims.toList, isUsable entry.2.value.availability = false := by decide +kernel
    obtain ⟨outcome, composed, inService⟩ := Result.exists_of_passes inService
    refine ⟨outcome, composed, ?_⟩
    intro usable
    obtain ⟨link, member, eligible⟩ := List.any_eq_true.mp inService
    simp only [Bool.and_eq_true, beq_iff_eq] at eligible
    obtain ⟨⟨claim, chosen, known⟩, -⟩ := usable link member eligible.2
    rw [← gather_linkClaims _ { rack := 7 }] at chosen
    rw [claimed (link.id, claim) (Std.ExtTreeMap.mem_toList_iff_getElem?_eq_some.mpr chosen)] at known
    cases known

/-- The link of the furnished rack is eligible on observations that say so. -/
theorem furnished_link_usable :
    ∃ outcome, compose furnishedLedger { rack := 7 } ⟨0, 1, .active, {}⟩ = .ok outcome ∧
      LinksObservedUsable furnishedLedger ⟨0, 1, .active, {}⟩ outcome.snapshot.data := by
  have meant : ∀ entry ∈ (gather furnishedLedger { rack := 7 } ⟨0, 1, .active, {}⟩).linkClaims.toList,
      entry.2.value.availability.code ≤ 4 := by decide +kernel
  obtain ⟨outcome, composed, -⟩ := furnished_composes
  refine ⟨outcome, composed, (compose_links_usable_iff composed).mpr ?_⟩
  intro id claim chosen _
  rw [← gather_linkClaims _ { rack := 7 }] at chosen
  exact meant (id, claim) (Std.ExtTreeMap.mem_toList_iff_getElem?_eq_some.mpr chosen)

end RackFabric
