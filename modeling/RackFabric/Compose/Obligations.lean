import RackFabric.Compose.CapacityLedger
import RackFabric.Compose.Disputes

/-!
Obligations from the claims to the accounts. A published obligation has the target of the last claim in slot order and
the rest of the claim that is selected. What it withholds is charged to its target, and every target but one has a
resource state that shows the charge.
-/

namespace RackFabric

open Foundation

/-- The record of an obligation that was gathered. -/
def obligationOf (entry : UInt64 × ResourceRef × Selection ObligationClaim) : ObligationRecord where
  id := entry.1
  target := entry.2.1
  capacity := entry.2.2.value.capacity
  holder := entry.2.2.value.holder
  authority := entry.2.2.value.authority
  source := entry.2.2.source

/-- What is charged to a target by a list of obligations. -/
def chargedOn (obligations : List ObligationRecord) (target : ResourceRef) : Nat :=
  ((obligations.filter fun record => record.target = target).map fun record => record.capacity.toNat).sum

section Pass

variable {gathered : Gathered} {config : RackConfig} {ports : List PortRecord} {links : List LinkRecord}

/-- Each bucket holds the charge of the obligations taken up on its target. -/
def ObligationPass.Charges (pass : ObligationPass) : Prop :=
  ∀ target, (pass.obligatedByTarget.getD target 0).toNat = chargedOn pass.obligations target

theorem composeObligation_takes {pass next : ObligationPass} {entry : UInt64 × ResourceRef × Selection ObligationClaim}
    (stepped : composeObligation gathered config ports links pass entry = .ok next) :
    next.obligations = pass.obligations ++
        (if targetInRack gathered config ports links entry.2.1 then [obligationOf entry] else []) ∧
      (pass.Charges → next.Charges) := by
  obtain ⟨id, target, selection⟩ := entry
  simp only [composeObligation] at stepped
  split at stepped
  · rename_i outside
    cases stepped
    simp only [Bool.not_eq_true'] at outside
    simp only [outside, Bool.false_eq_true, if_false, List.append_nil, true_and]
    intro charges
    exact charges
  · rename_i inside
    simp only [Bool.not_eq_true', Bool.not_eq_false] at inside
    split at stepped
    · cases stepped
    · rename_i sum added
      cases stepped
      simp only [inside, if_true, obligationOf, true_and]
      intro charges other
      have held := charges other
      simp only [chargedOn, List.filter_append, List.map_append, List.sum_append] at held ⊢
      rw [Std.ExtTreeMap.getD_insert]
      by_cases same : target = other
      · subst same
        rw [if_pos (by simp), checkedAddU64_toNat added, held]
        simp
      · rw [if_neg (by simpa using same), held]
        simp [same]

/-- The obligations published are those gathered on targets in the rack, and the buckets are their charges. -/
theorem composeObligations_takes {diagnostics : Diagnostics} {pass : ObligationPass}
    (composed : composeObligations gathered config ports links diagnostics = .ok pass) :
    (∀ record, record ∈ pass.obligations ↔ ∃ id target selection,
      gathered.obligations[id]? = some (target, selection) ∧ targetInRack gathered config ports links target = true ∧
        record = obligationOf (id, target, selection)) ∧ pass.Charges := by
  have run : ∀ (entries : List (UInt64 × ResourceRef × Selection ObligationClaim)) (start after : ObligationPass),
      entries.foldlM (composeObligation gathered config ports links) start = .ok after →
      after.obligations = start.obligations ++
        (entries.filter fun entry => targetInRack gathered config ports links entry.2.1).map obligationOf ∧
      (start.Charges → after.Charges) := by
    intro entries
    induction entries with
    | nil =>
      intro start after ran
      cases ran
      exact ⟨by simp, fun before => before⟩
    | cons entry rest ih =>
      intro start after ran
      rw [List.foldlM_cons] at ran
      obtain ⟨next, stepped, ran⟩ := bind_eq_ok.mp ran
      obtain ⟨published, charges⟩ := ih next after ran
      obtain ⟨taken, charged⟩ := composeObligation_takes stepped
      refine ⟨?_, fun before => charges (charged before)⟩
      rw [published, taken]
      by_cases inside : targetInRack gathered config ports links entry.2.1 = true
      · simp [inside]
      · simp [inside]
  obtain ⟨after, ran, published⟩ := bind_eq_ok.mp composed
  cases published
  obtain ⟨taken, charges⟩ := run _ _ after ran
  constructor
  · intro record
    rw [(sortBy_perm _ _).mem_iff, taken]
    simp only [List.nil_append, List.mem_map, List.mem_filter, Prod.exists,
      Std.ExtTreeMap.mem_toList_iff_getElem?_eq_some]
    constructor
    · rintro ⟨id, target, selection, ⟨found, inside⟩, rfl⟩
      exact ⟨id, target, selection, found, inside, rfl⟩
    · rintro ⟨id, target, selection, found, inside, rfl⟩
      exact ⟨id, target, selection, ⟨found, inside⟩, rfl⟩
  · intro target
    have held := charges (fun target => by simp [chargedOn]) target
    refine held.trans ?_
    exact (((sortBy_perm _ _).filter _).map _).sum_eq.symm

end Pass

/-- The pass over the obligations of a composition, and what the accounts make of it. -/
theorem compose_obligated {ledger : EvidenceLedger} {config : RackConfig} {request : ComposeInput}
    {outcome : ComposeOutcome} (composed : compose ledger config request = .ok outcome) :
    ∃ data pass, outcome.snapshot.handle = some data ∧ Composed ledger config request data ∧
      (∃ notes, composeObligations (gather ledger config request) config data.ports data.links notes = .ok pass) ∧
      data.obligations = pass.obligations ∧
      ∃ inputs : ResourceInputs, data.resources = inputs.resources ∧ inputs.config = config ∧
        inputs.obligatedByTarget = pass.obligatedByTarget ∧ inputs.paths = data.paths := by
  obtain ⟨data, held, passes⟩ := compose_composed composed
  simp only [compose, bind_eq_ok] at composed
  obtain ⟨_, _, _, _, _, _, _, _, _, _, _, _, _, _, pass, obliged, _, _, rest⟩ := composed
  obtain ⟨capacity, _, rest⟩ := rest
  obtain ⟨paths, _, rest⟩ := rest
  cases rest
  cases held
  exact ⟨_, pass, rfl, passes, ⟨_, obliged⟩, rfl, _, rfl, rfl, rfl, rfl⟩

/-! ### One claim for each obligation -/

section Winning

variable (ledger : EvidenceLedger) (config : RackConfig) (request : ComposeInput)

/-- The claim about an obligation that the contest leaves standing. -/
def EvidenceLedger.winningClaim (id : UInt64) : Option (Carried ObligationClaim) :=
  (contest Carried.newness Carried.contentMark (ledger.claims request EvidencePayload.obligationClaim id)).map Prod.fst

/-- The claim about an obligation whose slot comes last in the ledger's order. -/
def EvidenceLedger.lastClaim (id : UInt64) : Option (Carried ObligationClaim) :=
  (ledger.claims request EvidencePayload.obligationClaim id).getLast?

/-- Every published obligation is one applicable claim about it, and none about it is newer. -/
def ObligationsWon (data : SnapshotData) : Prop :=
  ∀ record ∈ data.obligations, ∃ carried : Carried ObligationClaim,
    Tops Carried.newness Carried.contentMark (ledger.claims request EvidencePayload.obligationClaim record.id)
        carried ∧
      record.target = carried.2.target ∧ record.capacity = carried.2.capacity ∧ record.holder = carried.2.holder ∧
      record.authority = carried.2.authority ∧ record.source = carried.1.provenance.source

/-- Where the last claim about an obligation names a resource of the rack, the winning claim names the same one. -/
def ObligationsAgree : Prop :=
  ∀ id last winner, ledger.lastClaim request id = some last → ledger.winningClaim request id = some winner →
    targetInRack (gather ledger config request) config (composedPorts ledger config request)
      (composedLinks ledger config request) last.2.target = true →
    winner.2.target = last.2.target

theorem gathered_obligation_iff {id : UInt64} {target : ResourceRef} {selection : Selection ObligationClaim} :
    (gather ledger config request).obligations[id]? = some (target, selection) ↔
      ∃ last winner flag, ledger.lastClaim request id = some last ∧ last.2.target = target ∧
        contest Carried.newness Carried.contentMark (ledger.claims request EvidencePayload.obligationClaim id) =
          some (winner, flag) ∧ selectionOf (winner, flag) = selection := by
  rw [gather_obligations, Option.bind_eq_some_iff]
  constructor
  · intro found
    obtain ⟨last, listed, chosen⟩ := found
    obtain ⟨selection, held, same⟩ := Option.map_eq_some_iff.mp chosen
    cases same
    obtain ⟨⟨winner, flag⟩, contested, rfl⟩ := Option.map_eq_some_iff.mp held
    exact ⟨last, winner, flag, listed, rfl, contested, rfl⟩
  · intro found
    obtain ⟨last, winner, flag, listed, rfl, contested, rfl⟩ := found
    refine ⟨last, listed, ?_⟩
    have held : selected EvidencePayload.obligationClaim (ledger.applied request.generation) id =
        some (selectionOf (winner, flag)) := Option.map_eq_some_iff.mpr ⟨_, contested, rfl⟩
    rw [held]
    rfl

variable {ledger config request}

theorem EvidenceLedger.winningClaim_tops {id : UInt64} {winner : Carried ObligationClaim}
    (won : ledger.winningClaim request id = some winner) :
    Tops Carried.newness Carried.contentMark (ledger.claims request EvidencePayload.obligationClaim id) winner := by
  obtain ⟨⟨carried, flag⟩, contested, rfl⟩ := Option.map_eq_some_iff.mp won
  exact (contest_tops contested).1

/-- Without a collision of digests only one claim can be first. -/
theorem tops_unique {α : Type} {pick : EvidencePayload → Option (UInt64 × α)} {records : List EvidenceRecord}
    {key : UInt64} (free : CollisionFree records) {a b : Carried α}
    (first : Tops Carried.newness Carried.contentMark (claimsFor pick records key) a)
    (second : Tops Carried.newness Carried.contentMark (claimsFor pick records key) b) : a = b := by
  have level : a.newness = b.newness := le_antisymm (second.newest a first.member) (first.newest b second.member)
  have marks : a.contentMark = b.contentMark :=
    le_antisymm (first.least b second.member level.symm) (second.least a first.member level)
  obtain ⟨listedA, pickedA⟩ := mem_claimsFor.mp first.member
  obtain ⟨listedB, pickedB⟩ := mem_claimsFor.mp second.member
  have same : a.1 = b.1 := free _ listedA _ listedB (contentMark_inj.mp marks)
  rw [same, pickedB, Option.some.injEq, Prod.mk.injEq] at pickedA
  exact Prod.ext same pickedA.2.symm

theorem Composed.obligation_iff {data : SnapshotData} (composed : Composed ledger config request data)
    {notes : Diagnostics} {pass : ObligationPass}
    (obliged : composeObligations (gather ledger config request) config data.ports data.links notes = .ok pass)
    (record : ObligationRecord) :
    record ∈ pass.obligations ↔ ∃ last winner flag, ledger.lastClaim request record.id = some last ∧
      contest Carried.newness Carried.contentMark (ledger.claims request EvidencePayload.obligationClaim record.id) =
        some (winner, flag) ∧
      targetInRack (gather ledger config request) config (composedPorts ledger config request)
        (composedLinks ledger config request) last.2.target = true ∧
      record = obligationOf (record.id, last.2.target, selectionOf (winner, flag)) := by
  rw [(composeObligations_takes obliged).1, composed.ports_eq, composed.links_eq]
  simp only [gathered_obligation_iff]
  constructor
  · intro published
    obtain ⟨id, _, _, ⟨last, winner, flag, listed, rfl, contested, rfl⟩, inside, rfl⟩ := published
    exact ⟨last, winner, flag, listed, contested, inside, rfl⟩
  · intro published
    obtain ⟨last, winner, flag, listed, contested, inside, same⟩ := published
    exact ⟨record.id, _, _, ⟨last, winner, flag, listed, rfl, contested, rfl⟩, inside, same⟩

/-- Obligations are single winning claims when the targets agree; otherwise some obligation is pieced together. -/
theorem compose_obligations_won_iff {outcome : ComposeOutcome}
    (composed : compose ledger config request = .ok outcome) :
    (ObligationsAgree ledger config request → ObligationsWon ledger request outcome.snapshot.data) ∧
      (CollisionFree (ledger.applied request.generation) →
        (ObligationsWon ledger request outcome.snapshot.data ↔ ObligationsAgree ledger config request)) := by
  obtain ⟨data, pass, held, passes, ⟨notes, obliged⟩, published, -⟩ := compose_obligated composed
  have stored : outcome.snapshot.data = data := by rw [Snapshot.data, held, Option.getD_some]
  rw [stored]
  have enough : ObligationsAgree ledger config request → ObligationsWon ledger request data := by
    intro agree record member
    rw [published, passes.obligation_iff obliged] at member
    obtain ⟨last, winner, flag, listed, contested, inside, same⟩ := member
    have won : ledger.winningClaim request record.id = some winner := Option.map_eq_some_iff.mpr ⟨_, contested, rfl⟩
    have target := agree record.id last winner listed won inside
    refine ⟨winner, EvidenceLedger.winningClaim_tops won, ?_⟩
    rw [same, target]
    exact ⟨rfl, rfl, rfl, rfl, rfl⟩
  refine ⟨enough, fun free => ⟨?_, enough⟩⟩
  intro whole id last winner listed won inside
  obtain ⟨⟨carried, flag⟩, contested, rfl⟩ := Option.map_eq_some_iff.mp won
  let record := obligationOf (id, last.2.target, selectionOf (carried, flag))
  have member : record ∈ data.obligations := by
    rw [published, passes.obligation_iff obliged]
    exact ⟨last, carried, flag, listed, contested, inside, rfl⟩
  obtain ⟨other, tops, target, -⟩ := whole record member
  have same : other = carried := tops_unique free tops (EvidenceLedger.winningClaim_tops won)
  rw [← same, ← target]
  rfl

end Winning

/-! ### Conservation -/

/-- Where the states look up what is withheld from their resource. -/
def chargeKey (ref : ResourceRef) : ResourceRef :=
  if ref.kind = .rack then ⟨.rack, 0⟩ else ref

/-- What the resource states show as obligated is what the obligations withhold, and so is the ledger's total. -/
structure SnapshotData.ObligationsConserved (data : SnapshotData) : Prop where
  shown : (data.resources.map fun state => state.obligated.toNat).sum =
    (data.obligations.map fun record => record.capacity.toNat).sum
  totalled : (data.obligations.map fun record => record.capacity.toNat).sum = data.capacity.obligated.toNat

section Conserved

variable {ledger : EvidenceLedger} {config : RackConfig} {request : ComposeInput} {data : SnapshotData}

/-- Nothing is withheld from the rack by a claim that spells the rack's identity out. -/
def RackUnspelled (ledger : EvidenceLedger) (config : RackConfig) (request : ComposeInput) : Prop :=
  ∀ id last winner, ledger.lastClaim request id = some last → ledger.winningClaim request id = some winner →
    last.2.target = ⟨.rack, config.rack⟩ → winner.2.capacity = 0

theorem compose_rack_set {outcome : ComposeOutcome} (composed : compose ledger config request = .ok outcome) :
    config.rack ≠ 0 := by
  intro unset
  simp only [compose, bind_eq_ok] at composed
  obtain ⟨_, checked, -⟩ := composed
  rw [checkRack, unset] at checked
  cases checked

/-- The keys of the states are distinct: only the rack's own state has a key that is not its name. -/
theorem Composed.chargeKeys_nodup (composed : Composed ledger config request data) (own : data.rack = config.rack) :
    (data.resources.map fun state => chargeKey state.ref).Nodup := by
  have refs : (data.resources.map ResourceState.ref).Nodup := by
    obtain ⟨inputs, published, -⟩ := composed.resources
    rw [published]
    exact inputs.resources_refs.1
  have keys : data.resources.map (fun state => chargeKey state.ref) =
      (data.resources.map ResourceState.ref).map chargeKey := by
    rw [List.map_map]
    rfl
  rw [keys]
  refine List.Nodup.map_on ?_ refs
  intro first listed second other same
  have rackOwn : ∀ ref ∈ data.resources.map ResourceState.ref, ref.kind = .rack → ref = ⟨.rack, data.rack⟩ := by
    intro ref member rack
    rcases (data.mem_subjects_iff ref).mp ((composed.mem_subjects own ref).mp member) with
      rfl | ⟨_, _, rfl⟩ | ⟨_, _, rfl⟩ | ⟨_, _, rfl⟩ | ⟨_, _, rfl⟩ | ⟨_, _, rfl⟩
    · rfl
    all_goals cases rack
  by_cases first_rack : first.kind = .rack
  · by_cases second_rack : second.kind = .rack
    · rw [rackOwn first listed first_rack, rackOwn second other second_rack]
    · rw [chargeKey, if_pos first_rack, chargeKey, if_neg second_rack] at same
      exact absurd (congrArg ResourceRef.kind same).symm second_rack
  · by_cases second_rack : second.kind = .rack
    · rw [chargeKey, if_neg first_rack, chargeKey, if_pos second_rack] at same
      exact absurd (congrArg ResourceRef.kind same) first_rack
    · rwa [chargeKey, if_neg first_rack, chargeKey, if_neg second_rack] at same

/-- A target in the rack is a key of some state, unless it is the rack under its own identity. -/
theorem Composed.charged_iff (composed : Composed ledger config request data) (own : data.rack = config.rack)
    (set : config.rack ≠ 0) {target : ResourceRef}
    (inside : targetInRack (gather ledger config request) config data.ports data.links target = true) :
    target ∈ data.resources.map (fun state => chargeKey state.ref) ↔ target ≠ ⟨.rack, config.rack⟩ := by
  have listed : ∀ ref, ref ∈ data.subjects → chargeKey ref ∈ data.resources.map fun state => chargeKey state.ref := by
    intro ref subject
    obtain ⟨state, member, rfl⟩ := List.mem_map.mp ((composed.mem_subjects own ref).mpr subject)
    exact List.mem_map_of_mem (f := fun state => chargeKey state.ref) member
  constructor
  · intro member spelled
    obtain ⟨state, -, key⟩ := List.mem_map.mp member
    rw [spelled, chargeKey] at key
    split at key
    · exact set (congrArg ResourceRef.id key).symm
    · rename_i other
      exact other (congrArg ResourceRef.kind key)
  · intro unspelled
    obtain ⟨kind, id⟩ := target
    simp only [targetInRack] at inside
    simp only [data.mem_subjects_iff] at listed
    cases kind with
    | rack =>
      simp only [Bool.or_eq_true, beq_iff_eq] at inside
      rcases inside with rfl | rfl
      · exact absurd rfl unspelled
      · exact listed ⟨.rack, data.rack⟩ (.inl rfl)
    | device =>
      have member : id ∈ data.devices.map DeviceRecord.id := by
        rw [composed.devices, mem_composeDevices_ids]
        exact Std.ExtTreeMap.contains_iff_mem.mp inside
      obtain ⟨device, found, rfl⟩ := List.mem_map.mp member
      exact listed ⟨.device, device.id⟩ (.inr (.inl ⟨device, found, rfl⟩))
    | port =>
      obtain ⟨port, found⟩ := Option.isSome_iff_exists.mp inside
      obtain ⟨member, rfl⟩ := composed.portRecord_iff.mp found
      exact listed ⟨.port, port.id⟩ (.inr (.inr (.inl ⟨port, member, rfl⟩)))
    | link =>
      obtain ⟨link, found⟩ := Option.isSome_iff_exists.mp inside
      obtain ⟨member, rfl⟩ := composed.linkRecord_iff.mp found
      exact listed ⟨.link, link.id⟩ (.inr (.inr (.inr (.inl ⟨link, member, rfl⟩))))
    | attachment =>
      obtain ⟨claim, found⟩ := Option.isSome_iff_exists.mp
        ((Std.ExtTreeMap.isSome_getElem?_iff_mem).mpr (Std.ExtTreeMap.contains_iff_mem.mp inside))
      obtain ⟨attachment, published, same, -⟩ := publishedAttachment_some data.devices data.ports (id, claim)
      subst same
      have member : attachment ∈ data.attachments := composed.attachment_published.mpr ⟨claim, found, published⟩
      exact listed ⟨.attachment, attachment.id⟩ (.inr (.inr (.inr (.inr (.inl ⟨attachment, member, rfl⟩)))))
    | path => cases inside
    | _ => cases inside

/-- What the states show falls short of what is withheld by what is charged to no state. -/
theorem Composed.shown_short (composed : Composed ledger config request data) (own : data.rack = config.rack)
    {pass : ObligationPass} (charges : pass.Charges) (published : data.obligations = pass.obligations)
    (stated : ∃ inputs : ResourceInputs, data.resources = inputs.resources ∧ inputs.config = config ∧
      inputs.obligatedByTarget = pass.obligatedByTarget ∧ inputs.paths = data.paths) :
    (data.resources.map fun state => state.obligated.toNat).sum +
        ((data.obligations.filter fun record =>
          !decide (record.target ∈ data.resources.map fun state => chargeKey state.ref)).map
            fun record => record.capacity.toNat).sum =
      (data.obligations.map fun record => record.capacity.toNat).sum := by
  obtain ⟨inputs, resources, -, buckets, -⟩ := stated
  have shown : data.resources.map (fun state => state.obligated.toNat) =
      (data.resources.map fun state => chargeKey state.ref).map (chargedOn data.obligations) := by
    rw [List.map_map]
    apply List.map_congr_left
    intro state member
    have looked : state.obligated = inputs.obligatedOn (chargeKey state.ref) := by
      rw [resources] at member
      rcases ResourceInputs.mem_resources member with rfl | ⟨_, _, rfl⟩ | ⟨_, _, rfl⟩ | ⟨_, _, rfl⟩ | ⟨_, _, rfl⟩ |
        ⟨_, _, rfl⟩
      all_goals rfl
    rw [looked, ResourceInputs.obligatedOn, buckets, charges, published]
    rfl
  rw [shown]
  have collected := sum_by_key ObligationRecord.target (fun record => record.capacity.toNat)
    (composed.chargeKeys_nodup own) data.obligations
  have parts := sum_split
    (fun record => decide (record.target ∈ data.resources.map fun state => chargeKey state.ref))
    (fun record : ObligationRecord => record.capacity.toNat) data.obligations
  have charged : ((data.resources.map fun state => chargeKey state.ref).map (chargedOn data.obligations)).sum =
      _ := collected
  omega

/-- Obligations are conserved when nothing is withheld from the rack under its own identity, and not otherwise. -/
theorem compose_obligations_conserved_iff {outcome : ComposeOutcome}
    (composed : compose ledger config request = .ok outcome) :
    outcome.snapshot.data.ObligationsConserved ↔ RackUnspelled ledger config request := by
  obtain ⟨data, pass, held, passes, ⟨notes, obliged⟩, published, stated⟩ := compose_obligated composed
  obtain ⟨same, first, own, -⟩ := compose_header composed
  rw [held] at first
  cases first
  have stored : outcome.snapshot.data = data := by rw [Snapshot.data, held, Option.getD_some]
  rw [stored]
  have totalled : data.capacity.obligated.toNat = (data.obligations.map fun record => record.capacity.toNat).sum := by
    have accounts := compose_ensures ledger config request
    rw [composed] at accounts
    obtain ⟨same, first, accounted⟩ := accounts
    rw [held] at first
    cases first
    exact accounted.obligated
  have inside : ∀ record ∈ data.obligations,
      targetInRack (gather ledger config request) config data.ports data.links record.target = true := by
    intro record member
    rw [published, (composeObligations_takes obliged).1] at member
    obtain ⟨id, target, selection, -, inside, rfl⟩ := member
    exact inside
  have short := passes.shown_short own (composeObligations_takes obliged).2 published stated
  have charged := fun record member => passes.charged_iff own (compose_rack_set composed) (inside record member)
  constructor
  · intro conserved id last winner listed won spelled
    have nothing : ((data.obligations.filter fun record =>
        !decide (record.target ∈ data.resources.map fun state => chargeKey state.ref)).map
          fun record => record.capacity.toNat).sum = 0 := by
      have shown := conserved.shown
      omega
    obtain ⟨⟨carried, flag⟩, contested, rfl⟩ := Option.map_eq_some_iff.mp won
    let record := obligationOf (id, last.2.target, selectionOf (carried, flag))
    have member : record ∈ data.obligations := by
      rw [published, passes.obligation_iff obliged]
      refine ⟨last, carried, flag, listed, contested, ?_, rfl⟩
      simp [spelled, targetInRack]
    have unstated : record.target ∉ data.resources.map fun state => chargeKey state.ref := by
      rw [charged record member]
      exact fun apart => apart spelled
    have none := List.sum_eq_zero_iff_forall_eq_nat.mp nothing record.capacity.toNat
      (List.mem_map.mpr ⟨record, List.mem_filter.mpr ⟨member, by simpa using unstated⟩, rfl⟩)
    exact UInt64.toNat_inj.mp none
  · intro unspelled
    refine ⟨?_, totalled.symm⟩
    have nothing : ((data.obligations.filter fun record =>
        !decide (record.target ∈ data.resources.map fun state => chargeKey state.ref)).map
          fun record => record.capacity.toNat).sum = 0 := by
      apply List.sum_eq_zero_iff_forall_eq_nat.mpr
      intro amount listed
      obtain ⟨record, chosen, rfl⟩ := List.mem_map.mp listed
      obtain ⟨member, unstated⟩ := List.mem_filter.mp chosen
      have spelled : record.target = ⟨.rack, config.rack⟩ := by
        by_contra apart
        have stated := (charged record member).mpr apart
        simp [stated] at unstated
      rw [published, passes.obligation_iff obliged] at member
      obtain ⟨last, winner, flag, listed, contested, -, taken⟩ := member
      have won : ledger.winningClaim request record.id = some winner := Option.map_eq_some_iff.mpr ⟨_, contested, rfl⟩
      have target : last.2.target = ⟨.rack, config.rack⟩ := by rw [← spelled, taken]; rfl
      have free := unspelled record.id last winner listed won target
      rw [taken]
      exact congrArg UInt64.toNat free
    omega

end Conserved

/-! ### Three ledgers -/

/-- A claim that withholds capacity for obligation 9. -/
def owing (source sequence : UInt64) (targetKind : ResourceKind) (targetId capacity : UInt64) : EvidenceRecord where
  provenance := { source := source, sequence := sequence }
  payload := .obligation
    { obligation := 9, targetKind := targetKind, targetId := targetId, capacity := capacity, holder := 1, authority := [] }

def owingLedger (claims : List EvidenceRecord) : EvidenceLedger :=
  EvidenceLedger.insertAll {} (furnishedRack ++ claims)

/-- The obligation is published on the port that the older claim names, with the amount that the newer one withholds
from the switch. -/
theorem moved_obligation_mixed :
    ∃ outcome, compose (owingLedger [owing 1 2 .device 3 4, owing 2 1 .port 4 2]) { rack := 7 } ⟨0, 1, .active, {}⟩ =
      .ok outcome ∧ ¬ ObligationsWon (owingLedger [owing 1 2 .device 3 4, owing 2 1 .port 4 2]) ⟨0, 1, .active, {}⟩
        outcome.snapshot.data := by
  have held : (compose (owingLedger [owing 1 2 .device 3 4, owing 2 1 .port 4 2]) { rack := 7 }
      ⟨0, 1, .active, {}⟩).passes fun outcome =>
      outcome.snapshot.data.obligations.any fun record =>
        record.id == 9 && record.target == ⟨.port, 4⟩ && record.capacity == 4 := by rfl
  have claimed : ∀ carried ∈ (owingLedger [owing 1 2 .device 3 4, owing 2 1 .port 4 2]).claims
      ⟨0, 1, .active, {}⟩ EvidencePayload.obligationClaim 9,
      carried.2.target = ⟨.port, 4⟩ → carried.2.capacity ≠ 4 := by decide +kernel
  obtain ⟨outcome, composed, held⟩ := Result.exists_of_passes held
  refine ⟨outcome, composed, ?_⟩
  intro won
  obtain ⟨record, member, mixed⟩ := List.any_eq_true.mp held
  simp only [Bool.and_eq_true, beq_iff_eq] at mixed
  obtain ⟨⟨own, target⟩, capacity⟩ := mixed
  obtain ⟨carried, tops, named, amount, -⟩ := won record member
  rw [own] at tops
  exact claimed carried tops.member (named.symm.trans target) (amount.symm.trans capacity)

/-- The rack's state shows nothing of what is withheld from rack 7 by its own name. -/
theorem spelled_rack_unshown :
    ∃ outcome, compose (owingLedger [owing 1 1 .rack 7 2]) { rack := 7 } ⟨0, 1, .active, {}⟩ = .ok outcome ∧
      ¬ outcome.snapshot.data.ObligationsConserved := by
  have held : (compose (owingLedger [owing 1 1 .rack 7 2]) { rack := 7 } ⟨0, 1, .active, {}⟩).passes fun outcome =>
      (outcome.snapshot.data.resources.map fun state => state.obligated.toNat).sum == 0 &&
      (outcome.snapshot.data.obligations.map fun record => record.capacity.toNat).sum == 2 := by rfl
  obtain ⟨outcome, composed, held⟩ := Result.exists_of_passes held
  refine ⟨outcome, composed, ?_⟩
  intro conserved
  simp only [Bool.and_eq_true, beq_iff_eq] at held
  have shown := conserved.shown
  rw [held.1, held.2] at shown
  cases shown

/-- Two claims about an obligation, of which the newer comes last in the ledger's order. -/
def contestedOwing : EvidenceLedger :=
  owingLedger [owing 1 1 .device 3 4, owing 2 2 .port 4 2]

/-- The older claim names the switch and another amount; what is published is the newer one. -/
theorem contested_owing_won :
    ∃ outcome, compose contestedOwing { rack := 7 } ⟨0, 1, .active, {}⟩ = .ok outcome ∧
      ObligationsWon contestedOwing ⟨0, 1, .active, {}⟩ outcome.snapshot.data ∧
      outcome.snapshot.data.obligations.map (fun record => (record.target, record.capacity)) =
        [(⟨.port, 4⟩, 2)] := by
  have held : (compose contestedOwing { rack := 7 } ⟨0, 1, .active, {}⟩).passes fun outcome =>
      outcome.snapshot.data.obligations.map (fun record => (record.target, record.capacity)) ==
        [(⟨.port, 4⟩, 2)] := by rfl
  have named : ∀ record ∈ contestedOwing.applied 0,
      record.payload.obligationClaim.all (fun claim => claim.1 == 9) = true := by decide +kernel
  have last_target : (contestedOwing.lastClaim ⟨0, 1, .active, {}⟩ 9).map (·.2.target) = some ⟨.port, 4⟩ := by
    decide +kernel
  have winner_target : (contestedOwing.winningClaim ⟨0, 1, .active, {}⟩ 9).map (·.2.target) =
      some ⟨.port, 4⟩ := by decide +kernel
  obtain ⟨outcome, composed, held⟩ := Result.exists_of_passes held
  refine ⟨outcome, composed, (compose_obligations_won_iff composed).1 ?_, by simpa using held⟩
  intro id last winner listed won _
  obtain ⟨member, picked⟩ := mem_claimsFor.mp (List.mem_of_getLast? listed)
  have own := named last.1 member
  rw [picked] at own
  have nine : id = 9 := by simpa using own
  subst nine
  rw [listed] at last_target
  rw [won] at winner_target
  exact Option.some.inj (winner_target.trans last_target.symm)

/-- An obligation on the rack that names it as zero is shown by the rack's state. -/
theorem owed_rack_conserved :
    ∃ outcome, compose (owingLedger [owing 1 1 .rack 0 2]) { rack := 7 } ⟨0, 1, .active, {}⟩ = .ok outcome ∧
      outcome.snapshot.data.ObligationsConserved ∧ outcome.snapshot.data.capacity.obligated = 2 := by
  have held : (compose (owingLedger [owing 1 1 .rack 0 2]) { rack := 7 } ⟨0, 1, .active, {}⟩).passes fun outcome =>
      outcome.snapshot.data.capacity.obligated == 2 := by rfl
  have unspelled : ∀ record ∈ (owingLedger [owing 1 1 .rack 0 2]).applied 0,
      record.payload.obligationClaim.all (fun claim => claim.2.target != ⟨.rack, 7⟩) = true := by decide +kernel
  obtain ⟨outcome, composed, held⟩ := Result.exists_of_passes held
  refine ⟨outcome, composed, (compose_obligations_conserved_iff composed).mpr ?_, by simpa using held⟩
  intro id last winner listed _ spelled
  obtain ⟨member, picked⟩ := mem_claimsFor.mp (List.mem_of_getLast? listed)
  have apart := unspelled last.1 member
  rw [picked] at apart
  simp [spelled] at apart

end RackFabric
