import RackFabric.Compose.SnapshotRoundTrip

/-!
Exact lookup. A composition publishes its collections strictly sorted by the key they are searched by, so the halving
search finds a record exactly when it is there, and each record has one resource state.
-/

namespace RackFabric

section Halving

variable {α : Type} {below : α → Bool} {fuel len : Nat} {first : List α}

/-- The search settles on a place within the range. -/
theorem lowerBoundLoop_drop : ∃ place ≤ len, lowerBoundLoop below fuel first len = first.drop place := by
  induction fuel generalizing first len with
  | zero => exact ⟨0, Nat.zero_le len, rfl⟩
  | succ fuel ih =>
    rw [lowerBoundLoop]
    by_cases empty : len = 0
    · exact ⟨0, Nat.zero_le len, if_pos empty⟩
    rw [if_neg empty]
    by_cases inside : len / 2 < first.length
    · rw [List.drop_eq_getElem_cons inside]
      dsimp only
      split
      · obtain ⟨place, within, settled⟩ := @ih (len - len / 2 - 1) (first.drop (len / 2 + 1))
        refine ⟨len / 2 + 1 + place, by omega, ?_⟩
        rw [settled, List.drop_drop]
      · obtain ⟨place, within, settled⟩ := @ih (len / 2) first
        exact ⟨place, by omega, settled⟩
    · rw [List.drop_eq_nil_of_le (Nat.le_of_not_lt inside)]
      exact ⟨0, Nat.zero_le len, rfl⟩

/-- On a range that is split at a place, the search settles there. -/
theorem lowerBoundLoop_settles {place : Nat} (before : ∀ i (inside : i < first.length), i < place → below first[i])
    (behind : ∀ i (inside : i < first.length), place ≤ i → i < len → below first[i] = false) (within : place ≤ len)
    (long : len ≤ first.length) (enough : len < fuel) : lowerBoundLoop below fuel first len = first.drop place := by
  induction fuel generalizing first len place with
  | zero => omega
  | succ fuel ih =>
    rw [lowerBoundLoop]
    by_cases empty : len = 0
    · rw [if_pos empty, show place = 0 by omega, List.drop_zero]
    have inside : len / 2 < first.length := by omega
    rw [if_neg empty, List.drop_eq_getElem_cons inside]
    dsimp only
    by_cases side : len / 2 < place
    · have rest := @ih (len - len / 2 - 1) (first.drop (len / 2 + 1)) (place - (len / 2 + 1))
      rw [if_pos (before _ inside side), rest, List.drop_drop]
      · congr 1
        omega
      · intro i held early
        rw [List.getElem_drop]
        exact before _ _ (by omega)
      · intro i held late short
        rw [List.getElem_drop]
        exact behind _ _ (by omega) (by omega)
      · omega
      · rw [List.length_drop]
        omega
      · omega
    · rw [if_neg (by rw [behind _ inside (by omega) (by omega)]; simp)]
      refine ih before ?_ (by omega) (by omega) (by omega)
      intro i held late short
      exact behind i held late (by omega)

/-- On a container that is strictly sorted by the key, the search finds what is there and nothing else. -/
theorem findSorted_eq_some_iff {κ : Type} [DecidableEq κ] {less : κ → κ → Bool}
    (asymm : ∀ a b, less a b = true → less b a = false) {project : α → κ} {container : List α}
    (sorted : (container.map project).Pairwise (fun a b => less a b = true)) {sought : κ} {element : α} :
    findSorted less project container sought = some element ↔ element ∈ container ∧ project element = sought := by
  constructor
  · exact findSorted_some
  · rintro ⟨member, rfl⟩
    obtain ⟨place, inside, own⟩ := List.getElem_of_mem member
    have order : ∀ i j (first : i < container.length) (second : j < container.length), i < j →
        less (project container[i]) (project container[j]) = true := by
      intro i j first second before
      have ordered := List.pairwise_iff_getElem.mp sorted i j (by simpa using first) (by simpa using second) before
      simpa using ordered
    have settles : lowerBound (fun other => less (project other) (project element)) container =
        container.drop place := by
      refine lowerBoundLoop_settles ?_ ?_ (Nat.le_of_lt inside) (Nat.le_refl _) (Nat.lt_succ_self _)
      · intro i held early
        rw [← own]
        exact order i place held inside early
      · intro i held late _
        rw [← own]
        by_cases same : i = place
        · subst same
          by_contra less
          rw [Bool.not_eq_false] at less
          rw [asymm _ _ less] at less
          cases less
        · exact asymm _ _ (order place i inside held (by omega))
    rw [findSorted, settles, List.drop_eq_getElem_cons inside, own]
    exact if_pos rfl

end Halving

/-- A list in order that names nothing twice is strictly in order. -/
theorem InOrder.strict {κ : Type} {less : κ → κ → Bool}
    (antisymm : ∀ a b, less a b = false → less b a = false → a = b) {keys : List κ} (sorted : InOrder less keys)
    (distinct : keys.Nodup) : keys.Pairwise (fun a b => less a b = true) := by
  induction keys with
  | nil => exact List.Pairwise.nil
  | cons first rest ih =>
    obtain ⟨after, sorted⟩ := List.pairwise_cons.mp sorted
    obtain ⟨fresh, distinct⟩ := List.nodup_cons.mp distinct
    refine List.pairwise_cons.mpr ⟨?_, ih sorted distinct⟩
    intro other member
    by_contra less
    rw [Bool.not_eq_true] at less
    exact fresh (antisymm first other less (after other member) ▸ member)

theorem idLess_antisymm (a b : UInt64) (first : idLess a b = false) (second : idLess b a = false) : a = b := by
  simp only [idLess, decide_eq_false_iff_not, UInt64.not_lt] at first second
  exact UInt64.le_antisymm second first

theorem idLess_asymm (a b : UInt64) (before : idLess a b = true) : idLess b a = false :=
  (idLess_orders id).asymm a b before

/-- The resources a snapshot has records of: the rack, and each record of its collections. -/
def SnapshotData.subjects (data : SnapshotData) : List ResourceRef :=
  ⟨.rack, data.rack⟩ :: data.devices.map (fun device => ⟨.device, device.id⟩) ++
    data.ports.map (fun port => ⟨.port, port.id⟩) ++ data.links.map (fun link => ⟨.link, link.id⟩) ++
    data.attachments.map (fun attachment => ⟨.attachment, attachment.id⟩) ++
    data.paths.map (fun path => ⟨.path, path.id⟩)

theorem SnapshotData.mem_subjects_iff (data : SnapshotData) (ref : ResourceRef) :
    ref ∈ data.subjects ↔ ref = ⟨.rack, data.rack⟩ ∨ (∃ device ∈ data.devices, ⟨.device, device.id⟩ = ref) ∨
      (∃ port ∈ data.ports, ⟨.port, port.id⟩ = ref) ∨ (∃ link ∈ data.links, ⟨.link, link.id⟩ = ref) ∨
      (∃ attachment ∈ data.attachments, ⟨.attachment, attachment.id⟩ = ref) ∨
      ∃ path ∈ data.paths, ⟨.path, path.id⟩ = ref := by
  simp only [SnapshotData.subjects, List.mem_append, List.mem_cons, List.mem_map, or_assoc]

/-- The collections are strictly sorted by the keys they are searched by, and each subject has one resource state. -/
structure SnapshotData.Catalogued (data : SnapshotData) : Prop where
  devices : (data.devices.map DeviceRecord.id).Pairwise (fun a b => idLess a b = true)
  ports : (data.ports.map PortRecord.id).Pairwise (fun a b => idLess a b = true)
  links : (data.links.map LinkRecord.id).Pairwise (fun a b => idLess a b = true)
  attachments : (data.attachments.map AttachmentRecord.id).Pairwise (fun a b => idLess a b = true)
  resources : (data.resources.map ResourceState.ref).Pairwise (fun a b => a.less b = true)
  stated : ∀ ref ∈ data.subjects, (data.resources.map ResourceState.ref).count ref = 1
  named : ∀ state ∈ data.resources, state.ref ∈ data.subjects

/-- Every lookup answers with the record of the key that is sought, if the collection has one. -/
structure Snapshot.FindsExactly (snapshot : Snapshot) : Prop where
  device : ∀ id record, snapshot.findDevice id = some record ↔ record ∈ snapshot.data.devices ∧ record.id = id
  port : ∀ id record, snapshot.findPort id = some record ↔ record ∈ snapshot.data.ports ∧ record.id = id
  link : ∀ id record, snapshot.findLink id = some record ↔ record ∈ snapshot.data.links ∧ record.id = id
  attachment : ∀ id record,
    snapshot.findAttachment id = some record ↔ record ∈ snapshot.data.attachments ∧ record.id = id
  resource : ∀ ref state, snapshot.find ref = some state ↔ state ∈ snapshot.data.resources ∧ state.ref = ref

theorem SnapshotData.Catalogued.findsExactly {snapshot : Snapshot} (catalogued : snapshot.data.Catalogued) :
    snapshot.FindsExactly where
  device _ _ := findSorted_eq_some_iff idLess_asymm catalogued.devices
  port _ _ := findSorted_eq_some_iff idLess_asymm catalogued.ports
  link _ _ := findSorted_eq_some_iff idLess_asymm catalogued.links
  attachment _ _ := findSorted_eq_some_iff idLess_asymm catalogued.attachments
  resource _ _ := findSorted_eq_some_iff ResourceRef.orders.asymm catalogued.resources

section Catalogue

variable {ledger : EvidenceLedger} {config : RackConfig} {request : ComposeInput} {data : SnapshotData}

/-- Records that were sorted by an identity no two of them share are strictly sorted by it. -/
private theorem strict_of_sorted {α : Type} (id : α → UInt64) {records : List α}
    (sorted : InOrder (fun a b => idLess (id a) (id b)) records) (distinct : (records.map id).Nodup) :
    (records.map id).Pairwise (fun a b => idLess a b = true) :=
  InOrder.strict idLess_antisymm (List.pairwise_map.mpr sorted) distinct

theorem Composed.devices_strict (composed : Composed ledger config request data) :
    (data.devices.map DeviceRecord.id).Pairwise (fun a b => idLess a b = true) := by
  rw [composed.devices]
  refine strict_of_sorted DeviceRecord.id ?_ (composeDevices_ids_nodup _)
  exact (sortBy_inOrder (idLess_orders DeviceRecord.id) _).sublist (uniqueBy_sublist _ _)

theorem Composed.ports_strict (composed : Composed ledger config request data) :
    (data.ports.map PortRecord.id).Pairwise (fun a b => idLess a b = true) := by
  obtain ⟨diagnostics, ports⟩ := composed.ports
  rw [ports]
  exact strict_of_sorted PortRecord.id (sortBy_inOrder (idLess_orders PortRecord.id) _)
    (composePorts_ids_nodup _ _ _)

theorem Composed.links_strict (composed : Composed ledger config request data) :
    (data.links.map LinkRecord.id).Pairwise (fun a b => idLess a b = true) := by
  obtain ⟨diagnostics, links⟩ := composed.links
  rw [links]
  exact strict_of_sorted LinkRecord.id (sortBy_inOrder (idLess_orders LinkRecord.id) _)
    (composeLinks_ids_nodup _ _ _)

theorem Composed.attachments_strict (composed : Composed ledger config request data) :
    (data.attachments.map AttachmentRecord.id).Pairwise (fun a b => idLess a b = true) := by
  obtain ⟨diagnostics, attachments⟩ := composed.attachments
  rw [attachments]
  exact strict_of_sorted AttachmentRecord.id (sortBy_inOrder (idLess_orders AttachmentRecord.id) _)
    (composeAttachments_ids_nodup _ _ _ _)

theorem ResourceInputs.resources_strict (inputs : ResourceInputs) :
    (inputs.resources.map ResourceState.ref).Pairwise (fun a b => a.less b = true) := by
  refine InOrder.strict ResourceRef.eq_of_not_less (List.pairwise_map.mpr ?_) inputs.resources_refs.1
  have orders : Orders (fun a b : ResourceState => a.ref.less b.ref) :=
    ⟨fun a b => ResourceRef.orders.asymm a.ref b.ref, fun a b c => ResourceRef.orders.trans a.ref b.ref c.ref⟩
  exact (sortBy_inOrder orders _).sublist (uniqueBy_sublist _ _)

theorem Composed.mem_subjects (composed : Composed ledger config request data) (own : data.rack = config.rack)
    (ref : ResourceRef) : ref ∈ data.resources.map ResourceState.ref ↔ ref ∈ data.subjects := by
  obtain ⟨inputs, published, -, rack, devices, ports, links, attachments, paths⟩ := composed.resources
  rw [published, inputs.resources_refs.2 ref, ResourceInputs.refs, SnapshotData.subjects, rack, devices, ports, links,
    attachments, paths, own]
  simp only [List.mem_append, List.mem_map, List.mem_dedup, exists_exists_and_eq_and]

theorem Composed.catalogued (composed : Composed ledger config request data) (own : data.rack = config.rack) :
    data.Catalogued := by
  obtain ⟨inputs, published, -⟩ := composed.resources
  refine ⟨composed.devices_strict, composed.ports_strict, composed.links_strict, composed.attachments_strict, ?_, ?_,
    ?_⟩
  · rw [published]
    exact inputs.resources_strict
  · intro ref subject
    have listed := (composed.mem_subjects own ref).mpr subject
    rw [published] at listed ⊢
    exact List.count_eq_one_of_mem inputs.resources_refs.1 listed
  · intro state member
    exact (composed.mem_subjects own state.ref).mp (List.mem_map_of_mem member)

/-- A composition is sorted, searched exactly and has one resource state for each of its records. -/
theorem compose_catalogued {outcome : ComposeOutcome} (composed : compose ledger config request = .ok outcome) :
    outcome.snapshot.data.rack = config.rack ∧ outcome.snapshot.data.Catalogued ∧ outcome.snapshot.FindsExactly := by
  obtain ⟨-, own, passes⟩ := compose_stored composed
  have catalogued := passes.catalogued own
  exact ⟨own, catalogued, catalogued.findsExactly⟩

/-- The furnished rack has seven resources, each of which is found. -/
theorem furnished_catalogued :
    ∃ outcome, compose furnishedLedger { rack := 7 } ⟨0, 1, .active, {}⟩ = .ok outcome ∧
      outcome.snapshot.data.Catalogued ∧ outcome.snapshot.FindsExactly ∧
      outcome.snapshot.data.resources.length = 7 := by
  obtain ⟨outcome, composed, listed⟩ := furnished_composes
  obtain ⟨-, catalogued, finds⟩ := compose_catalogued composed
  refine ⟨outcome, composed, catalogued, finds, ?_⟩
  rw [← List.length_map, listed]
  rfl

end Catalogue

end RackFabric
