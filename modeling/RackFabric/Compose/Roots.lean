import RackFabric.Compose.Closure
import RackFabric.Compose.Drain
import RackFabric.Compose.Scope

/-!
What a scope tells about its root. In a composed snapshot the rack is a resource of one name, and no link joins a port
to itself; then two roots never stand for the same resources.
-/

namespace RackFabric

/-- The kinds of resources that a root of one kind stands for besides itself. -/
def ResourceKind.reaches : ResourceKind → ResourceKind → Bool
  | .device, .port | .device, .link | .device, .attachment => true
  | .port, .link | .port, .attachment => true
  | .link, .port => true
  | .path, .link => true
  | _, _ => false

/-- Only ports and links reach each other. -/
theorem reaches_both {a b : ResourceKind} (first : a.reaches b = true) (second : b.reaches a = true) :
    (a = .port ∧ b = .link) ∨ (a = .link ∧ b = .port) := by
  cases a <;> cases b <;> simp_all [ResourceKind.reaches]

theorem mem_expandScope {snapshot : Snapshot} {root : ResourceRef} {scope : List ResourceRef}
    (expanded : expandScope snapshot root = .ok scope) :
    ∃ members, scopeMembers snapshot root = .ok members ∧ ∀ ref, ref ∈ scope ↔ ref ∈ members := by
  unfold expandScope at expanded
  split at expanded
  · cases expanded
  · obtain ⟨members, found, same⟩ := bind_eq_ok.mp expanded
    cases same
    exact ⟨members, found, fun _ => mem_uniqueBy.trans (sortBy_perm _ members).mem_iff⟩

theorem mem_scope_cases {snapshot : Snapshot} {root ref : ResourceRef} {scope : List ResourceRef}
    (expanded : expandScope snapshot root = .ok scope) (notRack : root.kind ≠ .rack) (member : ref ∈ scope) :
    ref = root ∨ root.kind.reaches ref.kind = true := by
  obtain ⟨members, found, same⟩ := mem_expandScope expanded
  rw [same] at member
  unfold scopeMembers refuse at found
  cases kind : root.kind with
  | rack => exact absurd kind notRack
  | device =>
    rw [kind] at found
    dsimp only at found
    split at found
    · cases found
    cases found
    simp only [List.cons_append, List.mem_cons, List.mem_append, List.mem_map] at member
    rcases member with own | ((⟨_, _, rfl⟩ | ⟨_, _, rfl⟩) | ⟨_, _, rfl⟩)
    · exact .inl own
    all_goals exact .inr rfl
  | port =>
    rw [kind] at found
    dsimp only at found
    split at found
    · cases found
    cases found
    simp only [List.cons_append, List.mem_cons, List.mem_append, List.mem_map] at member
    rcases member with own | (⟨_, _, rfl⟩ | ⟨_, _, rfl⟩)
    · exact .inl own
    all_goals exact .inr rfl
  | link =>
    rw [kind] at found
    dsimp only at found
    split at found
    · cases found
    cases found
    simp only [List.mem_cons, List.not_mem_nil, or_false] at member
    rcases member with own | rfl | rfl
    · exact .inl own
    all_goals exact .inr rfl
  | attachment =>
    rw [kind] at found
    dsimp only at found
    split at found
    · cases found
    cases found
    exact .inl (List.mem_singleton.mp member)
  | path =>
    rw [kind] at found
    dsimp only at found
    split at found
    · cases found
    cases found
    simp only [List.mem_cons, List.mem_map] at member
    rcases member with own | ⟨_, _, rfl⟩
    · exact .inl own
    · exact .inr rfl
  | unnamed value above =>
    rw [kind] at found
    cases found
    cases member

/-- A root of a kind with a name, other than the rack, is in its own scope. -/
theorem root_mem_scope {snapshot : Snapshot} {root : ResourceRef} {scope : List ResourceRef}
    (expanded : expandScope snapshot root = .ok scope) (notRack : root.kind ≠ .rack)
    (named : ∀ value above, root.kind ≠ .unnamed value above) : root ∈ scope := by
  obtain ⟨members, found, same⟩ := mem_expandScope expanded
  rw [same]
  unfold scopeMembers refuse at found
  cases kind : root.kind with
  | rack => exact absurd kind notRack
  | device | port | link | attachment | path =>
    rw [kind] at found
    dsimp only at found
    split at found
    · cases found
    cases found
    simp
  | unnamed value above => exact absurd kind (named value above)

/-- Only a root of a kind with a name stands for anything. -/
theorem named_of_mem {snapshot : Snapshot} {root ref : ResourceRef} {scope : List ResourceRef}
    (expanded : expandScope snapshot root = .ok scope) (member : ref ∈ scope) (value : UInt8) (above : value = 0 ∨ 6 < value) :
    root.kind ≠ .unnamed value above := by
  intro kind
  obtain ⟨members, found, same⟩ := mem_expandScope expanded
  unfold scopeMembers at found
  rw [kind] at found
  cases found
  rw [same] at member
  cases member

/-- The rack is a resource under its own name alone, every resource is of a kind with a name, and no link joins a
port to itself. -/
structure Snapshot.Proper (snapshot : Snapshot) : Prop where
  racked : ⟨.rack, snapshot.data.rack⟩ ∈ snapshot.data.resources.map ResourceState.ref
  alone : ∀ ref ∈ snapshot.data.resources.map ResourceState.ref, ref.kind = .rack → ref.id = snapshot.data.rack
  kinds : ∀ ref ∈ snapshot.data.resources.map ResourceState.ref, ∀ value above, ref.kind ≠ .unnamed value above
  joined : ∀ link ∈ snapshot.data.links, link.portA ≠ link.portB

theorem expandScope_rack {snapshot : Snapshot} {root : ResourceRef} {scope : List ResourceRef}
    (expanded : expandScope snapshot root = .ok scope) (rack : root.kind = .rack) :
    root.id = snapshot.data.rack ∧
      ∀ ref, ref ∈ scope ↔ ref ∈ snapshot.data.resources.map ResourceState.ref := by
  have named : root.id = snapshot.data.rack := by
    obtain ⟨members, found, -⟩ := mem_expandScope expanded
    unfold scopeMembers refuse at found
    simp only [rack] at found
    by_contra other
    rw [if_pos other] at found
    cases found
  refine ⟨named, ?_⟩
  intro ref
  obtain ⟨members, found, same⟩ := mem_expandScope expanded
  unfold scopeMembers refuse at found
  simp only [rack, named, ne_eq, not_true_eq_false, if_false] at found
  cases found
  exact same ref

theorem expandScope_link {snapshot : Snapshot} {root : ResourceRef} {scope : List ResourceRef}
    (expanded : expandScope snapshot root = .ok scope) (kind : root.kind = .link) :
    ∃ link ∈ snapshot.data.links, ⟨.port, link.portA⟩ ∈ scope ∧ ⟨.port, link.portB⟩ ∈ scope := by
  have contents : ∃ link ∈ snapshot.data.links,
      scopeMembers snapshot root = .ok [root, ⟨.port, link.portA⟩, ⟨.port, link.portB⟩] := by
    obtain ⟨members, found, -⟩ := mem_expandScope expanded
    unfold scopeMembers refuse at found ⊢
    simp only [kind] at found ⊢
    cases record : snapshot.findLink root.id with
    | none =>
      rw [record] at found
      cases found
    | some link => exact ⟨link, (findSorted_some record).1, rfl⟩
  obtain ⟨link, listed, contents⟩ := contents
  refine ⟨link, listed, ?_, ?_⟩
  · obtain ⟨members, found, same⟩ := mem_expandScope expanded
    rw [contents] at found
    cases found
    exact (same _).mpr (by simp)
  · obtain ⟨members, found, same⟩ := mem_expandScope expanded
    rw [contents] at found
    cases found
    exact (same _).mpr (by simp)

/-- A port never stands for what a link stands for: the link has two ports. -/
theorem link_scope_ne_port_scope {first second : Snapshot} (proper : first.Proper) {link port : ResourceRef}
    {scope : List ResourceRef} (ofLink : expandScope first link = .ok scope)
    (ofPort : expandScope second port = .ok scope) (isLink : link.kind = .link) (isPort : port.kind = .port) :
    False := by
  obtain ⟨record, listed, ends⟩ := expandScope_link ofLink isLink
  have sole : ∀ id, (⟨.port, id⟩ : ResourceRef) ∈ scope → port = ⟨.port, id⟩ := by
    intro id member
    rcases mem_scope_cases ofPort (by rw [isPort]; simp) member with own | reached
    · exact own.symm
    · rw [isPort] at reached
      cases reached
  have same := (sole _ ends.1).symm.trans (sole _ ends.2)
  exact proper.joined record listed (congrArg ResourceRef.id same)

/-- Roots that stand for the same resources are the same, though it be in different snapshots. -/
theorem root_of_scope {first second : Snapshot} (properFirst : first.Proper) (properSecond : second.Proper)
    {a b : ResourceRef} {scope : List ResourceRef} (ofA : expandScope first a = .ok scope)
    (ofB : expandScope second b = .ok scope) (own : a ∈ scope) : a = b := by
  by_cases rackA : a.kind = .rack
  · by_cases rackB : b.kind = .rack
    · obtain ⟨named, all⟩ := expandScope_rack ofB rackB
      have also := properSecond.alone a ((all a).mp own) rackA
      have same : (⟨a.kind, a.id⟩ : ResourceRef) = ⟨b.kind, b.id⟩ := by rw [rackA, rackB, named, also]
      exact same
    · rcases mem_scope_cases ofB rackB own with same | reached
      · exact same
      · rw [rackA] at reached
        cases kind : b.kind <;> rw [kind] at reached <;> cases reached
  · by_cases rackB : b.kind = .rack
    · obtain ⟨named, all⟩ := expandScope_rack ofB rackB
      have listed := (all _).mpr properSecond.racked
      rcases mem_scope_cases ofA rackA listed with same | reached
      · exact absurd (congrArg ResourceRef.kind same).symm rackA
      · cases kind : a.kind <;> rw [kind] at reached <;> cases reached
    · have inB := mem_scope_cases ofB rackB own
      have inA := mem_scope_cases ofA rackA (root_mem_scope ofB rackB (named_of_mem ofB own))
      rcases inB with same | fromB
      · exact same
      rcases inA with same | fromA
      · exact same.symm
      rcases reaches_both fromA fromB with ⟨isPort, isLink⟩ | ⟨isLink, isPort⟩
      · exact (link_scope_ne_port_scope properSecond ofB ofA isLink isPort).elim
      · exact (link_scope_ne_port_scope properFirst ofA ofB isLink isPort).elim

/-- A resource of the snapshot is in its own scope. -/
theorem Snapshot.Proper.root_mem {snapshot : Snapshot} (proper : snapshot.Proper) {root : ResourceRef}
    {scope : List ResourceRef} {state : ResourceState} (expanded : expandScope snapshot root = .ok scope)
    (found : snapshot.find root = some state) : root ∈ scope := by
  obtain ⟨listed, same⟩ := findSorted_some found
  have member : root ∈ snapshot.data.resources.map ResourceState.ref := List.mem_map.mpr ⟨state, listed, same⟩
  by_cases rack : root.kind = .rack
  · exact ((expandScope_rack expanded rack).2 root).mpr member
  · exact root_mem_scope expanded rack (proper.kinds root member)

/-! ### Composed snapshots -/

theorem offer_value {α : Type} {property : α → Prop} {held : Option (Selection α)} {candidate : Selection α}
    (before : ∀ incumbent, held = some incumbent → property incumbent.value) (offered : property candidate.value) :
    property (offer held candidate).value := by
  unfold offer
  cases held with
  | none => exact offered
  | some incumbent =>
    dsimp only
    split
    · exact offered
    split
    · split
      · exact before incumbent rfl
      split
      · exact offered
      · exact before incumbent rfl
    · exact before incumbent rfl

/-- Every gathered link claim joins two ports. -/
def Gathered.Joined (gathered : Gathered) : Prop :=
  ∀ (link : UInt64) (selection : Selection LinkClaim), gathered.linkClaims[link]? = some selection →
    selection.value.portA ≠ selection.value.portB

theorem joined_of_valid {record : EvidenceRecord} {claim : LinkClaim} (valid : validateEvidence record = .ok ())
    (payload : record.payload = .link claim) : claim.portA ≠ claim.portB := by
  obtain ⟨_, checked, -⟩ := bind_eq_ok.mp valid
  rw [payload] at checked
  simp only [validateClaim, refuse] at checked
  split at checked
  · cases checked
  split at checked
  · cases checked
  rename_i apart
  simpa using apart

theorem gatherRecord_joined {gathered : Gathered} (config : RackConfig) (target : UInt64)
    {entry : EvidenceSlot × EvidenceRecord} (valid : validateEvidence entry.2 = .ok ()) (joined : gathered.Joined) :
    (gatherRecord config target gathered entry).Joined := by
  unfold gatherRecord
  dsimp only
  cases applicabilityOf entry.2 target with
  | future => exact joined
  | stale => exact joined
  | apply =>
    dsimp only
    unfold gatherPayload
    cases payload : entry.2.payload with
    | link claim =>
      dsimp only
      intro link selection found
      unfold offerClaim at found
      rw [Std.ExtTreeMap.getElem?_insert] at found
      split at found
      · cases found
        exact @offer_value _ (fun claim => claim.portA ≠ claim.portB) _ (candidateOf entry.2 claim)
          (fun incumbent held => joined claim.link incumbent held) (joined_of_valid valid payload)
      · exact joined link selection found
    | member claim =>
      dsimp only
      unfold gatherMember
      dsimp only
      split
      · exact joined
      split
      · exact joined
      split <;> exact joined
    | _ => exact joined

theorem gather_joined {ledger : EvidenceLedger} (stocked : ledger.Stocked) (config : RackConfig)
    (request : ComposeInput) : (gather ledger config request).Joined := by
  unfold gather
  have steps : ∀ (entries : List (EvidenceSlot × EvidenceRecord)) (start : Gathered),
      (∀ entry ∈ entries, validateEvidence entry.2 = .ok ()) → start.Joined →
      (entries.foldl (gatherRecord config request.generation) start).Joined := by
    intro entries
    induction entries with
    | nil => exact fun start _ joined => joined
    | cons entry rest ih =>
      intro start valid joined
      refine ih _ (fun other member => valid other (by simp [member])) ?_
      exact gatherRecord_joined config request.generation (valid entry (by simp)) joined
  refine steps _ _ ?_ ?_
  · intro entry member
    exact (stocked entry.1 entry.2 (Std.ExtTreeMap.mem_toList_iff_getElem?_eq_some.mp member)).1
  · intro link selection found
    simp at found

theorem composeLinks_joined {gathered : Gathered} (joined : gathered.Joined) (ports : List PortRecord)
    (diagnostics : Diagnostics) : ∀ link ∈ (composeLinks gathered ports diagnostics).1, link.portA ≠ link.portB := by
  intro link member
  unfold composeLinks at member
  dsimp only at member
  refine @foldl_publishes _ _ _ Prod.fst (fun link : LinkRecord => link.portA ≠ link.portB) _ _ _ ?_ ?_ link
    ((sortBy_perm _ _).mem_iff.mp member)
  · intro value absent
    cases absent
  · intro state entry own before value published
    have apart : entry.2.value.portA ≠ entry.2.value.portB :=
      joined entry.1 entry.2 (Std.ExtTreeMap.mem_toList_iff_getElem?_eq_some.mp own)
    unfold composeLink at published
    dsimp only at published
    split at published
    · rcases List.mem_append.mp published with old | new
      · exact before value old
      · rw [List.mem_singleton.mp new]
        unfold composeJoinedLink
        exact apart
    · rcases List.mem_append.mp published with old | new
      · exact before value old
      · rw [List.mem_singleton.mp new]
        exact apart

/-- A snapshot that was composed from evidence some ledger took in. -/
def Snapshot.Composed (snapshot : Snapshot) : Prop :=
  ∃ (limits : EvidenceLimits) (offered : List EvidenceRecord) (config : RackConfig) (request : ComposeInput)
    (outcome : ComposeOutcome),
    compose (EvidenceLedger.insertAll { limits := limits } offered) config request = .ok outcome ∧
      snapshot = outcome.snapshot

theorem Snapshot.Composed.proper {snapshot : Snapshot} (published : snapshot.Composed) : snapshot.Proper := by
  obtain ⟨limits, offered, config, request, outcome, succeeds, rfl⟩ := published
  obtain ⟨data, held, composed⟩ := compose_composed succeeds
  obtain ⟨other, also, named, -⟩ := compose_header succeeds
  rw [held] at also
  cases also
  have stocked : (EvidenceLedger.insertAll { limits := limits } offered).Stocked :=
    EvidenceLedger.stocked_insertAll (fun slot record absent => by simp at absent) offered
  have read : outcome.snapshot.data = data := by rw [Snapshot.data, held]; rfl
  obtain ⟨inputs, resources, -, configured, -⟩ := composed.resources
  constructor
  · rw [read, resources, named, ← configured]
    unfold ResourceInputs.resources
    rw [uniqueBy_map ResourceState.ref, mem_uniqueBy]
    refine List.mem_map.mpr ⟨inputs.rackResource, ?_, rfl⟩
    exact (sortBy_perm _ _).mem_iff.mpr (by simp)
  · rw [read, resources, named, ← configured]
    intro ref member rack
    obtain ⟨state, listed, rfl⟩ := List.mem_map.mp member
    rcases ResourceInputs.mem_resources listed with rfl | ⟨device, -, rfl⟩ | ⟨port, -, rfl⟩ | ⟨link, -, rfl⟩ |
      ⟨attachment, -, rfl⟩ | ⟨path, -, rfl⟩
    · rfl
    all_goals cases rack
  · rw [read, resources]
    intro ref member value above unnamed
    obtain ⟨state, listed, rfl⟩ := List.mem_map.mp member
    rcases ResourceInputs.mem_resources listed with rfl | ⟨device, -, rfl⟩ | ⟨port, -, rfl⟩ | ⟨link, -, rfl⟩ |
      ⟨attachment, -, rfl⟩ | ⟨path, -, rfl⟩
    all_goals cases unnamed
  · rw [read]
    obtain ⟨diagnostics, links⟩ := composed.links
    rw [links]
    exact composeLinks_joined (gather_joined stocked config request) data.ports diagnostics

end RackFabric
