import RackFabric.Compose.Lookup
import RackFabric.Compose.Roots

/-!
Containment between scopes. Resources of different kinds exclude each other only through the resources their scopes
have in common, so a device has to share one with everything that hangs on it.
-/

namespace RackFabric

private theorem ref_of_parts {kind : ResourceKind} {id : UInt64} {ref : ResourceRef} (kinds : kind = ref.kind)
    (ids : id = ref.id) : ⟨kind, id⟩ = ref := by
  rw [kinds, ids]

/-- Both roots resolve and the walk over their scopes finds a common resource. -/
def Snapshot.Meet (snapshot : Snapshot) (first second : ResourceRef) : Prop :=
  ∃ a b, expandScope snapshot first = .ok a ∧ expandScope snapshot second = .ok b ∧ scopesIntersect a b = true

/-- A link with an endpoint port on the device. -/
def SnapshotData.Touches (data : SnapshotData) (device : UInt64) (link : LinkRecord) : Prop :=
  ∃ port ∈ data.ports, port.device = device ∧ (link.portA = port.id ∨ link.portB = port.id)

/-- What the scopes of a snapshot have to do with each other. -/
structure Snapshot.ScopesNest (snapshot : Snapshot) : Prop where
  strict : ∀ root scope, expandScope snapshot root = .ok scope → scope.Pairwise (fun a b => a.less b = true)
  rooted : ∀ root scope, expandScope snapshot root = .ok scope →
    (root ∈ scope ↔ ∀ value above, root.kind ≠ .unnamed value above)
  whole : ∃ rack, expandScope snapshot ⟨.rack, snapshot.data.rack⟩ = .ok rack ∧
    ∀ root scope, expandScope snapshot root = .ok scope →
      root.kind = .device ∨ root.kind = .port ∨ root.kind = .attachment → ∀ ref ∈ scope, ref ∈ rack
  ports : ∀ device ∈ snapshot.data.devices, ∀ port ∈ snapshot.data.ports, port.device = device.id →
    snapshot.Meet ⟨.device, device.id⟩ ⟨.port, port.id⟩
  links : ∀ device ∈ snapshot.data.devices, ∀ link ∈ snapshot.data.links, snapshot.data.Touches device.id link →
    snapshot.Meet ⟨.device, device.id⟩ ⟨.link, link.id⟩
  attachments : ∀ device ∈ snapshot.data.devices, ∀ attachment ∈ snapshot.data.attachments,
    attachment.device = device.id → snapshot.Meet ⟨.device, device.id⟩ ⟨.attachment, attachment.id⟩
  paths : ∀ device ∈ snapshot.data.devices, ∀ link ∈ snapshot.data.links, snapshot.data.Touches device.id link →
    ∀ id path, snapshot.findPath id = some path → link.id ∈ path.links →
      snapshot.Meet ⟨.device, device.id⟩ ⟨.path, id⟩

section Scopes

variable {snapshot : Snapshot}

/-- A snapshot resolves a root to the sorted form of its members. -/
theorem expandScope_resolves (valid : snapshot.valid = true) {root : ResourceRef} {members : List ResourceRef}
    (found : scopeMembers snapshot root = .ok members) :
    ∃ scope, expandScope snapshot root = .ok scope ∧ ∀ ref, ref ∈ scope ↔ ref ∈ members := by
  have resolved : expandScope snapshot root = .ok (uniqueBy (· == ·) (sortBy ResourceRef.less members)) := by
    rw [expandScope, valid, found]
    rfl
  exact ⟨_, resolved, fun _ => mem_uniqueBy.trans (sortBy_perm _ members).mem_iff⟩

theorem expandScope_strict {root : ResourceRef} {scope : List ResourceRef}
    (expanded : expandScope snapshot root = .ok scope) : scope.Pairwise (fun a b => a.less b = true) :=
  (expandScope_inOrder expanded).strict ResourceRef.eq_of_not_less (expandScope_nodup expanded)

/-- Scopes of members that have a resource in common meet. -/
theorem meet_of_common (valid : snapshot.valid = true) (ref : ResourceRef) {first second : ResourceRef}
    {a b : List ResourceRef} (ofFirst : scopeMembers snapshot first = .ok a) (ofSecond : scopeMembers snapshot second = .ok b)
    (inFirst : ref ∈ a) (inSecond : ref ∈ b) : snapshot.Meet first second := by
  obtain ⟨scopeA, resolvedA, sameA⟩ := expandScope_resolves valid ofFirst
  obtain ⟨scopeB, resolvedB, sameB⟩ := expandScope_resolves valid ofSecond
  refine ⟨scopeA, scopeB, resolvedA, resolvedB, ?_⟩
  exact (scopesIntersect_iff (expandScope_inOrder resolvedA) (expandScope_inOrder resolvedB)).mpr
    ⟨ref, (sameA ref).mpr inFirst, (sameB ref).mpr inSecond⟩

/-- What each kind of root that a snapshot finds stands for. -/
theorem scopeMembers_device (finds : snapshot.FindsExactly) {device : DeviceRecord}
    (listed : device ∈ snapshot.data.devices) : scopeMembers snapshot ⟨.device, device.id⟩ =
      .ok (⟨.device, device.id⟩ ::
        (snapshot.data.ports.filter (·.device == device.id)).map (fun port => ⟨.port, port.id⟩) ++
        (snapshot.data.links.filter fun link =>
          onDevice snapshot device.id link.portA || onDevice snapshot device.id link.portB).map
            (fun link => ⟨.link, link.id⟩) ++
        (snapshot.data.attachments.filter (·.device == device.id)).map
          (fun attachment => ⟨.attachment, attachment.id⟩)) := by
  have found := (finds.device device.id device).mpr ⟨listed, rfl⟩
  simp only [scopeMembers, found]

theorem scopeMembers_port (finds : snapshot.FindsExactly) {port : PortRecord}
    (listed : port ∈ snapshot.data.ports) : scopeMembers snapshot ⟨.port, port.id⟩ =
      .ok (⟨.port, port.id⟩ ::
        (snapshot.data.links.filter fun link => link.portA == port.id || link.portB == port.id).map
          (fun link => ⟨.link, link.id⟩) ++
        (snapshot.data.attachments.filter (·.port == port.id)).map
          (fun attachment => ⟨.attachment, attachment.id⟩)) := by
  have found := (finds.port port.id port).mpr ⟨listed, rfl⟩
  simp only [scopeMembers, found]

theorem scopeMembers_link (finds : snapshot.FindsExactly) {link : LinkRecord}
    (listed : link ∈ snapshot.data.links) : scopeMembers snapshot ⟨.link, link.id⟩ =
      .ok [⟨.link, link.id⟩, ⟨.port, link.portA⟩, ⟨.port, link.portB⟩] := by
  have found := (finds.link link.id link).mpr ⟨listed, rfl⟩
  simp only [scopeMembers, found]

theorem scopeMembers_attachment (finds : snapshot.FindsExactly) {attachment : AttachmentRecord}
    (listed : attachment ∈ snapshot.data.attachments) : scopeMembers snapshot ⟨.attachment, attachment.id⟩ =
      .ok [⟨.attachment, attachment.id⟩] := by
  have found := (finds.attachment attachment.id attachment).mpr ⟨listed, rfl⟩
  simp only [scopeMembers, found]

/-- The scope of a device lists a link exactly by one of its endpoint ports. -/
theorem onDevice_iff (finds : snapshot.FindsExactly) {device id : UInt64} :
    onDevice snapshot device id = true ↔ ∃ port ∈ snapshot.data.ports, port.device = device ∧ id = port.id := by
  unfold onDevice
  cases found : snapshot.findPort id with
  | none =>
    constructor
    · nofun
    · rintro ⟨port, listed, -, own⟩
      rw [(finds.port id port).mpr ⟨listed, own.symm⟩] at found
      cases found
  | some record =>
    obtain ⟨listed, own⟩ := (finds.port id record).mp found
    constructor
    · intro same
      exact ⟨record, listed, eq_of_beq same, own.symm⟩
    · rintro ⟨port, other, same, named⟩
      rw [(finds.port id port).mpr ⟨other, named.symm⟩] at found
      cases found
      exact beq_iff_eq.mpr same

theorem touches_iff (finds : snapshot.FindsExactly) {device : UInt64} {link : LinkRecord} :
    (onDevice snapshot device link.portA || onDevice snapshot device link.portB) = true ↔
      snapshot.data.Touches device link := by
  rw [Bool.or_eq_true, onDevice_iff finds, onDevice_iff finds]
  constructor
  · rintro (⟨port, listed, same, own⟩ | ⟨port, listed, same, own⟩)
    · exact ⟨port, listed, same, .inl own⟩
    · exact ⟨port, listed, same, .inr own⟩
  · rintro ⟨port, listed, same, own | own⟩
    · exact .inl ⟨port, listed, same, own⟩
    · exact .inr ⟨port, listed, same, own⟩

theorem link_mem_device (finds : snapshot.FindsExactly) {device : UInt64} {link : LinkRecord}
    (inside : link ∈ snapshot.data.links) (touches : snapshot.data.Touches device link) :
    (⟨.link, link.id⟩ : ResourceRef) ∈ ⟨.device, device⟩ ::
      (snapshot.data.ports.filter (·.device == device)).map (fun port => ⟨.port, port.id⟩) ++
      (snapshot.data.links.filter fun link =>
        onDevice snapshot device link.portA || onDevice snapshot device link.portB).map
          (fun link => ⟨.link, link.id⟩) ++
      (snapshot.data.attachments.filter (·.device == device)).map
        (fun attachment => ⟨.attachment, attachment.id⟩) := by
  refine List.mem_append_left _ (List.mem_append_right _ (List.mem_map.mpr ⟨link, ?_, rfl⟩))
  exact List.mem_filter.mpr ⟨inside, (touches_iff finds).mpr touches⟩

/-- A device, port or attachment stands for records of the snapshot. -/
theorem scope_subjects {root : ResourceRef} {scope : List ResourceRef} (finds : snapshot.FindsExactly)
    (expanded : expandScope snapshot root = .ok scope)
    (kind : root.kind = .device ∨ root.kind = .port ∨ root.kind = .attachment) :
    ∀ ref ∈ scope, ref ∈ snapshot.data.subjects := by
  intro ref member
  obtain ⟨members, found, same⟩ := mem_expandScope expanded
  rw [same] at member
  rw [SnapshotData.mem_subjects_iff]
  unfold scopeMembers refuse at found
  rcases kind with kind | kind | kind
  · simp only [kind] at found
    split at found
    · cases found
    rename_i record held
    obtain ⟨listed, own⟩ := (finds.device root.id record).mp held
    cases found
    simp only [List.cons_append, List.mem_cons, List.mem_append, List.mem_map, List.mem_filter] at member
    rcases member with rfl | (⟨port, ⟨inside, -⟩, rfl⟩ | ⟨link, ⟨inside, -⟩, rfl⟩) | ⟨attachment, ⟨inside, -⟩, rfl⟩
    · exact .inr (.inl ⟨record, listed, ref_of_parts kind.symm own⟩)
    · exact .inr (.inr (.inl ⟨port, inside, rfl⟩))
    · exact .inr (.inr (.inr (.inl ⟨link, inside, rfl⟩)))
    · exact .inr (.inr (.inr (.inr (.inl ⟨attachment, inside, rfl⟩))))
  · simp only [kind] at found
    split at found
    · cases found
    rename_i record held
    obtain ⟨listed, own⟩ := (finds.port root.id record).mp held
    cases found
    simp only [List.cons_append, List.mem_cons, List.mem_append, List.mem_map, List.mem_filter] at member
    rcases member with rfl | ⟨link, ⟨inside, -⟩, rfl⟩ | ⟨attachment, ⟨inside, -⟩, rfl⟩
    · exact .inr (.inr (.inl ⟨record, listed, ref_of_parts kind.symm own⟩))
    · exact .inr (.inr (.inr (.inl ⟨link, inside, rfl⟩)))
    · exact .inr (.inr (.inr (.inr (.inl ⟨attachment, inside, rfl⟩))))
  · simp only [kind] at found
    split at found
    · cases found
    rename_i record held
    obtain ⟨listed, own⟩ := (finds.attachment root.id record).mp held
    cases found
    obtain rfl := List.mem_singleton.mp member
    exact .inr (.inr (.inr (.inr (.inl ⟨record, listed, ref_of_parts kind.symm own⟩))))

/-- A snapshot that finds its records exactly, with the resources it has records of, has nested scopes. -/
theorem Snapshot.FindsExactly.scopes_nest (finds : snapshot.FindsExactly) (valid : snapshot.valid = true)
    (subjects : ∀ ref, ref ∈ snapshot.data.resources.map ResourceState.ref ↔ ref ∈ snapshot.data.subjects) :
    snapshot.ScopesNest := by
  have whole : scopeMembers snapshot ⟨.rack, snapshot.data.rack⟩ =
      .ok (snapshot.data.resources.map ResourceState.ref) := by
    simp only [scopeMembers, ne_eq, not_true_eq_false, if_false]
  constructor
  · intro root scope expanded
    exact expandScope_strict expanded
  · intro root scope expanded
    refine ⟨fun member value above => named_of_mem expanded member value above, fun named => ?_⟩
    by_cases rack : root.kind = .rack
    · obtain ⟨own, same⟩ := expandScope_rack expanded rack
      rw [same, subjects, SnapshotData.mem_subjects_iff]
      exact .inl (ref_of_parts rack.symm own.symm).symm
    · exact root_mem_scope expanded rack named
  · obtain ⟨rack, resolved, same⟩ := expandScope_resolves valid whole
    refine ⟨rack, resolved, ?_⟩
    intro root scope expanded kind ref member
    exact (same ref).mpr ((subjects ref).mpr (scope_subjects finds expanded kind ref member))
  · intro device listed port inside own
    refine meet_of_common valid ⟨.port, port.id⟩ (scopeMembers_device finds listed) (scopeMembers_port finds inside) ?_
      (by simp)
    have hung : port ∈ snapshot.data.ports.filter (·.device == device.id) := by simp [inside, own]
    simp only [List.cons_append, List.mem_cons, List.mem_append]
    exact .inr (.inl (.inl (List.mem_map.mpr ⟨port, hung, rfl⟩)))
  · intro device listed link inside touches
    exact meet_of_common valid ⟨.link, link.id⟩ (scopeMembers_device finds listed) (scopeMembers_link finds inside)
      (link_mem_device finds inside touches) (by simp)
  · intro device listed attachment inside own
    refine meet_of_common valid ⟨.attachment, attachment.id⟩ (scopeMembers_device finds listed)
      (scopeMembers_attachment finds inside) ?_ (by simp)
    have hung : attachment ∈ snapshot.data.attachments.filter (·.device == device.id) := by simp [inside, own]
    exact List.mem_append_right _ (List.mem_map.mpr ⟨attachment, hung, rfl⟩)
  · intro device listed link inside touches id path found used
    have route : scopeMembers snapshot ⟨.path, id⟩ =
        .ok (⟨.path, id⟩ :: path.links.map fun link => ⟨.link, link⟩) := by
      simp only [scopeMembers, found]
    exact meet_of_common valid ⟨.link, link.id⟩ (scopeMembers_device finds listed) route
      (link_mem_device finds inside touches) (List.mem_cons_of_mem _ (List.mem_map_of_mem used))

end Scopes

/-- Scopes are strictly sorted, and the walk over two of them finds a common resource exactly when there is one. In a
composition they contain their roots, the rack contains the devices, ports and attachments with all they stand for, and
a device shares a resource with each port, link, attachment and path that hangs on it. -/
theorem compose_scopes_nest :
    (∀ first second : List ResourceRef, first.Pairwise (fun a b => a.less b = true) →
      second.Pairwise (fun a b => a.less b = true) →
        (scopesIntersect first second = true ↔ ∃ ref, ref ∈ first ∧ ref ∈ second)) ∧
    ∀ (ledger : EvidenceLedger) (config : RackConfig) (request : ComposeInput) (outcome : ComposeOutcome),
      compose ledger config request = .ok outcome → outcome.snapshot.ScopesNest := by
  constructor
  · intro first second strictFirst strictSecond
    have sorted : ∀ {scope : List ResourceRef}, scope.Pairwise (fun a b => a.less b = true) →
        InOrder ResourceRef.less scope :=
      fun strict => strict.imp fun before => ResourceRef.orders.asymm _ _ before
    exact scopesIntersect_iff (sorted strictFirst) (sorted strictSecond)
  · intro ledger config request outcome composed
    obtain ⟨valid, own, passes⟩ := compose_stored composed
    exact (passes.catalogued own).findsExactly.scopes_nest valid (passes.mem_subjects own)

/-- Two scopes around one port meet, and the scopes of the furnished rack nest. -/
theorem furnished_scopes_nest :
    scopesIntersect [⟨.device, 3⟩, ⟨.port, 4⟩, ⟨.link, 6⟩] [⟨.port, 4⟩, ⟨.port, 5⟩] = true ∧
      ∃ outcome, compose furnishedLedger { rack := 7 } ⟨0, 1, .active, {}⟩ = .ok outcome ∧
        outcome.snapshot.ScopesNest := by
  constructor
  · exact (compose_scopes_nest.1 _ _ (by decide) (by decide)).mpr ⟨⟨.port, 4⟩, by decide, by decide⟩
  · obtain ⟨outcome, composed, -⟩ := furnished_composes
    exact ⟨outcome, composed, compose_scopes_nest.2 _ _ _ outcome composed⟩

/-- A reference of a kind without a name resolves, to a scope that does not contain it. -/
theorem unnamed_root_resolves :
    ∃ outcome, compose furnishedLedger { rack := 7 } ⟨0, 1, .active, {}⟩ = .ok outcome ∧
      expandScope outcome.snapshot ⟨.unnamed 9 (.inr (by decide)), 3⟩ = .ok [] := by
  obtain ⟨outcome, composed, -⟩ := furnished_composes
  obtain ⟨valid, -⟩ := compose_stored composed
  refine ⟨outcome, composed, ?_⟩
  rw [expandScope, valid]
  rfl

end RackFabric
