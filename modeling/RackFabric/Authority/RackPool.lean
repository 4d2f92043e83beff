import RackFabric.Authority.PairwiseScan
import RackFabric.Compose.Containment

/-!
What a lease on the whole rack draws from. The composer makes every device an owner of the rack, so the pool of the
rack's own scope is the rack and each of its devices.
-/

namespace RackFabric

open Foundation

section Checks

variable {snapshot : Snapshot}

theorem checkEligible_ok {refs : List ResourceRef}
    (eligible : ∀ ref ∈ refs, ∃ state, snapshot.find ref = some state ∧ state.eligibility = .eligible) :
    GrantRegistry.checkEligible snapshot refs = .ok () := by
  induction refs with
  | nil => rfl
  | cons ref rest ih =>
    obtain ⟨state, found, usable⟩ := eligible ref (by simp)
    rw [GrantRegistry.checkEligible, found]
    simp only [usable, ne_eq, not_true_eq_false, if_false]
    exact ih fun other member => eligible other (by simp [member])

theorem checkConflicts_vacant {registry : GrantRegistry} (vacant : registry.occupancy = {}) (mode : GrantMode)
    (refs : List ResourceRef) : registry.checkConflicts mode refs = .ok () := by
  induction refs with
  | nil => rfl
  | cons ref rest ih =>
    have alone : registry.conflictOn mode ref = none := by
      rw [GrantRegistry.conflictOn, vacant]
      simp
    rw [GrantRegistry.checkConflicts, alone]
    exact ih

/-- Where nothing was issued yet a pool has what it holds. -/
theorem available_uncommitted {registry : GrantRegistry} (clear : registry.committed = {})
    (valid : snapshot.valid = true) (ref : ResourceRef) :
    registry.available snapshot ref = GrantRegistry.poolBase snapshot ref := by
  rw [GrantRegistry.available, valid, clear]
  cases based : GrantRegistry.poolBase snapshot ref with
  | error status => rfl
  | ok base => simp [checkedSubU64]

/-- A request is funded exactly when each of its pools has the capacity. -/
theorem checkCapacity_ok_iff {registry : GrantRegistry} {requested : UInt64} {pool : List ResourceRef} :
    registry.checkCapacity snapshot requested pool = .ok () ↔
      ∀ ref ∈ pool, ∃ free, registry.available snapshot ref = .ok free ∧ requested ≤ free := by
  induction pool with
  | nil => simp [GrantRegistry.checkCapacity]
  | cons ref rest ih =>
    rw [GrantRegistry.checkCapacity]
    cases free : registry.available snapshot ref with
    | error status => simp [free]
    | ok units =>
      by_cases short : units < requested
      · simp only [short, if_true, List.mem_cons, forall_eq_or_imp, free]
        constructor
        · intro refused
          cases refused
        · rintro ⟨⟨other, same, enough⟩, -⟩
          cases same
          exact absurd short (UInt64.not_lt.mpr enough)
      · simp only [short, if_false, ih, List.mem_cons, forall_eq_or_imp, free]
        exact ⟨fun rest => ⟨⟨units, rfl, UInt64.not_lt.mp short⟩, rest⟩, And.right⟩

end Checks

section Rack

variable {ledger : EvidenceLedger} {config : RackConfig} {input : ComposeInput} {outcome : ComposeOutcome}

/-- The rack's own pool is the rack and all its devices, if they are not too many. -/
theorem rack_pool (composed : compose ledger config input = .ok outcome) :
    ∃ pool, pool.length = outcome.snapshot.data.devices.length + 1 ∧
      (∀ ref, ref ∈ pool ↔ ref = ⟨.rack, config.rack⟩ ∨
        ∃ device ∈ outcome.snapshot.data.devices, ref = ⟨.device, device.id⟩) ∧
      capacityPoolRefs outcome.snapshot ⟨.rack, config.rack⟩ =
        if pool.length > kMaxPoolRefs then refuse .resourceExhausted "capacity pool exceeds its bound"
        else .ok pool := by
  obtain ⟨valid, own, passes⟩ := compose_stored composed
  have finds := (passes.catalogued own).findsExactly
  obtain ⟨inputs, published, -, configured, devices, -⟩ := passes.resources
  have found : outcome.snapshot.find ⟨.rack, config.rack⟩ = some inputs.rackResource := by
    rw [finds.resource, published]
    exact ⟨inputs.rack_listed, by rw [ResourceInputs.rackResource, configured]⟩
  have member : ∀ ref, ref ∈ uniqueBy (· == ·) (sortBy ResourceRef.less (⟨.rack, outcome.snapshot.data.rack⟩ ::
      ⟨.rack, config.rack⟩ :: inputs.rackResource.owners.map fun owner => ⟨.device, owner.device⟩)) ↔
        ref = ⟨.rack, config.rack⟩ ∨
          ∃ device ∈ outcome.snapshot.data.devices, ref = ⟨.device, device.id⟩ := by
    intro ref
    rw [mem_uniqueBy, (sortBy_perm _ _).mem_iff, own]
    simp only [List.mem_cons, List.mem_map, ResourceInputs.rackResource, mem_ownersOf, devices]
    constructor
    · rintro (rack | rack | ⟨owner, ⟨device, listed, rfl⟩, rfl⟩)
      · exact .inl rack
      · exact .inl rack
      · exact .inr ⟨device, listed, rfl⟩
    · rintro (rack | ⟨device, listed, rfl⟩)
      · exact .inl rack
      · exact .inr (.inr ⟨_, ⟨device, listed, rfl⟩, rfl⟩)
  have distinct : (⟨.rack, config.rack⟩ :: outcome.snapshot.data.devices.map fun device =>
      (⟨.device, device.id⟩ : ResourceRef)).Nodup := by
    refine List.nodup_cons.mpr ⟨by simp, ?_⟩
    have ids := List.Pairwise.imp (fun less => UInt64.ne_of_lt (of_decide_eq_true less)) passes.devices_strict
    exact List.pairwise_map.mpr ((List.pairwise_map.mp ids).imp fun apart same => apart (congrArg ResourceRef.id same))
  have pooled := nodup_uniqueBy ResourceRef.eq_of_not_less (sortBy_inOrder ResourceRef.orders
    (⟨.rack, outcome.snapshot.data.rack⟩ :: ⟨.rack, config.rack⟩ ::
      inputs.rackResource.owners.map fun owner => ⟨.device, owner.device⟩))
  refine ⟨_, ?_, member, ?_⟩
  · have same := (List.perm_ext_iff_of_nodup pooled distinct).mpr fun ref => (member ref).trans (by simp [eq_comm])
    rw [same.length_eq, List.length_cons, List.length_map]
  · rw [capacityPoolRefs, valid, found]
    rfl

/-- Every resource of the snapshot is eligible and outside any maintenance window. -/
def Snapshot.Ready (snapshot : Snapshot) : Prop :=
  ∀ state ∈ snapshot.data.resources, state.eligibility = .eligible ∧ state.maintenance = false

/-- The rack is not too large for one lease, and each device has the capacity beside its own obligations. -/
def Snapshot.DevicesCarry (snapshot : Snapshot) (units : UInt64) : Prop :=
  snapshot.data.devices.length < kMaxPoolRefs ∧
    ∀ state ∈ snapshot.data.resources, state.ref.kind = .device →
      state.obligated.toNat + units.toNat ≤ state.capacity.toNat

theorem rack_base (composed : compose ledger config input = .ok outcome) (ready : outcome.snapshot.Ready) :
    GrantRegistry.poolBase outcome.snapshot ⟨.rack, config.rack⟩ = .ok outcome.snapshot.data.capacity.uncommitted := by
  obtain ⟨valid, own, passes⟩ := compose_stored composed
  have finds := (passes.catalogued own).findsExactly
  obtain ⟨inputs, published, -, configured, -⟩ := passes.resources
  have listed : inputs.rackResource ∈ outcome.snapshot.data.resources := published ▸ inputs.rack_listed
  have found : outcome.snapshot.find ⟨.rack, config.rack⟩ = some inputs.rackResource :=
    (finds.resource _ _).mpr ⟨listed, by rw [ResourceInputs.rackResource, configured]⟩
  simp [GrantRegistry.poolBase, own, found, (ready _ listed).1]

/-- A device of a ready rack has the capacity exactly when it has it beside its own obligations. -/
theorem device_base_iff (composed : compose ledger config input = .ok outcome) (ready : outcome.snapshot.Ready)
    {state : ResourceState} (listed : state ∈ outcome.snapshot.data.resources) (kind : state.ref.kind = .device)
    {units : UInt64} :
    (∃ free, GrantRegistry.poolBase outcome.snapshot state.ref = .ok free ∧ units ≤ free) ↔
      state.obligated.toNat + units.toNat ≤ state.capacity.toNat := by
  obtain ⟨valid, own, passes⟩ := compose_stored composed
  have found := ((passes.catalogued own).findsExactly.resource state.ref state).mpr ⟨listed, rfl⟩
  have known : state.capacityKnown = true := by
    obtain ⟨inputs, published, -, -, devices, -⟩ := passes.resources
    have eligible := (ready state listed).1
    rw [published] at listed
    rcases ResourceInputs.mem_resources listed with rfl | ⟨device, held, rfl⟩ | ⟨port, -, rfl⟩ | ⟨link, -, rfl⟩ |
      ⟨attachment, -, rfl⟩ | ⟨path, -, rfl⟩
    · cases kind
    · exact (passes.device_cleared (devices ▸ held) eligible).known
    all_goals cases kind
  rw [GrantRegistry.poolBase, if_neg (by rw [kind]; simp), found]
  simp only [known, (ready state listed).1, Bool.not_true, Bool.false_eq_true, if_false, ne_eq, not_true_eq_false]
  cases rest : checkedSubU64 state.capacity state.obligated with
  | none =>
    constructor
    · rintro ⟨free, short, -⟩
      cases short
    · intro enough
      rw [checkedSubU64_eq (by omega)] at rest
      cases rest
  | some left =>
    have taken := checkedSubU64_toNat rest
    constructor
    · rintro ⟨free, same, enough⟩
      cases same
      rw [UInt64.le_iff_toNat_le] at enough
      omega
    · intro enough
      exact ⟨left, rfl, UInt64.le_iff_toNat_le.mpr (by omega)⟩

/-- The scope of the rack is the references of its resources. -/
theorem rack_scope (composed : compose ledger config input = .ok outcome) :
    ∃ scope, expandScope outcome.snapshot ⟨.rack, config.rack⟩ = .ok scope ∧
      (∀ ref, ref ∈ scope ↔ ref ∈ outcome.snapshot.data.resources.map ResourceState.ref) ∧
      scope.length = outcome.snapshot.data.resources.length := by
  obtain ⟨valid, own, passes⟩ := compose_stored composed
  have members : scopeMembers outcome.snapshot ⟨.rack, config.rack⟩ =
      .ok (outcome.snapshot.data.resources.map ResourceState.ref) := by
    simp only [scopeMembers, own, ne_eq, not_true_eq_false, if_false]
  obtain ⟨scope, expands, same⟩ := expandScope_resolves valid members
  refine ⟨scope, expands, same, ?_⟩
  have distinct : (outcome.snapshot.data.resources.map ResourceState.ref).Nodup :=
    (passes.catalogued own).resources.imp fun less same => by
      rw [same, ResourceRef.orders.asymm _ _ (same ▸ less)] at less
      cases less
  rw [((List.perm_ext_iff_of_nodup (expandScope_nodup expands) distinct).mpr same).length_eq, List.length_map]

/-- A registry that has issued nothing, with room under its limits for a lease on the whole rack. -/
structure GrantRegistry.Untouched (registry : GrantRegistry) (snapshot : Snapshot) : Prop where
  occupancy : registry.occupancy = {}
  committed : registry.committed = {}
  entries : registry.occupancyEntries = 0
  live : registry.live = 0
  outcomes : registry.outcomes = {}
  leases : 0 < registry.limits.maxLiveGrants
  memory : 0 < registry.limits.maxRememberedRequests
  index : snapshot.data.resources.length ≤ registry.limits.maxOccupancyEntries

/-- The first lease on a whole rack is issued exactly when the rack has the capacity and every device has it too. -/
theorem acquire_rack_iff (composed : compose ledger config input = .ok outcome) (ready : outcome.snapshot.Ready)
    {registry : GrantRegistry} (untouched : registry.Untouched outcome.snapshot) {request : GrantRequest}
    (presentable : registry.Presentable outcome.snapshot request) (scope : request.scope = ⟨.rack, config.rack⟩)
    {incarnation nowMs deadline : UInt64} (dated : checkedAddU64 nowMs request.ttlMs = some deadline) :
    (∃ grant, (registry.acquire outcome.snapshot request incarnation nowMs true).2 = .ok grant) ↔
      request.capacity ≤ outcome.snapshot.data.capacity.uncommitted ∧
        outcome.snapshot.DevicesCarry request.capacity := by
  obtain ⟨valid, own, passes⟩ := compose_stored composed
  obtain ⟨scope', expands, all, long⟩ := rack_scope composed
  obtain ⟨pool, size, member, pools⟩ := rack_pool composed
  have reaches : registry.ReachesScan outcome.snapshot request true scope' := by
    refine ⟨presentable, rfl, ?_, ?_, by rw [scope, expands], ?_, ?_⟩
    · rw [untouched.live]
      exact untouched.leases
    · rw [untouched.outcomes]
      exact untouched.memory
    · rw [untouched.entries, long, Nat.zero_add]
      exact untouched.index
    · refine checkEligible_ok fun ref listed => ?_
      obtain ⟨state, held, rfl⟩ := List.mem_map.mp ((all ref).mp listed)
      exact ⟨state, ((passes.catalogued own).findsExactly.resource _ _).mpr ⟨held, rfl⟩, (ready state held).1⟩
  have funded : registry.checkCapacity outcome.snapshot request.capacity pool = .ok () ↔
      request.capacity ≤ outcome.snapshot.data.capacity.uncommitted ∧
        ∀ state ∈ outcome.snapshot.data.resources, state.ref.kind = .device →
          state.obligated.toNat + request.capacity.toNat ≤ state.capacity.toNat := by
    rw [checkCapacity_ok_iff]
    simp only [available_uncommitted untouched.committed valid]
    constructor
    · intro each
      obtain ⟨free, based, enough⟩ := each _ ((member _).mpr (.inl rfl))
      rw [rack_base composed ready] at based
      cases based
      refine ⟨enough, ?_⟩
      intro state listed kind
      refine (device_base_iff composed ready listed kind).mp (each state.ref ((member _).mpr (.inr ?_)))
      have subject := (passes.mem_subjects own state.ref).mp (List.mem_map_of_mem listed)
      rcases (SnapshotData.mem_subjects_iff _ _).mp subject with same | ⟨device, held, same⟩ | ⟨_, -, same⟩ |
        ⟨_, -, same⟩ | ⟨_, -, same⟩ | ⟨_, -, same⟩
      · rw [same] at kind
        cases kind
      · exact ⟨device, held, same.symm⟩
      all_goals
        rw [← same] at kind
        cases kind
    · rintro ⟨enough, devices⟩ ref listed
      rcases (member ref).mp listed with rfl | ⟨device, held, rfl⟩
      · exact ⟨_, rack_base composed ready, enough⟩
      · obtain ⟨state, stated, same⟩ := List.mem_map.mp ((passes.mem_subjects own ⟨.device, device.id⟩).mpr
          ((SnapshotData.mem_subjects_iff _ _).mpr (.inr (.inl ⟨device, held, rfl⟩))))
        have kind : state.ref.kind = .device := by rw [same]
        rw [← same]
        exact (device_base_iff composed ready stated kind).mpr (devices state stated kind)
  unfold GrantRegistry.acquire
  simp only [reaches.valid, reaches.identified, reaches.unused, reaches.admission_eq, scope, pools,
    checkConflicts_vacant untouched.occupancy, Bool.not_true, Bool.false_eq_true, if_false]
  by_cases large : pool.length > kMaxPoolRefs
  · rw [if_pos large]
    constructor
    · rintro ⟨grant, refused⟩
      cases refused
    · rintro ⟨-, few, -⟩
      omega
  rw [if_neg large]
  have few : outcome.snapshot.data.devices.length < kMaxPoolRefs := by omega
  rw [Snapshot.DevicesCarry, and_iff_right few, ← funded]
  simp only [bind, Except.bind]
  cases checked : registry.checkCapacity outcome.snapshot request.capacity pool with
  | error status =>
    constructor
    · rintro ⟨grant, refused⟩
      cases refused
    · nofun
  | ok =>
    simp only [GrantRegistry.issue, dated]
    exact ⟨fun _ => trivial, fun _ => ⟨_, rfl⟩⟩

/-- A lease on a whole rack is limited by the rack's pool alone exactly when no device of the rack is in its way. -/
theorem rack_pool_alone_iff (composed : compose ledger config input = .ok outcome) (ready : outcome.snapshot.Ready)
    {registry : GrantRegistry} (untouched : registry.Untouched outcome.snapshot) {request : GrantRequest}
    (presentable : registry.Presentable outcome.snapshot request) (scope : request.scope = ⟨.rack, config.rack⟩)
    {incarnation nowMs deadline : UInt64} (dated : checkedAddU64 nowMs request.ttlMs = some deadline) :
    ((∃ grant, (registry.acquire outcome.snapshot request incarnation nowMs true).2 = .ok grant) ↔
        request.capacity ≤ outcome.snapshot.data.capacity.uncommitted) ↔
      (request.capacity ≤ outcome.snapshot.data.capacity.uncommitted →
        outcome.snapshot.DevicesCarry request.capacity) := by
  rw [acquire_rack_iff composed ready untouched presentable scope dated, and_iff_left_iff_imp]

end Rack

/-- Two devices of ten units each in one rack. -/
def twinRack : EvidenceLedger :=
  EvidenceLedger.insertAll {} ([3, 4].flatMap fun device =>
    let seen (payload : EvidencePayload) : EvidenceRecord :=
      { provenance := { source := 1, sequence := 1 }, payload := payload }
    [seen (.member { device := device, rack := 7, incarnation := 1 }),
      seen (.device { device := device, role := .switch, capacity := 10, capacityKnown := true, availability := .up })])

def sharedLease (units : UInt64) : GrantRequest where
  request := ⟨0, 1⟩
  principal := 1
  scope := ⟨.rack, 7⟩
  mode := .shared
  capacity := units
  ttlMs := 50

private theorem sharedLease_presentable {snapshot : Snapshot} (valid : snapshot.valid = true) (units : UInt64) :
    ({ incarnation := 1 } : GrantRegistry).Presentable snapshot (sharedLease units) :=
  ⟨valid, rfl, by simp, by simp [sharedLease], fun _ => rfl, (by decide : (1 : UInt64) ≤ 50),
    (by decide : (50 : UInt64) ≤ 86400000)⟩

private theorem untouched_of_small {snapshot : Snapshot} (small : snapshot.data.resources.length ≤ 1000) :
    ({ incarnation := 1 } : GrantRegistry).Untouched snapshot :=
  ⟨rfl, rfl, rfl, rfl, rfl, by decide, by decide, small.trans (by decide)⟩

/-- What is evaluated of a composition below. -/
private def readyWith (outcome : ComposeOutcome) (uncommitted : UInt64) : Bool :=
  outcome.snapshot.data.resources.all (fun state => state.eligibility == .eligible && !state.maintenance) &&
    outcome.snapshot.data.capacity.uncommitted == uncommitted && outcome.snapshot.data.resources.length ≤ 1000

private theorem readyWith_iff {outcome : ComposeOutcome} {uncommitted : UInt64}
    (held : readyWith outcome uncommitted = true) : outcome.snapshot.Ready ∧
      outcome.snapshot.data.capacity.uncommitted = uncommitted ∧ outcome.snapshot.data.resources.length ≤ 1000 := by
  simp only [readyWith, Bool.and_eq_true, List.all_eq_true, beq_iff_eq, Bool.not_eq_true', decide_eq_true_eq] at held
  exact ⟨held.1.1, held.1.2, held.2⟩

/-- Fifteen units of the twenty that are free are refused, for no device has them alone. -/
theorem twin_rack_refuses : ∃ outcome, compose twinRack { rack := 7 } ⟨0, 1, .active, {}⟩ = .ok outcome ∧
    outcome.snapshot.Ready ∧ ({ incarnation := 1 } : GrantRegistry).Untouched outcome.snapshot ∧
    ({ incarnation := 1 } : GrantRegistry).Presentable outcome.snapshot (sharedLease 15) ∧
    checkedAddU64 0 (sharedLease 15).ttlMs = some 50 ∧
    ¬ ((∃ grant, (({ incarnation := 1 } : GrantRegistry).acquire outcome.snapshot (sharedLease 15) 1 0 true).2 =
        .ok grant) ↔ (sharedLease 15).capacity ≤ outcome.snapshot.data.capacity.uncommitted) := by
  have held : (compose twinRack { rack := 7 } ⟨0, 1, .active, {}⟩).passes fun outcome =>
      readyWith outcome 20 && outcome.snapshot.data.resources.any fun state =>
        state.ref.kind == .device && state.capacity == 10 := by rfl
  obtain ⟨outcome, composed, held⟩ := Result.exists_of_passes held
  rw [Bool.and_eq_true, List.any_eq_true] at held
  obtain ⟨settled, state, listed, shape⟩ := held
  obtain ⟨ready, free, small⟩ := readyWith_iff settled
  have presentable := sharedLease_presentable (compose_stored composed).1 15
  refine ⟨outcome, composed, ready, untouched_of_small small, presentable, by decide, ?_⟩
  rw [acquire_rack_iff composed ready (untouched_of_small small) presentable rfl
    (by decide : checkedAddU64 0 (sharedLease 15).ttlMs = some 50), free]
  intro alone
  obtain ⟨-, -, carried⟩ := alone.mpr (by decide)
  simp only [Bool.and_eq_true, beq_iff_eq] at shape
  have enough := carried state listed shape.1
  rw [shape.2] at enough
  exact absurd (Nat.le_trans (Nat.le_add_left _ _) enough) (by decide)

/-- A lease on the furnished rack is limited by the rack's pool alone: its one device has all the capacity. -/
theorem furnished_rack_pool_alone : ∃ outcome, compose furnishedLedger { rack := 7 } ⟨0, 1, .active, {}⟩ = .ok outcome ∧
    ((∃ grant, (({ incarnation := 1 } : GrantRegistry).acquire outcome.snapshot (sharedLease 4) 1 0 true).2 =
        .ok grant) ↔ (sharedLease 4).capacity ≤ outcome.snapshot.data.capacity.uncommitted) := by
  have held : (compose furnishedLedger { rack := 7 } ⟨0, 1, .active, {}⟩).passes fun outcome =>
      readyWith outcome 10 && (outcome.snapshot.data.devices.length == 1 &&
        outcome.snapshot.data.resources.all fun state =>
          state.ref.kind != .device || state.obligated.toNat + 4 ≤ state.capacity.toNat) := by rfl
  obtain ⟨outcome, composed, held⟩ := Result.exists_of_passes held
  simp only [Bool.and_eq_true, beq_iff_eq, List.all_eq_true] at held
  obtain ⟨settled, one, each⟩ := held
  obtain ⟨ready, free, small⟩ := readyWith_iff settled
  refine ⟨outcome, composed, (rack_pool_alone_iff composed ready (untouched_of_small small)
    (sharedLease_presentable (compose_stored composed).1 4) rfl
    (by decide : checkedAddU64 0 (sharedLease 4).ttlMs = some 50)).mpr fun _ => ⟨by rw [one]; decide, ?_⟩⟩
  intro state listed kind
  have enough := each state listed
  rw [kind] at enough
  change state.obligated.toNat + 4 ≤ state.capacity.toNat
  simpa using enough

end RackFabric
