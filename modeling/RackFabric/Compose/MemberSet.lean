import RackFabric.Compose.Bounds

/-!
The member set of a snapshot: the devices it is composed of, each under its incarnation. It does not depend on the
epoch a composition is stamped with, and it is empty when no claim was gathered.
-/

namespace RackFabric

/-- The member set a digest is taken of. -/
def SnapshotData.memberSet (data : SnapshotData) : List (UInt64 × UInt64) :=
  data.devices.map fun device => (device.id, device.incarnation)

/-- The digest a rack without members carries. -/
def emptyMemberSet : Digest :=
  memberSetDigest []

/-- Gathering looks at neither the epoch nor the lifecycle of a request. -/
theorem gather_congr (ledger : EvidenceLedger) (config : RackConfig) {first second : ComposeInput}
    (generation : first.generation = second.generation) (limits : first.limits = second.limits) :
    gather ledger config first = gather ledger config second := by
  simp only [gather, generation, limits]

theorem compose_memberSetDigest {ledger : EvidenceLedger} {config : RackConfig} {request : ComposeInput}
    {outcome : ComposeOutcome} (composed : compose ledger config request = .ok outcome) :
    outcome.snapshot.data.memberSetDigest = memberSetDigest outcome.snapshot.data.devices ∧
      outcome.snapshot.data.devices = (composeDevices (gather ledger config request)).1 := by
  simp only [compose, bind_eq_ok] at composed
  obtain ⟨_, _, _, _, _, _, _, _, _, _, _, _, _, _, pass, _, _, _, rest⟩ := composed
  obtain ⟨capacity, _, rest⟩ := rest
  obtain ⟨paths, _, rest⟩ := rest
  cases rest
  exact ⟨rfl, rfl⟩

/-- A rack that is composed again under another epoch differs in nothing but the epoch. -/
theorem compose_restamp {ledger : EvidenceLedger} {config : RackConfig} {request : ComposeInput}
    {outcome : ComposeOutcome} (composed : compose ledger config request = .ok outcome) (epoch : UInt64) :
    ∃ again, compose ledger config { request with epoch := epoch } = .ok again ∧
      again.snapshot.valid = true ∧ again.snapshot.data = { outcome.snapshot.data with epoch := epoch } := by
  have gathered : gather ledger config { request with epoch := epoch } = gather ledger config request :=
    gather_congr ledger config rfl rfl
  simp only [compose, bind_eq_ok] at composed
  simp only [compose, gathered, bind_eq_ok]
  obtain ⟨a, rack, b, members, c, devices, d, ports, e, links, f, attachments, g, maintenance, pass, obligations, h,
    bounded, capacity, capacities, paths, enumerated, rest⟩ := composed
  cases rest
  exact ⟨_, ⟨a, rack, b, members, c, devices, d, ports, e, links, f, attachments, g, maintenance, pass, obligations, h,
    bounded, capacity, capacities, paths, enumerated, rfl⟩, rfl, rfl⟩

/-- Without gathered members a composition has no devices. -/
theorem compose_memberless {ledger : EvidenceLedger} {config : RackConfig} {request : ComposeInput}
    {outcome : ComposeOutcome} (composed : compose ledger config request = .ok outcome)
    (memberless : (gather ledger config request).members.size = 0) :
    outcome.snapshot.data.memberSetDigest = emptyMemberSet := by
  obtain ⟨digest, devices⟩ := compose_memberSetDigest composed
  have none : outcome.snapshot.data.devices = [] := by
    rw [← List.length_eq_zero_iff, devices, composeDevices_length, memberless]
  rw [digest, none]
  rfl

end RackFabric
