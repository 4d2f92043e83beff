import RackFabric.Authority.Reconcile

/-!
No pool is oversubscribed by a new grant: what live grants draw from its pools stays within what the snapshot leaves
for authority there.
-/

namespace RackFabric

open Foundation

/-- What a snapshot leaves for authority in one pool covers some units: uncommitted capacity for the rack, capacity
beyond obligations elsewhere. -/
inductive Affords (snapshot : Snapshot) (ref : ResourceRef) (units : Nat) : Prop where
  | rack (kind : ref.kind = .rack) (within : units ≤ snapshot.data.capacity.uncommitted.toNat)
  | resource (state : ResourceState) (kind : ref.kind ≠ .rack) (found : snapshot.find ref = some state)
      (within : units + state.obligated.toNat ≤ state.capacity.toNat)

theorem Affords.mono {snapshot : Snapshot} {ref : ResourceRef} {fewer units : Nat}
    (affords : Affords snapshot ref units) (less : fewer ≤ units) : Affords snapshot ref fewer := by
  cases affords with
  | rack kind within => exact .rack kind (Nat.le_trans less within)
  | resource state kind found within => exact .resource state kind found (by omega)

namespace GrantRegistry

theorem poolBase_affords {snapshot : Snapshot} {ref : ResourceRef} {base : UInt64}
    (based : poolBase snapshot ref = .ok base) : Affords snapshot ref base.toNat := by
  unfold poolBase refuse at based
  by_cases rack : ref.kind = .rack
  · rw [if_pos rack] at based
    split at based
    · cases based
    split at based
    · cases based
    split at based
    · cases based
    cases based
    exact .rack rack (Nat.le_refl _)
  · rw [if_neg rack] at based
    split at based
    · cases based
    rename_i state found
    split at based
    · cases based
    split at based
    · cases based
    split at based
    · cases based
    rename_i rest taken
    cases based
    exact .resource state rack found (Nat.le_of_eq (checkedSubU64_toNat taken))

/-- What is free in a pool comes on top of what is committed there. -/
theorem available_affords {registry : GrantRegistry} {snapshot : Snapshot} {ref : ResourceRef} {free : UInt64}
    (found : registry.available snapshot ref = .ok free) :
    Affords snapshot ref ((registry.committed.getD ref 0).toNat + free.toNat) := by
  unfold available refuse at found
  split at found
  · cases found
  split at found
  · cases found
  rename_i base based
  split at found
  · cases found
  rename_i remaining taken
  cases found
  have total := checkedSubU64_toNat taken
  exact (poolBase_affords based).mono (by omega)

theorem checkCapacity_affords {registry : GrantRegistry} {snapshot : Snapshot} {requested : UInt64}
    {pool : List ResourceRef} (passed : registry.checkCapacity snapshot requested pool = .ok ()) :
    ∀ ref ∈ pool, Affords snapshot ref ((registry.committed.getD ref 0).toNat + requested.toNat) := by
  induction pool with
  | nil => simp
  | cons first rest ih =>
    rw [checkCapacity] at passed
    split at passed
    · cases passed
    rename_i free found
    split at passed
    · cases passed
    rename_i enough
    have covers : requested.toNat ≤ free.toNat := by
      simpa only [UInt64.lt_iff_toNat_lt, Nat.not_lt] using enough
    intro ref member
    rcases List.mem_cons.mp member with rfl | later
    · exact (available_affords found).mono (Nat.add_le_add_left covers _)
    · exact ih passed ref later

/-- What live grants draw from one pool together. -/
def drawnFrom (registry : GrantRegistry) (ref : ResourceRef) : Nat :=
  (registry.liveGrants.map fun grant => grant.capacity.toNat * grant.capacityPool.count ref).sum

theorem drawnFrom_eq (registry : GrantRegistry) (ref : ResourceRef) :
    registry.drawnFrom ref = tally (Grant.demand ref) registry.grants :=
  (tally_filter Grant.isLive _ registry.grants).symm

theorem capacityPoolRefs_nodup {snapshot : Snapshot} {root : ResourceRef} {pool : List ResourceRef}
    (found : capacityPoolRefs snapshot root = .ok pool) : pool.Nodup := by
  simp only [capacityPoolRefs, refuse] at found
  split at found
  · cases found
  split at found
  · cases found
  split at found
  · cases found
  cases found
  exact nodup_uniqueBy ResourceRef.eq_of_not_less (sortBy_inOrder ResourceRef.orders _)

/-- An acquire that issues a new grant leaves every pool of it with no more drawn than the snapshot affords. -/
theorem Balanced.acquire_affords {registry : GrantRegistry} (balanced : registry.Balanced) {snapshot : Snapshot}
    {request : GrantRequest} {incarnation nowMs : UInt64} {allowNew : Bool} {grant : Grant}
    (unnumbered : registry.nextFence + 1 ∉ registry.grants) (fresh : registry.outcomes[request.request]? = none)
    (issued : (registry.acquire snapshot request incarnation nowMs allowNew).2 = .ok grant) :
    ∀ ref ∈ grant.capacityPool,
      Affords snapshot ref ((registry.acquire snapshot request incarnation nowMs allowNew).1.drawnFrom ref) := by
  cases acquired : registry.acquire snapshot request incarnation nowMs allowNew with
  | mk next result =>
    rw [acquired] at issued
    dsimp only at issued ⊢
    cases acquire_decides acquired with
    | refused => cases issued
    | replayed outcome remembered =>
      rw [fresh] at remembered
      cases remembered
    | turnedDown => cases issued
    | burned => cases issued
    | issued deadline expanded pool identified unknown checked =>
      have admitted := admission_ok checked
      cases issued
      intro ref member
      have once : pool.count ref = 1 := List.count_eq_one_of_mem (capacityPoolRefs_nodup admitted.pools) member
      have grants : (registry.takeFence.enlist snapshot request (issuedGrant snapshot request incarnation nowMs
          deadline registry.takeFence.nextFence expanded pool)).grants =
          registry.grants.insert (registry.nextFence + 1) (issuedGrant snapshot request incarnation nowMs deadline
            registry.takeFence.nextFence expanded pool) :=
        (enlist_aside registry snapshot request rfl).grants
      have own : (issuedGrant snapshot request incarnation nowMs deadline registry.takeFence.nextFence expanded
          pool).demand ref = request.capacity.toNat := by
        have drawn : request.capacity.toNat * pool.count ref = request.capacity.toNat := by rw [once, Nat.mul_one]
        exact (if_pos rfl).trans drawn
      rw [drawnFrom_eq, grants, tally_insert_new unnumbered, own, ← balanced.committed ref]
      exact checkCapacity_affords admitted.funded ref member

/-- No pool of a new grant is oversubscribed, whatever the rack was composed to when the other grants were issued. -/
theorem issue_never_oversubscribes {limits : AuthorityLimits} {process : UInt64} {calls : List RegistryCall}
    (counts : Along perform Counts { limits := limits, incarnation := process } calls) {snapshot : Snapshot}
    {request : GrantRequest} {incarnation nowMs : UInt64} {allowNew : Bool} {grant : Grant}
    (room : (afterCalls limits process calls).nextFence.toNat + 1 < 2 ^ 64)
    (fresh : (afterCalls limits process calls).outcomes[request.request]? = none)
    (issued : ((afterCalls limits process calls).acquire snapshot request incarnation nowMs allowNew).2 = .ok grant) :
    ∀ ref ∈ grant.capacityPool, Affords snapshot ref
      (((afterCalls limits process calls).acquire snapshot request incarnation nowMs allowNew).1.drawnFrom ref) := by
  have ordered := inOrder_afterCalls counts
  exact ordered.balanced.acquire_affords (ordered.tidy.unused room) fresh issued

/-- Three of the four units that are left of the device go to a third lease. -/
theorem third_lease_affords :
    ∃ grant, ((afterCalls {} 1 smallRun).acquire smallRack (deviceLease 3 3 50) 1 21 true).2 = .ok grant ∧
      ⟨.device, 3⟩ ∈ grant.capacityPool ∧
      ((afterCalls {} 1 smallRun).acquire smallRack (deviceLease 3 3 50) 1 21 true).1.drawnFrom ⟨.device, 3⟩ = 9 ∧
      Affords smallRack ⟨.device, 3⟩
        (((afterCalls {} 1 smallRun).acquire smallRack (deviceLease 3 3 50) 1 21 true).1.drawnFrom ⟨.device, 3⟩) := by
  have admitted : (afterCalls {} 1 smallRun).admission smallRack (deviceLease 3 3 50) true =
      .ok ([⟨.device, 3⟩], [⟨.rack, 7⟩, ⟨.device, 3⟩]) := by rfl
  have fresh : (afterCalls {} 1 smallRun).outcomes[(deviceLease 3 3 50).request]? = none := by rfl
  have issued : ((afterCalls {} 1 smallRun).acquire smallRack (deviceLease 3 3 50) 1 21 true).2 =
      .ok (issuedGrant smallRack (deviceLease 3 3 50) 1 21 71 3 [⟨.device, 3⟩] [⟨.rack, 7⟩, ⟨.device, 3⟩]) :=
    congrArg Prod.snd (acquire_issues rfl rfl fresh admitted rfl)
  refine ⟨_, issued, by decide, by rfl, ?_⟩
  exact issue_never_oversubscribes smallRun_counts (by decide +kernel) fresh issued _ (by decide)

end GrantRegistry

end RackFabric
