import RackFabric.Authority.Index

/-!
Balanced books: every account of the registry is what its table of grants says it is.
-/

namespace RackFabric

open Foundation

namespace Grant

/-- What a live grant takes from one pool. -/
def demand (ref : ResourceRef) (grant : Grant) : Nat :=
  if grant.isLive then grant.capacity.toNat * grant.capacityPool.count ref else 0

def drawn (grant : Grant) : Nat :=
  if grant.isLive then grant.capacity.toNat else 0

def counted (grant : Grant) : Nat :=
  if grant.isLive then 1 else 0

end Grant

namespace GrantRegistry

/-- The books are balanced: pools, counters and the index follow from the grants and their footprints. -/
structure Balanced (registry : GrantRegistry) : Prop extends registry.Indexed where
  committed : ∀ ref, (registry.committed.getD ref 0).toNat = tally (Grant.demand ref) registry.grants
  committedTotal : registry.committedTotal.toNat = tally Grant.drawn registry.grants
  live : registry.live = tally Grant.counted registry.grants
  recovering : registry.recovering = tally Grant.awaited registry.grants

/-- The capacity sums fit their counters. -/
structure WithinRange (grants : Std.ExtTreeMap UInt64 Grant) : Prop where
  demand : ∀ ref, tally (Grant.demand ref) grants < 2 ^ 64
  drawn : tally Grant.drawn grants < 2 ^ 64

theorem Balanced.enroll {registry : GrantRegistry} (balanced : registry.Balanced) (snapshot : Snapshot)
    {grant : Grant} (fresh : grant.id ∉ registry.grants) (live : grant.isLive = true)
    (within : WithinRange (registry.grants.insert grant.id grant)) : (registry.enroll snapshot grant).Balanced := by
  have indexed := balanced.toIndexed.enroll snapshot (vacant_of_absent fresh) live
  unfold GrantRegistry.enroll at indexed ⊢
  rw [attach_eq] at indexed ⊢
  refine ⟨indexed, ?_, ?_, ?_, ?_⟩
  · intro ref
    have total := within.demand ref
    rw [tally_insert_new fresh, Grant.demand, if_pos live] at total ⊢
    rw [← balanced.committed ref] at total ⊢
    exact charge_fold grant.capacity grant.capacityPool registry.committed ref total
  · have total := within.drawn
    rw [tally_insert_new fresh, Grant.drawn, if_pos live] at total ⊢
    rw [← balanced.committedTotal] at total ⊢
    exact saturatingAdd_toNat total
  · simp only [tally_insert_new fresh, Grant.counted, live, if_true, balanced.live]
  · simp only [tally_insert_new fresh, balanced.recovering]

/-- Ending a live grant returns what it took. -/
theorem Balanced.endGrant {registry : GrantRegistry} (balanced : registry.Balanced) {grant : Grant}
    {state : GrantState} (held : registry.grants[grant.id]? = some grant) (live : grant.isLive = true)
    (dead : isLiveState state = false) (reason : Text) : (registry.endGrant grant state reason).Balanced := by
  have replaced : ∀ weight : Grant → Nat, weight (grant.mark state reason) = 0 →
      tally weight (registry.grants.insert grant.id (grant.mark state reason)) =
        tally weight registry.grants - weight grant := by
    intro weight zero
    have written := tally_insert weight registry.grants grant.id (grant.mark state reason)
    rw [held, Option.elim_some, zero] at written
    omega
  have ended : (grant.mark state reason).isLive = false := dead
  have indexed : (registry.endGrant grant state reason).Indexed := balanced.toIndexed.endGrant held reason
  unfold GrantRegistry.endGrant at indexed ⊢
  rw [detach_eq balanced.toIndexed] at indexed ⊢
  refine ⟨indexed, ?_, ?_, ?_, ?_⟩
  · intro ref
    have share := weight_le_tally (Grant.demand ref) held
    rw [← balanced.committed ref, Grant.demand, if_pos live] at share
    have returned := refund_fold grant.capacity grant.capacityPool registry.committed ref share
    have left := replaced (Grant.demand ref) (by simp [Grant.demand, ended])
    rw [← balanced.committed ref, Grant.demand, if_pos live] at left
    exact returned.trans left.symm
  · have share := weight_le_tally Grant.drawn held
    rw [← balanced.committedTotal, Grant.drawn, if_pos live] at share
    have left := replaced Grant.drawn (by simp [Grant.drawn, ended])
    rw [← balanced.committedTotal, Grant.drawn, if_pos live] at left
    have within : ¬grant.capacity > registry.committedTotal := by
      rw [gt_iff_lt, UInt64.lt_iff_toNat_lt]
      omega
    have difference : (registry.committedTotal - grant.capacity).toNat = _ :=
      UInt64.toNat_sub_of_le registry.committedTotal grant.capacity (UInt64.le_iff_toNat_le.mpr share)
    dsimp only
    rw [checkedSubU64, if_neg within, Option.getD_some, difference]
    exact left.symm
  · have left := replaced Grant.counted (by simp [Grant.counted, ended])
    rw [← balanced.live, Grant.counted, if_pos live] at left
    exact left.symm
  · have stopped : (grant.mark state reason).awaited = 0 := by
      have other : state ≠ .recovering := fun same => by rw [same] at dead; cases dead
      simp [Grant.awaited, Grant.mark, other]
    have left := replaced Grant.awaited stopped
    rw [← balanced.recovering, Grant.awaited] at left
    dsimp only
    refine Eq.trans ?_ left.symm
    split <;> simp

theorem Balanced.amend {registry : GrantRegistry} (balanced : registry.Balanced) {grant next : Grant}
    (held : registry.grants[grant.id]? = some grant) (amends : Amends grant next) :
    ({ registry with
      grants := registry.grants.insert grant.id next
      recovering := registry.recovering + next.awaited - grant.awaited } : GrantRegistry).Balanced := by
  have same : ∀ weight : Grant → Nat, weight next = weight grant →
      tally weight (registry.grants.insert grant.id next) = tally weight registry.grants := by
    intro weight equal
    have written := tally_insert weight registry.grants grant.id next
    rw [held, Option.elim_some, equal] at written
    omega
  refine ⟨balanced.toIndexed.amend held amends, ?_, ?_, ?_, ?_⟩
  · intro ref
    rw [same _ (by simp only [Grant.demand, amends.isLive, amends.capacity, amends.capacityPool])]
    exact balanced.committed ref
  · rw [same _ (by simp only [Grant.drawn, amends.isLive, amends.capacity])]
    exact balanced.committedTotal
  · rw [same _ (by simp only [Grant.counted, amends.isLive])]
    exact balanced.live
  · have written := tally_insert Grant.awaited registry.grants grant.id next
    have share := weight_le_tally Grant.awaited held
    rw [held, Option.elim_some] at written
    dsimp only
    rw [balanced.recovering]
    omega

/-- A grant that ended before it was installed is only written down. -/
theorem Balanced.record {registry : GrantRegistry} (balanced : registry.Balanced) {grant : Grant}
    (fresh : grant.id ∉ registry.grants) (dead : grant.isLive = false) :
    ({ registry with grants := registry.grants.insert grant.id grant } : GrantRegistry).Balanced := by
  have same : ∀ weight : Grant → Nat, weight grant = 0 →
      tally weight (registry.grants.insert grant.id grant) = tally weight registry.grants := by
    intro weight zero
    rw [tally_insert_new fresh, zero, Nat.add_zero]
  refine ⟨balanced.toIndexed.record fresh, ?_, ?_, ?_, ?_⟩
  · intro ref
    rw [same _ (by simp [Grant.demand, dead])]
    exact balanced.committed ref
  · rw [same _ (by simp [Grant.drawn, dead])]
    exact balanced.committedTotal
  · rw [same _ (by simp [Grant.counted, dead])]
    exact balanced.live
  · have idle : grant.awaited = 0 := by
      have other : grant.state ≠ .recovering := fun recovering => by
        rw [Grant.isLive, recovering] at dead
        cases dead
      simp [Grant.awaited, other]
    rw [same _ idle]
    exact balanced.recovering

end GrantRegistry

end RackFabric
