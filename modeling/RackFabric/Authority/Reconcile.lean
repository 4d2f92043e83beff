import RackFabric.Authority.Bookkeeping

/-!
The books of the registry checked against its grants, for every sequence of calls.
-/

namespace RackFabric

open Foundation

namespace GrantRegistry

def storedGrants (registry : GrantRegistry) : List Grant :=
  registry.grants.toList.map Prod.snd

def liveGrants (registry : GrantRegistry) : List Grant :=
  registry.storedGrants.filter Grant.isLive

/-- The pairs of a resource and the grant that has it in its footprint. -/
def footprintPairs (registry : GrantRegistry) : List (ResourceRef × UInt64) :=
  registry.footprints.toList.flatMap fun entry => entry.2.map fun ref => (ref, entry.1)

/-- The pairs of a resource and a grant that the exclusivity index seats there. -/
def seatedAt (registry : GrantRegistry) (ref : ResourceRef) : List UInt64 :=
  (registry.occupancy.getD ref []).map Occupant.id

/-- Every account of the registry agrees with its table of grants. -/
structure Reconciled (registry : GrantRegistry) : Prop where
  committed : ∀ ref, (registry.committed.getD ref 0).toNat =
    (registry.liveGrants.map fun grant => grant.capacity.toNat * grant.capacityPool.count ref).sum
  committedTotal : registry.committedTotal.toNat = (registry.liveGrants.map fun grant => grant.capacity.toNat).sum
  live : registry.live = registry.liveGrants.length
  recovering : registry.recovering = (registry.storedGrants.filter fun grant => grant.state == .recovering).length
  footprints : ∀ (id : UInt64) (scope : List ResourceRef), registry.footprints[id]? = some scope →
    ∃ grant : Grant, registry.grants[id]? = some grant ∧ grant.isLive = true
  pairs : registry.footprintPairs.Nodup
  index : ∀ ref id, id ∈ registry.seatedAt ref ↔ (ref, id) ∈ registry.footprintPairs
  seats : ∀ ref, (registry.seatedAt ref).Nodup
  entries : registry.occupancyEntries = registry.footprintPairs.length
  prune : registry.prune = some (registry, 0)

theorem mem_footprintPairs {registry : GrantRegistry} {ref : ResourceRef} {id : UInt64} :
    (ref, id) ∈ registry.footprintPairs ↔ ref ∈ registry.footprints.getD id [] := by
  rw [footprintPairs, List.mem_flatMap, Std.ExtTreeMap.getD_eq_getD_getElem?]
  constructor
  · rintro ⟨⟨other, scope⟩, entry, member⟩
    rw [Std.ExtTreeMap.mem_toList_iff_getElem?_eq_some] at entry
    obtain ⟨own, inside, same⟩ := List.mem_map.mp member
    cases same
    rw [entry]
    exact inside
  · intro member
    cases found : registry.footprints[id]? with
    | none =>
      rw [found] at member
      cases member
    | some scope =>
      rw [found] at member
      exact ⟨(id, scope), Std.ExtTreeMap.mem_toList_iff_getElem?_eq_some.mpr found, List.mem_map_of_mem member⟩

theorem Balanced.nodup_footprintPairs {registry : GrantRegistry} (balanced : registry.Balanced) :
    registry.footprintPairs.Nodup := by
  rw [footprintPairs, List.nodup_flatMap]
  constructor
  · rintro ⟨id, scope⟩ entry
    rw [Std.ExtTreeMap.mem_toList_iff_getElem?_eq_some] at entry
    refine (balanced.footprints id scope entry).1.map ?_
    intro a b same
    exact (Prod.mk.inj same).1
  · refine (Std.ExtTreeMap.distinct_keys_toList (t := registry.footprints)).imp ?_
    intro a b different pair first second
    obtain ⟨_, -, left⟩ := List.mem_map.mp first
    obtain ⟨_, -, right⟩ := List.mem_map.mp second
    have same : a.1 = b.1 := (congrArg Prod.snd left).trans (congrArg Prod.snd right).symm
    exact different (by simp [same])

theorem Balanced.count_seatedAt {registry : GrantRegistry} (balanced : registry.Balanced) (ref : ResourceRef)
    (id : UInt64) : (registry.seatedAt ref).count id = (registry.footprints.getD id []).count ref := by
  rw [← balanced.index ref id, seatedAt, List.count, List.countP_map]
  rfl

theorem Balanced.reconciled {registry : GrantRegistry} (balanced : registry.Balanced) : registry.Reconciled := by
  have length : ∀ chosen : Grant → Bool,
      tally (fun grant => if chosen grant then 1 else 0) registry.grants =
        (registry.storedGrants.filter chosen).length := by
    intro chosen
    rw [tally_filter chosen (fun _ => 1), storedGrants]
    simp
  refine ⟨?_, ?_, ?_, ?_, ?_, ?_, ?_, ?_, ?_, ?_⟩
  · intro ref
    rw [balanced.committed ref]
    exact tally_filter Grant.isLive _ registry.grants
  · rw [balanced.committedTotal]
    exact tally_filter Grant.isLive _ registry.grants
  · rw [balanced.live]
    exact length Grant.isLive
  · rw [balanced.recovering, ← length]
    simp only [beq_iff_eq]
    rfl
  · intro id scope found
    exact (balanced.footprints id scope found).2
  · exact balanced.nodup_footprintPairs
  · intro ref id
    rw [mem_footprintPairs, ← List.count_pos_iff, ← List.count_pos_iff, balanced.count_seatedAt]
  · intro ref
    rw [List.nodup_iff_count_le_one]
    intro id
    rw [balanced.count_seatedAt, Std.ExtTreeMap.getD_eq_getD_getElem?]
    cases found : registry.footprints[id]? with
    | none => simp
    | some scope => exact List.nodup_iff_count_le_one.mp (balanced.footprints id scope found).1 ref
  · rw [balanced.entries, footprintPairs, tally, List.length_flatMap]
    simp
  · exact balanced.toIndexed.prune_eq

/-- An acquire that answers with a grant it had not remembered has indexed the scope it was asked for. -/
theorem acquire_rooted {registry next : GrantRegistry} {snapshot : Snapshot} {request : GrantRequest}
    {incarnation nowMs : UInt64} {allowNew : Bool} {grant : Grant}
    (fresh : registry.outcomes[request.request]? = none)
    (acquired : registry.acquire snapshot request incarnation nowMs allowNew = (next, .ok grant)) :
    ∃ scope, expandScope snapshot grant.scope = .ok scope ∧ Rooted grant.id scope next := by
  generalize granted : (Except.ok grant : Result Grant) = result at acquired
  cases acquire_decides acquired with
  | refused => cases granted
  | replayed outcome remembered =>
    rw [fresh] at remembered
    cases remembered
  | turnedDown => cases granted
  | burned => cases granted
  | issued deadline expanded pool identified unknown checked =>
    cases granted
    have admitted := admission_ok checked
    refine ⟨expanded, admitted.expands, Rooted.aside ⟨mem_insert_grants.mpr (.inl rfl), ?_⟩
      (enlist_aside registry snapshot request rfl)⟩
    intro current found live
    have expands : expandScope snapshot (issuedGrant snapshot request incarnation nowMs deadline
        registry.takeFence.nextFence expanded pool).scope = .ok expanded := admitted.expands
    rw [enroll_footprints, expands]
    simp

/-- Whatever is called on a registry, its books are reconciled, and a live grant has the footprint it was issued
with. -/
theorem afterCalls_reconciled {limits : AuthorityLimits} {incarnation : UInt64} {calls : List RegistryCall}
    (counts : Along perform Counts { limits := limits, incarnation := incarnation } calls) :
    (afterCalls limits incarnation calls).Reconciled ∧
      ∀ (earlier later : List RegistryCall) (snapshot : Snapshot) (request : GrantRequest)
        (process nowMs : UInt64) (allowNew : Bool) (grant current : Grant),
        calls = earlier ++ .acquire snapshot request process nowMs allowNew :: later →
        (afterCalls limits incarnation earlier).outcomes[request.request]? = none →
        ((afterCalls limits incarnation earlier).acquire snapshot request process nowMs allowNew).2 = .ok grant →
        (afterCalls limits incarnation calls).grants[grant.id]? = some current → current.isLive = true →
        ∃ scope, expandScope snapshot grant.scope = .ok scope ∧
          (afterCalls limits incarnation calls).footprints[grant.id]? = some scope := by
  refine ⟨(inOrder_afterCalls counts).balanced.reconciled, ?_⟩
  intro earlier later snapshot request process nowMs allowNew grant current split fresh granted found live
  subst split
  obtain ⟨before, issue, rest⟩ := along_append.mp counts
  have ordered : (afterCalls limits incarnation earlier).InOrder := inOrder_afterCalls before
  obtain ⟨scope, expands, rooted⟩ := acquire_rooted fresh
    (Prod.ext rfl granted : (afterCalls limits incarnation earlier).acquire snapshot request process nowMs allowNew =
      (_, .ok grant))
  have final := @Along.invariant _ _ _ _ (fun registry => registry.InOrder ∧ Rooted grant.id scope registry) _ _ rest
    ⟨ordered.perform issue, rooted⟩
    (fun _ _ kept counts => ⟨kept.1.perform counts, kept.2.perform kept.1 counts⟩)
  have same : afterCalls limits incarnation
      (earlier ++ .acquire snapshot request process nowMs allowNew :: later) =
      run perform (((afterCalls limits incarnation earlier)).perform
        (.acquire snapshot request process nowMs allowNew)) later := by
    rw [afterCalls, run_append, run_cons]
    rfl
  rw [same] at found ⊢
  exact ⟨scope, expands, final.2.indexed current found live⟩

/-- What a grant can take from all of its pools together, and from the total. -/
def Grant.ceiling (grant : Grant) : Nat :=
  grant.capacity.toNat * (grant.capacityPool.length + 1)

theorem withinRange_of_ceiling {grants : Std.ExtTreeMap UInt64 Grant}
    (bound : tally Grant.ceiling grants < 2 ^ 64) : WithinRange grants := by
  constructor
  · intro ref
    refine Nat.lt_of_le_of_lt (tally_mono ?_ grants) bound
    intro grant
    have fewer : grant.capacityPool.count ref ≤ grant.capacityPool.length + 1 :=
      Nat.le_succ_of_le List.count_le_length
    unfold Grant.demand
    split
    · exact Nat.mul_le_mul_left _ fewer
    · exact Nat.zero_le _
  · refine Nat.lt_of_le_of_lt (tally_mono ?_ grants) bound
    intro grant
    unfold Grant.drawn
    split
    · exact Nat.le_mul_of_pos_right _ (Nat.succ_pos _)
    · exact Nat.zero_le _

/-- A rack with one device of capacity 10. -/
def smallRack : Snapshot where
  handle := some {
    rack := 7
    lifecycle := .active
    capacity := { uncommitted := 10 }
    devices := [{ id := 3, incarnation := 1 }]
    resources := [
      ⟨⟨.rack, 7⟩, .eligible, .up, true, 10, 0, false, []⟩,
      ⟨⟨.device, 3⟩, .eligible, .up, true, 10, 0, false, [⟨3, 1⟩]⟩] }

def deviceLease (request capacity ttlMs : UInt64) : GrantRequest where
  request := ⟨0, request⟩
  principal := 1
  scope := ⟨.device, 3⟩
  mode := .shared
  capacity := capacity
  ttlMs := ttlMs

/-- A lease of the device that is left to expire beside a second one. -/
def smallRun : List RegistryCall :=
  [.acquire smallRack (deviceLease 1 4 5) 1 0 true, .acquire smallRack (deviceLease 2 6 50) 1 2 true, .expireDue 20]

theorem smallRun_counts : Along perform Counts { incarnation := 1 } smallRun := by
  have small : ∀ {before : GrantRegistry} {call : RegistryCall},
      before.nextFence.toNat + before.fencesTaken call < 2 ^ 64 →
      (∀ snapshot grant, call ≠ .installRecovered snapshot grant) →
      tally Grant.ceiling (before.perform call).grants < 2 ^ 64 → Counts before call (before.perform call) := by
    intro before call fence issued bound
    exact ⟨fence, fun snapshot grant same => absurd same (issued snapshot grant), withinRange_of_ceiling bound⟩
  exact ⟨small (by decide +kernel) (by simp) (by decide +kernel), small (by decide +kernel) (by simp) (by decide +kernel),
    small (by decide +kernel) (by simp) (by decide +kernel), trivial⟩

theorem afterCalls_reconciled_small :
    (afterCalls {} 1 smallRun).liveGrants.map Grant.id = [2] ∧
      (afterCalls {} 1 smallRun).committed.getD ⟨.device, 3⟩ 0 = 6 ∧ (afterCalls {} 1 smallRun).Reconciled := by
  exact ⟨by rfl, by rfl, (afterCalls_reconciled smallRun_counts).1⟩

end GrantRegistry

end RackFabric
