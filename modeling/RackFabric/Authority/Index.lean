import Mathlib.Data.List.Nodup
import RackFabric.Authority.Accounts

/-!
The exclusivity index: it seats every grant at exactly the resources of its footprint.
-/

namespace RackFabric

open Foundation

def Grant.awaited (grant : Grant) : Nat :=
  if grant.state = .recovering then 1 else 0

namespace GrantRegistry

/-- Grants stand under their identity, live ones alone have a footprint, and the index follows from the footprints. -/
structure Indexed (registry : GrantRegistry) : Prop where
  keyed : registry.Keyed
  footprints : ∀ (id : UInt64) (scope : List ResourceRef), registry.footprints[id]? = some scope →
    scope.Nodup ∧ ∃ grant : Grant, registry.grants[id]? = some grant ∧ grant.isLive = true
  index : ∀ ref id, seatsAt id registry.occupancy ref = (registry.footprints.getD id []).count ref
  modes : ∀ ref occupant, occupant ∈ registry.occupancy.getD ref [] →
    ∃ grant : Grant, registry.grants[occupant.id]? = some grant ∧ grant.mode = occupant.mode
  entries : registry.occupancyEntries = tally List.length registry.footprints

theorem attach_eq (registry : GrantRegistry) (snapshot : Snapshot) (grant : Grant) :
    registry.attach snapshot grant =
      { registry with
        footprints := match expandScope snapshot grant.scope with
          | .error _ => registry.footprints
          | .ok scope => registry.footprints.insert grant.id scope
        occupancy := match expandScope snapshot grant.scope with
          | .error _ => registry.occupancy
          | .ok scope => scope.foldl (seat ⟨grant.id, grant.mode⟩) registry.occupancy
        occupancyEntries := match expandScope snapshot grant.scope with
          | .error _ => registry.occupancyEntries
          | .ok scope => registry.occupancyEntries + scope.length
        committed := grant.capacityPool.foldl (charge grant.capacity) registry.committed
        committedTotal := saturatingAdd registry.committedTotal grant.capacity } := by
  unfold attach
  cases expandScope snapshot grant.scope with
  | error status =>
    dsimp only
    rw [foldl_commit]
  | ok scope =>
    dsimp only
    rw [foldl_commit, foldl_occupy]

theorem detach_eq {registry : GrantRegistry} (indexed : registry.Indexed) (grant : Grant) :
    registry.detach grant =
      { registry with
        footprints := registry.footprints.erase grant.id
        occupancy := (registry.footprints.getD grant.id []).foldl (unseat grant.id) registry.occupancy
        occupancyEntries := registry.occupancyEntries - (registry.footprints.getD grant.id []).length
        committed := grant.capacityPool.foldl (refund grant.capacity) registry.committed
        committedTotal := (checkedSubU64 registry.committedTotal grant.capacity).getD 0 } := by
  unfold detach
  rw [Std.ExtTreeMap.getD_eq_getD_getElem?]
  cases found : registry.footprints[grant.id]? with
  | none =>
    dsimp only [Option.getD_none, List.foldl_nil, List.length_nil, Nat.sub_zero]
    rw [foldl_uncommit, erase_of_absent found]
  | some scope =>
    obtain ⟨distinct, -⟩ := indexed.footprints _ _ found
    have seats : (scope.map (seatsAt grant.id registry.occupancy)).sum = scope.length := by
      have ones : scope.map (seatsAt grant.id registry.occupancy) = scope.map (fun _ => 1) := by
        apply List.map_congr_left
        intro ref member
        rw [indexed.index, Std.ExtTreeMap.getD_eq_getD_getElem?, found, Option.getD_some]
        exact List.count_eq_one_of_mem distinct member
      rw [ones]
      simp
    dsimp only [Option.getD_some]
    rw [foldl_uncommit, foldl_vacate distinct, seats]

theorem Indexed.staleFootprints {registry : GrantRegistry} (indexed : registry.Indexed) :
    registry.staleFootprints = [] := by
  unfold GrantRegistry.staleFootprints
  apply List.filter_eq_nil_iff.mpr
  intro id member
  rw [Std.ExtTreeMap.mem_keys, Std.ExtTreeMap.mem_iff_isSome_getElem?] at member
  obtain ⟨scope, found⟩ := Option.isSome_iff_exists.mp member
  obtain ⟨-, grant, held, live⟩ := indexed.footprints id scope found
  simp [held, live]

/-- There is nothing to prune from an index in order. -/
theorem Indexed.prune_eq {registry : GrantRegistry} (indexed : registry.Indexed) :
    registry.prune = some (registry, 0) := by
  rw [GrantRegistry.prune, indexed.staleFootprints]
  rfl

/-- Takes up a live grant: indexed, charged and counted. -/
def enroll (registry : GrantRegistry) (snapshot : Snapshot) (grant : Grant) : GrantRegistry :=
  { registry.attach snapshot grant with
    grants := registry.grants.insert grant.id grant
    live := registry.live + 1
    recovering := registry.recovering + grant.awaited }

/-- No live grant has the identity. -/
def Vacant (registry : GrantRegistry) (id : UInt64) : Prop :=
  ∀ grant : Grant, registry.grants[id]? = some grant → grant.isLive = false

theorem vacant_of_absent {registry : GrantRegistry} {id : UInt64} (fresh : id ∉ registry.grants) :
    registry.Vacant id := by
  intro grant found
  exact absurd (Std.ExtTreeMap.mem_iff_isSome_getElem?.mpr (by simp [found])) fresh

theorem Indexed.unindexed {registry : GrantRegistry} (indexed : registry.Indexed) {id : UInt64}
    (vacant : registry.Vacant id) : registry.footprints[id]? = none := by
  cases found : registry.footprints[id]? with
  | none => rfl
  | some scope =>
    obtain ⟨-, grant, held, live⟩ := indexed.footprints _ _ found
    rw [vacant grant held] at live
    cases live

theorem Indexed.enroll {registry : GrantRegistry} (indexed : registry.Indexed) (snapshot : Snapshot)
    {grant : Grant} (vacant : registry.Vacant grant.id) (live : grant.isLive = true) :
    (registry.enroll snapshot grant).Indexed := by
  have unindexed := indexed.unindexed vacant
  have unfooted : registry.footprints.getD grant.id [] = [] := by
    rw [Std.ExtTreeMap.getD_eq_getD_getElem?, unindexed, Option.getD_none]
  have absent : grant.id ∉ registry.footprints := fun member => by
    rw [Std.ExtTreeMap.mem_iff_isSome_getElem?, unindexed] at member
    cases member
  have unseated : ∀ ref, seatsAt grant.id registry.occupancy ref = 0 := by
    intro ref
    rw [indexed.index, unfooted, List.count_nil]
  unfold GrantRegistry.enroll
  rw [attach_eq]
  refine ⟨?_, ?_, ?_, ?_, ?_⟩
  · exact (rewrites_of_insert rfl).keyed rfl indexed.keyed
  · intro id scope found
    cases expanded : expandScope snapshot grant.scope with
    | error status =>
      rw [expanded] at found
      obtain ⟨distinct, holder, held, holds⟩ := indexed.footprints id scope found
      have other : grant.id ≠ id := fun same => by rw [← same, unindexed] at found; cases found
      exact ⟨distinct, holder, by simp [Std.ExtTreeMap.getElem?_insert, other, held], holds⟩
    | ok own =>
      simp only [expanded, Std.ExtTreeMap.getElem?_insert, Std.LawfulEqCmp.compare_eq_iff_eq] at found ⊢
      by_cases same : grant.id = id
      · rw [if_pos same] at found ⊢
        cases found
        exact ⟨expandScope_nodup expanded, grant, rfl, live⟩
      · rw [if_neg same] at found ⊢
        exact indexed.footprints id scope found
  · intro ref id
    cases expanded : expandScope snapshot grant.scope with
    | error status => exact indexed.index ref id
    | ok own =>
      have distinct := expandScope_nodup expanded
      have seated := (seat_fold distinct ⟨grant.id, grant.mode⟩ registry.occupancy ref).countP_eq
        (fun occupant => occupant.id == id)
      dsimp only
      rw [seatsAt, seated, Std.ExtTreeMap.getD_insert]
      simp only [Std.LawfulEqCmp.compare_eq_iff_eq]
      by_cases same : grant.id = id
      · subst same
        have before := unseated ref
        rw [seatsAt] at before
        by_cases member : ref ∈ own
        · simp [member, before, List.count_eq_one_of_mem distinct member]
        · simp [member, before, List.count_eq_zero_of_not_mem member]
      · have before := indexed.index ref id
        rw [seatsAt] at before
        rw [if_neg same, ← before]
        split
        · simp [same]
        · rfl
  · intro ref occupant member
    have kept : ∀ occupant : Occupant, occupant ∈ registry.occupancy.getD ref [] →
        ∃ holder : Grant, (registry.grants.insert grant.id grant)[occupant.id]? = some holder ∧
          holder.mode = occupant.mode := by
      intro occupant member
      obtain ⟨holder, held, mode⟩ := indexed.modes ref occupant member
      have other : grant.id ≠ occupant.id := by
        intro same
        have seated : 0 < seatsAt grant.id registry.occupancy ref :=
          List.countP_pos_iff.mpr ⟨occupant, member, beq_iff_eq.mpr same.symm⟩
        rw [unseated ref] at seated
        exact Nat.lt_irrefl 0 seated
      exact ⟨holder, by simp [Std.ExtTreeMap.getElem?_insert, other, held], mode⟩
    cases expanded : expandScope snapshot grant.scope with
    | error status =>
      rw [expanded] at member
      exact kept occupant member
    | ok own =>
      rw [expanded] at member
      have seated := (seat_fold (expandScope_nodup expanded) ⟨grant.id, grant.mode⟩ registry.occupancy ref).mem_iff.mp
        member
      split at seated
      · rcases List.mem_cons.mp seated with rfl | old
        · exact ⟨grant, by simp, rfl⟩
        · exact kept occupant old
      · exact kept occupant seated
  · cases expanded : expandScope snapshot grant.scope with
    | error status => exact indexed.entries
    | ok own =>
      dsimp only
      rw [tally_insert_new absent, indexed.entries]

/-- A grant that takes the place of another in the table: what is booked for it stays booked. -/
theorem Indexed.modes_insert {registry : GrantRegistry} (indexed : registry.Indexed) {grant next : Grant}
    (held : registry.grants[grant.id]? = some grant) (mode : next.mode = grant.mode) {ref : ResourceRef}
    {occupant : Occupant} (member : occupant ∈ registry.occupancy.getD ref []) :
    ∃ holder : Grant, (registry.grants.insert grant.id next)[occupant.id]? = some holder ∧
      holder.mode = occupant.mode := by
  obtain ⟨holder, found, same⟩ := indexed.modes ref occupant member
  rw [Std.ExtTreeMap.getElem?_insert]
  simp only [Std.LawfulEqCmp.compare_eq_iff_eq]
  by_cases own : grant.id = occupant.id
  · rw [← own, held] at found
    cases found
    exact ⟨next, by rw [if_pos own], mode.trans same⟩
  · exact ⟨holder, by rw [if_neg own, found], same⟩

/-- Ending a live grant takes it out of the index. -/
theorem Indexed.endGrant {registry : GrantRegistry} (indexed : registry.Indexed) {grant : Grant}
    {state : GrantState} (held : registry.grants[grant.id]? = some grant) (reason : Text) :
    (registry.endGrant grant state reason).Indexed := by
  have keyed := (endGrant_rewrites registry grant state reason).keyed rfl indexed.keyed
  unfold GrantRegistry.endGrant at keyed ⊢
  rw [detach_eq indexed] at keyed ⊢
  generalize footed : registry.footprints.getD grant.id [] = scope at keyed ⊢
  have entry : ∀ id, id ≠ grant.id →
      (registry.footprints.erase grant.id).getD id [] = registry.footprints.getD id [] := by
    intro id other
    rw [Std.ExtTreeMap.getD_erase]
    simp [Ne.symm other]
  refine ⟨keyed, ?_, ?_, ?_, ?_⟩
  · intro id scope found
    rw [Std.ExtTreeMap.getElem?_erase] at found
    simp only [Std.LawfulEqCmp.compare_eq_iff_eq] at found
    split at found
    · cases found
    · rename_i other
      obtain ⟨distinct, holder, stands, holds⟩ := indexed.footprints id scope found
      exact ⟨distinct, holder, by simp [Std.ExtTreeMap.getElem?_insert, other, stands], holds⟩
  · intro ref id
    have before := indexed.index ref id
    dsimp only
    rw [seatsAt] at before ⊢
    rw [unseat_fold]
    by_cases same : id = grant.id
    · subst same
      rw [footed] at before
      rw [Std.ExtTreeMap.getD_erase_self, List.count_nil]
      split
      · rw [List.countP_filter]
        simp
      · rename_i outside
        rw [before, List.count_eq_zero_of_not_mem outside]
    · rw [entry id same, ← before]
      split
      · rw [List.countP_filter]
        apply List.countP_congr
        intro occupant _
        simp only [Bool.and_eq_true, beq_iff_eq, bne_iff_ne, ne_eq, and_iff_left_iff_imp]
        rintro rfl
        exact same
      · rfl
  · intro ref occupant member
    dsimp only at member
    rw [unseat_fold] at member
    have before : occupant ∈ registry.occupancy.getD ref [] := by
      split at member
      · exact (List.mem_filter.mp member).1
      · exact member
    exact indexed.modes_insert held (show (grant.mark state reason).mode = grant.mode from rfl) before
  · have erased := tally_erase List.length registry.footprints grant.id
    have length : (registry.footprints[grant.id]?).elim 0 List.length = scope.length := by
      rw [← footed, Std.ExtTreeMap.getD_eq_getD_getElem?]
      cases registry.footprints[grant.id]? <;> rfl
    dsimp only
    rw [indexed.entries]
    omega

/-- A grant rewritten in place: neither what is booked for it nor whether it lives changes. -/
structure Amends (grant next : Grant) : Prop where
  terms : next.terms = grant.terms
  isLive : next.isLive = grant.isLive
  ended : isTerminalState grant.state = true → isTerminalState next.state = true

theorem Amends.id {grant next : Grant} (amends : Amends grant next) : next.id = grant.id := by
  have same := congrArg Grant.id amends.terms
  exact same

theorem Amends.mode {grant next : Grant} (amends : Amends grant next) : next.mode = grant.mode := by
  have same := congrArg Grant.mode amends.terms
  exact same

theorem Amends.capacity {grant next : Grant} (amends : Amends grant next) : next.capacity = grant.capacity := by
  have same := congrArg Grant.capacity amends.terms
  exact same

theorem Amends.capacityPool {grant next : Grant} (amends : Amends grant next) :
    next.capacityPool = grant.capacityPool := by
  have same := congrArg Grant.capacityPool amends.terms
  exact same

theorem Indexed.amend {registry : GrantRegistry} (indexed : registry.Indexed) {grant next : Grant}
    (held : registry.grants[grant.id]? = some grant) (amends : Amends grant next) :
    ({ registry with
      grants := registry.grants.insert grant.id next
      recovering := registry.recovering + next.awaited - grant.awaited } : GrantRegistry).Indexed := by
  refine ⟨?_, ?_, indexed.index, ?_, indexed.entries⟩
  · exact (rewrites_of_insert rfl).keyed amends.id indexed.keyed
  · intro id scope found
    obtain ⟨distinct, holder, stands, holds⟩ := indexed.footprints id scope found
    refine ⟨distinct, ?_⟩
    rw [Std.ExtTreeMap.getElem?_insert]
    simp only [Std.LawfulEqCmp.compare_eq_iff_eq]
    by_cases own : grant.id = id
    · rw [← own, held] at stands
      cases stands
      exact ⟨next, by rw [if_pos own], amends.isLive.trans holds⟩
    · exact ⟨holder, by rw [if_neg own, stands], holds⟩
  · intro ref occupant member
    exact indexed.modes_insert held amends.mode member

/-- A grant that ended before it was installed is not indexed. -/
theorem Indexed.record {registry : GrantRegistry} (indexed : registry.Indexed) {grant : Grant}
    (fresh : grant.id ∉ registry.grants) :
    ({ registry with grants := registry.grants.insert grant.id grant } : GrantRegistry).Indexed := by
  have kept : ∀ (id : UInt64) (holder : Grant), registry.grants[id]? = some holder →
      (registry.grants.insert grant.id grant)[id]? = some holder := by
    intro id holder found
    have other : grant.id ≠ id := fun own =>
      fresh (Std.ExtTreeMap.mem_iff_isSome_getElem?.mpr (by rw [own, found]; rfl))
    simp [Std.ExtTreeMap.getElem?_insert, other, found]
  refine ⟨?_, ?_, indexed.index, ?_, indexed.entries⟩
  · exact (rewrites_of_insert rfl).keyed rfl indexed.keyed
  · intro id scope found
    obtain ⟨distinct, holder, stands, holds⟩ := indexed.footprints id scope found
    exact ⟨distinct, holder, kept id holder stands, holds⟩
  · intro ref occupant member
    obtain ⟨holder, stands, mode⟩ := indexed.modes ref occupant member
    exact ⟨holder, kept occupant.id holder stands, mode⟩

end GrantRegistry

end RackFabric
