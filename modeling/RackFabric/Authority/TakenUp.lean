import Mathlib.Data.List.Dedup
import RackFabric.Authority.Standing

/-!
The registry that installing commits leaves. Of every grant the first commit counts, and a commit of another grant is
left out only once the live bound is reached.
-/

namespace RackFabric

open Foundation

/-- A commit as a start takes it up. -/
def Grant.takenUp (snapshot : Snapshot) (commit : Grant) : Grant :=
  match GrantRegistry.recoveredPool snapshot commit with
  | .ok pool => GrantRegistry.recoveredGrant commit pool
  | .error _ => GrantRegistry.lostGrant commit

theorem Grant.takenUp_id (snapshot : Snapshot) (commit : Grant) : (commit.takenUp snapshot).id = commit.id := by
  unfold takenUp
  split <;> rfl

namespace GrantRegistry

/-- Every grant is the first commit of its identity, and a commit whose grant is not there met the live bound. -/
structure Takes (snapshot : Snapshot) (bound : Nat) (commits : List Grant) (registry : GrantRegistry) : Prop where
  limits : registry.limits.maxLiveGrants = bound
  entries : ∀ (id : UInt64) (grant : Grant), registry.grants[id]? = some grant →
    ∃ commit, commits.find? (fun commit => commit.id == id) = some commit ∧ grant = commit.takenUp snapshot
  full : ∀ commit ∈ commits, commit.id ≠ 0 → registry.grants.contains commit.id = true ∨ bound ≤ registry.live
  counted : ∃ ids : List UInt64, ids.Nodup ∧ registry.live ≤ ids.length ∧
    ∀ id ∈ ids, registry.grants.contains id = true

variable {snapshot : Snapshot} {bound : Nat} {commits : List Grant} {registry next : GrantRegistry} {grant : Grant}

theorem Takes.keyed (takes : Takes snapshot bound commits registry) : registry.Keyed := by
  intro id grant found
  obtain ⟨commit, first, rfl⟩ := takes.entries id grant found
  have own := List.find?_some first
  rw [Grant.takenUp_id]
  exact beq_iff_eq.mp own

theorem contains_of_rewrites {id : UInt64} (rewrites : Rewrites registry next id grant) {other : UInt64} :
    next.grants.contains other = true ↔ other = id ∨ registry.grants.contains other = true := by
  rw [← Std.ExtTreeMap.isSome_getElem?_eq_contains, ← Std.ExtTreeMap.isSome_getElem?_eq_contains, rewrites other]
  split
  · rename_i own
    simp [own]
  · rename_i different
    simp [different]

/-- A commit that changes nothing was known, or has no identity, or met the bound. -/
theorem Takes.refuse (takes : Takes snapshot bound commits registry)
    (refused : grant.id ≠ 0 → registry.grants.contains grant.id = true ∨ bound ≤ registry.live) :
    Takes snapshot bound (commits ++ [grant]) registry := by
  refine ⟨takes.limits, ?_, ?_, takes.counted⟩
  · intro id entry found
    obtain ⟨commit, first, same⟩ := takes.entries id entry found
    refine ⟨commit, ?_, same⟩
    rw [List.find?_append, first, Option.some_or]
  · intro commit member identified
    rcases List.mem_append.mp member with earlier | last
    · exact takes.full commit earlier identified
    · rw [List.mem_singleton] at last
      subst last
      exact refused identified

/-- A commit of a grant that is not there is taken up as long as there is room. -/
theorem Takes.add (takes : Takes snapshot bound commits registry) (identified : grant.id ≠ 0)
    (fresh : registry.grants.contains grant.id = false) (room : registry.live < bound)
    (rewrites : Rewrites registry next grant.id (grant.takenUp snapshot)) (limits : next.limits = registry.limits)
    (grows : registry.live ≤ next.live ∧ next.live ≤ registry.live + 1) :
    Takes snapshot bound (commits ++ [grant]) next := by
  refine ⟨by rw [limits, takes.limits], ?_, ?_, ?_⟩
  · intro id entry found
    rw [rewrites id] at found
    split at found
    · rename_i own
      cases found
      refine ⟨grant, ?_, rfl⟩
      have absent : commits.find? (fun commit => commit.id == id) = none := by
        rw [List.find?_eq_none]
        intro commit member same
        have named : commit.id = grant.id := (beq_iff_eq.mp same).trans own
        rcases takes.full commit member (named ▸ identified) with known | full
        · rw [named, fresh] at known
          cases known
        · omega
      rw [List.find?_append, absent, Option.none_or, List.find?_singleton, if_pos (beq_iff_eq.mpr own.symm)]
    · obtain ⟨commit, first, same⟩ := takes.entries id entry found
      refine ⟨commit, ?_, same⟩
      rw [List.find?_append, first, Option.some_or]
  · intro commit member named
    rw [contains_of_rewrites rewrites]
    rcases List.mem_append.mp member with earlier | last
    · rcases takes.full commit earlier named with known | full
      · exact .inl (.inr known)
      · exact .inr (Nat.le_trans full grows.1)
    · rw [List.mem_singleton] at last
      exact .inl (.inl (last ▸ rfl))
  · obtain ⟨ids, distinct, count, known⟩ := takes.counted
    refine ⟨grant.id :: ids, List.nodup_cons.mpr ⟨?_, distinct⟩, ?_, ?_⟩
    · intro member
      rw [known _ member] at fresh
      cases fresh
    · rw [List.length_cons]
      omega
    · intro id member
      rw [contains_of_rewrites rewrites]
      rcases List.mem_cons.mp member with own | earlier
      · exact .inl own
      · exact .inr (known id earlier)

theorem Takes.install (takes : Takes snapshot bound commits registry) (valid : snapshot.valid = true) (grant : Grant) :
    Takes snapshot bound (commits ++ [grant]) (registry.installRecovered snapshot grant).1 := by
  unfold installRecovered
  rw [valid, Bool.not_true, if_neg Bool.false_ne_true, takes.limits]
  split
  · rename_i unidentified
    exact takes.refuse fun identified => absurd (beq_iff_eq.mp unidentified) identified
  · rename_i identified
    rw [beq_iff_eq] at identified
    split
    · rename_i known
      exact takes.refuse fun _ => .inl known
    · rename_i fresh
      rw [Bool.not_eq_true] at fresh
      split
      · rename_i full
        exact takes.refuse fun _ => .inr full
      · rename_i room
        split
        · rename_i lost
          have taken : grant.takenUp snapshot = lostGrant grant := by rw [Grant.takenUp, lost]
          exact takes.add identified fresh (by omega) (taken ▸ rewrites_of_insert rfl) rfl
            ⟨Nat.le_refl _, Nat.le_succ _⟩
        · rename_i pool drawn
          have taken : grant.takenUp snapshot = recoveredGrant grant pool := by rw [Grant.takenUp, drawn]
          have books := attach_sameBooks (registry.raiseFence grant.fence) snapshot (recoveredGrant grant pool)
          have live : ((registry.raiseFence grant.fence).reinstate snapshot (recoveredGrant grant pool)).live =
              registry.live + 1 := congrArg (· + 1) books.live
          have rewrites : Rewrites registry
              ((registry.raiseFence grant.fence).reinstate snapshot (recoveredGrant grant pool)) grant.id
              (grant.takenUp snapshot) := by
            rw [taken]
            exact reinstate_rewrites (registry.raiseFence grant.fence) snapshot (recoveredGrant grant pool)
          refine takes.add identified fresh (by omega) rewrites books.limits ?_
          dsimp only
          omega

/-- Installing commits one after the other. -/
theorem foldl_install_takes (valid : snapshot.valid = true) (blank : Takes snapshot bound [] registry)
    (commits : List Grant) : Takes snapshot bound commits
      (commits.foldl (fun registry grant => (registry.installRecovered snapshot grant).1) registry) := by
  induction commits using List.reverseRecOn with
  | nil => exact blank
  | append_singleton earlier grant ih =>
    rw [List.foldl_append, List.foldl_cons, List.foldl_nil]
    exact ih.install valid grant

/-- With room for every identity nothing is left out. -/
theorem Takes.whole (takes : Takes snapshot bound commits registry)
    (room : (commits.map Grant.id).dedup.length ≤ bound) {commit : Grant} (member : commit ∈ commits)
    (identified : commit.id ≠ 0) : registry.grants.contains commit.id = true := by
  by_contra absent
  have full := (takes.full commit member identified).resolve_left absent
  obtain ⟨ids, distinct, count, known⟩ := takes.counted
  have outside : commit.id ∉ ids := fun inside => absent (known _ inside)
  have within : commit.id :: ids ⊆ (commits.map Grant.id).dedup := by
    intro id member'
    rw [List.mem_dedup]
    rcases List.mem_cons.mp member' with rfl | inside
    · exact List.mem_map_of_mem member
    · have held := known id inside
      rw [← Std.ExtTreeMap.isSome_getElem?_eq_contains] at held
      obtain ⟨grant, found⟩ := Option.isSome_iff_exists.mp held
      obtain ⟨source, first, -⟩ := takes.entries id grant found
      exact List.mem_map.mpr ⟨source, List.mem_of_find?_eq_some first, by simpa using List.find?_some first⟩
  have fewer := (List.subperm_of_subset (List.nodup_cons.mpr ⟨outside, distinct⟩) within).length_le
  rw [List.length_cons] at fewer
  omega

end GrantRegistry

end RackFabric
