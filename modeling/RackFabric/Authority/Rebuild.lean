import Mathlib.Data.List.Induction
import RackFabric.Authority.Calls
import RackFabric.Persist.Store

/-!
The registry a start rebuilds from log records: the first commit of every grant is installed, up to the live
bound, and the ends that were logged are applied afterwards.
-/

namespace RackFabric

namespace GrantRegistry

theorem reinstate_rewrites (registry : GrantRegistry) (snapshot : Snapshot) (grant : Grant) :
    Rewrites registry (registry.reinstate snapshot grant) grant.id grant := by
  apply rewrites_of_insert
  rw [← (attach_sameBooks registry snapshot grant).grants]
  rfl

theorem installRecovered_keyed {registry : GrantRegistry} (keyed : registry.Keyed) (snapshot : Snapshot)
    (grant : Grant) : (registry.installRecovered snapshot grant).1.Keyed := by
  unfold installRecovered
  split
  · exact keyed
  split
  · exact keyed
  split
  · exact keyed
  split
  · exact keyed
  split
  · have rewrites : Rewrites registry { registry.raiseFence grant.fence with
        grants := registry.grants.insert grant.id (lostGrant grant) } grant.id (lostGrant grant) :=
      rewrites_of_insert rfl
    exact rewrites.keyed rfl keyed
  · exact (reinstate_rewrites (registry.raiseFence grant.fence) snapshot _).keyed rfl keyed

end GrantRegistry

/-- Whether a state record ends a grant. -/
def GrantStateRecord.ends (body : GrantStateRecord) (id : UInt64) : Prop :=
  body.id = id ∧ isTerminalState body.state = true

instance (body : GrantStateRecord) (id : UInt64) : Decidable (body.ends id) :=
  inferInstanceAs (Decidable (_ ∧ _))

def Grant.applyEnd (grant : Grant) (body : GrantStateRecord) : Grant :=
  if body.ends grant.id then grant.mark body.state body.reason else grant

/-- A grant after the ends that were logged. -/
def Grant.afterEnds (states : List GrantStateRecord) (grant : Grant) : Grant :=
  states.foldl Grant.applyEnd grant

/-- Either nothing ended the grant and it stands as it was, or the last end decides its state. -/
theorem Grant.afterEnds_cases (states : List GrantStateRecord) (grant : Grant) :
    ((∀ body ∈ states, ¬ body.ends grant.id) ∧ grant.afterEnds states = grant) ∨
      ∃ body ∈ states, body.ends grant.id ∧ grant.afterEnds states = grant.mark body.state body.reason := by
  induction states using List.reverseRecOn with
  | nil => exact .inl ⟨by simp, rfl⟩
  | append_singleton states last ih =>
    have folded : grant.afterEnds (states ++ [last]) = (grant.afterEnds states).applyEnd last := by
      simp [afterEnds]
    have same : (grant.afterEnds states).id = grant.id := by
      rcases ih with ⟨-, stands⟩ | ⟨body, -, -, marked⟩
      · rw [stands]
      · rw [marked]
        rfl
    rw [folded, applyEnd, same]
    by_cases ended : last.ends grant.id
    · right
      refine ⟨last, by simp, ended, ?_⟩
      rw [if_pos ended]
      rcases ih with ⟨-, stands⟩ | ⟨body, -, -, marked⟩
      · rw [stands]
      · rw [marked]
        rfl
    · rw [if_neg ended]
      rcases ih with ⟨open_, stands⟩ | ⟨body, member, ends, marked⟩
      · left
        refine ⟨?_, stands⟩
        intro body member
        rcases List.mem_append.mp member with member | member
        · exact open_ body member
        · rw [List.mem_singleton] at member
          rwa [member]
      · exact .inr ⟨body, by simp [member], ends, marked⟩

namespace GrantRegistry

theorem applyState_swept {registry : GrantRegistry} (keyed : registry.Keyed) (body : GrantStateRecord) :
    Swept (fun grant => grant.applyEnd body) registry
      (registry.applyState body.id body.state body.reason).1 := by
  have others : ∀ next : GrantRegistry, Around registry next → ∀ grant, registry.grants[body.id]? = some grant →
      isTerminalState body.state = true →
      Rewrites registry next body.id (grant.mark body.state body.reason) →
      Swept (fun grant => grant.applyEnd body) registry next := by
    intro next around grant found terminal rewrites
    have own := keyed body.id grant found
    refine ⟨around, rewrites.keyed own keyed, ?_⟩
    intro id
    rw [rewrites id]
    split
    · rename_i same
      rw [same, found, Option.map_some, Grant.applyEnd, if_pos ⟨own.symm, terminal⟩]
    · rename_i different
      cases entry : registry.grants[id]? with
      | none => rfl
      | some other =>
        have named := keyed id other entry
        rw [Option.map_some, Grant.applyEnd, if_neg]
        rintro ⟨same, -⟩
        exact different (named.symm.trans same.symm)
  have same : (∀ grant, registry.grants[body.id]? = some grant → isTerminalState body.state = false) →
      Swept (fun grant => grant.applyEnd body) registry registry := by
    intro skipped
    refine ⟨.refl registry, keyed, ?_⟩
    intro id
    cases entry : registry.grants[id]? with
    | none => rfl
    | some grant =>
      rw [Option.map_some, Grant.applyEnd, if_neg]
      rintro ⟨named, terminal⟩
      have own : body.id = id := named.trans (keyed id grant entry)
      rw [skipped grant (own ▸ entry)] at terminal
      cases terminal
  unfold applyState
  split
  · rename_i absent
    exact same (fun grant found => by rw [absent] at found; cases found)
  · rename_i grant found
    split
    · rename_i terminal
      split
      · apply others _ (endGrant_around registry grant _ _) grant found terminal
        have rewrites := endGrant_rewrites registry grant body.state body.reason
        rwa [keyed body.id grant found] at rewrites
      · exact others _ ⟨rfl, rfl, rfl, rfl⟩ grant found terminal (rewrites_of_insert rfl)
    · rename_i open_
      exact same (fun _ _ => by simpa using open_)

theorem foldl_applyState_swept {registry : GrantRegistry} (keyed : registry.Keyed)
    (states : List GrantStateRecord) :
    Swept (Grant.afterEnds states) registry
      (states.foldl (fun registry body => (registry.applyState body.id body.state body.reason).1) registry) := by
  induction states generalizing registry with
  | nil => exact .refl keyed
  | cons body rest ih =>
    have first := applyState_swept keyed body
    exact first.trans (ih first.keyed)

end GrantRegistry

end RackFabric
