import Mathlib.Logic.Relation
import RackFabric.Authority.Acquire
import RackFabric.Authority.Lease

/-!
The calls the daemon makes on its registry, and what holds of a registry after any number of them.
-/

namespace RackFabric

namespace GrantRegistry

/-- One call. New authority is asked for only while the lifecycle is open to it. -/
inductive Call (open_ : Bool) : GrantRegistry → GrantRegistry → Prop where
  | expireDue (registry : GrantRegistry) (nowMs : UInt64) : Call open_ registry (registry.expireDue nowMs).1
  | acquire (registry : GrantRegistry) (snapshot : Snapshot) (request : GrantRequest)
      (incarnation nowMs : UInt64) (allowNew : Bool) (gated : allowNew = true → open_ = true) :
      Call open_ registry (registry.acquire snapshot request incarnation nowMs allowNew).1
  | renew (registry : GrantRegistry) (snapshot : Snapshot) (token : LeaseToken) (ttlMs nowMs : UInt64) :
      Call open_ registry (registry.renew snapshot token ttlMs nowMs).1
  | release (registry : GrantRegistry) (token : LeaseToken) : Call open_ registry (registry.release token).1
  | suspendAll (registry : GrantRegistry) (reason : Text) : Call open_ registry (registry.suspendAll reason)
  | fenceAll (registry : GrantRegistry) (reason : Text) : Call open_ registry (registry.fenceAll reason)
  | revalidate (registry : GrantRegistry) (snapshot : Snapshot) (incarnation nowMs : UInt64) :
      Call open_ registry (registry.revalidate snapshot incarnation nowMs)
  | resumeAll (registry : GrantRegistry) (snapshot : Snapshot) (nowMs : UInt64) :
      Call open_ registry (registry.resumeAll snapshot nowMs)

abbrev Calls (open_ : Bool) : GrantRegistry → GrantRegistry → Prop :=
  Relation.ReflTransGen (Call open_)

theorem Call.widen {open_ : Bool} {before after : GrantRegistry} (call : Call open_ before after) :
    Call true before after := by
  cases call with
  | expireDue nowMs => exact .expireDue before nowMs
  | acquire snapshot request incarnation nowMs allowNew =>
    exact .acquire before snapshot request incarnation nowMs allowNew (fun _ => rfl)
  | renew snapshot token ttlMs nowMs => exact .renew before snapshot token ttlMs nowMs
  | release token => exact .release before token
  | suspendAll reason => exact .suspendAll before reason
  | fenceAll reason => exact .fenceAll before reason
  | revalidate snapshot incarnation nowMs => exact .revalidate before snapshot incarnation nowMs
  | resumeAll snapshot nowMs => exact .resumeAll before snapshot nowMs

theorem Calls.widen {open_ : Bool} {before after : GrantRegistry} (calls : Calls open_ before after) :
    Calls true before after := by
  induction calls with
  | refl => exact .refl
  | tail _ call ih => exact .tail ih call.widen

theorem enlist_rewrites (registry : GrantRegistry) (snapshot : Snapshot) (request : GrantRequest) (grant : Grant) :
    Rewrites registry (registry.enlist snapshot request grant) grant.id grant := by
  apply rewrites_of_insert
  rw [← (attach_sameBooks registry snapshot grant).grants]
  rfl

theorem enlist_own (registry : GrantRegistry) (snapshot : Snapshot) (request : GrantRequest) (grant : Grant) :
    (registry.enlist snapshot request grant).grants[grant.id]? = some grant := by
  rw [enlist_rewrites registry snapshot request grant grant.id, if_pos rfl]

theorem enlist_incarnation (registry : GrantRegistry) (snapshot : Snapshot) (request : GrantRequest) (grant : Grant) :
    (registry.enlist snapshot request grant).incarnation = registry.incarnation :=
  (attach_sameBooks registry snapshot grant).incarnation

/-- A grant just issued may be used wherever the rack honours it. -/
theorem enlist_usable (registry : GrantRegistry) (snapshot : Snapshot) (request : GrantRequest) {grant : Grant}
    {current : Snapshot} {nowMs : UInt64} {scope : List ResourceRef} (active : grant.state = .active)
    (valid : current.valid = true) (honoured : Honoured current registry.incarnation nowMs grant scope) :
    (registry.enlist snapshot request grant).validate current grant.token nowMs = .ok grant := by
  have held := enlist_own registry snapshot request grant
  rw [← enlist_incarnation registry snapshot request grant] at honoured
  exact honoured.checkLease valid active held

theorem acquire_keyed {registry : GrantRegistry} (keyed : registry.Keyed) (snapshot : Snapshot)
    (request : GrantRequest) (incarnation nowMs : UInt64) (allowNew : Bool) :
    (registry.acquire snapshot request incarnation nowMs allowNew).1.Keyed := by
  cases acquired : registry.acquire snapshot request incarnation nowMs allowNew with
  | mk next result =>
    cases acquire_decides acquired with
    | refused => exact keyed
    | replayed => exact keyed
    | turnedDown refusal =>
      unfold turnedDown
      split
      · exact keyed
      · exact keyed
    | burned => exact keyed
    | issued => exact (enlist_rewrites _ snapshot request _).keyed rfl keyed

theorem renew_keyed {registry : GrantRegistry} (keyed : registry.Keyed) (snapshot : Snapshot) (token : LeaseToken)
    (ttlMs nowMs : UInt64) : (registry.renew snapshot token ttlMs nowMs).1.Keyed := by
  cases renewing : registry.renew snapshot token ttlMs nowMs with
  | mk next result =>
    cases result with
    | error status =>
      rw [(renew_error renewing).1]
      exact keyed
    | ok renewed =>
      obtain ⟨grant, deadline, checked, -, rfl, rfl⟩ := renew_ok renewing
      refine Rewrites.keyed (rewrites_of_insert (by rfl)) ?_ keyed
      exact keyed token.grant grant (checkLease_ok checked).1

theorem release_keyed {registry : GrantRegistry} (keyed : registry.Keyed) (token : LeaseToken) :
    (registry.release token).1.Keyed := by
  rcases release_cases registry token with same | ⟨grant, -, -, released⟩
  · rw [same]
    exact keyed
  · rw [released]
    exact (endGrant_rewrites registry grant _ _).keyed rfl keyed

/-- How revalidation moves one grant. -/
inductive Revalidates (snapshot : Snapshot) (incarnation nowMs : UInt64) : Grant → Grant → Prop where
  | idle (grant : Grant) (other : grant.state ≠ .recovering) : Revalidates snapshot incarnation nowMs grant grant
  | rearmed (grant : Grant) (fence : UInt64) (recovering : grant.state = .recovering)
      (passes : revalidationFailure snapshot nowMs grant = none) :
      Revalidates snapshot incarnation nowMs grant { grant with
        state := .active
        incarnation := incarnation
        fence := fence
        issuedAtMs := nowMs
        reason := [] }
  | fenced (grant : Grant) (failure : Text) (recovering : grant.state = .recovering)
      (fails : revalidationFailure snapshot nowMs grant = some failure) :
      Revalidates snapshot incarnation nowMs grant (grant.mark .fenced failure)

/-- One visit of the loop of `revalidate`. -/
def revalidateVisit (snapshot : Snapshot) (incarnation nowMs : UInt64) (registry : GrantRegistry) (grant : Grant) :
    GrantRegistry :=
  if grant.state = .recovering then
    match revalidationFailure snapshot nowMs grant with
    | none => registry.rearm incarnation nowMs grant
    | some failure => registry.endGrant grant .fenced failure
  else registry

theorem revalidateVisit_rewrites {registry : GrantRegistry} {grant : Grant} (snapshot : Snapshot)
    (incarnation nowMs : UInt64) (found : registry.grants[grant.id]? = some grant) :
    ∃ next, Rewrites registry (revalidateVisit snapshot incarnation nowMs registry grant) grant.id next ∧
      Revalidates snapshot incarnation nowMs grant next ∧ next.id = grant.id := by
  unfold revalidateVisit
  split
  · rename_i recovering
    split
    · rename_i passes
      exact ⟨_, rewrites_of_insert rfl, .rearmed grant _ recovering passes, rfl⟩
    · rename_i failure fails
      exact ⟨_, endGrant_rewrites registry grant _ _, .fenced grant failure recovering fails, rfl⟩
  · rename_i other
    exact ⟨grant, rewrites_self found, .idle grant other, rfl⟩

theorem revalidateVisit_outcomes (registry : GrantRegistry) (grant : Grant) (snapshot : Snapshot)
    (incarnation nowMs : UInt64) :
    (revalidateVisit snapshot incarnation nowMs registry grant).outcomes = registry.outcomes ∧
      (revalidateVisit snapshot incarnation nowMs registry grant).limits = registry.limits := by
  unfold revalidateVisit
  split
  · split
    · exact ⟨rfl, rfl⟩
    · have around := endGrant_around registry grant .fenced
      exact ⟨(around _).outcomes, (around _).limits⟩
  · exact ⟨rfl, rfl⟩

/-- Revalidation moves every grant on its own and keeps what was remembered. -/
theorem revalidate_carries {registry : GrantRegistry} (keyed : registry.Keyed) (snapshot : Snapshot)
    (incarnation nowMs : UInt64) :
    ((registry.revalidate snapshot incarnation nowMs).Keyed ∧
      (registry.revalidate snapshot incarnation nowMs).outcomes = registry.outcomes ∧
      (registry.revalidate snapshot incarnation nowMs).limits = registry.limits) ∧
    Carries (Revalidates snapshot incarnation nowMs) registry
      (registry.revalidate snapshot incarnation nowMs) := by
  have steps : ∀ state grant,
      (state.Keyed ∧ state.outcomes = registry.outcomes ∧ state.limits = registry.limits) →
      state.grants[grant.id]? = some grant →
      ((revalidateVisit snapshot incarnation nowMs state grant).Keyed ∧
        (revalidateVisit snapshot incarnation nowMs state grant).outcomes = registry.outcomes ∧
        (revalidateVisit snapshot incarnation nowMs state grant).limits = registry.limits) ∧
      ∃ next, Rewrites state (revalidateVisit snapshot incarnation nowMs state grant) grant.id next ∧
        Revalidates snapshot incarnation nowMs grant next := by
    intro state grant holds found
    obtain ⟨next, rewrites, moved, same⟩ := revalidateVisit_rewrites snapshot incarnation nowMs found
    obtain ⟨outcomes, limits⟩ := revalidateVisit_outcomes state grant snapshot incarnation nowMs
    exact ⟨⟨rewrites.keyed same holds.1, outcomes.trans holds.2.1, limits.trans holds.2.2⟩, next, rewrites, moved⟩
  have entered : ({ registry with incarnation := incarnation } : GrantRegistry).Keyed ∧
      registry.outcomes = registry.outcomes ∧ registry.limits = registry.limits := ⟨keyed, rfl, rfl⟩
  exact sweep_carries _ (fun state => state.Keyed ∧ state.outcomes = registry.outcomes ∧
    state.limits = registry.limits) (fun _ holds => holds.1) steps entered

theorem Call.keyed {open_ : Bool} {before after : GrantRegistry} (call : Call open_ before after) (keyed : before.Keyed) :
    after.Keyed := by
  cases call with
  | expireDue => exact (expireDue_swept keyed _).keyed
  | acquire => exact acquire_keyed keyed _ _ _ _ _
  | renew => exact renew_keyed keyed _ _ _ _
  | release => exact release_keyed keyed _
  | suspendAll => exact (suspendAll_swept keyed _).keyed
  | fenceAll => exact (fenceAll_swept keyed _).keyed
  | revalidate => exact (revalidate_carries keyed _ _ _).1.1
  | resumeAll => exact (resumeAll_swept keyed _ _).keyed

theorem Calls.keyed {open_ : Bool} {before after : GrantRegistry} (calls : Calls open_ before after) (keyed : before.Keyed) :
    after.Keyed := by
  induction calls with
  | refl => exact keyed
  | tail _ call ih => exact call.keyed ih

end GrantRegistry

end RackFabric
