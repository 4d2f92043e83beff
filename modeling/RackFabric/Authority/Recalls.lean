import RackFabric.Authority.Asked
import RackFabric.Authority.Calls

/-!
What a registry recalls of the requests it granted. A request that was granted stays granted, under its first grant,
whatever is called afterwards.
-/

namespace RackFabric

namespace GrantRegistry

/-- The request was granted, and both the answer and the grant are kept. -/
structure Recalls (registry : GrantRegistry) (request : RequestId) (id : UInt64) : Prop where
  identified : request.isSet = true
  remembered : ∃ outcome, registry.outcomes[request]? = some outcome ∧ outcome.code = .ok ∧ outcome.grant = id
  held : ∃ grant : Grant, registry.grants[id]? = some grant

variable {before after : GrantRegistry} {request : RequestId} {id : UInt64}

theorem Recalls.swept {rewrite : Grant → Grant} (recalls : before.Recalls request id)
    (swept : Swept rewrite before after) : after.Recalls request id := by
  obtain ⟨grant, found⟩ := recalls.held
  refine ⟨recalls.identified, ?_, rewrite grant, ?_⟩
  · rw [swept.around.outcomes]
    exact recalls.remembered
  · rw [swept.entries, found]
    rfl

theorem Recalls.rewrites {own : UInt64} {next : Grant} (recalls : before.Recalls request id)
    (rewrites : Rewrites before after own next) (outcomes : after.outcomes = before.outcomes) :
    after.Recalls request id := by
  obtain ⟨grant, found⟩ := recalls.held
  refine ⟨recalls.identified, outcomes ▸ recalls.remembered, ?_⟩
  rw [rewrites id]
  split
  · exact ⟨next, rfl⟩
  · exact ⟨grant, found⟩

/-- A request is remembered only if it was not before. -/
theorem Recalls.insert {other : GrantRequest} {outcome : RequestOutcome} (recalls : before.Recalls request id)
    (fresh : before.outcomes[other.request]? = none) (outcomes : after.outcomes = before.outcomes.insert other.request outcome)
    (held : ∀ grant : Grant, before.grants[id]? = some grant → ∃ next : Grant, after.grants[id]? = some next) :
    after.Recalls request id := by
  obtain ⟨grant, found⟩ := recalls.held
  obtain ⟨answer, known, accepted, own⟩ := recalls.remembered
  refine ⟨recalls.identified, ⟨answer, ?_, accepted, own⟩, held grant found⟩
  have apart : other.request ≠ request := by
    intro same
    rw [same, known] at fresh
    cases fresh
  rw [outcomes, Std.ExtTreeMap.getElem?_insert]
  simp only [Std.LawfulEqCmp.compare_eq_iff_eq, apart, if_false]
  exact known

theorem enlist_outcomes (registry : GrantRegistry) (snapshot : Snapshot) (request : GrantRequest) (grant : Grant) :
    ∃ outcome : RequestOutcome, outcome.code = .ok ∧ outcome.grant = grant.id ∧
      (registry.enlist snapshot request grant).outcomes = registry.outcomes.insert request.request outcome := by
  refine ⟨{
    code := .ok
    grant := grant.id
    fence := grant.fence
    incarnation := grant.incarnation
    requestDigest := requestDigestOf request }, rfl, rfl, ?_⟩
  rw [← (attach_sameBooks registry snapshot grant).outcomes]
  rfl

/-- Whatever is called, what is recalled stays recalled. -/
theorem Call.recalls {open_ : Bool} (call : Call open_ before after) (keyed : before.Keyed)
    (recalls : before.Recalls request id) : after.Recalls request id := by
  cases call with
  | expireDue nowMs => exact recalls.swept (expireDue_swept keyed nowMs)
  | suspendAll reason => exact recalls.swept (suspendAll_swept keyed reason)
  | fenceAll reason => exact recalls.swept (fenceAll_swept keyed reason)
  | resumeAll snapshot nowMs => exact recalls.swept (resumeAll_swept keyed snapshot nowMs)
  | revalidate snapshot incarnation nowMs =>
    obtain ⟨⟨-, outcomes, -⟩, carries⟩ := revalidate_carries keyed snapshot incarnation nowMs
    obtain ⟨grant, found⟩ := recalls.held
    have entry := carries id
    rw [found] at entry
    refine ⟨recalls.identified, outcomes ▸ recalls.remembered, ?_⟩
    generalize (before.revalidate snapshot incarnation nowMs).grants[id]? = moved at entry
    cases entry with
    | some _ => exact ⟨_, rfl⟩
  | renew snapshot token ttlMs nowMs =>
    cases renewing : before.renew snapshot token ttlMs nowMs with
    | mk next result =>
      cases result with
      | error status =>
        rw [(renew_error renewing).1]
        exact recalls
      | ok renewed =>
        obtain ⟨grant, deadline, -, -, rfl, rfl⟩ := renew_ok renewing
        exact recalls.rewrites (rewrites_of_insert (by rfl)) (by rfl)
  | release token =>
    rcases release_cases before token with same | ⟨grant, -, -, released⟩
    · rw [same]
      exact recalls
    · rw [released]
      exact recalls.rewrites (endGrant_rewrites before grant _ _) (endGrant_around before grant _ _).outcomes
  | acquire snapshot request incarnation nowMs allowNew =>
    cases acquired : before.acquire snapshot request incarnation nowMs allowNew with
    | mk next result =>
      cases acquire_decides acquired with
      | refused => exact recalls
      | replayed => exact recalls
      | turnedDown refusal identified fresh checked =>
        unfold turnedDown
        split
        · exact recalls.insert fresh rfl fun grant found => ⟨grant, found⟩
        · exact recalls
      | burned => exact ⟨recalls.identified, recalls.remembered, recalls.held⟩
      | issued deadline expanded pool identified fresh checked =>
        obtain ⟨outcome, -, -, outcomes⟩ := enlist_outcomes before.takeFence snapshot request
          (issuedGrant snapshot request incarnation nowMs deadline before.takeFence.nextFence expanded pool)
        refine recalls.insert fresh outcomes ?_
        intro grant found
        rw [enlist_rewrites _ snapshot request _ id]
        split
        · exact ⟨_, rfl⟩
        · exact ⟨grant, found⟩

theorem Calls.recalls {open_ : Bool} (calls : Calls open_ before after) (keyed : before.Keyed)
    (recalls : before.Recalls request id) : after.Recalls request id := by
  induction calls with
  | refl => exact recalls
  | tail earlier call ih => exact call.recalls (Calls.keyed earlier keyed) ih

/-- A request that is granted is recalled from then on. -/
theorem acquire_recalls {registry next : GrantRegistry} (keyed : registry.Keyed) {snapshot : Snapshot}
    {request : GrantRequest} {incarnation nowMs : UInt64} {allowNew : Bool} {grant : Grant}
    (acquired : registry.acquire snapshot request incarnation nowMs allowNew = (next, .ok grant)) :
    next.Recalls request.request grant.id := by
  have identified : request.request.isSet = true := by
    by_contra missing
    unfold GrantRegistry.acquire at acquired
    split at acquired
    · cases acquired
    · rw [Bool.not_eq_true] at missing
      rw [missing, Bool.not_false, if_pos rfl] at acquired
      cases acquired
  generalize granted : (.ok grant : Result Grant) = result at acquired
  cases acquire_decides acquired with
  | refused => cases granted
  | turnedDown => cases granted
  | burned => cases granted
  | replayed outcome remembered =>
    obtain ⟨accepted, found⟩ := replay_ok granted.symm
    exact ⟨identified, ⟨outcome, remembered, accepted, (keyed _ _ found).symm⟩, grant, by rw [keyed _ _ found, found]⟩
  | issued deadline expanded pool known fresh checked =>
    cases granted
    obtain ⟨outcome, accepted, own, outcomes⟩ := enlist_outcomes registry.takeFence snapshot request
      (issuedGrant snapshot request incarnation nowMs deadline registry.takeFence.nextFence expanded pool)
    refine ⟨identified, ⟨outcome, ?_, accepted, own⟩, _, enlist_own _ snapshot request _⟩
    rw [outcomes]
    exact Std.ExtTreeMap.getElem?_insert_self

/-- A request that is recalled is answered with its grant, and nothing is issued. -/
theorem Recalls.acquire {registry : GrantRegistry} (recalls : registry.Recalls request id) (keyed : registry.Keyed)
    {snapshot : Snapshot} (valid : snapshot.valid = true) {repeated : GrantRequest} (same : repeated.request = request)
    (incarnation nowMs : UInt64) (allowNew : Bool) :
    ∃ grant : Grant, grant.id = id ∧
      registry.acquire snapshot repeated incarnation nowMs allowNew = (registry, .ok grant) := by
  obtain ⟨outcome, known, accepted, own⟩ := recalls.remembered
  obtain ⟨grant, found⟩ := recalls.held
  rw [← same] at known
  have identified : repeated.request.isSet = true := by
    rw [same]
    exact recalls.identified
  refine ⟨grant, keyed _ _ found, ?_⟩
  rw [acquire_remembered valid identified known, replay_held accepted (own ▸ found)]

end GrantRegistry

end RackFabric
