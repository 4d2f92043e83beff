import RackFabric.Authority.Rebuild

/-!
Where a grant stands: it is live or it has ended, and what has ended stays so in every call that gives out no new
authority.
-/

namespace RackFabric

theorem isLive_of_terminal {grant : Grant} (ended : isTerminalState grant.state = true) : grant.isLive = false := by
  unfold Grant.isLive
  cases state : grant.state <;> simp_all [isTerminalState, isLiveState]

namespace GrantRegistry

/-- No grant is in a state that no enumerator names. -/
def Settled (registry : GrantRegistry) : Prop :=
  ∀ (id : UInt64) (grant : Grant), registry.grants[id]? = some grant →
    grant.isLive = true ∨ isTerminalState grant.state = true

/-- Every grant has ended. -/
def Ended (registry : GrantRegistry) : Prop :=
  ∀ (id : UInt64) (grant : Grant), registry.grants[id]? = some grant → isTerminalState grant.state = true

theorem Swept.settled {rewrite : Grant → Grant} {before after : GrantRegistry} (swept : Swept rewrite before after)
    (keeps : ∀ grant, grant.isLive = true ∨ isTerminalState grant.state = true →
      (rewrite grant).isLive = true ∨ isTerminalState (rewrite grant).state = true)
    (settled : before.Settled) : after.Settled := by
  intro id grant found
  rw [swept.entries id, Option.map_eq_some_iff] at found
  obtain ⟨old, held, rfl⟩ := found
  exact keeps old (settled id old held)

theorem Rewrites.settled {before after : GrantRegistry} {id : UInt64} {grant : Grant}
    (rewrites : Rewrites before after id grant) (stands : grant.isLive = true ∨ isTerminalState grant.state = true)
    (settled : before.Settled) : after.Settled := by
  intro other found entry
  rw [rewrites other] at entry
  split at entry
  · cases entry
    exact stands
  · exact settled other found entry

theorem Revalidates.settled {snapshot : Snapshot} {incarnation nowMs : UInt64} {grant next : Grant}
    (moved : Revalidates snapshot incarnation nowMs grant next)
    (stands : grant.isLive = true ∨ isTerminalState grant.state = true) :
    next.isLive = true ∨ isTerminalState next.state = true := by
  cases moved with
  | idle => exact stands
  | rearmed => exact .inl rfl
  | fenced => exact .inr rfl

theorem revalidate_settled {registry : GrantRegistry} (keyed : registry.Keyed) (settled : registry.Settled)
    (snapshot : Snapshot) (incarnation nowMs : UInt64) :
    (registry.revalidate snapshot incarnation nowMs).Settled := by
  intro id grant found
  obtain ⟨old, held, moved⟩ := (revalidate_carries keyed snapshot incarnation nowMs).2.source found
  exact moved.settled (settled id old held)

theorem Call.settled {open_ : Bool} {before after : GrantRegistry} (call : Call open_ before after)
    (keyed : before.Keyed) (settled : before.Settled) : after.Settled := by
  cases call with
  | expireDue nowMs =>
    refine (expireDue_swept keyed nowMs).settled ?_ settled
    intro grant stands
    unfold expireRewrite
    split
    · exact .inr rfl
    · exact stands
  | acquire snapshot request incarnation nowMs allowNew =>
    cases acquired : before.acquire snapshot request incarnation nowMs allowNew with
    | mk next result =>
      cases acquire_decides acquired with
      | refused => exact settled
      | replayed => exact settled
      | turnedDown refusal =>
        intro id grant found
        refine settled id grant ?_
        unfold turnedDown at found
        split at found <;> exact found
      | burned => exact settled
      | issued => exact (enlist_rewrites _ snapshot request _).settled (.inl rfl) settled
  | renew snapshot token ttlMs nowMs =>
    cases renewing : before.renew snapshot token ttlMs nowMs with
    | mk next result =>
      cases result with
      | error status =>
        rw [(renew_error renewing).1]
        exact settled
      | ok renewed =>
        obtain ⟨grant, deadline, checked, -, rfl, rfl⟩ := renew_ok renewing
        refine Rewrites.settled (rewrites_of_insert (by rfl)) ?_ settled
        exact settled token.grant grant (checkLease_ok checked).1
  | release token =>
    rcases release_cases before token with same | ⟨grant, -, -, released⟩
    · rw [same]
      exact settled
    · rw [released]
      exact (endGrant_rewrites before grant _ _).settled (.inr rfl) settled
  | suspendAll reason =>
    refine (suspendAll_swept keyed reason).settled ?_ settled
    intro grant stands
    unfold suspendRewrite
    split
    · exact .inl rfl
    · exact stands
  | fenceAll reason =>
    refine (fenceAll_swept keyed reason).settled ?_ settled
    intro grant stands
    split
    · exact .inr rfl
    · exact stands
  | revalidate snapshot incarnation nowMs => exact revalidate_settled keyed settled snapshot incarnation nowMs
  | resumeAll snapshot nowMs =>
    refine (resumeAll_swept keyed snapshot nowMs).settled ?_ settled
    intro grant stands
    unfold resumeRewrite
    split
    · split
      · exact .inl rfl
      · exact .inr rfl
    · exact stands

theorem Calls.settled {open_ : Bool} {before after : GrantRegistry} (calls : Calls open_ before after)
    (keyed : before.Keyed) (settled : before.Settled) : after.Settled := by
  induction calls with
  | refl => exact settled
  | tail earlier call ih => exact call.settled (Calls.keyed earlier keyed) ih

theorem installRecovered_settled {registry : GrantRegistry} (settled : registry.Settled) (snapshot : Snapshot)
    (grant : Grant) : (registry.installRecovered snapshot grant).1.Settled := by
  unfold installRecovered
  split
  · exact settled
  split
  · exact settled
  split
  · exact settled
  split
  · exact settled
  split
  · exact (rewrites_of_insert rfl : Rewrites registry _ grant.id (lostGrant grant)).settled (.inr rfl) settled
  · exact (reinstate_rewrites (registry.raiseFence grant.fence) snapshot _).settled (.inl rfl) settled

theorem applyEnd_settled {states : List GrantStateRecord} {grant : Grant}
    (stands : grant.isLive = true ∨ isTerminalState grant.state = true) :
    (grant.afterEnds states).isLive = true ∨ isTerminalState (grant.afterEnds states).state = true := by
  rcases grant.afterEnds_cases states with ⟨-, same⟩ | ⟨body, -, ends, marked⟩
  · rw [same]
    exact stands
  · rw [marked]
    exact .inr ends.2

theorem Swept.ended {rewrite : Grant → Grant} {before after : GrantRegistry} (swept : Swept rewrite before after)
    (fixed : ∀ grant, isTerminalState grant.state = true → rewrite grant = grant) (ended : before.Ended) :
    after.Ended := by
  intro id grant found
  rw [swept.entries id, Option.map_eq_some_iff] at found
  obtain ⟨old, held, rfl⟩ := found
  rw [fixed old (ended id old held)]
  exact ended id old held

/-- A call that gives out no new authority revives nothing. -/
theorem Call.ended {before after : GrantRegistry} (call : Call false before after) (keyed : before.Keyed)
    (ended : before.Ended) : after.Ended := by
  cases call with
  | expireDue nowMs =>
    refine (expireDue_swept keyed nowMs).ended ?_ ended
    intro grant terminal
    simp [expireRewrite, isDue, isLive_of_terminal terminal]
  | acquire snapshot request incarnation nowMs allowNew gated =>
    have closed : allowNew = false := by simpa using gated
    subst closed
    cases acquired : before.acquire snapshot request incarnation nowMs false with
    | mk next result =>
      have same := (acquire_decides acquired).closed.1
      intro id grant found
      rw [same] at found
      exact ended id grant found
  | renew snapshot token ttlMs nowMs =>
    cases renewing : before.renew snapshot token ttlMs nowMs with
    | mk next result =>
      cases result with
      | error status =>
        rw [(renew_error renewing).1]
        exact ended
      | ok renewed =>
        obtain ⟨grant, deadline, checked, -, -, -⟩ := renew_ok renewing
        have facts := checkLease_ok checked
        have terminal := ended token.grant grant facts.1
        rw [(checkState_ok facts.2.2.1).1] at terminal
        cases terminal
  | release token =>
    rcases release_cases before token with same | ⟨grant, found, live, -⟩
    · rw [same]
      exact ended
    · rw [isLive_of_terminal (ended _ _ found)] at live
      cases live
  | suspendAll reason =>
    refine (suspendAll_swept keyed reason).ended ?_ ended
    intro grant terminal
    unfold suspendRewrite
    split
    · rename_i active
      rw [active] at terminal
      cases terminal
    · rfl
  | fenceAll reason =>
    refine (fenceAll_swept keyed reason).ended ?_ ended
    intro grant terminal
    simp [isLive_of_terminal terminal]
  | revalidate snapshot incarnation nowMs =>
    intro id grant found
    obtain ⟨old, held, moved⟩ := (revalidate_carries keyed snapshot incarnation nowMs).2.source found
    have terminal := ended id old held
    cases moved with
    | idle => exact terminal
    | rearmed fence recovering =>
      rw [recovering] at terminal
      cases terminal
    | fenced failure recovering => rfl
  | resumeAll snapshot nowMs =>
    refine (resumeAll_swept keyed snapshot nowMs).ended ?_ ended
    intro grant terminal
    unfold resumeRewrite
    split
    · rename_i suspended
      rw [suspended] at terminal
      cases terminal
    · rfl

theorem Calls.ended {before after : GrantRegistry} (calls : Calls false before after) (keyed : before.Keyed)
    (ended : before.Ended) : after.Ended := by
  induction calls with
  | refl => exact ended
  | tail earlier call ih => exact call.ended (Calls.keyed earlier keyed) ih

/-- Fencing everything ends everything. -/
theorem fenceAll_ended {registry : GrantRegistry} (keyed : registry.Keyed) (settled : registry.Settled)
    (reason : Text) : (registry.fenceAll reason).Ended := by
  intro id grant found
  rw [(fenceAll_swept keyed reason).entries id, Option.map_eq_some_iff] at found
  obtain ⟨old, held, rfl⟩ := found
  split
  · rfl
  · rename_i ended
    exact (settled id old held).resolve_left ended

theorem checkState_of_current {snapshot : Snapshot} {incarnation : UInt64} {grant : Grant}
    (current : isCurrent snapshot incarnation grant = true) : checkState grant = .ok () := by
  simp only [isCurrent, Bool.and_eq_true] at current
  cases state : checkState grant with
  | ok _ => rfl
  | error status =>
    rw [state] at current
    cases current.1.1.1.1

/-- A grant that has ended is refused before the lifecycle is read. -/
theorem not_current_of_terminal {snapshot : Snapshot} {incarnation : UInt64} {grant : Grant}
    (ended : isTerminalState grant.state = true) : isCurrent snapshot incarnation grant ≠ true := by
  intro current
  have open_ := (checkState_ok (checkState_of_current current)).1
  rw [ended] at open_
  cases open_

theorem Rewrites.reads {before after : GrantRegistry} {id : UInt64} {next : Grant} {snapshot : Snapshot}
    (rewrites : Rewrites before after id next) (process : after.incarnation = before.incarnation)
    (reads : after.readsLifecycle snapshot = true)
    (kept : isCurrent snapshot before.incarnation next = true → before.readsLifecycle snapshot = true) :
    before.readsLifecycle snapshot = true := by
  obtain ⟨other, grant, found, current⟩ := readsLifecycle_iff.mp reads
  rw [process] at current
  rw [rewrites other] at found
  split at found
  · cases found
    exact kept current
  · exact readsLifecycle_iff.mpr ⟨other, grant, found, current⟩

theorem expireDue_reads {registry : GrantRegistry} (keyed : registry.Keyed) {snapshot : Snapshot} {nowMs : UInt64}
    (reads : (registry.expireDue nowMs).1.readsLifecycle snapshot = true) : registry.readsLifecycle snapshot = true := by
  have swept := expireDue_swept keyed nowMs
  obtain ⟨id, next, found, current⟩ := readsLifecycle_iff.mp reads
  rw [swept.entries id, Option.map_eq_some_iff] at found
  obtain ⟨grant, held, rfl⟩ := found
  rw [swept.around.incarnation] at current
  unfold expireRewrite at current
  split at current
  · exact absurd current (not_current_of_terminal rfl)
  · exact readsLifecycle_iff.mpr ⟨id, grant, held, current⟩

/-- A renewal presupposes a lease that is checked as far as the lifecycle. -/
theorem renew_reads {registry : GrantRegistry} {snapshot : Snapshot} {token : LeaseToken} {ttlMs nowMs : UInt64}
    (reads : (registry.renew snapshot token ttlMs nowMs).1.readsLifecycle snapshot = true) :
    registry.readsLifecycle snapshot = true := by
  cases renewing : registry.renew snapshot token ttlMs nowMs with
  | mk next result =>
    cases result with
    | error status =>
      rw [renewing, (renew_error renewing).1] at reads
      exact reads
    | ok renewed =>
      obtain ⟨grant, -, checked, -, -, -⟩ := renew_ok renewing
      exact checkLease_reads (.inl ⟨grant, checked⟩)

theorem release_reads {registry : GrantRegistry} {snapshot : Snapshot} {token : LeaseToken}
    (reads : (registry.release token).1.readsLifecycle snapshot = true) : registry.readsLifecycle snapshot = true := by
  rcases release_cases registry token with same | ⟨grant, -, -, released⟩
  · rwa [same] at reads
  · rw [released] at reads
    exact (endGrant_rewrites registry grant _ _).reads (endGrant_around registry grant _ _).incarnation reads
      fun current => absurd current (not_current_of_terminal rfl)

/-- A registry that takes no new authority up has no more leases checked as far as the lifecycle after a request. -/
theorem acquire_reads {registry : GrantRegistry} {snapshot other : Snapshot} {request : GrantRequest}
    {incarnation nowMs : UInt64} {allowNew : Bool} (refused : registry.admits snapshot request allowNew = false)
    (reads : (registry.acquire snapshot request incarnation nowMs allowNew).1.readsLifecycle other = true) :
    registry.readsLifecycle other = true := by
  cases acquired : registry.acquire snapshot request incarnation nowMs allowNew with
  | mk next result =>
    have decides := acquire_decides acquired
    rw [acquired] at reads
    obtain ⟨id, grant, found, current⟩ := readsLifecycle_iff.mp reads
    rw [(decides.unadmitted refused).1] at found
    rw [decides.incarnation] at current
    exact readsLifecycle_iff.mpr ⟨id, grant, found, current⟩

/-- After a suspension of everything no lease is checked as far as the lifecycle. -/
theorem suspendAll_unread {registry : GrantRegistry} (keyed : registry.Keyed) (settled : registry.Settled)
    (reason : Text) (snapshot : Snapshot) : (registry.suspendAll reason).readsLifecycle snapshot ≠ true := by
  intro reads
  obtain ⟨id, next, found, current⟩ := readsLifecycle_iff.mp reads
  rw [(suspendAll_swept keyed reason).entries id, Option.map_eq_some_iff] at found
  obtain ⟨grant, held, rfl⟩ := found
  unfold suspendRewrite at current
  split at current
  · have passed := checkState_of_current current
    cases passed
  · rename_i other
    rcases settled id grant held with live | ended
    · exact other ((checkState_ok (checkState_of_current current)).2 live)
    · exact not_current_of_terminal ended current

theorem fenceAll_unread {registry : GrantRegistry} (keyed : registry.Keyed) (settled : registry.Settled)
    (reason : Text) (snapshot : Snapshot) : (registry.fenceAll reason).readsLifecycle snapshot ≠ true := by
  intro reads
  obtain ⟨id, grant, found, current⟩ := readsLifecycle_iff.mp reads
  exact not_current_of_terminal (fenceAll_ended keyed settled reason id grant found) current

end GrantRegistry

end RackFabric
