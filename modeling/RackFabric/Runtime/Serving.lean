import RackFabric.Runtime.Logging

/-!
How a call that asks for authority runs: leases that are due are ended, a snapshot is made sure of, the registry
decides, and a granted request is logged or taken back.
-/

namespace RackFabric

namespace DaemonCore

/-- What stands when the registry is asked: the leases that were due have ended and nothing else has moved. -/
structure Readied (core : DaemonCore) (now : UInt64) (ready : DaemonCore) : Prop where
  config : ready.config = core.config
  lifecycle : ready.lifecycle = core.lifecycle
  incarnation : ready.incarnation = core.incarnation
  grants : ready.grants = (core.grants.expireDue now).1

theorem ensureSnapshotLocked_readied (core : DaemonCore) (now : UInt64) :
    Readied core now (core.expireDueLocked now).ensureSnapshotLocked.1 := by
  have kept := (expireDueLocked_keeps core now).trans (ensureSnapshotLocked_keeps (core.expireDueLocked now))
  have same := ensureSnapshotLocked_recomposes (core.expireDueLocked now)
  obtain ⟨store, expired⟩ := expireDueLocked_store core now
  refine ⟨kept.config, kept.lifecycle, kept.incarnation, ?_⟩
  rw [same.grants, expired]

theorem appendLocked_grants {core next : DaemonCore} {record : StoreRecord} {result : Result Unit}
    (appended : core.appendLocked record = (next, result)) : next.grants = core.grants := by
  obtain ⟨store, same⟩ := appendLocked_store core record
  rw [appended] at same
  obtain rfl : next = { core with store := store } := same
  rfl

theorem appendLocked_lifecycle {core next : DaemonCore} {record : StoreRecord} {result : Result Unit}
    (appended : core.appendLocked record = (next, result)) : next.lifecycle = core.lifecycle := by
  have kept := (appendLocked_keeps core record).lifecycle
  rwa [appended] at kept

/-- A commit that fails takes the grant back; otherwise the registry stays as it is. -/
theorem commitGrant_grants (core : DaemonCore) (request : RequestId) (grant : Grant) :
    ((core.commitGrant request grant).2 = .ok () ∧ (core.commitGrant request grant).1.grants = core.grants) ∨
      ((∃ status, (core.commitGrant request grant).2 = .error status) ∧
        (core.commitGrant request grant).1.grants = (core.grants.release grant.token).1) := by
  unfold commitGrant
  split
  · rename_i failed
    exact .inr ⟨⟨_, rfl⟩, by simp only [rollBack, appendLocked_grants failed]⟩
  · rename_i committed
    split
    · rename_i failed
      exact .inr ⟨⟨_, rfl⟩, by simp only [rollBack, appendLocked_grants failed, appendLocked_grants committed]⟩
    · rename_i recorded
      exact .inl ⟨rfl, (appendLocked_grants recorded).trans (appendLocked_grants committed)⟩

/-- The last leg of an acquire: a granted request is logged, and a checkpoint may follow. -/
def concludeAcquire (core : DaemonCore) (request : RequestId) (grant : Grant) : DaemonCore × Result GrantResponse :=
  match core.commitGrant request grant with
  | (core, .error status) => (core, .error status)
  | (core, .ok ()) => (core.maybeCheckpointLocked.1, .ok (grantToResponse grant .ok))

/-- What an acquire makes of the registry's decision. -/
def settleAcquire (core : DaemonCore) (request : RequestId) :
    Result Grant → DaemonCore × Result GrantResponse
  | .error status => (core, .ok { code := status.code, detail := status.detail })
  | .ok grant => core.concludeAcquire request grant

/-- The ways an acquire runs. -/
inductive Acquires (core : DaemonCore) (now : UInt64) (request : AcquireRequest) :
    DaemonCore × Result GrantResponse → Prop where
  | unready (status : Status) (failed : (core.expireDueLocked now).ensureSnapshotLocked.2 = .error status) :
      Acquires core now request ((core.expireDueLocked now).ensureSnapshotLocked.1, .error status)
  | decided (ready : DaemonCore) (next : GrantRegistry) (granted : Result Grant)
      (readied : (core.expireDueLocked now).ensureSnapshotLocked = (ready, .ok ()))
      (decides : ready.grants.Decides ready.snapshot (ready.grantRequestOf request) ready.incarnation now
        (lifecycleAcceptsNewAuthority ready.lifecycle) next granted) :
      Acquires core now request ({ ready with grants := next }.settleAcquire request.request granted)

theorem acquire_acquires (core : DaemonCore) (now : UInt64) (request : AcquireRequest) :
    Acquires core now request (core.acquire now request) := by
  unfold acquire
  extract_lets expired
  cases ensured : expired.ensureSnapshotLocked with
  | mk ready result =>
    cases result with
    | error status =>
      have unready : Acquires core now request (expired.ensureSnapshotLocked.1, .error status) :=
        .unready status (by rw [ensured])
      rw [ensured] at unready
      exact unready
    | ok _ =>
      dsimp only
      cases acquired : ready.grants.acquire ready.snapshot (ready.grantRequestOf request) ready.incarnation now
          (lifecycleAcceptsNewAuthority ready.lifecycle) with
      | mk next granted =>
        have decided := Acquires.decided ready next granted ensured (GrantRegistry.acquire_decides acquired)
        cases granted with
        | error status => exact decided
        | ok grant => exact decided

theorem concludeAcquire_cases (core : DaemonCore) (request : RequestId) (grant : Grant) :
    ((core.concludeAcquire request grant).2 = .ok (grantToResponse grant .ok) ∧
        (core.concludeAcquire request grant).1.grants = core.grants) ∨
      ((∃ status, (core.concludeAcquire request grant).2 = .error status) ∧
        (core.concludeAcquire request grant).1.grants = (core.grants.release grant.token).1) := by
  unfold concludeAcquire
  rcases commitGrant_grants core request grant with ⟨done, same⟩ | ⟨⟨status, failed⟩, undone⟩
  · left
    split
    · rename_i failed
      rw [failed] at done
      cases done
    · rename_i committed
      rw [committed] at same
      obtain ⟨store, written⟩ := maybeCheckpointLocked_store _
      exact ⟨rfl, by rw [written]; exact same⟩
  · right
    split
    · rename_i failing
      rw [failing] at undone
      exact ⟨⟨_, rfl⟩, undone⟩
    · rename_i committed
      rw [committed] at failed
      cases failed

end DaemonCore

end RackFabric
