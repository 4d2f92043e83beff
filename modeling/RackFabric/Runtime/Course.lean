import RackFabric.Authority.Dated
import RackFabric.Runtime.Frame

/-!
How a command moves the counters of the rack, one durable step at a time: what it appends, where it composes, and
that it checkpoints only a published snapshot.
-/

namespace RackFabric

/-- Where a rack stands: its generation, its epoch, and the member set of that epoch. -/
structure Counters where
  generation : UInt64
  epoch : UInt64
  memberSet : Digest
deriving DecidableEq, Repr

/-- Records that name no generation, no epoch and no grant, and do not reconfigure the rack. -/
def StoreRecord.isMute : StoreRecord → Bool
  | .generation _ | .epoch _ | .lifecycle _ | .grantCommit _ | .config _ => false
  | _ => true

namespace DaemonCore

def counters (core : DaemonCore) : Counters :=
  { generation := core.generation, epoch := core.epoch, memberSet := core.memberSetDigest }

/-- The counters, the published snapshot and the store stand still; grants keep their stamps, or take that of the
snapshot. -/
structure Still (before after : DaemonCore) : Prop where
  counters : after.counters = before.counters
  initialized : after.membershipInitialized = before.membershipInitialized
  snapshot : after.snapshot = before.snapshot
  store : after.store = before.store
  dated : ∀ allowed, allowed before.snapshot.stamp → before.grants.Dated allowed → after.grants.Dated allowed

inductive Course : DaemonCore → DaemonCore → Prop where
  | keep {before after : DaemonCore} (still : Still before after) : Course before after
  | log {before : DaemonCore} {record : StoreRecord} (mute : record.isMute = true) :
      Course before (before.appendLocked record).1
  | commit {before : DaemonCore} {grant : Grant} (held : ∃ id : UInt64, before.grants.grants[id]? = some grant) :
      Course before (before.appendLocked (.grantCommit grant)).1
  | mark {before : DaemonCore} (state : LifecycleState) :
      Course before (before.appendLocked (.lifecycle ⟨state, before.generation, before.epoch⟩)).1
  | advance {before : DaemonCore} (generation : UInt64) : Course before (before.advanceGeneration generation).1
  | compose {before : DaemonCore} : Course before (before.composeLocked before.generation).1
  | checkpoint {before : DaemonCore} {store : Store} (held : before.store = some store)
      (valid : before.snapshot.valid = true) : Course before (before.checkpointLocked store).1
  | trans {first second third : DaemonCore} (earlier : Course first second) (later : Course second third) :
      Course first third

theorem Still.refl (core : DaemonCore) : Still core core :=
  ⟨rfl, rfl, rfl, rfl, fun _ _ dated => dated⟩

theorem Course.refl (core : DaemonCore) : Course core core := .keep (.refl core)

/-- A call on the registry alone. -/
theorem Course.registry {core : DaemonCore} {grants : GrantRegistry}
    (dated : ∀ allowed, allowed core.snapshot.stamp → core.grants.Dated allowed → grants.Dated allowed) :
    Course core { core with grants := grants } :=
  .keep ⟨rfl, rfl, rfl, rfl, dated⟩

theorem offerEvidence_course (core : DaemonCore) (record : EvidenceRecord) :
    Course core (core.offerEvidence record).1 := by
  have logged : Course core (core.appendLocked (.evidence record)).1 := .log rfl
  simp only [offerEvidence]
  split
  · exact .refl core
  · split
    · exact .refl core
    · split
      · rename_i failed
        rwa [failed] at logged
      · rename_i done
        rw [done] at logged
        exact logged.trans (.keep ⟨rfl, rfl, rfl, rfl, fun _ _ dated => dated⟩)

theorem offerBatch_course (core : DaemonCore) (records : List EvidenceRecord) :
    Course core (core.offerBatch records).1 := by
  induction records generalizing core with
  | nil => exact .refl core
  | cons record rest ih => exact (offerEvidence_course core record).trans (ih _)

theorem foldl_appendLocked_course (record : DaemonCore → UInt64 → StoreRecord)
    (mute : ∀ core id, (record core id).isMute = true) (ids : List UInt64) (core : DaemonCore) :
    Course core (ids.foldl (fun core id => (core.appendLocked (record core id)).1) core) := by
  induction ids generalizing core with
  | nil => exact .refl core
  | cons id rest ih => exact (Course.log (mute core id)).trans (ih _)

theorem expireDueLocked_course (core : DaemonCore) (now : UInt64) : Course core (core.expireDueLocked now) := by
  have swept : Course core { core with grants := (core.grants.expireDue now).1 } :=
    .registry fun _ _ dated => dated.expireDue now
  exact swept.trans (foldl_appendLocked_course expiryRecord (fun _ _ => rfl) (core.grants.expireDue now).2 _)

theorem ensureSnapshotLocked_course (core : DaemonCore) : Course core core.ensureSnapshotLocked.1 := by
  simp only [ensureSnapshotLocked]
  split
  · exact .refl core
  · exact .compose

theorem maybeCheckpointLocked_course (core : DaemonCore) : Course core core.maybeCheckpointLocked.1 := by
  simp only [maybeCheckpointLocked]
  split
  · exact .refl core
  · rename_i held
    split
    · exact .refl core
    · split
      · exact .refl core
      · split
        · exact .refl core
        · rename_i valid
          exact .checkpoint held (by simpa using valid)

theorem submitEvidence_course (core : DaemonCore) (now : UInt64) (records : List EvidenceRecord) :
    Course core (core.submitEvidence now records).1 := by
  simp only [submitEvidence]
  split
  · exact .refl core
  · split
    · exact .refl core
    · have offered := (expireDueLocked_course core now).trans (offerBatch_course _ records)
      refine Course.trans ?_ (maybeCheckpointLocked_course _)
      split
      · exact offered.trans .compose
      · exact offered

theorem compose_course (core : DaemonCore) (generation : UInt64) : Course core (core.compose generation).1 := by
  simp only [compose]
  split
  · exact .refl core
  · split
    · exact .refl core
    · have advanced : Course core (core.advanceGeneration generation).1 := .advance generation
      split
      · rename_i failed
        rwa [failed] at advanced
      · rename_i next done
        rw [done] at advanced
        have composed : Course core (next.composeLocked next.generation).1 := advanced.trans .compose
        split
        · rename_i failed
          rwa [failed] at composed
        · rename_i done
          rw [done] at composed
          exact composed.trans (maybeCheckpointLocked_course _)

theorem commitGrant_course {core : DaemonCore} (request : RequestId) {grant : Grant}
    (held : ∃ id : UInt64, core.grants.grants[id]? = some grant) : Course core (core.commitGrant request grant).1 := by
  have undone : ∀ other : DaemonCore, Course other (other.rollBack grant) := fun other =>
    .registry fun _ _ dated => dated.release grant.token
  have committed : Course core (core.appendLocked (.grantCommit grant)).1 := .commit held
  simp only [commitGrant]
  split
  · rename_i failed
    rw [failed] at committed
    exact committed.trans (undone _)
  · rename_i next done
    rw [done] at committed
    have recorded := committed.trans
      (.log (show (StoreRecord.requestOutcome (outcomeRecordOf request grant)).isMute = true from rfl))
    split
    · rename_i failed
      rw [failed] at recorded
      exact recorded.trans (undone _)
    · rename_i done
      rwa [done] at recorded

theorem acquire_course {core : DaemonCore} (keyed : core.grants.Keyed) (now : UInt64) (request : AcquireRequest) :
    Course core (core.acquire now request).1 := by
  simp only [acquire]
  have ensured := (expireDueLocked_course core now).trans (ensureSnapshotLocked_course _)
  have reached := (expireDueLocked_keeps core now).trans (ensureSnapshotLocked_keeps _)
  split
  · rename_i failed
    rwa [failed] at ensured
  · rename_i next done
    rw [done] at ensured reached
    have stands : next.grants.Keyed := reached.calls.keyed keyed
    cases acquired : next.grants.acquire next.snapshot (next.grantRequestOf request) next.incarnation now
        (lifecycleAcceptsNewAuthority next.lifecycle) with
    | mk registry granted =>
      have decided : Course core { next with grants := registry } :=
        ensured.trans (.registry fun _ current dated => (dated.acquire current acquired).1)
      cases granted with
      | error status => exact decided
      | ok grant =>
        have anything : next.grants.Dated (fun _ => True) := ⟨stands, fun _ _ _ => trivial⟩
        have held := (anything.acquire trivial acquired).2 grant rfl
        have committed := decided.trans (commitGrant_course request.request held)
        dsimp only
        split
        · rename_i failed
          rwa [failed] at committed
        · rename_i done
          rw [done] at committed
          exact committed.trans (maybeCheckpointLocked_course _)

theorem renew_course {core : DaemonCore} (keyed : core.grants.Keyed) (now : UInt64) (token : LeaseToken)
    (ttlMs : UInt64) : Course core (core.renew now token ttlMs).1 := by
  simp only [renew]
  have ensured := ensureSnapshotLocked_course core
  have reached := ensureSnapshotLocked_keeps core
  split
  · rename_i failed
    rwa [failed] at ensured
  · rename_i next done
    rw [done] at ensured reached
    have stands : next.grants.Keyed := reached.calls.keyed keyed
    cases renewed : next.grants.renew next.snapshot token
        (if ttlMs = 0 then next.config.defaultTtlMs else ttlMs) now with
    | mk registry result =>
      have decided : Course core { next with grants := registry } :=
        ensured.trans (.registry fun _ _ dated => (dated.renew renewed).1)
      cases result with
      | error status => exact decided
      | ok grant =>
        have anything : next.grants.Dated (fun _ => True) := ⟨stands, fun _ _ _ => trivial⟩
        have held := (anything.renew renewed).2 grant rfl
        have committed : Course core (({ next with grants := registry } : DaemonCore).appendLocked
            (.grantCommit grant)).1 := decided.trans (.commit ⟨_, held⟩)
        dsimp only
        split
        · rename_i failed
          rwa [failed] at committed
        · rename_i done
          rw [done] at committed
          exact committed.trans (maybeCheckpointLocked_course _)

theorem release_course (core : DaemonCore) (token : LeaseToken) : Course core (core.release token).1 := by
  unfold release
  split
  rename_i registry result releasing
  extract_lets held reason
  have decided : Course core held := by
    refine .registry fun _ _ dated => ?_
    have released := dated.release token
    rwa [releasing] at released
  split
  · exact decided
  · have ended := decided.trans
      (.log (show (StoreRecord.grantState ⟨token.grant, .released, reason⟩).isMute = true from rfl))
    split
    · rename_i failed
      rwa [failed] at ended
    · rename_i done
      rw [done] at ended
      exact ended.trans (maybeCheckpointLocked_course _)

theorem validate_course (core : DaemonCore) (now : UInt64) (token : LeaseToken) :
    Course core (core.validate now token).1 := by
  simp only [validate]
  have ensured := ensureSnapshotLocked_course core
  split
  · rename_i failed
    rwa [failed] at ensured
  · rename_i done
    rw [done] at ensured
    split <;> exact ensured

theorem ensureSnapshotLocked_published {core next : DaemonCore} (done : core.ensureSnapshotLocked = (next, .ok ())) :
    next.snapshot.valid = true := by
  simp only [ensureSnapshotLocked] at done
  split at done
  · rename_i valid
    cases done
    exact valid
  · exact (composeLocked_composedUnder done).1

theorem checkpoint_course (core : DaemonCore) : Course core core.checkpoint.1 := by
  have ensured := ensureSnapshotLocked_course core
  cases held : core.store with
  | none =>
    simp only [checkpoint, held]
    exact .refl core
  | some store =>
    simp only [checkpoint, held]
    split
    · rename_i failed
      rwa [failed] at ensured
    · rename_i next done
      have valid := ensureSnapshotLocked_published done
      rw [done] at ensured
      split
      · exact ensured
      · rename_i there
        have written := ensured.trans (.checkpoint there valid)
        split
        · rename_i failed
          rwa [failed] at written
        · rename_i done
          rwa [done] at written

theorem serveLifecycle_course (core : DaemonCore) (now : UInt64) (previous target : LifecycleState) :
    Course core (core.serveLifecycle now previous target).1 := by
  simp only [serveLifecycle]
  split
  · have composed : Course core (core.composeLocked core.generation).1 := .compose
    split
    · rename_i failed
      rwa [failed] at composed
    · rename_i next done
      rw [done] at composed
      refine composed.trans (.keep ?_)
      split
      · exact ⟨rfl, rfl, rfl, rfl, fun _ _ dated => (dated.revalidate _ _ _).resumeAll _ _⟩
      · exact ⟨rfl, rfl, rfl, rfl, fun _ _ dated => dated.resumeAll _ _⟩
  · exact .refl core

theorem enterLifecycle_course (core : DaemonCore) (target : LifecycleState) :
    Course core (core.enterLifecycle target) := by
  unfold enterLifecycle
  dsimp only
  split
  · exact .keep ⟨rfl, rfl, rfl, rfl, fun _ _ dated => dated.suspendAll _⟩
  · split
    · exact .keep ⟨rfl, rfl, rfl, rfl, fun _ _ dated => dated.fenceAll _⟩
    · exact .keep ⟨rfl, rfl, rfl, rfl, fun _ _ dated => dated⟩

theorem transitionLifecycleLocked_course (core : DaemonCore) (now : UInt64) (target : LifecycleState) :
    Course core (core.transitionLifecycleLocked now target).1 := by
  simp only [transitionLifecycleLocked]
  have served := (enterLifecycle_course core target).trans (serveLifecycle_course _ now core.lifecycle target)
  split
  · rename_i failed
    rwa [failed] at served
  · rename_i next done
    rw [done] at served
    have logged : Course core (next.appendLocked (.lifecycle ⟨target, next.generation, next.epoch⟩)).1 :=
      served.trans (.mark target)
    split
    · rename_i failed
      rwa [failed] at logged
    · rename_i done
      rw [done] at logged
      exact logged.trans (maybeCheckpointLocked_course _)

/-- Every command moves the counters step by step. -/
theorem exec_course {core : DaemonCore} (keyed : core.grants.Keyed) (now : UInt64) (command : Command) :
    Course core (core.exec now command).1 := by
  cases command with
  | submitEvidence records => exact submitEvidence_course core now records
  | compose generation => exact compose_course core generation
  | acquire request => exact acquire_course keyed now request
  | renew token ttlMs => exact renew_course keyed now token ttlMs
  | release token => exact release_course core token
  | validate token => exact validate_course core now token
  | lookup request => exact .refl core
  | setLifecycle target =>
    change Course core (core.setLifecycle now target).1
    cases allowed : lifecycleTransitionAllowed core.lifecycle target with
    | false =>
      rw [setLifecycle_refused allowed]
      exact .refl core
    | true =>
      rw [setLifecycle_moves allowed]
      exact transitionLifecycleLocked_course core now target
  | checkpoint => exact checkpoint_course core
  | expireDue => exact expireDueLocked_course core now

end DaemonCore

end RackFabric
