import RackFabric.Runtime.Frame

/-!
How a command moves the ledger and the store together: every record of evidence is logged before it is inserted,
other records leave the ledger alone, and a checkpoint is taken of the ledger as it stands.
-/

namespace RackFabric

/-- Records that say nothing about evidence or the rack a log belongs to. -/
def StoreRecord.isSilent : StoreRecord → Bool
  | .evidence _ | .rackBind _ => false
  | _ => true

namespace DaemonCore

/-- The ledger and the store through a stretch of a call, one durable step at a time. -/
inductive Books : DaemonCore → DaemonCore → Prop where
  | keep {before after : DaemonCore} (ledger : after.ledger = before.ledger) (store : after.store = before.store) :
      Books before after
  | log {before : DaemonCore} {record : StoreRecord} (silent : record.isSilent = true) :
      Books before (before.appendLocked record).1
  | refuse {before after : DaemonCore} {record : EvidenceRecord} {status : Status}
      (failed : before.appendLocked (.evidence record) = (after, .error status)) : Books before after
  | accept {before logged : DaemonCore} {record : EvidenceRecord} (valid : validateEvidence record = .ok ())
      (done : before.appendLocked (.evidence record) = (logged, .ok ())) :
      Books before { logged with ledger := (logged.ledger.insert record).1 }
  | checkpoint {before : DaemonCore} {store : Store} (held : before.store = some store) :
      Books before (before.checkpointLocked store).1
  | trans {first second third : DaemonCore} (earlier : Books first second) (later : Books second third) :
      Books first third

theorem Books.refl (core : DaemonCore) : Books core core := .keep rfl rfl

theorem offerEvidence_books (core : DaemonCore) (record : EvidenceRecord) :
    Books core (core.offerEvidence record).1 := by
  simp only [offerEvidence]
  split
  · exact .refl core
  · rename_i valid
    split
    · exact .refl core
    · split
      · rename_i failed
        exact .refuse failed
      · rename_i done
        exact .accept valid done

theorem offerBatch_books (core : DaemonCore) (records : List EvidenceRecord) :
    Books core (core.offerBatch records).1 := by
  induction records generalizing core with
  | nil => exact .refl core
  | cons record rest ih => exact (offerEvidence_books core record).trans (ih _)

theorem foldl_appendLocked_books (record : DaemonCore → UInt64 → StoreRecord)
    (silent : ∀ core id, (record core id).isSilent = true) (ids : List UInt64) (core : DaemonCore) :
    Books core (ids.foldl (fun core id => (core.appendLocked (record core id)).1) core) := by
  induction ids generalizing core with
  | nil => exact .refl core
  | cons id rest ih => exact (Books.log (silent core id)).trans (ih _)

theorem expireDueLocked_books (core : DaemonCore) (now : UInt64) : Books core (core.expireDueLocked now) := by
  have swept : Books core { core with grants := (core.grants.expireDue now).1 } := .keep rfl rfl
  exact swept.trans (foldl_appendLocked_books expiryRecord (fun _ _ => rfl) (core.grants.expireDue now).2 _)

theorem advanceEpoch_books (core : DaemonCore) (target : UInt64) (digest : Digest) :
    Books core (core.advanceEpoch target digest).1 := by
  simp only [advanceEpoch]
  split
  · exact .refl core
  · have advanced : Books core { core with epoch := core.epoch + 1, memberSetDigest := digest } := .keep rfl rfl
    have logged := advanced.trans (.log (show (StoreRecord.epoch ⟨core.epoch + 1, digest⟩).isSilent = true from rfl))
    split
    · rename_i failed
      rwa [failed] at logged
    · rename_i done
      rw [done] at logged
      split
      · exact logged
      · exact logged.trans (.keep rfl rfl)

theorem composeLocked_books (core : DaemonCore) (target : UInt64) : Books core (core.composeLocked target).1 := by
  simp only [composeLocked]
  split
  · exact .refl core
  · split
    · exact .refl core
    · split
      · exact .keep rfl rfl
      · split
        · exact advanceEpoch_books core target _
        · exact .keep rfl rfl

theorem ensureSnapshotLocked_books (core : DaemonCore) : Books core core.ensureSnapshotLocked.1 := by
  simp only [ensureSnapshotLocked]
  split
  · exact .refl core
  · exact composeLocked_books core core.generation

theorem maybeCheckpointLocked_books (core : DaemonCore) : Books core core.maybeCheckpointLocked.1 := by
  simp only [maybeCheckpointLocked]
  split
  · exact .refl core
  · rename_i held
    split
    · exact .refl core
    · split
      · exact .refl core
      · split
        · exact .refl core
        · exact .checkpoint held

theorem submitEvidence_books (core : DaemonCore) (now : UInt64) (records : List EvidenceRecord) :
    Books core (core.submitEvidence now records).1 := by
  simp only [submitEvidence]
  split
  · exact .refl core
  · split
    · exact .refl core
    · have offered := (expireDueLocked_books core now).trans (offerBatch_books _ records)
      refine Books.trans ?_ (maybeCheckpointLocked_books _)
      split
      · exact offered.trans (composeLocked_books _ _)
      · exact offered

theorem advanceGeneration_books (core : DaemonCore) (generation : UInt64) :
    Books core (core.advanceGeneration generation).1 := by
  simp only [advanceGeneration]
  split
  · have logged : Books core (core.appendLocked (.generation generation)).1 := .log rfl
    split
    · rename_i failed
      rwa [failed] at logged
    · rename_i done
      rw [done] at logged
      exact logged.trans (.keep rfl rfl)
  · exact .refl core

theorem compose_books (core : DaemonCore) (generation : UInt64) : Books core (core.compose generation).1 := by
  simp only [compose]
  split
  · exact .refl core
  · split
    · exact .refl core
    · have advanced := advanceGeneration_books core generation
      split
      · rename_i failed
        rwa [failed] at advanced
      · rename_i next done
        rw [done] at advanced
        have composed := advanced.trans (composeLocked_books next next.generation)
        split
        · rename_i failed
          rwa [failed] at composed
        · rename_i done
          rw [done] at composed
          exact composed.trans (maybeCheckpointLocked_books _)

theorem commitGrant_books (core : DaemonCore) (request : RequestId) (grant : Grant) :
    Books core (core.commitGrant request grant).1 := by
  simp only [commitGrant]
  have committed : Books core (core.appendLocked (.grantCommit grant)).1 := .log rfl
  split
  · rename_i failed
    rw [failed] at committed
    exact committed.trans (.keep rfl rfl)
  · rename_i next done
    rw [done] at committed
    have recorded := committed.trans
      (.log (show (StoreRecord.requestOutcome (outcomeRecordOf request grant)).isSilent = true from rfl))
    split
    · rename_i failed
      rw [failed] at recorded
      exact recorded.trans (.keep rfl rfl)
    · rename_i done
      rwa [done] at recorded

theorem acquire_books (core : DaemonCore) (now : UInt64) (request : AcquireRequest) :
    Books core (core.acquire now request).1 := by
  simp only [acquire]
  have ensured := (expireDueLocked_books core now).trans (ensureSnapshotLocked_books _)
  split
  · rename_i failed
    rwa [failed] at ensured
  · rename_i next done
    rw [done] at ensured
    cases acquired : next.grants.acquire next.snapshot (next.grantRequestOf request) next.incarnation now
        (lifecycleAcceptsNewAuthority next.lifecycle) with
    | mk registry granted =>
      have decided : Books core { next with grants := registry } := ensured.trans (.keep rfl rfl)
      cases granted with
      | error status => exact decided
      | ok grant =>
        have committed := decided.trans (commitGrant_books _ request.request grant)
        dsimp only
        split
        · rename_i failed
          rwa [failed] at committed
        · rename_i done
          rw [done] at committed
          exact committed.trans (maybeCheckpointLocked_books _)

theorem renew_books (core : DaemonCore) (now : UInt64) (token : LeaseToken) (ttlMs : UInt64) :
    Books core (core.renew now token ttlMs).1 := by
  simp only [renew]
  have ensured := ensureSnapshotLocked_books core
  split
  · rename_i failed
    rwa [failed] at ensured
  · rename_i next done
    rw [done] at ensured
    cases renewed : next.grants.renew next.snapshot token
        (if ttlMs = 0 then next.config.defaultTtlMs else ttlMs) now with
    | mk registry result =>
      have decided : Books core { next with grants := registry } := ensured.trans (.keep rfl rfl)
      cases result with
      | error status => exact decided
      | ok grant =>
        have committed := decided.trans (.log (show (StoreRecord.grantCommit grant).isSilent = true from rfl))
        dsimp only
        split
        · rename_i failed
          rwa [failed] at committed
        · rename_i done
          rw [done] at committed
          exact committed.trans (maybeCheckpointLocked_books _)

theorem release_books (core : DaemonCore) (token : LeaseToken) : Books core (core.release token).1 := by
  unfold release
  split
  extract_lets held reason
  have decided : Books core held := .keep rfl rfl
  split
  · exact decided
  · have ended := decided.trans
      (.log (show (StoreRecord.grantState ⟨token.grant, .released, reason⟩).isSilent = true from rfl))
    split
    · rename_i failed
      rwa [failed] at ended
    · rename_i done
      rw [done] at ended
      exact ended.trans (maybeCheckpointLocked_books _)

theorem validate_books (core : DaemonCore) (now : UInt64) (token : LeaseToken) :
    Books core (core.validate now token).1 := by
  simp only [validate]
  have ensured := ensureSnapshotLocked_books core
  split
  · rename_i failed
    rwa [failed] at ensured
  · rename_i done
    rw [done] at ensured
    split <;> exact ensured

theorem checkpoint_books (core : DaemonCore) : Books core core.checkpoint.1 := by
  simp only [checkpoint]
  split
  · exact .refl core
  · have ensured := ensureSnapshotLocked_books core
    split
    · rename_i failed
      rwa [failed] at ensured
    · rename_i next done
      rw [done] at ensured
      split
      · exact ensured
      · rename_i held
        have written := ensured.trans (.checkpoint held)
        split
        · rename_i failed
          rwa [failed] at written
        · rename_i done
          rwa [done] at written

theorem serveLifecycle_books (core : DaemonCore) (now : UInt64) (previous target : LifecycleState) :
    Books core (core.serveLifecycle now previous target).1 := by
  simp only [serveLifecycle]
  split
  · have composed := composeLocked_books core core.generation
    split
    · rename_i failed
      rwa [failed] at composed
    · rename_i done
      rw [done] at composed
      refine composed.trans ?_
      split <;> exact .keep rfl rfl
  · exact .refl core

theorem transitionLifecycleLocked_books (core : DaemonCore) (now : UInt64) (target : LifecycleState) :
    Books core (core.transitionLifecycleLocked now target).1 := by
  simp only [transitionLifecycleLocked]
  have entered : Books core (core.enterLifecycle target) := by
    obtain ⟨grants, same⟩ := enterLifecycle_eq core target
    exact .keep (by rw [same]) (by rw [same])
  have served := entered.trans (serveLifecycle_books _ now core.lifecycle target)
  split
  · rename_i failed
    rwa [failed] at served
  · rename_i next done
    rw [done] at served
    have logged := served.trans
      (.log (show (StoreRecord.lifecycle ⟨target, next.generation, next.epoch⟩).isSilent = true from rfl))
    split
    · rename_i failed
      rwa [failed] at logged
    · rename_i done
      rw [done] at logged
      exact logged.trans (maybeCheckpointLocked_books _)

/-- Every command moves the ledger and the store step by step. -/
theorem exec_books (core : DaemonCore) (now : UInt64) (command : Command) :
    Books core (core.exec now command).1 := by
  cases command with
  | submitEvidence records => exact submitEvidence_books core now records
  | compose generation => exact compose_books core generation
  | acquire request => exact acquire_books core now request
  | renew token ttlMs => exact renew_books core now token ttlMs
  | release token => exact release_books core token
  | validate token => exact validate_books core now token
  | lookup request => exact .refl core
  | setLifecycle target =>
    change Books core (core.setLifecycle now target).1
    cases allowed : lifecycleTransitionAllowed core.lifecycle target with
    | false =>
      rw [setLifecycle_refused allowed]
      exact .refl core
    | true =>
      rw [setLifecycle_moves allowed]
      exact transitionLifecycleLocked_books core now target
  | checkpoint => exact checkpoint_books core
  | expireDue => exact expireDueLocked_books core now

end DaemonCore

end RackFabric
