import RackFabric.Authority.Calls
import RackFabric.Runtime.System

/-!
What a command leaves alone. Only a lifecycle command moves the lifecycle, and a snapshot is replaced only by
one composed under the lifecycle of the moment.
-/

namespace RackFabric

/-- A published snapshot that was composed under a lifecycle. -/
def Snapshot.ComposedUnder (snapshot : Snapshot) (lifecycle : LifecycleState) : Prop :=
  snapshot.valid = true ∧ snapshot.lifecycle = lifecycle

namespace DaemonCore

/-- Everything a call keeps that does not move the lifecycle. -/
structure Keeps (before after : DaemonCore) : Prop where
  config : after.config = before.config
  lifecycle : after.lifecycle = before.lifecycle
  incarnation : after.incarnation = before.incarnation
  snapshot : after.snapshot = before.snapshot ∨ after.snapshot.ComposedUnder before.lifecycle
  calls : GrantRegistry.Calls (lifecycleAcceptsNewAuthority before.lifecycle) before.grants after.grants

theorem Keeps.refl (core : DaemonCore) : Keeps core core :=
  ⟨rfl, rfl, rfl, .inl rfl, .refl⟩

theorem Keeps.trans {first second third : DaemonCore} (earlier : Keeps first second)
    (later : Keeps second third) : Keeps first third := by
  have calls := later.calls
  rw [earlier.lifecycle] at calls
  refine ⟨later.config.trans earlier.config, later.lifecycle.trans earlier.lifecycle,
    later.incarnation.trans earlier.incarnation, ?_, earlier.calls.trans calls⟩
  rcases later.snapshot with same | composed
  · rw [same]
    exact earlier.snapshot
  · rw [earlier.lifecycle] at composed
    exact .inr composed

theorem keeps_store (core : DaemonCore) (store : Option Store) : Keeps core { core with store := store } :=
  ⟨rfl, rfl, rfl, .inl rfl, .refl⟩

theorem keeps_call (core : DaemonCore) {grants : GrantRegistry}
    (call : GrantRegistry.Call (lifecycleAcceptsNewAuthority core.lifecycle) core.grants grants) :
    Keeps core { core with grants := grants } :=
  ⟨rfl, rfl, rfl, .inl rfl, .single call⟩

/-- An append reaches nothing but the store. -/
theorem appendLocked_store (core : DaemonCore) (record : StoreRecord) :
    ∃ store, (core.appendLocked record).1 = { core with store := store } := by
  unfold appendLocked
  split
  · exact ⟨core.store, rfl⟩
  · exact ⟨_, rfl⟩

theorem checkpointLocked_store (core : DaemonCore) (store : Store) :
    ∃ next, (core.checkpointLocked store).1 = { core with store := next } := by
  unfold checkpointLocked
  split
  · exact ⟨core.store, rfl⟩
  · exact ⟨_, rfl⟩

theorem maybeCheckpointLocked_store (core : DaemonCore) :
    ∃ store, core.maybeCheckpointLocked.1 = { core with store := store } := by
  unfold maybeCheckpointLocked
  split
  · exact ⟨core.store, rfl⟩
  · split
    · exact ⟨core.store, rfl⟩
    · split
      · exact ⟨core.store, rfl⟩
      · split
        · exact ⟨core.store, rfl⟩
        · exact checkpointLocked_store core _

theorem foldl_appendLocked_store (record : DaemonCore → UInt64 → StoreRecord) (ids : List UInt64)
    (core : DaemonCore) :
    ∃ store, ids.foldl (fun core id => (core.appendLocked (record core id)).1) core =
      { core with store := store } := by
  induction ids generalizing core with
  | nil => exact ⟨core.store, rfl⟩
  | cons id rest ih =>
    obtain ⟨store, appended⟩ := appendLocked_store core (record core id)
    obtain ⟨final, folded⟩ := ih (core.appendLocked (record core id)).1
    refine ⟨final, ?_⟩
    rw [List.foldl_cons, folded, appended]

theorem expireDueLocked_store (core : DaemonCore) (now : UInt64) :
    ∃ store, core.expireDueLocked now =
      { core with grants := (core.grants.expireDue now).1, store := store } := by
  obtain ⟨store, folded⟩ := foldl_appendLocked_store expiryRecord (core.grants.expireDue now).2
    { core with grants := (core.grants.expireDue now).1 }
  exact ⟨store, folded⟩

theorem offerEvidence_ledger (core : DaemonCore) (record : EvidenceRecord) :
    ∃ ledger store, (core.offerEvidence record).1 = { core with ledger := ledger, store := store } := by
  unfold offerEvidence
  split
  · exact ⟨core.ledger, core.store, rfl⟩
  · split
    · exact ⟨core.ledger, core.store, rfl⟩
    · obtain ⟨store, appended⟩ := appendLocked_store core (.evidence record)
      split
      · rename_i refused
        rw [refused] at appended
        exact ⟨core.ledger, store, appended⟩
      · rename_i next done
        rw [done] at appended
        obtain rfl : next = { core with store := store } := appended
        exact ⟨_, store, rfl⟩

theorem offerBatch_ledger (core : DaemonCore) (records : List EvidenceRecord) :
    ∃ ledger store, (core.offerBatch records).1 = { core with ledger := ledger, store := store } := by
  induction records generalizing core with
  | nil => exact ⟨core.ledger, core.store, rfl⟩
  | cons record rest ih =>
    obtain ⟨ledger, store, offered⟩ := offerEvidence_ledger core record
    obtain ⟨finalLedger, finalStore, batched⟩ := ih (core.offerEvidence record).1
    refine ⟨finalLedger, finalStore, ?_⟩
    rw [offerBatch, batched, offered]

theorem publish_composedUnder {core : DaemonCore} {ledger : EvidenceLedger} {rack : RackConfig}
    {request : ComposeInput} {outcome : ComposeOutcome}
    (composed : RackFabric.compose ledger rack request = .ok outcome) :
    (core.publish outcome.snapshot).snapshot.ComposedUnder request.lifecycle := by
  obtain ⟨data, handle, -, -, -, lifecycle⟩ := compose_header composed
  refine ⟨?_, ?_⟩
  · simp [publish, Snapshot.valid, handle]
  · simp [publish, Snapshot.lifecycle, Snapshot.data, handle, lifecycle]

theorem advanceEpoch_keeps (core : DaemonCore) (target : UInt64) (digest : Digest) :
    Keeps core (core.advanceEpoch target digest).1 := by
  unfold advanceEpoch
  split
  · exact .refl core
  · extract_lets advanced
    have bumped : Keeps core advanced := ⟨rfl, rfl, rfl, .inl rfl, .refl⟩
    obtain ⟨store, appended⟩ := appendLocked_store advanced (.epoch ⟨advanced.epoch, digest⟩)
    split
    · rename_i refused
      rw [refused] at appended
      exact bumped.trans (appended ▸ keeps_store advanced store)
    · rename_i next done
      rw [done] at appended
      obtain rfl : next = { advanced with store := store } := appended
      split
      · exact bumped.trans (keeps_store advanced store)
      · rename_i composed
        exact ⟨rfl, rfl, rfl, .inr (publish_composedUnder composed), .refl⟩

theorem composeLocked_keeps (core : DaemonCore) (target : UInt64) :
    Keeps core (core.composeLocked target).1 := by
  unfold composeLocked
  split
  · exact .refl core
  · split
    · exact .refl core
    · rename_i composed
      extract_lets found
      split
      · exact ⟨rfl, rfl, rfl, .inr (publish_composedUnder composed), .refl⟩
      · split
        · exact advanceEpoch_keeps core target found
        · exact ⟨rfl, rfl, rfl, .inr (publish_composedUnder composed), .refl⟩

theorem appendLocked_keeps (core : DaemonCore) (record : StoreRecord) :
    Keeps core (core.appendLocked record).1 := by
  obtain ⟨store, appended⟩ := appendLocked_store core record
  exact appended ▸ keeps_store core store

theorem advanceEpoch_composedUnder {core next : DaemonCore} {target : UInt64} {digest : Digest}
    (advanced : core.advanceEpoch target digest = (next, .ok ())) :
    next.snapshot.ComposedUnder core.lifecycle := by
  unfold advanceEpoch at advanced
  split at advanced
  · cases advanced
  · have kept := appendLocked_keeps { core with epoch := core.epoch + 1, memberSetDigest := digest }
      (.epoch ⟨core.epoch + 1, digest⟩)
    dsimp only at advanced kept
    split at advanced
    · cases advanced
    · rename_i logged done
      rw [done] at kept
      split at advanced
      · cases advanced
      · rename_i composed
        cases advanced
        rw [← kept.lifecycle]
        exact publish_composedUnder composed

/-- A composition that succeeds publishes a snapshot of the current lifecycle. -/
theorem composeLocked_composedUnder {core next : DaemonCore} {target : UInt64}
    (composed : core.composeLocked target = (next, .ok ())) : next.snapshot.ComposedUnder core.lifecycle := by
  unfold composeLocked at composed
  split at composed
  · cases composed
  · split at composed
    · cases composed
    · rename_i first
      dsimp only at composed
      split at composed
      · cases composed
        exact publish_composedUnder first
      · split at composed
        · exact advanceEpoch_composedUnder composed
        · cases composed
          exact publish_composedUnder first

theorem ensureSnapshotLocked_keeps (core : DaemonCore) : Keeps core core.ensureSnapshotLocked.1 := by
  unfold ensureSnapshotLocked
  split
  · exact .refl core
  · exact composeLocked_keeps core core.generation

theorem maybeCheckpointLocked_keeps (core : DaemonCore) : Keeps core core.maybeCheckpointLocked.1 := by
  obtain ⟨store, written⟩ := maybeCheckpointLocked_store core
  exact written ▸ keeps_store core store

theorem expireDueLocked_keeps (core : DaemonCore) (now : UInt64) : Keeps core (core.expireDueLocked now) := by
  obtain ⟨store, expired⟩ := expireDueLocked_store core now
  rw [expired]
  exact (keeps_call core (.expireDue core.grants now)).trans (keeps_store _ store)

theorem submitEvidence_keeps (core : DaemonCore) (now : UInt64) (records : List EvidenceRecord) :
    Keeps core (core.submitEvidence now records).1 := by
  unfold submitEvidence
  split
  · exact .refl core
  · split
    · exact .refl core
    · obtain ⟨ledger, store, batched⟩ := offerBatch_ledger (core.expireDueLocked now) records
      have offered : Keeps core ((core.expireDueLocked now).offerBatch records).1 :=
        (expireDueLocked_keeps core now).trans (batched ▸ ⟨rfl, rfl, rfl, .inl rfl, .refl⟩)
      refine Keeps.trans ?_ (maybeCheckpointLocked_keeps _)
      split
      · exact offered.trans (composeLocked_keeps _ _)
      · exact offered

theorem advanceGeneration_keeps (core : DaemonCore) (generation : UInt64) :
    Keeps core (core.advanceGeneration generation).1 := by
  unfold advanceGeneration
  split
  · have appended := appendLocked_keeps core (.generation generation)
    split
    · rename_i refused
      rwa [refused] at appended
    · rename_i done
      rw [done] at appended
      exact ⟨appended.config, appended.lifecycle, appended.incarnation, appended.snapshot, appended.calls⟩
  · exact .refl core

theorem compose_keeps (core : DaemonCore) (generation : UInt64) : Keeps core (core.compose generation).1 := by
  unfold compose
  split
  · exact .refl core
  · split
    · exact .refl core
    · have advanced := advanceGeneration_keeps core generation
      split
      · rename_i refused
        rwa [refused] at advanced
      · rename_i next done
        rw [done] at advanced
        have composed := composeLocked_keeps next next.generation
        split
        · rename_i refused
          rw [refused] at composed
          exact advanced.trans composed
        · rename_i done
          rw [done] at composed
          exact (advanced.trans composed).trans (maybeCheckpointLocked_keeps _)

theorem commitGrant_keeps (core : DaemonCore) (request : RequestId) (grant : Grant) :
    Keeps core (core.commitGrant request grant).1 := by
  unfold commitGrant
  have committed := appendLocked_keeps core (.grantCommit grant)
  split
  · rename_i refused
    rw [refused] at committed
    exact committed.trans (keeps_call _ (.release _ _))
  · rename_i next done
    rw [done] at committed
    have recorded := appendLocked_keeps next (.requestOutcome (outcomeRecordOf request grant))
    split
    · rename_i refused
      rw [refused] at recorded
      exact (committed.trans recorded).trans (keeps_call _ (.release _ _))
    · rename_i done
      rw [done] at recorded
      exact committed.trans recorded

theorem acquire_keeps (core : DaemonCore) (now : UInt64) (request : AcquireRequest) :
    Keeps core (core.acquire now request).1 := by
  unfold acquire
  extract_lets expired
  have ensured := (expireDueLocked_keeps core now).trans (ensureSnapshotLocked_keeps expired)
  split
  · rename_i refused
    rwa [refused] at ensured
  · rename_i next done
    rw [done] at ensured
    extract_lets allowNew
    split
    rename_i registry granted acquired
    have call := GrantRegistry.Call.acquire next.grants next.snapshot (next.grantRequestOf request)
      next.incarnation now allowNew id
    rw [acquired] at call
    have decided : Keeps core { next with grants := registry } := ensured.trans (keeps_call next call)
    extract_lets held
    split
    · exact decided
    · rename_i grant
      have committed := decided.trans (commitGrant_keeps held request.request grant)
      split
      · rename_i refused
        rwa [refused] at committed
      · rename_i done
        rw [done] at committed
        exact committed.trans (maybeCheckpointLocked_keeps _)

theorem renew_keeps (core : DaemonCore) (now : UInt64) (token : LeaseToken) (ttlMs : UInt64) :
    Keeps core (core.renew now token ttlMs).1 := by
  unfold renew
  have ensured := ensureSnapshotLocked_keeps core
  split
  · rename_i refused
    rwa [refused] at ensured
  · rename_i next done
    rw [done] at ensured
    extract_lets ttl
    split
    rename_i registry renewed renewing
    have call : GrantRegistry.Call (lifecycleAcceptsNewAuthority next.lifecycle) next.grants _ :=
      .renew next.grants next.snapshot token ttl now
    rw [renewing] at call
    have decided : Keeps core { next with grants := registry } := ensured.trans (keeps_call next call)
    extract_lets held
    split
    · exact decided
    · rename_i grant
      have committed := decided.trans (appendLocked_keeps held (.grantCommit grant))
      split
      · rename_i refused
        rwa [refused] at committed
      · rename_i done
        rw [done] at committed
        exact committed.trans (maybeCheckpointLocked_keeps _)

theorem release_keeps (core : DaemonCore) (token : LeaseToken) : Keeps core (core.release token).1 := by
  unfold release
  split
  rename_i registry released releasing
  have call : GrantRegistry.Call (lifecycleAcceptsNewAuthority core.lifecycle) core.grants _ :=
    .release core.grants token
  rw [releasing] at call
  extract_lets held reason
  have decided : Keeps core held := keeps_call core call
  split
  · exact decided
  · have ended := decided.trans (appendLocked_keeps held (.grantState ⟨token.grant, .released, reason⟩))
    split
    · rename_i refused
      rwa [refused] at ended
    · rename_i done
      rw [done] at ended
      exact ended.trans (maybeCheckpointLocked_keeps _)

theorem validate_keeps (core : DaemonCore) (now : UInt64) (token : LeaseToken) :
    Keeps core (core.validate now token).1 := by
  unfold validate
  have ensured := ensureSnapshotLocked_keeps core
  split
  · rename_i refused
    rwa [refused] at ensured
  · rename_i done
    rw [done] at ensured
    split <;> exact ensured

theorem checkpoint_keeps (core : DaemonCore) : Keeps core core.checkpoint.1 := by
  unfold checkpoint
  split
  · exact .refl core
  · have ensured := ensureSnapshotLocked_keeps core
    split
    · rename_i refused
      rwa [refused] at ensured
    · rename_i next done
      rw [done] at ensured
      split
      · exact ensured
      · rename_i store _
        obtain ⟨final, written⟩ := checkpointLocked_store next store
        have kept : Keeps core (next.checkpointLocked store).1 := by
          rw [written]
          exact ensured.trans (keeps_store next final)
        split
        · rename_i refused
          rwa [refused] at kept
        · rename_i done
          rwa [done] at kept

/-- Every command but a lifecycle command keeps the lifecycle. -/
theorem exec_keeps (core : DaemonCore) (now : UInt64) (command : Command)
    (other : ∀ target, command ≠ .setLifecycle target) : Keeps core (core.exec now command).1 := by
  cases command with
  | submitEvidence records => exact submitEvidence_keeps core now records
  | compose generation => exact compose_keeps core generation
  | acquire request => exact acquire_keeps core now request
  | renew token ttlMs => exact renew_keeps core now token ttlMs
  | release token => exact release_keeps core token
  | validate token => exact validate_keeps core now token
  | lookup request => exact .refl core
  | setLifecycle target => exact absurd rfl (other target)
  | checkpoint => exact checkpoint_keeps core
  | expireDue => exact expireDueLocked_keeps core now

/-- Entering a lifecycle moves it and touches grants, nothing else. -/
theorem enterLifecycle_eq (core : DaemonCore) (target : LifecycleState) :
    ∃ grants, core.enterLifecycle target = { core with lifecycle := target, grants := grants } := by
  unfold enterLifecycle
  extract_lets entered
  split
  · exact ⟨_, rfl⟩
  · split
    · exact ⟨_, rfl⟩
    · exact ⟨core.grants, rfl⟩

theorem enterLifecycle_calls (core : DaemonCore) (target : LifecycleState) (open_ : Bool) :
    GrantRegistry.Calls open_ core.grants (core.enterLifecycle target).grants := by
  unfold enterLifecycle
  extract_lets entered
  split
  · exact .single (.suspendAll core.grants _)
  · split
    · exact .single (.fenceAll core.grants _)
    · exact .refl

theorem serveLifecycle_keeps (core : DaemonCore) (now : UInt64) (previous target : LifecycleState) :
    Keeps core (core.serveLifecycle now previous target).1 := by
  unfold serveLifecycle
  split
  · have composed := composeLocked_keeps core core.generation
    split
    · rename_i refused
      rwa [refused] at composed
    · rename_i next done
      rw [done] at composed
      refine composed.trans ?_
      split
      · exact (keeps_call next (.revalidate next.grants next.snapshot next.incarnation now)).trans
          (keeps_call _ (.resumeAll _ _ now))
      · exact keeps_call next (.resumeAll next.grants next.snapshot now)
  · exact .refl core

theorem transitionLifecycleLocked_keeps (core : DaemonCore) (now : UInt64) (target : LifecycleState) :
    Keeps (core.enterLifecycle target) (core.transitionLifecycleLocked now target).1 := by
  unfold transitionLifecycleLocked
  have served := serveLifecycle_keeps (core.enterLifecycle target) now core.lifecycle target
  split
  · rename_i refused
    rwa [refused] at served
  · rename_i next done
    rw [done] at served
    have appended := served.trans (appendLocked_keeps next (.lifecycle ⟨target, next.generation, next.epoch⟩))
    split
    · rename_i refused
      rwa [refused] at appended
    · rename_i done
      rw [done] at appended
      exact appended.trans (maybeCheckpointLocked_keeps _)

/-- After an allowed lifecycle command the lifecycle is the target, whatever the command answers. -/
theorem setLifecycle_moves {core : DaemonCore} {now : UInt64} {target : LifecycleState}
    (allowed : lifecycleTransitionAllowed core.lifecycle target = true) :
    (core.setLifecycle now target).1 = (core.transitionLifecycleLocked now target).1 := by
  simp only [setLifecycle, allowed, Bool.not_true, Bool.false_eq_true, if_false]
  split <;> rename_i done <;> rw [done]

theorem setLifecycle_refused {core : DaemonCore} {now : UInt64} {target : LifecycleState}
    (refused : lifecycleTransitionAllowed core.lifecycle target = false) :
    (core.setLifecycle now target).1 = core := by
  simp [setLifecycle, refused]

/-- Every command works on the registry through its calls. -/
theorem exec_calls (core : DaemonCore) (now : UInt64) (command : Command) :
    GrantRegistry.Calls true core.grants (core.exec now command).1.grants := by
  by_cases transition : ∃ target, command = .setLifecycle target
  · obtain ⟨target, rfl⟩ := transition
    have same : (core.exec now (.setLifecycle target)).1 = (core.setLifecycle now target).1 := rfl
    rw [same]
    cases allowed : lifecycleTransitionAllowed core.lifecycle target with
    | false =>
      rw [setLifecycle_refused allowed]
    | true =>
      rw [setLifecycle_moves allowed]
      exact (enterLifecycle_calls core target true).trans (transitionLifecycleLocked_keeps core now target).calls.widen
  · exact (exec_keeps core now command (fun target same => transition ⟨target, same⟩)).calls.widen

end DaemonCore

end RackFabric
