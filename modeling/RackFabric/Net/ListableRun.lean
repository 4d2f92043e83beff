import RackFabric.Net.Listable
import RackFabric.Persist.Contents
import RackFabric.Runtime.QuietRun

/-!
Every grant that a process holds, and every grant and reason on its log, can be listed, in every state a run
reaches: whatever the commands were, whatever the disk answered and wherever the process died.
-/

namespace RackFabric

/-- What recovery will make a listable grant of. -/
def StoreRecord.Listable : StoreRecord → Prop
  | .grantCommit grant => grant.Listable
  | .grantState body => Detail body.reason
  | _ => True

namespace DaemonCore

structure Listable (core : DaemonCore) : Prop where
  grants : core.grants.Listable
  snapshot : core.snapshot.Named
  store : ∀ store, core.store = some store → store.Holds StoreRecord.Listable

variable {core : DaemonCore}

/-- A core with another registry, and perhaps other counters. -/
theorem Listable.move (listable : core.Listable) {next : DaemonCore} (grants : next.grants.Listable)
    (snapshot : next.snapshot = core.snapshot) (store : next.store = core.store) : next.Listable :=
  ⟨grants, snapshot ▸ listable.snapshot, store ▸ listable.store⟩

theorem Listable.append (listable : core.Listable) {record : StoreRecord} (fits : record.Listable) :
    (core.appendLocked record).1.Listable := by
  unfold appendLocked
  split
  · exact listable
  · rename_i store held
    refine ⟨listable.grants, listable.snapshot, ?_⟩
    rintro _ ⟨⟩
    exact (listable.store store held).append fits

theorem Listable.checkpointLocked (listable : core.Listable) {store : Store} (held : core.store = some store) :
    (core.checkpointLocked store).1.Listable := by
  unfold DaemonCore.checkpointLocked
  split
  · exact listable
  · refine ⟨listable.grants, listable.snapshot, ?_⟩
    rintro _ ⟨⟩
    exact (listable.store store held).writeCheckpoint _

theorem Listable.maybeCheckpoint (listable : core.Listable) : core.maybeCheckpointLocked.1.Listable := by
  unfold maybeCheckpointLocked
  split
  · exact listable
  · rename_i held
    split
    · exact listable
    split
    · exact listable
    split
    · exact listable
    · exact listable.checkpointLocked held

theorem Listable.publish (listable : core.Listable) {ledger : EvidenceLedger} {rack : RackConfig} {request : ComposeInput}
    {outcome : ComposeOutcome} (composed : RackFabric.compose ledger rack request = .ok outcome) :
    (core.publish outcome.snapshot).Listable :=
  ⟨listable.grants, compose_named composed, listable.store⟩

theorem Listable.advanceEpoch (listable : core.Listable) (target : UInt64) (digest : Digest) :
    (core.advanceEpoch target digest).1.Listable := by
  unfold DaemonCore.advanceEpoch
  split
  · exact listable
  · extract_lets advanced
    have moved : advanced.Listable := listable.move listable.grants rfl rfl
    have logged := moved.append (show (StoreRecord.epoch ⟨advanced.epoch, digest⟩).Listable from trivial)
    split
    · rename_i refused
      rwa [refused] at logged
    · rename_i done
      rw [done] at logged
      split
      · exact logged
      · rename_i composed
        exact logged.publish composed

theorem Listable.composeLocked (listable : core.Listable) (target : UInt64) : (core.composeLocked target).1.Listable := by
  unfold DaemonCore.composeLocked
  split
  · exact listable
  split
  · exact listable
  · rename_i composed
    extract_lets found
    split
    · exact ⟨listable.grants, compose_named composed, listable.store⟩
    · split
      · exact listable.advanceEpoch target found
      · exact listable.publish composed

theorem Listable.ensureSnapshot (listable : core.Listable) : core.ensureSnapshotLocked.1.Listable := by
  unfold ensureSnapshotLocked
  split
  · exact listable
  · exact listable.composeLocked core.generation

theorem Listable.reason (listable : core.Listable) (id : UInt64) {fallback : Text} (detail : Detail fallback) :
    Detail (((core.grants.grants[id]?).map Grant.reason).getD fallback) := by
  cases found : core.grants.grants[id]? with
  | none => exact detail
  | some grant => exact (listable.grants.entries id grant found).2

theorem Listable.expireDue (listable : core.Listable) (now : UInt64) : (core.expireDueLocked now).Listable := by
  have logs : ∀ (ids : List UInt64) (core : DaemonCore), core.Listable →
      (ids.foldl (fun core id => (core.appendLocked (core.expiryRecord id)).1) core).Listable := by
    intro ids
    induction ids with
    | nil => exact fun _ listable => listable
    | cons id rest ih =>
      intro core listable
      have reason := listable.reason id (show Detail (text "expired") from Printable.detail (by decide) (by decide))
      exact ih _ (listable.append (show (core.expiryRecord id).Listable from reason))
  exact logs _ _ (listable.move (listable.grants.expireDue now) rfl rfl)

theorem Listable.offerBatch (listable : core.Listable) (records : List EvidenceRecord) :
    (core.offerBatch records).1.Listable := by
  induction records generalizing core with
  | nil => exact listable
  | cons record rest ih =>
    refine @ih (core.offerEvidence record).1 ?_
    have logged := listable.append (show (StoreRecord.evidence record).Listable from trivial)
    unfold offerEvidence
    dsimp only
    split
    · exact listable
    split
    · exact listable
    · split
      · rename_i refused
        rwa [refused] at logged
      · rename_i done
        rw [done] at logged
        exact logged.move logged.grants rfl rfl

theorem Listable.submitEvidence (listable : core.Listable) (now : UInt64) (records : List EvidenceRecord) :
    (core.submitEvidence now records).1.Listable := by
  unfold DaemonCore.submitEvidence
  split
  · exact listable
  split
  · exact listable
  · have offered := (listable.expireDue now).offerBatch records
    dsimp only
    refine Listable.maybeCheckpoint ?_
    split
    · exact offered.composeLocked _
    · exact offered

theorem Listable.advanceGeneration (listable : core.Listable) (generation : UInt64) :
    (core.advanceGeneration generation).1.Listable := by
  unfold DaemonCore.advanceGeneration
  split
  · have logged := listable.append (show (StoreRecord.generation generation).Listable from trivial)
    split
    · rename_i refused
      rwa [refused] at logged
    · rename_i done
      rw [done] at logged
      exact logged.move logged.grants rfl rfl
  · exact listable

theorem Listable.compose (listable : core.Listable) (generation : UInt64) : (core.compose generation).1.Listable := by
  unfold DaemonCore.compose
  split
  · exact listable
  split
  · exact listable
  · have advanced := listable.advanceGeneration generation
    split
    · rename_i refused
      rwa [refused] at advanced
    · rename_i next done
      rw [done] at advanced
      have composed := advanced.composeLocked next.generation
      split
      · rename_i refused
        rwa [refused] at composed
      · rename_i done
        rw [done] at composed
        exact composed.maybeCheckpoint

theorem Listable.commitGrant (listable : core.Listable) (request : RequestId) {grant : Grant} (fits : grant.Listable) :
    (core.commitGrant request grant).1.Listable := by
  unfold DaemonCore.commitGrant
  have committed := listable.append (show (StoreRecord.grantCommit grant).Listable from fits)
  split
  · rename_i refused
    rw [refused] at committed
    exact committed.move (committed.grants.release _) rfl rfl
  · rename_i done
    rw [done] at committed
    have recorded := committed.append
      (show (StoreRecord.requestOutcome (outcomeRecordOf request grant)).Listable from trivial)
    split
    · rename_i refused
      rw [refused] at recorded
      exact recorded.move (recorded.grants.release _) rfl rfl
    · rename_i done
      rwa [done] at recorded

theorem Listable.acquire (listable : core.Listable) (now : UInt64) (request : AcquireRequest) :
    (core.acquire now request).1.Listable := by
  simp only [DaemonCore.acquire]
  have ensured := (listable.expireDue now).ensureSnapshot
  split
  · rename_i refused
    rwa [refused] at ensured
  · rename_i next done
    rw [done] at ensured
    cases acquired : next.grants.acquire next.snapshot (next.grantRequestOf request) next.incarnation now
        (lifecycleAcceptsNewAuthority next.lifecycle) with
    | mk registry granted =>
      obtain ⟨kept, handed⟩ := GrantRegistry.Listable.acquire ensured.grants ensured.snapshot acquired
      have decided : Listable { next with grants := registry } := ensured.move kept rfl rfl
      cases granted with
      | error status => exact decided
      | ok grant =>
        have committed := decided.commitGrant request.request (handed grant rfl)
        dsimp only
        split
        · rename_i refused
          rwa [refused] at committed
        · rename_i done
          rw [done] at committed
          exact committed.maybeCheckpoint

theorem Listable.renew (listable : core.Listable) (now : UInt64) (token : LeaseToken) (ttlMs : UInt64) :
    (core.renew now token ttlMs).1.Listable := by
  simp only [DaemonCore.renew]
  have ensured := listable.ensureSnapshot
  split
  · rename_i refused
    rwa [refused] at ensured
  · rename_i next done
    rw [done] at ensured
    cases renewing : next.grants.renew next.snapshot token
        (if ttlMs = 0 then next.config.defaultTtlMs else ttlMs) now with
    | mk registry renewed =>
      obtain ⟨kept, handed⟩ := GrantRegistry.Listable.renew ensured.grants renewing
      have decided : Listable { next with grants := registry } := ensured.move kept rfl rfl
      cases renewed with
      | error status => exact decided
      | ok grant =>
        have committed := decided.append (show (StoreRecord.grantCommit grant).Listable from handed grant rfl)
        dsimp only
        split
        · rename_i refused
          rwa [refused] at committed
        · rename_i done
          rw [done] at committed
          exact committed.maybeCheckpoint

theorem Listable.release (listable : core.Listable) (token : LeaseToken) : (core.release token).1.Listable := by
  unfold DaemonCore.release
  have kept := listable.grants.release token
  split
  rename_i registry released releasing
  rw [releasing] at kept
  extract_lets held reason
  have decided : held.Listable := listable.move kept rfl rfl
  split
  · exact decided
  · have readable : Detail reason := decided.reason token.grant (Printable.detail (by decide) (by decide))
    have ended := decided.append
      (show (StoreRecord.grantState ⟨token.grant, .released, reason⟩).Listable from readable)
    split
    · rename_i refused
      rwa [refused] at ended
    · rename_i done
      rw [done] at ended
      exact ended.maybeCheckpoint

theorem Listable.validate (listable : core.Listable) (now : UInt64) (token : LeaseToken) :
    (core.validate now token).1.Listable := by
  unfold DaemonCore.validate
  have ensured := listable.ensureSnapshot
  split
  · rename_i refused
    rwa [refused] at ensured
  · rename_i done
    rw [done] at ensured
    split <;> exact ensured

theorem Listable.checkpoint (listable : core.Listable) : core.checkpoint.1.Listable := by
  unfold DaemonCore.checkpoint
  split
  · exact listable
  · have ensured := listable.ensureSnapshot
    split
    · rename_i refused
      rwa [refused] at ensured
    · rename_i done
      rw [done] at ensured
      split
      · exact ensured
      · rename_i held
        have written := ensured.checkpointLocked held
        split
        · rename_i refused
          rwa [refused] at written
        · rename_i done
          rwa [done] at written

theorem Listable.enterLifecycle (listable : core.Listable) (target : LifecycleState) :
    (core.enterLifecycle target).Listable := by
  unfold DaemonCore.enterLifecycle
  extract_lets entered
  split
  · exact listable.move (listable.grants.suspendAll (Printable.detail (by decide) (by decide))) rfl rfl
  · split
    · exact listable.move (listable.grants.fenceAll (Printable.detail (by decide) (by decide))) rfl rfl
    · exact listable.move listable.grants rfl rfl

theorem Listable.serveLifecycle (listable : core.Listable) (now : UInt64) (previous target : LifecycleState) :
    (core.serveLifecycle now previous target).1.Listable := by
  unfold DaemonCore.serveLifecycle
  split
  · have composed := listable.composeLocked core.generation
    split
    · rename_i refused
      rwa [refused] at composed
    · rename_i next done
      rw [done] at composed
      dsimp only
      have revalidated : Listable (next.revalidateGrants now) :=
        composed.move (composed.grants.revalidate _ _ now) rfl rfl
      split
      · exact revalidated.move (revalidated.grants.resumeAll _ now) rfl rfl
      · exact composed.move (composed.grants.resumeAll _ now) rfl rfl
  · exact listable

theorem Listable.transitionLifecycle (listable : core.Listable) (now : UInt64) (target : LifecycleState) :
    (core.transitionLifecycleLocked now target).1.Listable := by
  unfold transitionLifecycleLocked
  have served := (listable.enterLifecycle target).serveLifecycle now core.lifecycle target
  split
  · rename_i refused
    rwa [refused] at served
  · rename_i next done
    rw [done] at served
    have logged := served.append
      (show (StoreRecord.lifecycle ⟨target, next.generation, next.epoch⟩).Listable from trivial)
    split
    · rename_i refused
      rwa [refused] at logged
    · rename_i done
      rw [done] at logged
      exact logged.maybeCheckpoint

/-- No command makes a grant that cannot be listed. -/
theorem Listable.exec (listable : core.Listable) (now : UInt64) (command : Command) :
    (core.exec now command).1.Listable := by
  cases command with
  | submitEvidence records => exact listable.submitEvidence now records
  | compose generation => exact listable.compose generation
  | acquire request => exact listable.acquire now request
  | renew token ttlMs => exact listable.renew now token ttlMs
  | release token => exact listable.release token
  | validate token => exact listable.validate now token
  | lookup request => exact listable
  | setLifecycle target =>
    change (core.setLifecycle now target).1.Listable
    cases allowed : lifecycleTransitionAllowed core.lifecycle target with
    | false =>
      rw [setLifecycle_refused allowed]
      exact listable
    | true =>
      rw [setLifecycle_moves allowed]
      exact listable.transitionLifecycle now target
  | checkpoint => exact listable.checkpoint
  | expireDue => exact listable.expireDue now

/-! ### Starts -/

theorem starting_listable (config : DaemonConfig) : (starting config).Listable := by
  refine ⟨⟨?_, ?_⟩, ?_, ?_⟩
  · intro id grant found
    simp [starting, create] at found
  · intro id grant found
    simp [starting, create] at found
  · intro state member
    simp [starting, create, Snapshot.data] at member
  · intro store held
    cases held

theorem Listable.replayRecords (listable : core.Listable) (records : List StoreRecord) :
    (core.replayRecords records).1.Listable := by
  induction records generalizing core with
  | nil => exact listable
  | cons record rest ih =>
    have applied : (core.applyRecoveredRecord record).1.Listable := by
      cases record with
      | rackBind body =>
        simp only [applyRecoveredRecord]
        split <;> exact listable
      | requestOutcome body =>
        refine listable.move (listable.grants.of_grants ?_) rfl rfl
        simp only [applyRecoveredRecord, GrantRegistry.installOutcome]
        split
        · rfl
        · split <;> rfl
      | config body | evidence record | lifecycle body | generation generation | epoch body | grantCommit grant
      | grantState body | cleanShutdown atMs => exact listable.move listable.grants rfl rfl
    unfold DaemonCore.replayRecords
    split
    · rename_i failed
      rwa [failed] at applied
    · rename_i done
      rw [done] at applied
      exact ih applied

theorem Listable.loadCheckpoint (listable : core.Listable) (checkpoint : Checkpoint) :
    (core.loadCheckpoint checkpoint).Listable := by
  unfold DaemonCore.loadCheckpoint
  split
  · exact listable
  · exact listable.move listable.grants rfl rfl

end DaemonCore

namespace DaemonCore

variable {core : DaemonCore} {config : DaemonConfig} {disk : Disk} {env : Env}

/-- Whatever opening the store ends with. -/
theorem openStore_listable (holds : disk.Holds StoreRecord.Listable) :
    ((starting config).openStore disk env).1.Listable := by
  have fresh := starting_listable config
  unfold openStore
  split
  · exact fresh.move fresh.grants rfl rfl
  split
  · exact fresh
  · rename_i store opening
    have held : store.Holds StoreRecord.Listable := (Store.openDirectory_ok opening).holds holds
    have based : ∀ {dirty : Bool}, Listable { starting config with store := some store, dirtyRecovery := dirty } := by
      intro dirty
      refine ⟨fresh.grants, fresh.snapshot, ?_⟩
      rintro _ ⟨⟩
      exact held
    dsimp only
    split
    · exact based
    · have replayed := fun dirty => Listable.replayRecords
        ((@based dirty).loadCheckpoint store.recovered.checkpoint) store.recovered.records
      split
      · rename_i failed
        have kept := replayed (!store.recovered.report.freshStore && !store.recovered.report.cleanShutdown)
        rwa [failed] at kept
      · rename_i done
        have kept := replayed (!store.recovered.report.freshStore && !store.recovered.report.cleanShutdown)
        rw [done] at kept
        have counted := Store.nextIncarnation_keepsFiles store
        split
        · rename_i counting
          rw [counting] at counted
          refine ⟨kept.grants, kept.snapshot, ?_⟩
          rintro _ ⟨⟩
          exact counted.holds held
        · rename_i counting
          rw [counting] at counted
          refine ⟨kept.grants, kept.snapshot, ?_⟩
          rintro _ ⟨⟩
          exact (counted.trans (Store.bindRack_keepsFiles _ _)).holds held

theorem Listable.installGrants (listable : core.Listable) {grants : List Grant}
    (fits : ∀ grant ∈ grants, grant.Listable) : (core.installGrants grants).Listable := by
  have installed : ∀ registry : GrantRegistry, registry.Listable →
      (grants.foldl (fun registry grant => (registry.installRecovered core.snapshot grant).1) registry).Listable := by
    induction grants with
    | nil => exact fun _ listable => listable
    | cons grant rest ih =>
      intro registry listable
      exact ih (fun old member => fits old (by simp [member])) _
        (listable.installRecovered core.snapshot (fits grant (by simp)))
  exact listable.move (installed core.grants listable.grants) rfl rfl

theorem Listable.applyStates (listable : core.Listable) {states : List GrantStateRecord}
    (fits : ∀ body ∈ states, Detail body.reason) : (core.applyStates states).Listable := by
  have applied : ∀ registry : GrantRegistry, registry.Listable →
      (states.foldl (fun registry body => (registry.applyState body.id body.state body.reason).1)
        registry).Listable := by
    induction states with
    | nil => exact fun _ listable => listable
    | cons body rest ih =>
      intro registry listable
      exact ih (fun old member => fits old (by simp [member])) _ (listable.applyState (fits body (by simp)))
  exact listable.move (applied core.grants listable.grants) rfl rfl

/-- A start makes grants of what is on the log, and of nothing else. -/
theorem start_listable (holds : disk.Holds StoreRecord.Listable) :
    ((create config).start disk env).1.Listable := by
  have opened := @openStore_listable config disk env holds
  have recovered : ((starting config).recover disk env).1.Listable := by
    rcases recover_cases (starting config) disk env with
      ⟨next, status, opening, failed⟩ | ⟨next, opening, rest⟩
    · rw [opening] at opened
      rwa [failed]
    · rw [opening] at opened
      have ready : next.readyToCompose.Listable := opened.move (opened.grants.of_grants rfl) rfl rfl
      have composed := ready.composeLocked next.generation
      have same := (composeLocked_recomposes next.readyToCompose next.generation).recovered
      have records : ∀ record ∈ next.recoveredRecords, record.Listable := by
        rw [openStore_recovered opening]
        split
        · simp
        · exact Disk.replayed_holds holds
      rcases rest with ⟨last, status, composing, failed⟩ | ⟨last, composing, done⟩
      · rw [composing] at composed
        rwa [failed]
      · rw [composing] at composed same
        rw [done]
        have found : ∀ record ∈ last.recoveredRecords, record.Listable := same ▸ records
        refine (composed.installGrants ?_).applyStates ?_
        · intro grant member
          obtain ⟨record, listed, committed⟩ := List.mem_filterMap.mp member
          have fits := found record listed
          cases record <;> cases committed
          exact fits
        · intro body member
          obtain ⟨record, listed, ended⟩ := List.mem_filterMap.mp member
          have fits := found record listed
          cases record <;> cases ended
          exact fits
  have begun : ({ create config with started := true } : DaemonCore) = starting config := rfl
  have unstarted : (create config).started = false := rfl
  unfold start
  simp only [unstarted, Bool.false_eq_true, if_false, begun]
  split
  · rename_i failed
    rwa [failed] at recovered
  · rename_i done
    rw [done] at recovered
    exact recovered.move (recovered.grants.revalidate _ _ _) rfl rfl

end DaemonCore

namespace System

def Listable : System → Prop
  | .down disk => disk.Holds StoreRecord.Listable
  | .up core => core.Listable

theorem disk_listable {core : DaemonCore} (listable : core.Listable) :
    core.disk.Holds StoreRecord.Listable ∧ ∀ crash ∈ core.writes, crash.Holds StoreRecord.Listable := by
  unfold DaemonCore.disk DaemonCore.writes
  cases held : core.store with
  | none =>
    refine ⟨?_, by simp⟩
    intro record member
    simp [Disk.log] at member
  | some store => exact ⟨(listable.store store held).disk, (listable.store store held).trail⟩

theorem afterCrash_listable {before : Disk} {core : DaemonCore} (holds : before.Holds StoreRecord.Listable)
    (listable : core.Listable) (count : Nat) : (before.afterCrash core.writes count).Holds StoreRecord.Listable := by
  rcases Disk.afterCrash_mem before core.writes count with same | member
  · rw [same]
    exact holds
  · exact (disk_listable listable).2 _ member

theorem enter_listable {core : DaemonCore} (listable : core.Listable) (io : List IoOutcome) :
    (core.enter io).Listable := by
  refine ⟨listable.grants, listable.snapshot, ?_⟩
  intro store held
  obtain ⟨earlier, found, rfl⟩ := Option.map_eq_some_iff.mp held
  exact ⟨(listable.store earlier found).disk, by simp⟩

theorem stop_listable {core : DaemonCore} (listable : core.Listable) (now : UInt64) : (core.stop now).1.Listable := by
  unfold DaemonCore.stop
  split
  · exact listable
  · have fenced := listable.grants.fenceAll
      (show Detail (text "daemon stopped") from Printable.detail (by decide) (by decide))
    dsimp only
    split
    · exact listable.move fenced rfl rfl
    · rename_i store held
      refine ⟨fenced, listable.snapshot, ?_⟩
      rintro _ ⟨⟩
      obtain ⟨next, kept, disk, trail⟩ := Store.markCleanShutdown_keepsFiles store now
      have marked := kept.holds (listable.store store held)
      exact ⟨disk ▸ marked.disk, trail ▸ marked.trail⟩

/-- One step of a run, whatever it meets. -/
theorem step_listable {config : DaemonConfig} {system : System} (listable : system.Listable) (event : Event) :
    (step config system event).Listable := by
  cases system with
  | down disk =>
    have holds : disk.Holds StoreRecord.Listable := listable
    cases action : event.action with
    | command command | stop | crash =>
      simp only [step, action]
      exact holds
    | start =>
      simp only [step, action, boot]
      have started := @DaemonCore.start_listable config disk event.env holds
      split
      · exact afterCrash_listable holds started _
      · split
        · exact started
        · split
          · exact (disk_listable started).1
          · exact holds
  | up core =>
    have running : core.Listable := listable
    have entered := enter_listable running event.env.io
    cases action : event.action with
    | command command =>
      simp only [step, action, serve]
      have served := entered.exec event.env.now command
      split
      · exact served
      · exact afterCrash_listable (disk_listable running).1 served _
    | stop =>
      simp only [step, action, halt]
      have stopped := stop_listable entered event.env.now
      split
      · exact (disk_listable stopped).1
      · exact afterCrash_listable (disk_listable running).1 stopped _
    | crash =>
      simp only [step, action]
      exact (disk_listable running).1
    | start =>
      simp only [step, action]
      exact running

/-- In every state a run reaches, every grant can be listed. -/
theorem after_listable (config : DaemonConfig) (events : List Event) : (after config events).Listable := by
  induction events using List.reverseRecOn with
  | nil =>
    intro record member
    simp [Disk.log] at member
  | append_singleton events event ih =>
    rw [after, Foundation.run_append]
    exact step_listable ih event

end System

end RackFabric
