import RackFabric.Authority.Standing
import RackFabric.Runtime.Logging

/-!
What a successful start has done: the store opened and replayed, the rack composed under the lifecycle the
start comes up in, the logged grants installed and their logged ends applied.
-/

namespace RackFabric

namespace DaemonCore

/-- A new process once its start has begun. -/
def starting (config : DaemonConfig) : DaemonCore :=
  { create config with started := true }

/-- The lifecycle that replaying records leads to. -/
def lifecycleAfter (state : LifecycleState) (records : List StoreRecord) : LifecycleState :=
  records.foldl
    (fun state record =>
      match record with
      | .lifecycle body => body.state
      | _ => state) state

/-- The lifecycle a directory records: the last one logged, or else that of the checkpoint. -/
def recordedLifecycle (disk : Disk) : LifecycleState :=
  lifecycleAfter (if disk.usedCheckpoint.present then disk.usedCheckpoint.lifecycle else .assembling)
    disk.replayed

/-- The outcomes that replaying records leads to. -/
def outcomesAfter (registry : GrantRegistry) (records : List StoreRecord) : GrantRegistry :=
  (outcomesOf records).foldl (fun registry body => registry.installOutcome body.request body.outcome) registry

/-- Installing outcomes fills the memory of requests and nothing else. -/
theorem outcomesAfter_books (registry : GrantRegistry) (records : List StoreRecord) :
    (outcomesAfter registry records).grants = registry.grants ∧
      (outcomesAfter registry records).limits = registry.limits ∧
      (outcomesAfter registry records).nextFence = registry.nextFence ∧
      (outcomesAfter registry records).live = registry.live ∧
      (outcomesAfter registry records).occupancy = registry.occupancy := by
  unfold outcomesAfter
  generalize outcomesOf records = bodies
  induction bodies generalizing registry with
  | nil => exact ⟨rfl, rfl, rfl, rfl, rfl⟩
  | cons body rest ih =>
    have same : ∀ next : GrantRegistry, next = registry.installOutcome body.request body.outcome →
        next.grants = registry.grants ∧ next.limits = registry.limits ∧ next.nextFence = registry.nextFence ∧
          next.live = registry.live ∧ next.occupancy = registry.occupancy := by
      rintro next rfl
      unfold GrantRegistry.installOutcome
      split
      · exact ⟨rfl, rfl, rfl, rfl, rfl⟩
      · split <;> exact ⟨rfl, rfl, rfl, rfl, rfl⟩
    obtain ⟨grants, limits, fence, live, occupancy⟩ := same _ rfl
    obtain ⟨grants', limits', fence', live', occupancy'⟩ :=
      ih (registry.installOutcome body.request body.outcome)
    exact ⟨grants'.trans grants, limits'.trans limits, fence'.trans fence, live'.trans live,
      occupancy'.trans occupancy⟩

/-- What replay touches and what it leaves alone. -/
structure Replayed (before after : DaemonCore) (records : List StoreRecord) : Prop where
  lifecycle : after.lifecycle = lifecycleAfter before.lifecycle records
  grants : after.grants = outcomesAfter before.grants records
  store : after.store = before.store
  dirtyRecovery : after.dirtyRecovery = before.dirtyRecovery
  authorityLimits : after.config.authorityLimits = before.config.authorityLimits

theorem applyRecoveredRecord_replayed {core next : DaemonCore} {record : StoreRecord}
    (applied : core.applyRecoveredRecord record = (next, .ok ())) : Replayed core next [record] := by
  cases record with
  | rackBind body =>
    simp only [applyRecoveredRecord] at applied
    split at applied
    · cases applied
    · cases applied
      exact ⟨rfl, rfl, rfl, rfl, rfl⟩
  | config body | evidence record | lifecycle body | generation generation | epoch body | requestOutcome body
  | grantCommit grant | grantState body | cleanShutdown atMs =>
    cases applied
    exact ⟨rfl, rfl, rfl, rfl, rfl⟩

theorem replayRecords_replayed {core next : DaemonCore} {records : List StoreRecord}
    (replayed : core.replayRecords records = (next, .ok ())) : Replayed core next records := by
  induction records generalizing core with
  | nil =>
    cases replayed
    exact ⟨rfl, rfl, rfl, rfl, rfl⟩
  | cons record rest ih =>
    unfold replayRecords at replayed
    split at replayed
    · cases replayed
    · rename_i applied
      have first := applyRecoveredRecord_replayed applied
      have others := ih replayed
      refine ⟨?_, ?_, others.store.trans first.store, others.dirtyRecovery.trans first.dirtyRecovery,
        others.authorityLimits.trans first.authorityLimits⟩
      · rw [others.lifecycle, first.lifecycle]
        rfl
      · rw [others.grants, first.grants, outcomesAfter, outcomesAfter, outcomesAfter, ← List.foldl_append]
        rw [← outcomesOf_append, List.singleton_append]

/-- Replay, complete or not, leaves the store alone. -/
theorem replayRecords_store (core : DaemonCore) (records : List StoreRecord) :
    (core.replayRecords records).1.store = core.store := by
  induction records generalizing core with
  | nil => rfl
  | cons record rest ih =>
    have kept : (core.applyRecoveredRecord record).1.store = core.store := by
      unfold applyRecoveredRecord
      split
      · split <;> rfl
      all_goals rfl
    unfold replayRecords
    split
    · rename_i failed
      rwa [failed] at kept
    · rename_i applied
      rw [applied] at kept
      exact (ih _).trans kept

/-- The core a start composes: what replay produced, under the lifecycle the start comes up in. -/
def readyToCompose (opened : DaemonCore) : DaemonCore :=
  { opened with
    grants := { opened.grants with incarnation := opened.incarnation }
    lifecycle := opened.startLifecycle }

/-- What opening its store leaves a starting process with. -/
structure StoreOpened (config : DaemonConfig) (disk : Disk) (env : Env) (opened : DaemonCore) : Prop where
  store : ∃ first last, Store.Opened disk env.io first ∧ first.KeepsFiles last ∧ opened.store = some last
  lifecycle : opened.lifecycle = recordedLifecycle disk
  grants : opened.grants = outcomesAfter { limits := config.authorityLimits } disk.replayed
  dirtyRecovery : opened.dirtyRecovery = disk.unclean

theorem loadCheckpoint_eq (core : DaemonCore) (checkpoint : Checkpoint) :
    (core.loadCheckpoint checkpoint).lifecycle = (if checkpoint.present then checkpoint.lifecycle else core.lifecycle) ∧
      (core.loadCheckpoint checkpoint).grants = core.grants ∧
      (core.loadCheckpoint checkpoint).dirtyRecovery = core.dirtyRecovery := by
  unfold loadCheckpoint
  cases checkpoint.present <;> exact ⟨rfl, rfl, rfl⟩

theorem openStore_ok {config : DaemonConfig} {disk : Disk} {env : Env} {opened : DaemonCore}
    (backed : config.storeDirectory ≠ []) (done : (starting config).openStore disk env = (opened, .ok ())) :
    StoreOpened config disk env opened := by
  unfold openStore at done
  rw [if_neg (by simpa [starting, create] using backed)] at done
  split at done
  · cases done
  · rename_i store opening
    have found := Store.openDirectory_ok opening
    dsimp only at done
    split at done
    · cases done
    · split at done
      · cases done
      · rename_i replayed replaying
        have replay := replayRecords_replayed replaying
        rw [found.checkpoint, found.records] at replay
        obtain ⟨lifecycle, grants, dirty⟩ := loadCheckpoint_eq { starting config with
          store := some store
          dirtyRecovery := !store.recovered.report.freshStore && !store.recovered.report.cleanShutdown }
          disk.usedCheckpoint
        have counted := Store.nextIncarnation_keepsFiles store
        split at done
        · cases done
        · rename_i next incarnation counting
          rw [counting] at counted
          have bound := counted.trans (Store.bindRack_keepsFiles next replayed.config.rack.rack)
          obtain rfl := (Prod.mk.inj done).1
          refine ⟨⟨store, _, found, bound, rfl⟩, ?_, ?_, ?_⟩
          · exact replay.lifecycle.trans (by rw [lifecycle]; rfl)
          · exact replay.grants.trans (by rw [grants]; rfl)
          · exact replay.dirtyRecovery.trans (dirty.trans found.unclean)

/-- How far a recovery gets: it fails to open the store, or to compose, or it takes up the grants on the log. -/
theorem recover_cases (core : DaemonCore) (disk : Disk) (env : Env) :
    (∃ opened status, core.openStore disk env = (opened, .error status) ∧
      core.recover disk env = (opened, .error status)) ∨
    ∃ opened, core.openStore disk env = (opened, .ok ()) ∧
      ((∃ composed status, opened.readyToCompose.composeLocked opened.generation = (composed, .error status) ∧
        core.recover disk env = (composed, .error status)) ∨
      ∃ composed, opened.readyToCompose.composeLocked opened.generation = (composed, .ok ()) ∧
        core.recover disk env = ((composed.installGrants (commitsOf composed.recoveredRecords)).applyStates
          (statesOf composed.recoveredRecords), .ok ())) := by
  unfold recover
  split
  · rename_i opened status opening
    exact .inl ⟨opened, status, opening, rfl⟩
  · rename_i opened opening
    refine .inr ⟨opened, opening, ?_⟩
    dsimp only
    split
    · rename_i composed status composing
      exact .inl ⟨composed, status, composing, rfl⟩
    · rename_i composed composing
      exact .inr ⟨composed, composing, rfl⟩

theorem recover_ok {core recovered : DaemonCore} {disk : Disk} {env : Env}
    (done : core.recover disk env = (recovered, .ok ())) :
    ∃ opened composed, core.openStore disk env = (opened, .ok ()) ∧
      opened.readyToCompose.composeLocked opened.generation = (composed, .ok ()) ∧
      recovered = (composed.installGrants (commitsOf composed.recoveredRecords)).applyStates
        (statesOf composed.recoveredRecords) := by
  rcases recover_cases core disk env with
    ⟨opened, status, -, failed⟩ | ⟨opened, opening, ⟨composed, status, -, failed⟩ | ⟨composed, composing, reached⟩⟩
  · rw [failed] at done
    cases done
  · rw [failed] at done
    cases done
  · rw [reached] at done
    cases done
    exact ⟨opened, composed, opening, composing, rfl⟩

theorem start_ok {core next : DaemonCore} {disk : Disk} {env : Env} (unstarted : core.started = false)
    (done : core.start disk env = (next, .ok ())) :
    ∃ recovered, { core with started := true }.recover disk env = (recovered, .ok ()) ∧
      next = recovered.revalidateGrants env.now := by
  unfold start at done
  rw [unstarted] at done
  simp only [Bool.false_eq_true, if_false] at done
  split at done
  · cases done
  · rename_i recovered recovering
    cases done
    exact ⟨recovered, recovering, rfl⟩

/-- The lifecycle a start on a directory comes up in. -/
def bootLifecycle (disk : Disk) : LifecycleState :=
  if disk.unclean then .recovering
  else if recordedLifecycle disk = .recovering then .assembling
  else recordedLifecycle disk

/-- What a start has put together before it revalidates. -/
structure Recovers (config : DaemonConfig) (disk : Disk) (env : Env) (recovered : DaemonCore) : Prop where
  lifecycle : recovered.lifecycle = bootLifecycle disk
  composes : acceptsCompose (bootLifecycle disk) = true
  snapshot : recovered.snapshot.ComposedUnder (bootLifecycle disk)
  grants : ∃ incarnation, recovered.grants = (statesOf disk.replayed).foldl
    (fun registry body => (registry.applyState body.id body.state body.reason).1)
    ((commitsOf disk.replayed).foldl
      (fun registry grant => (registry.installRecovered recovered.snapshot grant).1)
      { outcomesAfter { limits := config.authorityLimits } disk.replayed with incarnation := incarnation })
  store : ∃ first last, Store.Opened disk env.io first ∧ first.KeepsFiles last ∧
    ∃ composing composed : DaemonCore, composing.store = some last ∧ composed.store = recovered.store ∧
      ∃ target, composing.composeLocked target = (composed, .ok ())

theorem composeLocked_accepts {core next : DaemonCore} {target : UInt64}
    (composed : core.composeLocked target = (next, .ok ())) : acceptsCompose core.lifecycle = true := by
  unfold composeLocked at composed
  split at composed
  · cases composed
  · rename_i accepts
    simpa using accepts

theorem recover_recovers {config : DaemonConfig} {disk : Disk} {env : Env} {recovered : DaemonCore}
    (backed : config.storeDirectory ≠ []) (done : (starting config).recover disk env = (recovered, .ok ())) :
    Recovers config disk env recovered := by
  obtain ⟨opened, composed, opening, composing, rfl⟩ := recover_ok done
  have found := openStore_ok backed opening
  obtain ⟨first, last, read, kept, held⟩ := found.store
  have starts : opened.startLifecycle = bootLifecycle disk := by
    simp only [startLifecycle, bootLifecycle, found.dirtyRecovery, found.lifecycle, held, Option.isSome_some,
      Bool.and_true]
  have keeps := composeLocked_keeps opened.readyToCompose opened.generation
  have same := composeLocked_recomposes opened.readyToCompose opened.generation
  have published := composeLocked_composedUnder composing
  rw [composing] at keeps same
  have records : composed.recoveredRecords = disk.replayed := by
    rw [same.recovered, ← read.records, ← kept.recovered]
    simp only [recoveredRecords, readyToCompose, held]
  refine ⟨keeps.lifecycle.trans starts, ?_, ?_, ?_, first, last, read, kept, opened.readyToCompose, composed, held, rfl,
    opened.generation, composing⟩
  · rw [← starts]
    exact composeLocked_accepts composing
  · rw [← starts]
    exact published
  · refine ⟨opened.incarnation, ?_⟩
    rw [← found.grants, records]
    have grants : composed.grants = { opened.grants with incarnation := opened.incarnation } := same.grants
    rw [← grants]
    rfl

theorem openStore_grants {config : DaemonConfig} {disk : Disk} {env : Env} {opened : DaemonCore}
    (done : (starting config).openStore disk env = (opened, .ok ())) : opened.grants.grants = {} := by
  by_cases backed : config.storeDirectory = []
  · unfold openStore at done
    rw [if_pos (by simp [starting, create, backed])] at done
    cases done
    rfl
  · rw [(openStore_ok backed done).grants]
    exact (outcomesAfter_books _ _).1

/-- The records that a process which opened its store has recovered. -/
theorem openStore_recovered {config : DaemonConfig} {disk : Disk} {env : Env} {opened : DaemonCore}
    (done : (starting config).openStore disk env = (opened, .ok ())) :
    opened.recoveredRecords = if config.storeDirectory = [] then [] else disk.replayed := by
  by_cases backed : config.storeDirectory = []
  · rw [if_pos backed]
    unfold openStore at done
    rw [if_pos (by simp [starting, create, backed])] at done
    cases done
    rfl
  · rw [if_neg backed]
    obtain ⟨first, last, read, kept, held⟩ := (openStore_ok backed done).store
    rw [← read.records, ← kept.recovered]
    simp only [recoveredRecords, held]

/-- The registry a start rebuilds has every grant under its own identity, live or ended. -/
theorem recover_stands {config : DaemonConfig} {disk : Disk} {env : Env} {recovered : DaemonCore}
    (done : (starting config).recover disk env = (recovered, .ok ())) :
    recovered.grants.Keyed ∧ recovered.grants.Settled := by
  obtain ⟨opened, composed, opening, composing, rfl⟩ := recover_ok done
  have same := composeLocked_recomposes opened.readyToCompose opened.generation
  rw [composing] at same
  have absent : ∀ id : UInt64, composed.grants.grants[id]? = none := by
    intro id
    rw [same.grants]
    simp [readyToCompose, openStore_grants opening]
  have blank : composed.grants.Keyed ∧ composed.grants.Settled := by
    refine ⟨?_, ?_⟩ <;> intro id grant found <;> rw [absent id] at found <;> cases found
  have installed : ∀ (commits : List Grant) (registry : GrantRegistry), registry.Keyed ∧ registry.Settled →
      (commits.foldl (fun registry grant => (registry.installRecovered composed.snapshot grant).1) registry).Keyed ∧
        (commits.foldl (fun registry grant => (registry.installRecovered composed.snapshot grant).1)
          registry).Settled := by
    intro commits
    induction commits with
    | nil => exact fun _ stands => stands
    | cons grant rest ih =>
      intro registry stands
      exact ih _ ⟨GrantRegistry.installRecovered_keyed stands.1 composed.snapshot grant,
        GrantRegistry.installRecovered_settled stands.2 composed.snapshot grant⟩
  obtain ⟨keyed, settled⟩ := installed (commitsOf composed.recoveredRecords) composed.grants blank
  have swept := GrantRegistry.foldl_applyState_swept keyed (statesOf composed.recoveredRecords)
  exact ⟨swept.keyed, swept.settled (fun _ stands => GrantRegistry.applyEnd_settled stands) settled⟩

/-- A start publishes a snapshot of the lifecycle it comes up in. -/
theorem recover_composedUnder {core recovered : DaemonCore} {disk : Disk} {env : Env}
    (done : core.recover disk env = (recovered, .ok ())) :
    recovered.snapshot.ComposedUnder recovered.lifecycle := by
  obtain ⟨opened, composed, -, composing, rfl⟩ := recover_ok done
  have lifecycle := (composeLocked_keeps opened.readyToCompose opened.generation).lifecycle
  rw [composing] at lifecycle
  have published := composeLocked_composedUnder composing
  rw [← lifecycle] at published
  exact published

end DaemonCore

namespace System

/-- A process that comes up on a directory has recovered it and revalidated what it found. -/
theorem boot_up {config : DaemonConfig} {disk : Disk} {event : Event} {core : DaemonCore}
    (booted : boot config disk event = .up core) :
    ∃ recovered, (DaemonCore.starting config).recover disk event.env = (recovered, .ok ()) ∧
      core = recovered.revalidateGrants event.env.now := by
  unfold boot at booted
  split at booted
  rename_i next result starting
  split at booted
  · cases booted
  · split at booted
    · rename_i succeeded
      cases booted
      cases result with
      | error status => simp at succeeded
      | ok _ => exact DaemonCore.start_ok rfl starting
    · cases booted

/-- A running process after a step: it served a command, was left alone, or has just come up. -/
theorem step_up {config : DaemonConfig} {system : System} {event : Event} {next : DaemonCore}
    (stepped : step config system event = .up next) :
    (∃ core command, system = .up core ∧ event.action = .command command ∧ event.cut = none ∧
      next = ((core.enter event.env.io).exec event.env.now command).1) ∨
    (system = .up next ∧ event.action = .start) ∨
    (∃ disk, system = .down disk ∧ event.action = .start ∧ boot config disk event = .up next) := by
  unfold step at stepped
  split at stepped
  · rename_i core command action
    unfold serve at stepped
    dsimp only at stepped
    split at stepped
    · rename_i uncut
      cases stepped
      exact .inl ⟨core, command, rfl, action, uncut, rfl⟩
    · cases stepped
  · unfold halt at stepped
    dsimp only at stepped
    split at stepped <;> cases stepped
  · cases stepped
  · rename_i action
    cases stepped
    exact .inr (.inl ⟨rfl, action⟩)
  · rename_i disk action
    exact .inr (.inr ⟨disk, rfl, action, stepped⟩)
  · cases stepped

theorem boot_stands {config : DaemonConfig} {disk : Disk} {event : Event} {core : DaemonCore}
    (booted : boot config disk event = .up core) : core.grants.Keyed ∧ core.grants.Settled := by
  obtain ⟨recovered, recovering, rfl⟩ := boot_up booted
  obtain ⟨keyed, settled⟩ := DaemonCore.recover_stands recovering
  exact ⟨(GrantRegistry.revalidate_carries keyed _ _ _).1.1, GrantRegistry.revalidate_settled keyed settled _ _ _⟩

private theorem after_stands_all (config : DaemonConfig) (events : List Event) :
    ∀ core, after config events = .up core → core.grants.Keyed ∧ core.grants.Settled := by
  induction events using List.reverseRecOn with
  | nil =>
    intro core up
    cases up
  | append_singleton events event ih =>
    intro next up
    rw [after, Foundation.run_append] at up
    rcases step_up up with ⟨core, command, before, -, -, rfl⟩ | ⟨before, -⟩ | ⟨disk, -, -, booted⟩
    · obtain ⟨keyed, settled⟩ := ih core before
      have calls := DaemonCore.exec_calls (core.enter event.env.io) event.env.now command
      exact ⟨calls.keyed keyed, calls.settled keyed settled⟩
    · exact ih next before
    · exact boot_stands booted

/-- In every state a run reaches, every grant stands under its own identity, live or ended. -/
theorem after_stands (config : DaemonConfig) (events : List Event) {core : DaemonCore}
    (up : after config events = .up core) : core.grants.Keyed ∧ core.grants.Settled :=
  after_stands_all config events core up

end System

end RackFabric
