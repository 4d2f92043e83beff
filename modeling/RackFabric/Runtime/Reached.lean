import RackFabric.Runtime.Boot
import RackFabric.Runtime.Composing

/-!
The states of a daemon object under any calls in any order, started or not, as long as no write fails.
-/

namespace RackFabric

namespace DaemonCore

/-- Starts, commands and stops, whatever they answered. -/
inductive Reached (config : DaemonConfig) : DaemonCore → Prop where
  | created : Reached config (create config)
  | started {core : DaemonCore} (reached : Reached config core) (disk : Disk) (now : UInt64) :
      Reached config (core.start disk { now := now }).1
  | served {core : DaemonCore} (reached : Reached config core) (now : UInt64) (command : Command) :
      Reached config ((core.enter []).exec now command).1
  | stopped {core : DaemonCore} (reached : Reached config core) (now : UInt64) :
      Reached config ((core.enter []).stop now).1

/-- Every grant stands under its own identity, and the store, if there is one, takes every write. -/
structure Steady (core : DaemonCore) : Prop where
  keyed : core.grants.Keyed
  calm : core.Calm

theorem Calm.of_store {core next : DaemonCore} (calm : core.Calm) (same : next.store = core.store) : next.Calm := by
  rcases calm with none | ⟨store, held, quiet⟩
  · exact .inl (same.trans none)
  · exact .inr ⟨store, same.trans held, quiet⟩

theorem Calm.enter {core : DaemonCore} (calm : core.Calm) : (core.enter []).Calm := by
  rcases calm with none | ⟨store, held, -, options⟩
  · exact .inl (by simp only [DaemonCore.enter, none, Option.map_none])
  · exact .inr ⟨{ store with io := [], trail := [] }, by simp only [DaemonCore.enter, held, Option.map_some],
      rfl, options⟩

theorem Calm.appendLocked {core : DaemonCore} (calm : core.Calm) (record : StoreRecord) :
    (core.appendLocked record).1.Calm := by
  rcases calm with none | quiet
  · have same : (core.appendLocked record).1 = core := by simp only [DaemonCore.appendLocked, none]
    rw [same]
    exact .inl none
  · rcases appendLocked_quiet quiet .active record with ⟨-, next, done, logs⟩ | ⟨-, status, failed⟩
    · rw [done]
      exact .inr (logs.quiet quiet)
    · rw [failed]
      exact .inr quiet

theorem Calm.advanceGeneration {core : DaemonCore} (calm : core.Calm) (generation : UInt64) :
    (core.advanceGeneration generation).1.Calm := by
  have logged := calm.appendLocked (.generation generation)
  simp only [DaemonCore.advanceGeneration]
  split
  · split
    · rename_i failed
      rwa [failed] at logged
    · rename_i done
      rw [done] at logged
      exact logged.of_store rfl
  · exact calm

theorem Calm.composeLocked {core : DaemonCore} (calm : core.Calm) (target : UInt64) :
    (core.composeLocked target).1.Calm := by
  rcases calm with none | quiet
  · have advances : ∀ digest, (core.advanceEpoch target digest).1.Calm := by
      intro digest
      have blank : ({ core with epoch := core.epoch + 1, memberSetDigest := digest } : DaemonCore).Calm := .inl none
      have logged := blank.appendLocked (.epoch ⟨core.epoch + 1, digest⟩)
      simp only [DaemonCore.advanceEpoch]
      split
      · exact .inl none
      · split
        · rename_i failed
          rwa [failed] at logged
        · rename_i done
          rw [done] at logged
          split
          · exact logged
          · exact logged.of_store rfl
    simp only [DaemonCore.composeLocked]
    split
    · exact .inl none
    · split
      · exact .inl none
      · split
        · exact .inl none
        · split
          · exact advances _
          · exact .inl none
  · exact .inr ((composeLocked_logsPlain quiet target .active).quiet quiet)

theorem Course.calm {before after : DaemonCore} (course : Course before after) (calm : before.Calm) : after.Calm := by
  induction course with
  | keep still => exact calm.of_store still.store
  | log mute => exact calm.appendLocked _
  | commit held => exact calm.appendLocked _
  | mark state => exact calm.appendLocked _
  | advance generation => exact calm.advanceGeneration generation
  | compose => exact calm.composeLocked _
  | checkpoint held valid =>
    rcases calm with none | quiet
    · rw [none] at held
      cases held
    · exact .inr ((checkpointLocked_logs held).quiet quiet)
  | trans earlier later first second => exact second (first calm)

theorem Steady.exec {core : DaemonCore} (steady : core.Steady) (now : UInt64) (command : Command) :
    (core.exec now command).1.Steady := by
  constructor
  · exact (exec_calls core now command).keyed steady.keyed
  · exact (exec_course steady.keyed now command).calm steady.calm

theorem Steady.stop {core : DaemonCore} (steady : core.Steady) (now : UInt64) : (core.stop now).1.Steady := by
  have fenced : ∀ store, ({ core with
      stopped := true
      grants := core.grants.fenceAll (text "daemon stopped")
      store := store } : DaemonCore).grants.Keyed := by
    intro store
    exact (GrantRegistry.fenceAll_swept steady.keyed (text "daemon stopped")).keyed
  simp only [DaemonCore.stop]
  split
  · exact steady
  · rcases steady.calm with none | ⟨store, held, io, options⟩
    · rw [none]
      exact ⟨fenced .none, .inl rfl⟩
    · rw [held]
      have kept := Store.persistMeta_keepsFiles store { store.manifestOf with
        checkpointLength := store.checkpointLength
        cleanShutdown := true
        cleanShutdownAtMs := now }
      refine ⟨fenced _, .inr ⟨(store.markCleanShutdown now).1, rfl, ?_⟩⟩
      simp only [Store.markCleanShutdown]
      split
      · rename_i failed
        rw [failed] at kept
        exact ⟨kept.io io, kept.options.trans options⟩
      · rename_i done
        rw [done] at kept
        exact ⟨kept.io io, kept.options.trans options⟩

theorem applyRecoveredRecord_grants (core : DaemonCore) (record : StoreRecord) :
    (core.applyRecoveredRecord record).1.grants.grants = core.grants.grants := by
  cases record with
  | rackBind body =>
    simp only [applyRecoveredRecord]
    split <;> rfl
  | requestOutcome body =>
    simp only [applyRecoveredRecord, GrantRegistry.installOutcome]
    split
    · rfl
    · split <;> rfl
  | config body | evidence record | lifecycle body | generation generation | epoch body
  | grantCommit grant | grantState body | cleanShutdown atMs => rfl

theorem replayRecords_grants (core : DaemonCore) (records : List StoreRecord) :
    (core.replayRecords records).1.grants.grants = core.grants.grants := by
  induction records generalizing core with
  | nil => rfl
  | cons record rest ih =>
    have applied := applyRecoveredRecord_grants core record
    simp only [replayRecords]
    split
    · rename_i failed
      rwa [failed] at applied
    · rename_i next done
      rw [done] at applied
      exact (ih next).trans applied

/-- Opening a store installs no grant, and the store it holds takes every write. -/
theorem openStore_steady {core : DaemonCore} (calm : core.Calm) (disk : Disk) (now : UInt64) :
    (core.openStore disk { now := now }).1.grants.grants = core.grants.grants ∧
      (core.openStore disk { now := now }).1.Calm := by
  simp only [openStore]
  split
  · exact ⟨rfl, calm.of_store rfl⟩
  · split
    · exact ⟨rfl, calm⟩
    · rename_i store opening
      have found := Store.openDirectory_ok opening
      have opened : ∀ next : DaemonCore, next.store = some store → next.Calm := by
        intro next held
        exact .inr ⟨store, held, found.io, found.options⟩
      split
      · exact ⟨rfl, opened _ rfl⟩
      · let begun : DaemonCore := ({ core with
          store := some store
          dirtyRecovery := !store.recovered.report.freshStore && !store.recovered.report.cleanShutdown } :
            DaemonCore).loadCheckpoint store.recovered.checkpoint
        have loaded : begun.grants.grants = core.grants.grants ∧ begun.store = some store := by
          simp only [begun, loadCheckpoint]
          split <;> exact ⟨rfl, rfl⟩
        have grants := (replayRecords_grants begun store.recovered.records).trans loaded.1
        have held := (replayRecords_store begun store.recovered.records).trans loaded.2
        have counted := Store.nextIncarnation_keepsFiles store
        split
        · rename_i failed
          rw [failed] at grants held
          exact ⟨grants, opened _ held⟩
        · rename_i done
          rw [done] at grants
          split
          · rename_i next _ failed
            rw [failed] at counted
            exact ⟨grants, .inr ⟨next, rfl, counted.io found.io, counted.options.trans found.options⟩⟩
          · rename_i next _ done
            rw [done] at counted
            refine ⟨grants, .inr ⟨_, rfl, ?_⟩⟩
            have bound := fun rack => counted.trans (Store.bindRack_keepsFiles next rack)
            exact ⟨(bound _).io found.io, (bound _).options.trans found.options⟩

theorem Steady.installGrants {core : DaemonCore} (steady : core.Steady) (commits : List Grant) :
    (core.installGrants commits).Steady := by
  refine ⟨?_, steady.calm.of_store rfl⟩
  have run : ∀ registry : GrantRegistry, registry.Keyed →
      (commits.foldl (fun registry grant => (registry.installRecovered core.snapshot grant).1) registry).Keyed := by
    induction commits with
    | nil => exact fun _ keyed => keyed
    | cons grant rest ih =>
      intro registry keyed
      exact ih _ (GrantRegistry.installRecovered_keyed keyed core.snapshot grant)
  exact run core.grants steady.keyed

theorem Steady.start {core : DaemonCore} (steady : core.Steady) (disk : Disk) (now : UInt64) :
    (core.start disk { now := now }).1.Steady := by
  simp only [DaemonCore.start]
  split
  · exact steady
  · have begun : ({ core with started := true } : DaemonCore).Calm := steady.calm
    obtain ⟨grants, calm⟩ := openStore_steady begun disk now
    have recovered : (({ core with started := true } : DaemonCore).recover disk { now := now }).1.Steady := by
      rcases recover_cases ({ core with started := true } : DaemonCore) disk { now := now } with
        ⟨opened, status, opening, failed⟩ | ⟨opened, opening, rest⟩
      · rw [opening] at grants calm
        rw [failed]
        exact ⟨fun id grant found => steady.keyed id grant (grants ▸ found), calm⟩
      · rw [opening] at grants calm
        have readied : opened.readyToCompose.Calm := calm.of_store rfl
        have composed := readied.composeLocked opened.generation
        have same := (composeLocked_recomposes opened.readyToCompose opened.generation).grants
        have keyed : (opened.readyToCompose.composeLocked opened.generation).1.grants.Keyed := by
          intro id grant found
          rw [same] at found
          exact steady.keyed id grant (grants ▸ found)
        have ready : (opened.readyToCompose.composeLocked opened.generation).1.Steady := ⟨keyed, composed⟩
        rcases rest with ⟨next, status, composing, failed⟩ | ⟨next, composing, done⟩
        · rw [composing] at ready
          rwa [failed]
        · rw [composing] at ready
          rw [done]
          have installed := ready.installGrants (commitsOf next.recoveredRecords)
          exact ⟨(GrantRegistry.foldl_applyState_swept installed.keyed _).keyed, installed.calm.of_store rfl⟩
    split
    · rename_i failed
      rwa [failed] at recovered
    · rename_i done
      rw [done] at recovered
      exact ⟨(GrantRegistry.revalidate_carries recovered.keyed _ _ _).1.1, recovered.calm.of_store rfl⟩

theorem Steady.enter {core : DaemonCore} (steady : core.Steady) : (core.enter []).Steady :=
  ⟨steady.keyed, steady.calm.enter⟩

theorem Reached.steady {config : DaemonConfig} {core : DaemonCore} (reached : Reached config core) : core.Steady := by
  induction reached with
  | created =>
    refine ⟨?_, .inl rfl⟩
    intro id grant found
    simp [create] at found
  | started _ disk now ih => exact ih.start disk now
  | served _ now command ih => exact ih.enter.exec now command
  | stopped _ now ih => exact ih.enter.stop now

end DaemonCore

end RackFabric
