import RackFabric.Runtime.Counters
import RackFabric.Runtime.LedgerRecovery

/-!
A running process stands where its log says the rack stands, and publishes a snapshot of no later generation and of
exactly its epoch. Every command keeps that, and so does everything a crash of one can leave.
-/

namespace RackFabric

open Counters

namespace DaemonCore

/-- A running process whose counters are those of its log, as far as they are followed. -/
structure Tracks (tracked : Tracked) (held : Counters → Prop) (core : DaemonCore) : Prop where
  store : ∃ store, core.store = some store ∧ store.Charted (chart tracked held)
  counters : core.counters.Agree tracked (logged core.log)
  known : core.membershipInitialized = true
  valid : core.snapshot.valid = true
  published : core.snapshot.generation ≤ core.generation ∧ core.snapshot.epoch = core.epoch ∧
    core.snapshot.data.memberSetDigest = core.memberSetDigest
  digest : core.snapshot.data.memberSetDigest = RackFabric.memberSetDigest core.snapshot.data.devices
  dated : core.grants.Dated (Stamp.Within tracked core.counters)

variable {tracked : Tracked} {held : Counters → Prop} {core : DaemonCore}

/-- A record that may be appended is on the log afterwards, or the encoder refused it. -/
theorem appendLocked_charted (lasting : Lasting tracked held) {store : Store} (here : core.store = some store)
    (charted : store.Charted (chart tracked held)) {record : StoreRecord}
    (admits : (logged core.log).Admits tracked record) :
    (∃ next, core.appendLocked record = ({ core with store := some next }, .ok ()) ∧
      next.Charted (chart tracked held) ∧ next.disk.log = core.log ++ [record]) ∨
      ∃ status, core.appendLocked record = (core, .error status) ∧ ¬ record.Loggable := by
  have log := log_of_store here
  rw [log] at admits
  obtain ⟨sound, done⟩ := charted.append (admits.charted lasting charted.disk.log)
  cases appended : store.append record with
  | mk next result =>
    rw [appended] at sound done
    have append : core.appendLocked record = ({ core with store := some next }, result) := by
      simp only [appendLocked, here, appended]
    rcases done with ⟨rfl, grown⟩ | ⟨status, same, unloggable⟩
    · left
      refine ⟨next, append, sound, ?_⟩
      rw [log]
      exact grown
    · right
      cases same
      refine ⟨status, ?_, unloggable⟩
      rw [append, ← here]

theorem Tracks.quiet (tracks : core.Tracks tracked held) : core.Quiet := by
  obtain ⟨store, here, charted⟩ := tracks.store
  exact ⟨store, here, charted.io, charted.options⟩

/-- An append that moves no counter of the process. -/
theorem Tracks.append (tracks : core.Tracks tracked held) (lasting : Lasting tracked held) {record : StoreRecord}
    (admits : (logged core.log).Admits tracked record)
    (still : ((logged core.log).apply record).Agree tracked (logged core.log)) :
    (core.appendLocked record).1.Tracks tracked held := by
  obtain ⟨store, here, charted⟩ := tracks.store
  rcases appendLocked_charted lasting here charted admits with ⟨next, done, sound, log⟩ | ⟨status, failed, -⟩
  · rw [done]
    have same : DaemonCore.log { core with store := some next } = core.log ++ [record] := log
    refine ⟨⟨next, rfl, sound⟩, ?_, tracks.known, tracks.valid, tracks.published, tracks.digest, tracks.dated⟩
    rw [same, logged_snoc]
    exact ⟨fun follow => (tracks.counters.generation follow).trans (still.generation follow).symm,
      tracks.counters.epoch.trans still.epoch.symm,
      fun follow => (tracks.counters.memberSet follow).trans (still.memberSet follow).symm⟩
  · rw [failed]
    exact tracks

theorem Tracks.advanceGeneration (tracks : core.Tracks tracked held) (lasting : Lasting tracked held)
    (generation : UInt64) : (core.advanceGeneration generation).1.Tracks tracked held := by
  obtain ⟨store, here, charted⟩ := tracks.store
  simp only [DaemonCore.advanceGeneration]
  split
  · rename_i above
    have admits : (logged core.log).Admits tracked (.generation generation) := by
      refine .advance generation fun follow => ?_
      rw [← tracks.counters.generation follow]
      exact above
    rcases appendLocked_charted lasting here charted admits with ⟨next, done, sound, log⟩ | ⟨status, failed, -⟩
    · rw [done]
      have same : DaemonCore.log { core with store := some next, generation := generation } =
          core.log ++ [.generation generation] := log
      refine ⟨⟨next, rfl, sound⟩, ?_, tracks.known, tracks.valid, ?_, tracks.digest, ?_⟩
      · rw [same, logged_snoc]
        exact ⟨fun _ => rfl, tracks.counters.epoch, tracks.counters.memberSet⟩
      · exact ⟨UInt64.le_trans tracks.published.1 (UInt64.le_of_lt above), tracks.published.2⟩
      · exact tracks.dated.mono fun stamp reached =>
          ⟨fun follow => UInt64.le_trans (reached.generation follow) (UInt64.le_of_lt above), reached.epoch⟩
    · rw [failed]
      exact tracks
  · exact tracks

/-- Publishing a snapshot of the current generation, epoch and member set. -/
theorem publish_tracks (store : ∃ store, core.store = some store ∧ store.Charted (chart tracked held))
    (counters : core.counters.Agree tracked (logged core.log)) (known : core.membershipInitialized = true)
    {snapshot : Snapshot} (valid : snapshot.valid = true) (generation : snapshot.generation = core.generation)
    (epoch : snapshot.epoch = core.epoch) (memberSet : snapshot.data.memberSetDigest = core.memberSetDigest)
    (digest : snapshot.data.memberSetDigest = RackFabric.memberSetDigest snapshot.data.devices)
    (dated : core.grants.Dated (Stamp.Within tracked core.counters)) :
    (core.publish snapshot).Tracks tracked held := by
  have same : (core.publish snapshot).counters = core.counters := by
    simp only [DaemonCore.counters, publish, generation]
  refine ⟨store, ?_, known, valid, ⟨UInt64.le_refl _, epoch, memberSet⟩, digest, ?_⟩
  · rw [same]
    exact counters
  · rw [same]
    exact dated

/-- The next epoch is on the log before anything is published under it. -/
theorem enterEpoch_charted (lasting : Lasting tracked held)
    (store : ∃ store, core.store = some store ∧ store.Charted (chart tracked held))
    (epoch : core.epoch = (logged core.log).epoch) (room : core.epoch ≠ maxU64) {memberSet : Digest}
    {entered : DaemonCore} (done : { core with
      epoch := core.epoch + 1
      memberSetDigest := memberSet }.appendLocked (.epoch ⟨core.epoch + 1, memberSet⟩) = (entered, .ok ())) :
    ∃ next, entered = { core with epoch := core.epoch + 1, memberSetDigest := memberSet, store := some next } ∧
      next.Charted (chart tracked held) ∧ next.disk.log = core.log ++ [.epoch ⟨core.epoch + 1, memberSet⟩] := by
  obtain ⟨store, here, charted⟩ := store
  have admits : (logged core.log).Admits tracked (.epoch ⟨core.epoch + 1, memberSet⟩) := by
    have entering := @Admits.enter tracked (logged core.log) memberSet
    rw [← epoch] at entering
    exact entering room
  have held : ({ core with epoch := core.epoch + 1, memberSetDigest := memberSet } : DaemonCore).store = some store :=
    here
  rcases appendLocked_charted lasting held charted admits with ⟨next, appended, sound, log⟩ | ⟨status, failed, -⟩
  · rw [appended] at done
    cases done
    exact ⟨next, rfl, sound, log⟩
  · rw [failed] at done
    cases done

/-- Whatever a composition does, it leaves a store in order, and the old log or one more epoch. -/
theorem Composes.left {next : DaemonCore} {result : Result Unit} (composes : core.Composes next result)
    (lasting : Lasting tracked held) (store : ∃ store, core.store = some store ∧ store.Charted (chart tracked held))
    (epoch : core.epoch = (logged core.log).epoch) :
    (∃ store, next.store = some store ∧ store.Charted (chart tracked held)) ∧ ∃ added, next.log = core.log ++ added := by
  have same : ∃ added, core.log = core.log ++ added := ⟨[], by simp⟩
  cases composes with
  | refused => exact ⟨store, same⟩
  | adopted => exact ⟨store, same⟩
  | republished => exact ⟨store, same⟩
  | advanced snapshot entered known room published moved done =>
    obtain ⟨next, rfl, sound, log⟩ := enterEpoch_charted lasting store epoch room done
    exact ⟨⟨next, rfl, sound⟩, _, log⟩

/-- A composition that succeeds from a rack that was found in order, the member set aside when none is known yet. -/
theorem Composes.arrives {next : DaemonCore} (composes : core.Composes next (.ok ()))
    (lasting : Lasting tracked held) (store : ∃ store, core.store = some store ∧ store.Charted (chart tracked held))
    (generation : tracked.generation → core.generation = (logged core.log).generation)
    (epoch : core.epoch = (logged core.log).epoch)
    (memberSet : tracked.members → core.membershipInitialized = true →
      core.memberSetDigest = (logged core.log).memberSet)
    (fresh : tracked.members → core.membershipInitialized = false → ∀ snapshot, core.Publishes core.epoch snapshot →
      snapshot.data.memberSetDigest = (logged core.log).memberSet)
    (dated : core.grants.Dated (Stamp.Within tracked core.counters)) : next.Tracks tracked held := by
  cases composes with
  | adopted snapshot unknown published =>
    obtain ⟨same, stamped, digest⟩ := published.header
    exact @publish_tracks _ _ { core with
      membershipInitialized := true
      memberSetDigest := snapshot.data.memberSetDigest } store
      ⟨generation, epoch, fun follow => fresh follow unknown snapshot published⟩ rfl _ published.valid same stamped rfl digest
      (dated.mono fun stamp reached => ⟨reached.generation, reached.epoch⟩)
  | republished snapshot known published kept =>
    obtain ⟨same, stamped, digest⟩ := published.header
    exact publish_tracks store ⟨generation, epoch, fun follow => memberSet follow known⟩ known published.valid same
      stamped kept digest dated
  | advanced snapshot entered known room published moved done =>
    obtain ⟨same, stamped, digest⟩ := published.header
    obtain ⟨next, rfl, sound, log⟩ := enterEpoch_charted lasting store epoch room done
    refine @publish_tracks _ _ { core with
      epoch := core.epoch + 1
      memberSetDigest := snapshot.data.memberSetDigest
      store := some next } ⟨next, rfl, sound⟩ ?_ known _ published.valid same stamped rfl digest ?_
    · have grown : DaemonCore.log { core with
          epoch := core.epoch + 1
          memberSetDigest := snapshot.data.memberSetDigest
          store := some next } = core.log ++ [.epoch ⟨core.epoch + 1, snapshot.data.memberSetDigest⟩] := log
      rw [grown, logged_snoc]
      exact ⟨generation, rfl, fun _ => rfl⟩
    · exact dated.mono fun stamp reached =>
        ⟨reached.generation, UInt64.le_trans reached.epoch (UInt64.le_of_lt (lt_succ room))⟩

theorem Composes.tracks {next : DaemonCore} {result : Result Unit} (composes : core.Composes next result)
    (tracks : core.Tracks tracked held) (lasting : Lasting tracked held) : next.Tracks tracked held := by
  cases result with
  | error status =>
    cases composes with
    | refused => exact tracks
  | ok _ =>
    refine composes.arrives lasting tracks.store tracks.counters.generation tracks.counters.epoch
      (fun follow _ => tracks.counters.memberSet follow) ?_ tracks.dated
    intro _ unknown
    rw [tracks.known] at unknown
    cases unknown

theorem Tracks.checkpointLocked (tracks : core.Tracks tracked held) {store : Store} (here : core.store = some store) :
    (core.checkpointLocked store).1.Tracks tracked held := by
  obtain ⟨other, found, charted⟩ := tracks.store
  rw [here] at found
  cases found
  simp only [DaemonCore.checkpointLocked]
  split
  · exact tracks
  · rename_i encoded _
    have log := log_of_store here
    have fits : (chart tracked held).fits (core.checkpointOf store encoded) store.disk.log [] := by
      rw [← log]
      have counters := tracks.counters
      obtain ⟨generation, epoch, memberSet⟩ := tracks.published
      constructor <;> rw [List.append_nil]
      · intro follow
        rw [← counters.generation follow]
        exact generation
      · exact fun _ counted => by cases counted
      · rw [← counters.epoch]
        exact epoch
      · exact counters.memberSet
    have offset : (core.checkpointOf store encoded).walOffset = store.logBytes := rfl
    obtain ⟨written, same⟩ := charted.writeCheckpoint offset fits
    refine ⟨⟨_, rfl, written⟩, ?_, tracks.known, tracks.valid, tracks.published, tracks.digest, tracks.dated⟩
    have still : DaemonCore.log { core with
        store := some (store.writeCheckpoint (core.checkpointOf store encoded)).1 } = core.log := by
      rw [log]
      exact same
    rw [still]
    exact tracks.counters

/-- Another registry within the counters. -/
theorem Tracks.regrant (tracks : core.Tracks tracked held) {grants : GrantRegistry}
    (dated : grants.Dated (Stamp.Within tracked core.counters)) : Tracks tracked held { core with grants := grants } :=
  ⟨tracks.store, tracks.counters, tracks.known, tracks.valid, tracks.published, tracks.digest, dated⟩

/-- What every step of a command keeps. -/
theorem Course.tracks {next : DaemonCore} (course : Course core next) (lasting : Lasting tracked held)
    (tracks : core.Tracks tracked held) : next.Tracks tracked held := by
  induction course with
  | @keep before after still =>
    obtain ⟨store, here, charted⟩ := tracks.store
    have log : after.log = before.log := by
      rw [log_of_store here, log_of_store (still.store.trans here)]
    have current : before.snapshot.epoch ≤ before.epoch := by
      rw [tracks.published.2.1]
      exact UInt64.le_refl _
    have reached : before.snapshot.stamp.Within tracked before.counters := ⟨fun _ => tracks.published.1, current⟩
    refine ⟨⟨store, still.store.trans here, charted⟩, ?_, still.initialized.trans tracks.known, ?_, ?_, ?_, ?_⟩
    · rw [still.counters, log]
      exact tracks.counters
    · rw [still.snapshot]
      exact tracks.valid
    · obtain ⟨generation, epoch, memberSet⟩ := tracks.published
      have same : after.generation = before.generation := congrArg Counters.generation still.counters
      rw [still.snapshot]
      refine ⟨?_, ?_, ?_⟩
      · rw [same]
        exact generation
      · exact epoch.trans (congrArg Counters.epoch still.counters).symm
      · exact memberSet.trans (congrArg Counters.memberSet still.counters).symm
    · rw [still.snapshot]
      exact tracks.digest
    · rw [still.counters]
      exact still.dated _ reached tracks.dated
  | log mute =>
    refine tracks.append lasting (.mute _ mute) ?_
    rw [apply_mute _ mute]
    exact ⟨fun _ => rfl, rfl, fun _ => rfl⟩
  | commit held =>
    obtain ⟨id, found⟩ := held
    have reached := tracks.dated.entries id _ found
    refine tracks.append lasting (.commit _ ?_ ?_) ⟨fun _ => rfl, rfl, fun _ => rfl⟩
    · intro follow
      rw [← tracks.counters.generation follow]
      exact reached.generation follow
    · rw [← tracks.counters.epoch]
      exact reached.epoch
  | mark state =>
    exact tracks.append lasting (.mark _ tracks.counters.generation tracks.counters.epoch)
      (apply_mark tracks.counters.generation tracks.counters.epoch)
  | advance generation => exact tracks.advanceGeneration lasting generation
  | compose => exact (composeLocked_composes (.inr tracks.quiet)).tracks tracks lasting
  | checkpoint here => exact tracks.checkpointLocked here
  | trans _ _ first second => exact second (first tracks)

end DaemonCore

end RackFabric
