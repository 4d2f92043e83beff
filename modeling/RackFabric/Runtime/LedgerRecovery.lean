import RackFabric.Model.Ledger
import RackFabric.Runtime.Books
import RackFabric.Runtime.QuietRun

/-!
The ledger across crashes: whichever checkpoint a start finds, or none, the records it carries and the records
replayed after it rebuild the ledger of the whole log.
-/

namespace RackFabric

open EvidenceLedger

/-- The ledger that offering records to an empty one leads to. -/
abbrev ledgerOf (limits : EvidenceLimits) (records : List EvidenceRecord) : EvidenceLedger :=
  insertAll { limits := limits } records

theorem reflects_ledgerOf {limits : EvidenceLimits} {records : List EvidenceRecord}
    (valid : ∀ record ∈ records, validateEvidence record = .ok ()) (tame : Tame limits records) :
    Reflects (ledgerOf limits records) records :=
  (reflects_empty limits).insertAll valid tame.fits tame.free

def StoreRecord.isBind : StoreRecord → Bool
  | .rackBind _ => true
  | _ => false

/-- A rack of record that a daemon configured for `rack` accepts. -/
def OwnRack (rack found : UInt64) : Prop :=
  found = 0 ∨ found = rack

/-- A directory written by daemons of one configuration: its manifest is readable and names this rack, its log
holds valid evidence, and its checkpoint carries the ledger of the part of the log it covers. -/
structure Disk.Faithful (config : DaemonConfig) (disk : Disk) : Prop where
  manifest : disk.manifest = .absent ∨
    ∃ manifest, disk.manifest = .intact manifest ∧ OwnRack config.rack.rack manifest.rack
  bind : ∀ record ∈ disk.log, record.isBind = false
  valid : ∀ record ∈ evidenceOf disk.log, validateEvidence record = .ok ()
  checkpoint : ∀ checkpoint, disk.checkpoint = .intact checkpoint → ∃ covered rest, disk.log = covered ++ rest ∧
    checkpoint.walOffset = logSize {} covered ∧
    (Tame config.evidenceLimits (evidenceOf covered) →
      checkpoint.ledger = (ledgerOf config.evidenceLimits (evidenceOf covered)).records)

namespace Disk

/-- The ledger a start rebuilds from a directory. -/
def rebuiltLedger (config : DaemonConfig) (disk : Disk) : EvidenceLedger :=
  insertAll (if disk.usedCheckpoint.present then ledgerOf config.evidenceLimits disk.usedCheckpoint.ledger
    else { limits := config.evidenceLimits }) (evidenceOf disk.replayed)

theorem Faithful.aligned {config : DaemonConfig} {disk : Disk} (faithful : disk.Faithful config) :
    disk.Aligned anyCheckpoint := by
  intro checkpoint found
  obtain ⟨covered, rest, log, offset, -⟩ := faithful.checkpoint checkpoint found
  exact ⟨covered, rest, log, offset, trivial⟩

/-- A directory with the same log and checkpoint, and a manifest that names this rack. -/
theorem Faithful.of_files {config : DaemonConfig} {first second : Disk} (faithful : first.Faithful config)
    (wal : second.wal = first.wal) (file : second.checkpoint = first.checkpoint ∨ second.checkpoint = .absent)
    (manifest : second.manifest = first.manifest ∨
      ∃ manifest, second.manifest = .intact manifest ∧ OwnRack config.rack.rack manifest.rack) :
    second.Faithful config := by
  have log : second.log = first.log := by rw [Disk.log, wal, Disk.log]
  refine ⟨?_, ?_, ?_, ?_⟩
  · rcases manifest with same | named
    · rw [same]
      exact faithful.manifest
    · exact .inr named
  · rw [log]
    exact faithful.bind
  · rw [log]
    exact faithful.valid
  · intro checkpoint found
    rw [log]
    rcases file with same | absent
    · exact faithful.checkpoint checkpoint (same ▸ found)
    · rw [absent] at found
      cases found

/-- A start rebuilds the ledger of the whole log, with or without a checkpoint. -/
theorem Faithful.rebuilds {config : DaemonConfig} {disk : Disk} (faithful : disk.Faithful config)
    (tame : Tame config.evidenceLimits (evidenceOf disk.log)) :
    Reflects (disk.rebuiltLedger config) (evidenceOf disk.log) := by
  have split := faithful.aligned.splits.1
  unfold rebuiltLedger
  rcases usedCheckpoint_cases disk with unused | ⟨checkpoint, found, used⟩
  · have whole : disk.replayed = disk.log := by
      unfold replayed
      rw [unused]
      exact congrArg Prod.snd (splitLog_boundary {} [] disk.log)
    have absent : disk.usedCheckpoint.present = false := by rw [unused]
    rw [absent, whole]
    exact reflects_ledgerOf faithful.valid tame
  · obtain ⟨covered, rest, log, offset, carries⟩ := faithful.checkpoint checkpoint found
    have present : disk.usedCheckpoint.present = true := by rw [used]
    have replays : disk.replayed = rest := by
      unfold replayed
      rw [used, log]
      simp only [offset, splitLog_boundary]
    have evidence : evidenceOf disk.log = evidenceOf covered ++ evidenceOf rest := by rw [log, evidenceOf_append]
    have valid := faithful.valid
    rw [evidence] at valid tame ⊢
    have front : ∀ record ∈ evidenceOf covered, record ∈ evidenceOf covered ++ evidenceOf rest :=
      fun record member => List.mem_append.mpr (.inl member)
    have ledger : disk.usedCheckpoint.ledger = (ledgerOf config.evidenceLimits (evidenceOf covered)).records := by
      rw [used]
      exact carries (tame.of_subset front)
    have reference := reflects_ledgerOf (fun record member => valid record (front record member))
      (tame.of_subset front)
    rw [present, if_pos rfl, replays, ledger, ledgerOf, ← insertAll_append]
    have among : ∀ record ∈ (ledgerOf config.evidenceLimits (evidenceOf covered)).records ++ evidenceOf rest,
        record ∈ evidenceOf covered ++ evidenceOf rest := by
      intro record member
      rcases List.mem_append.mp member with member | member
      · exact front record (reference.mem_offered member)
      · exact List.mem_append.mpr (.inr member)
    exact reference.resume (reflects_ledgerOf (fun record member => valid record (among record member))
      (tame.of_subset among))

end Disk

namespace Store

/-- A store of such a directory, whose writes all succeed, with every directory its writes left on the way. -/
structure Faithful (config : DaemonConfig) (store : Store) : Prop where
  io : store.io = []
  options : store.options = {}
  logBytes : store.logBytes = logSize {} store.disk.log
  bound : OwnRack config.rack.rack store.boundRack
  disk : store.disk.Faithful config
  trail : ∀ crash ∈ store.trail, crash.Faithful config

theorem Faithful.write {config : DaemonConfig} {store : Store} (faithful : store.Faithful config) {disk : Disk}
    (wal : disk.wal = store.disk.wal) (sound : disk.Faithful config) : (store.write disk).Faithful config := by
  refine ⟨faithful.io, faithful.options, ?_, faithful.bound, sound, ?_⟩
  · have log : disk.log = store.disk.log := by rw [Disk.log, wal, Disk.log]
    change store.logBytes = logSize {} disk.log
    rw [log]
    exact faithful.logBytes
  · intro crash member
    rcases List.mem_append.mp member with member | member
    · exact faithful.trail crash member
    · rw [List.mem_singleton.mp member]
      exact sound

theorem Faithful.persistMeta {config : DaemonConfig} {store : Store} (faithful : store.Faithful config)
    {manifest : Meta} (named : OwnRack config.rack.rack manifest.rack) :
    (store.persistMeta manifest).1.Faithful config := by
  rw [Store.persistMeta, attempt_done faithful.io]
  exact faithful.write rfl (faithful.disk.of_files rfl (.inl rfl) (.inr ⟨manifest, rfl, named⟩))

theorem Faithful.rebook {config : DaemonConfig} {store : Store} (faithful : store.Faithful config)
    {length : Nat} {recovered : RecoveredState} :
    Faithful config { store with checkpointLength := length, recovered := recovered } :=
  ⟨faithful.io, faithful.options, faithful.logBytes, faithful.bound, faithful.disk, faithful.trail⟩

theorem Faithful.append {config : DaemonConfig} {store : Store} (faithful : store.Faithful config)
    {record : StoreRecord} (bind : record.isBind = false)
    (valid : ∀ evidence ∈ evidenceOf [record], validateEvidence evidence = .ok ()) :
    (store.append record).1.Faithful config := by
  rcases append_cases faithful.io record with ⟨writer, -, appended⟩ | ⟨status, -, failed⟩
  · have log : (store.appended record).disk.log = store.disk.log ++ [record] := rfl
    have sound : (store.appended record).disk.Faithful config := by
      refine ⟨faithful.disk.manifest, ?_, ?_, ?_⟩
      · intro old member
        rcases List.mem_append.mp (log ▸ member) with member | member
        · exact faithful.disk.bind old member
        · rw [List.mem_singleton.mp member]
          exact bind
      · intro evidence member
        rw [log, evidenceOf_append] at member
        rcases List.mem_append.mp member with member | member
        · exact faithful.disk.valid evidence member
        · exact valid evidence member
      · intro checkpoint found
        obtain ⟨covered, rest, split, offset, carries⟩ := faithful.disk.checkpoint checkpoint found
        refine ⟨covered, rest ++ [record], ?_, offset, carries⟩
        rw [log, split, List.append_assoc]
    rw [appended]
    refine ⟨faithful.io, faithful.options, ?_, faithful.bound, sound, ?_⟩
    · rw [log, logSize_append, ← faithful.logBytes, ← faithful.options]
      rfl
    · intro crash member
      rcases List.mem_append.mp member with member | member
      · exact faithful.trail crash member
      · rw [List.mem_singleton.mp member]
        exact sound
  · rw [failed]
    exact faithful

theorem Faithful.rotate {config : DaemonConfig} {store : Store} (faithful : store.Faithful config) :
    store.rotate.Faithful config ∧ store.rotate.disk.log = store.disk.log := by
  unfold Store.rotate
  split
  · exact ⟨faithful, rfl⟩
  · rw [attempt_done faithful.io]
    exact ⟨faithful.write rfl (faithful.disk.of_files rfl (.inr rfl) (.inl rfl)), rfl⟩

/-- Every directory on the way of a checkpoint write is faithful: the old checkpoint, none, or the new one. -/
theorem Faithful.writeCheckpoint {config : DaemonConfig} {store : Store} (faithful : store.Faithful config)
    {checkpoint : Checkpoint} (offset : checkpoint.walOffset = store.logBytes)
    (carries : Tame config.evidenceLimits (evidenceOf store.disk.log) →
      checkpoint.ledger = (ledgerOf config.evidenceLimits (evidenceOf store.disk.log)).records) :
    (store.writeCheckpoint checkpoint).1.Faithful config ∧
      (store.writeCheckpoint checkpoint).1.disk.log = store.disk.log := by
  unfold Store.writeCheckpoint
  split
  · exact ⟨faithful, rfl⟩
  · obtain ⟨rotated, log⟩ := faithful.rotate
    dsimp only
    generalize store.rotate = middle at rotated log ⊢
    have sound : ({ middle.disk with checkpoint := .intact checkpoint } : Disk).Faithful config := by
      refine ⟨rotated.disk.manifest, rotated.disk.bind, rotated.disk.valid, ?_⟩
      intro found stored
      cases stored
      refine ⟨middle.disk.log, [], by simp [Disk.log], ?_, ?_⟩
      · rw [offset, faithful.logBytes, log]
      · rw [log]
        exact carries
    obtain ⟨stored, wrote, written⟩ : ∃ stored, stored = middle.write { middle.disk with
        checkpoint := .intact checkpoint } ∧ Faithful config stored :=
      ⟨_, rfl, Faithful.write rotated rfl sound⟩
    have kept : stored.disk.log = store.disk.log := by
      rw [wrote, ← log]
      rfl
    rw [attempt_done rotated.io, ← wrote]
    dsimp only
    rw [Store.persistMeta, attempt_done written.io]
    refine ⟨Faithful.rebook (written.write ?_ (written.disk.of_files ?_ ?_ ?_)), kept⟩
    · rfl
    · rfl
    · exact .inl rfl
    · exact .inr ⟨_, rfl, written.bound⟩

end Store

namespace DaemonCore

/-- A process on such a store, whose ledger is that of its log. -/
structure Faithful (config : DaemonConfig) (core : DaemonCore) : Prop where
  store : ∃ store, core.store = some store ∧ store.Faithful config
  limits : core.ledger.limits = config.evidenceLimits
  ledger : Tame config.evidenceLimits (evidenceOf core.log) → Reflects core.ledger (evidenceOf core.log)

theorem log_of_store {core : DaemonCore} {store : Store} (held : core.store = some store) :
    core.log = store.disk.log := by
  simp only [log, disk, held]

theorem Faithful.of_log {config : DaemonConfig} {before after : DaemonCore} (faithful : before.Faithful config)
    {store : Store} (held : after.store = some store) (sound : store.Faithful config)
    (ledger : after.ledger = before.ledger) (evidence : evidenceOf store.disk.log = evidenceOf before.log) :
    after.Faithful config := by
  refine ⟨⟨store, held, sound⟩, by rw [ledger, faithful.limits], ?_⟩
  rw [log_of_store held, evidence, ledger]
  exact faithful.ledger

/-- A record is on the log exactly when its append was reported as done. -/
private theorem appendLocked_held {core : DaemonCore} {store : Store} (held : core.store = some store)
    (record : StoreRecord) :
    core.appendLocked record = ({ core with store := some (store.append record).1 }, (store.append record).2) := by
  simp only [appendLocked, held]

theorem Books.faithful {config : DaemonConfig} {before after : DaemonCore} (books : Books before after)
    (faithful : before.Faithful config) : after.Faithful config := by
  induction books with
  | keep ledger store =>
    obtain ⟨held, found, sound⟩ := faithful.store
    exact faithful.of_log (store.trans found) sound ledger (by rw [log_of_store found])
  | @log before record silent =>
    obtain ⟨held, found, sound⟩ := faithful.store
    have none : evidenceOf [record] = [] := by cases record <;> first | rfl | cases silent
    have bind : record.isBind = false := by cases record <;> first | rfl | cases silent
    have appended := sound.append bind (by simp [none])
    have store : (before.appendLocked record).1.store = some (held.append record).1 := by
      rw [appendLocked_held found]
    refine faithful.of_log store appended ?_ ?_
    · rw [appendLocked_held found]
    · rw [log_of_store found]
      rcases Store.append_cases sound.io record with ⟨writer, -, done⟩ | ⟨status, -, failed⟩
      · rw [done]
        change evidenceOf (held.disk.log ++ [record]) = _
        rw [evidenceOf_append, none, List.append_nil]
      · rw [failed]
  | @refuse before after record status failed =>
    obtain ⟨held, found, sound⟩ := faithful.store
    rw [appendLocked_held found] at failed
    rcases Store.append_cases sound.io (.evidence record) with ⟨writer, -, done⟩ | ⟨status, -, refused⟩
    · rw [done] at failed
      cases failed
    · rw [refused] at failed
      cases failed
      exact faithful.of_log rfl sound rfl (by rw [log_of_store found])
  | @accept before logged record valid done =>
    obtain ⟨held, found, sound⟩ := faithful.store
    have appended : (held.append (.evidence record)).1.Faithful config :=
      sound.append rfl (by simpa [evidenceOf] using valid)
    rw [appendLocked_held found] at done
    rcases Store.append_cases sound.io (.evidence record) with ⟨writer, -, succeeds⟩ | ⟨status, -, refused⟩
    · rw [succeeds] at done appended
      cases done
      refine ⟨⟨_, rfl, appended⟩, ?_, ?_⟩
      · rw [insert_limits]
        exact faithful.limits
      · have log : evidenceOf (held.appended (.evidence record)).disk.log = evidenceOf before.log ++ [record] := by
          rw [log_of_store found]
          change evidenceOf (held.disk.log ++ [.evidence record]) = _
          rw [evidenceOf_append]
          rfl
        change Tame _ (evidenceOf (held.appended (.evidence record)).disk.log) →
          Reflects (before.ledger.insert record).1 (evidenceOf (held.appended (.evidence record)).disk.log)
        rw [log]
        intro tame
        have earlier := faithful.ledger (tame.of_subset (fun old member => by simp [member]))
        exact earlier.insert valid (faithful.limits ▸ tame.fits) tame.free
    · rw [refused] at done
      cases done
  | @checkpoint before store held =>
    obtain ⟨same, found, sound⟩ := faithful.store
    rw [held] at found
    cases found
    unfold checkpointLocked
    split
    · exact faithful
    · rename_i encoded _
      have here := log_of_store held
      have carries : Tame config.evidenceLimits (evidenceOf store.disk.log) →
          (before.checkpointOf store encoded).ledger =
            (ledgerOf config.evidenceLimits (evidenceOf store.disk.log)).records := by
        intro tame
        rw [← here] at tame ⊢
        have reference := reflects_ledgerOf (here ▸ sound.disk.valid) tame
        have slots := reference.slots_eq (faithful.ledger tame) tame.free (fun _ => Iff.rfl)
        simp only [checkpointOf, records, slots]
      have offset : (before.checkpointOf store encoded).walOffset = store.logBytes := rfl
      obtain ⟨written, log⟩ := sound.writeCheckpoint offset carries
      exact faithful.of_log rfl written rfl (by rw [log, here])
  | trans _ _ first second => exact second (first faithful)

theorem Faithful.keep {config : DaemonConfig} {before after : DaemonCore} (faithful : before.Faithful config)
    (ledger : after.ledger = before.ledger) (store : after.store = before.store) : after.Faithful config :=
  Books.faithful (.keep ledger store) faithful

/-- A log without bindings replays to its end and offers its evidence to the ledger. -/
theorem replayRecords_unbound {records : List StoreRecord} (core : DaemonCore)
    (bind : ∀ record ∈ records, record.isBind = false) :
    ∃ next, core.replayRecords records = (next, .ok ()) ∧
      next.ledger = core.ledger.insertAll (evidenceOf records) ∧
      next.config.rack.rack = core.config.rack.rack := by
  induction records generalizing core with
  | nil => exact ⟨core, rfl, rfl, rfl⟩
  | cons record rest ih =>
    obtain ⟨middle, applied, ledger, rack⟩ : ∃ middle, core.applyRecoveredRecord record = (middle, .ok ()) ∧
        middle.ledger = core.ledger.insertAll (evidenceOf [record]) ∧
        middle.config.rack.rack = core.config.rack.rack := by
      cases record with
      | rackBind body => simpa [StoreRecord.isBind] using bind (.rackBind body) (by simp)
      | config body | evidence record | lifecycle body | generation generation | epoch body | grantCommit grant
      | grantState body | requestOutcome body | cleanShutdown atMs => exact ⟨_, rfl, rfl, rfl⟩
    obtain ⟨next, replayed, final, same⟩ := ih middle (fun old member => bind old (by simp [member]))
    refine ⟨next, ?_, ?_, same.trans rack⟩
    · rw [replayRecords, applied]
      exact replayed
    · rw [final, ledger, ← insertAll_append, ← evidenceOf_append, List.singleton_append]

theorem loadCheckpoint_ledger (config : DaemonConfig) (core : DaemonCore) (checkpoint : Checkpoint)
    (blank : core.ledger = { limits := config.evidenceLimits }) :
    (core.loadCheckpoint checkpoint).ledger =
      (if checkpoint.present then ledgerOf config.evidenceLimits checkpoint.ledger
        else { limits := config.evidenceLimits }) ∧
      (core.loadCheckpoint checkpoint).config = core.config := by
  unfold loadCheckpoint
  cases checkpoint.present with
  | false => exact ⟨blank, rfl⟩
  | true =>
    refine ⟨?_, rfl⟩
    simp only [Bool.not_true, Bool.false_eq_true, if_false, blank]
    rfl

end DaemonCore

namespace Store

/-- A faithful directory opens, on a store bound to this rack or to none. -/
theorem openDirectory_faithful {config : DaemonConfig} {disk : Disk} (faithful : disk.Faithful config)
    (io : List IoOutcome) :
    ∃ store, openDirectory disk {} io = .ok store ∧ OwnRack config.rack.rack store.boundRack := by
  obtain ⟨manifest, report, reading, own⟩ : ∃ manifest report, readManifest disk {} = .ok (manifest, report) ∧
      OwnRack config.rack.rack ((manifest.map Meta.rack).getD 0) := by
    unfold readManifest
    rcases faithful.manifest with absent | ⟨manifest, intact, named⟩
    · rw [absent]
      exact ⟨_, _, rfl, .inl rfl⟩
    · rw [intact]
      exact ⟨_, _, rfl, named⟩
  cases opening : openDirectory disk {} io with
  | error status =>
    rw [openDirectory, reading] at opening
    cases opening
  | ok store =>
    rw [openDirectory, reading] at opening
    cases opening
    exact ⟨_, rfl, own⟩

theorem Opened.faithful {config : DaemonConfig} {disk : Disk} {store : Store} (opened : Opened disk [] store)
    (faithful : disk.Faithful config) (bound : OwnRack config.rack.rack store.boundRack) :
    store.Faithful config ∧ store.disk.log = disk.log := by
  have log := (opened.aligned faithful.aligned).2
  have sound : store.disk.Faithful config := by
    refine ⟨?_, ?_, ?_, ?_⟩
    · rw [opened.manifest]
      exact faithful.manifest
    · rw [log]
      exact faithful.bind
    · rw [log]
      exact faithful.valid
    · rw [log, opened.file]
      exact faithful.checkpoint
  refine ⟨⟨opened.io, opened.options, opened.logBytes, bound, sound, ?_⟩, log⟩
  intro crash member
  rw [opened.trail] at member
  rw [List.mem_singleton.mp member]
  exact sound

theorem Faithful.nextIncarnation {config : DaemonConfig} {store : Store} (faithful : store.Faithful config) :
    store.nextIncarnation.1.Faithful config := by
  have counted : Faithful config { store with incarnationCounter := store.incarnationCounter + 1 } :=
    ⟨faithful.io, faithful.options, faithful.logBytes, faithful.bound, faithful.disk, faithful.trail⟩
  have persisted := counted.persistMeta (show OwnRack config.rack.rack (manifestOf { store with
    incarnationCounter := store.incarnationCounter + 1 }).rack from faithful.bound)
  unfold Store.nextIncarnation
  split
  · exact faithful
  · dsimp only
    split
    · rename_i failed
      rwa [failed] at persisted
    · rename_i done
      rwa [done] at persisted

theorem Faithful.bindRack {config : DaemonConfig} {store : Store} (faithful : store.Faithful config) {rack : UInt64}
    (own : OwnRack config.rack.rack rack) : (store.bindRack rack).1.Faithful config := by
  have bound : Faithful config { store with boundRack := rack } :=
    ⟨faithful.io, faithful.options, faithful.logBytes, own, faithful.disk, faithful.trail⟩
  exact bound.persistMeta own

end Store

namespace DaemonCore

/-- Opening a faithful directory rebuilds its ledger, whatever the writes that follow meet. -/
theorem openStore_faithful {config : DaemonConfig} (backed : config.storeDirectory ≠ []) {disk : Disk}
    (faithful : disk.Faithful config) (env : Env) :
    ((starting config).openStore disk env).1.ledger = disk.rebuiltLedger config ∧
      (env.io = [] → ((starting config).openStore disk env).1.Faithful config) := by
  obtain ⟨store, opening, bound⟩ := Store.openDirectory_faithful faithful env.io
  have opened := Store.openDirectory_ok opening
  have unbound : ¬ (store.boundRack ≠ 0 ∧ store.boundRack ≠ config.rack.rack) := by
    rintro ⟨nonzero, foreign⟩
    rcases bound with zero | own
    · exact nonzero zero
    · exact foreign own
  have backing : ¬ (starting config).config.storeDirectory.isEmpty = true := by
    simpa [starting, create] using backed
  have part : ∀ record ∈ store.recovered.records, record.isBind = false := by
    intro record member
    rw [opened.records] at member
    refine faithful.bind record ?_
    rw [← faithful.aligned.splits.1]
    exact List.mem_append.mpr (.inr member)
  unfold openStore
  rw [if_neg backing, opening]
  dsimp only
  rw [if_neg (by exact unbound)]
  generalize ready : ({ starting config with
    store := some store
    dirtyRecovery := !store.recovered.report.freshStore && !store.recovered.report.cleanShutdown } : DaemonCore) = core
  obtain ⟨loaded, sameConfig⟩ := loadCheckpoint_ledger config core store.recovered.checkpoint (by rw [← ready]; rfl)
  obtain ⟨next, replayed, ledger, rack⟩ :=
    replayRecords_unbound (core.loadCheckpoint store.recovered.checkpoint) part
  have rebuilt : next.ledger = disk.rebuiltLedger config := by
    rw [ledger, loaded, opened.checkpoint, opened.records]
    rfl
  have own : next.config.rack.rack = config.rack.rack := by
    rw [rack, sameConfig, ← ready]
    rfl
  rw [replayed]
  dsimp only
  have sound : env.io = [] → store.Faithful config ∧ store.disk.log = disk.log := by
    intro quiet
    rw [quiet] at opened
    exact opened.faithful faithful bound
  have ends : ∀ final : Store, final.Faithful config → final.disk.log = disk.log → ∀ incarnation,
      ({ next with store := some final, incarnation := incarnation } : DaemonCore).Faithful config := by
    intro final kept log incarnation
    refine ⟨⟨final, rfl, kept⟩, ?_, ?_⟩
    · change next.ledger.limits = _
      rw [rebuilt, Disk.rebuiltLedger, insertAll_limits]
      split <;> simp
    · change Tame _ (evidenceOf final.disk.log) → Reflects next.ledger (evidenceOf final.disk.log)
      rw [log, rebuilt]
      exact faithful.rebuilds
  have counted := Store.nextIncarnation_keepsFiles store
  split
  · rename_i last status counting
    rw [counting] at counted
    refine ⟨rebuilt, fun quiet => ?_⟩
    have kept := (sound quiet).1.nextIncarnation
    rw [counting] at kept
    exact ends last kept (counted.log.trans (sound quiet).2) next.incarnation
  · rename_i last incarnation counting
    rw [counting] at counted
    refine ⟨rebuilt, fun quiet => ?_⟩
    have kept := (sound quiet).1.nextIncarnation
    rw [counting] at kept
    have bound := counted.trans (Store.bindRack_keepsFiles last next.config.rack.rack)
    exact ends _ (kept.bindRack (.inr own)) (bound.log.trans (sound quiet).2) incarnation

theorem recover_faithful {config : DaemonConfig} (backed : config.storeDirectory ≠ []) {disk : Disk}
    (faithful : disk.Faithful config) (env : Env) :
    ((starting config).recover disk env).1.ledger = disk.rebuiltLedger config ∧
      (env.io = [] → ((starting config).recover disk env).1.Faithful config) := by
  obtain ⟨ledger, sound⟩ := openStore_faithful backed faithful env
  rcases recover_cases (starting config) disk env with ⟨opened, status, opening, failed⟩ | ⟨opened, opening, rest⟩
  · rw [opening] at ledger sound
    rw [failed]
    exact ⟨ledger, sound⟩
  · rw [opening] at ledger sound
    have same := (composeLocked_recomposes opened.readyToCompose opened.generation).ledger
    have ready : Books opened opened.readyToCompose := .keep rfl rfl
    have books := ready.trans (composeLocked_books opened.readyToCompose opened.generation)
    rcases rest with ⟨composed, status, composing, failed⟩ | ⟨composed, composing, done⟩
    · rw [composing] at same books
      rw [failed]
      exact ⟨same.trans ledger, fun quiet => books.faithful (sound quiet)⟩
    · rw [composing] at same books
      rw [done]
      exact ⟨same.trans ledger, fun quiet => (books.faithful (sound quiet)).keep rfl rfl⟩

/-- A start on a faithful directory ends with the ledger of its log, whatever the start itself answers. -/
theorem start_faithful {config : DaemonConfig} (backed : config.storeDirectory ≠ []) {disk : Disk}
    (faithful : disk.Faithful config) (env : Env) :
    ((create config).start disk env).1.ledger = disk.rebuiltLedger config ∧
      (env.io = [] → ((create config).start disk env).1.Faithful config) := by
  obtain ⟨ledger, sound⟩ := recover_faithful backed faithful env
  have unstarted : (create config).started = false := rfl
  have begun : ({ create config with started := true } : DaemonCore) = starting config := rfl
  simp only [start, unstarted, Bool.false_eq_true, if_false, begun]
  split
  · rename_i failed
    rw [failed] at ledger sound
    exact ⟨ledger, sound⟩
  · rename_i done
    rw [done] at ledger sound
    exact ⟨ledger, fun quiet => (sound quiet).keep rfl rfl⟩

theorem Faithful.enter {config : DaemonConfig} {core : DaemonCore} (faithful : core.Faithful config) :
    (core.enter []).Faithful config := by
  obtain ⟨store, held, sound⟩ := faithful.store
  have entered : (core.enter []).store = some { store with io := [], trail := [] } := by
    simp only [DaemonCore.enter, held, Option.map_some]
  have kept : Store.Faithful config { store with io := [], trail := [] } :=
    ⟨rfl, sound.options, sound.logBytes, sound.bound, sound.disk, by simp⟩
  exact faithful.of_log entered kept rfl (by rw [log_of_store held])

theorem Faithful.here {config : DaemonConfig} {core : DaemonCore} (faithful : core.Faithful config) :
    core.disk.Faithful config ∧ ∀ crash ∈ core.writes, crash.Faithful config := by
  obtain ⟨store, held, sound⟩ := faithful.store
  simp only [disk, writes, held]
  exact ⟨sound.disk, sound.trail⟩

/-- Stopping writes the manifest alone. -/
theorem stop_faithful {config : DaemonConfig} {core : DaemonCore} (faithful : core.Faithful config) (now : UInt64) :
    (core.stop now).1.Faithful config := by
  obtain ⟨store, held, sound⟩ := faithful.store
  simp only [stop, held]
  split
  · exact faithful
  · have marked : (store.markCleanShutdown now).1.Faithful config ∧
        (store.markCleanShutdown now).1.disk.log = store.disk.log := by
      unfold Store.markCleanShutdown
      rw [Store.persistMeta, Store.attempt_done sound.io]
      refine ⟨Store.Faithful.rebook (sound.write ?_ (sound.disk.of_files ?_ ?_ ?_)), rfl⟩
      · rfl
      · rfl
      · exact .inl rfl
      · exact .inr ⟨_, rfl, sound.bound⟩
    exact faithful.of_log rfl marked.1 rfl (by rw [marked.2, log_of_store held])

end DaemonCore

namespace System

def Faithful (config : DaemonConfig) : System → Prop
  | .down disk => disk.Faithful config
  | .up core => core.Faithful config

theorem crash_faithful {config : DaemonConfig} {before : Disk} (faithful : before.Faithful config)
    {writes : List Disk} (sound : ∀ crash ∈ writes, crash.Faithful config) (count : Nat) :
    (before.afterCrash writes count).Faithful config := by
  rcases Disk.afterCrash_mem before writes count with same | member
  · rw [same]
    exact faithful
  · exact sound _ member

theorem step_faithful {config : DaemonConfig} (backed : config.storeDirectory ≠ []) {system : System} {event : Event}
    (quiet : event.env.io = []) (faithful : system.Faithful config) : (step config system event).Faithful config := by
  cases system with
  | down disk =>
    have here : disk.Faithful config := faithful
    cases action : event.action with
    | command command | stop | crash =>
      simp only [step, action]
      exact here
    | start =>
      have started := (DaemonCore.start_faithful backed here event.env).2 quiet
      simp only [step, action, boot]
      split
      · exact crash_faithful here started.here.2 _
      · split
        · exact started
        · split
          · exact started.here.1
          · exact here
  | up core =>
    have running : core.Faithful config := faithful
    cases action : event.action with
    | command command =>
      have served := (DaemonCore.exec_books (core.enter []) event.env.now command).faithful running.enter
      simp only [step, action, serve, quiet]
      split
      · exact served
      · exact crash_faithful running.here.1 served.here.2 _
    | stop =>
      have stopped := DaemonCore.stop_faithful running.enter event.env.now
      simp only [step, action, halt, quiet]
      split
      · exact stopped.here.1
      · exact crash_faithful running.here.1 stopped.here.2 _
    | crash =>
      simp only [step, action]
      exact running.here.1
    | start =>
      simp only [step, action]
      exact running

theorem after_faithful {config : DaemonConfig} (backed : config.storeDirectory ≠ []) {events : List Event}
    (quiet : ∀ event ∈ events, event.env.io = []) : (after config events).Faithful config := by
  induction events using List.reverseRecOn with
  | nil =>
    refine ⟨.inl rfl, ?_, ?_, ?_⟩
    · intro record member
      cases member
    · intro record member
      cases member
    · intro checkpoint found
      cases found
  | append_singleton events event ih =>
    rw [after, Foundation.run_append]
    exact step_faithful backed (quiet event (by simp)) (ih (fun old member => quiet old (by simp [member])))

theorem Faithful.disk {config : DaemonConfig} {system : System} (faithful : system.Faithful config) :
    system.disk.Faithful config := by
  cases system with
  | down disk => exact faithful
  | up core => exact DaemonCore.Faithful.here faithful |>.1

/-- In every run without failing writes, wherever its crashes fall, the ledger that a start on the directory
rebuilds is the ledger of everything the log ever accepted. -/
theorem ledger_recovered {config : DaemonConfig} (backed : config.storeDirectory ≠ []) {events : List Event}
    (quiet : ∀ event ∈ events, event.env.io = [])
    (tame : Tame config.evidenceLimits (evidenceOf (after config events).log)) (env : Env) :
    let rebuilt := ((DaemonCore.create config).start (after config events).disk env).1.ledger
    let history := ledgerOf config.evidenceLimits (evidenceOf (after config events).log)
    rebuilt.slots = history.slots ∧ rebuilt.records = history.records ∧ rebuilt.digest = history.digest ∧
      rebuilt.sources = history.sources := by
  have faithful := (after_faithful backed quiet).disk
  have ledger := (DaemonCore.start_faithful backed faithful env).1
  have rebuilds := faithful.rebuilds tame
  have reference := reflects_ledgerOf faithful.valid tame
  have slots := reference.slots_eq rebuilds tame.free (fun _ => Iff.rfl)
  simp only [ledger]
  refine ⟨slots, ?_, ?_, reference.sources_eq rebuilds⟩
  · simp only [records, slots, System.log]
  · simp only [digest, records, slots, System.log]

/-- A rack drained and cleared again, by its operator. -/
def drainOrder (sequence : UInt64) (action : MaintenanceKind) : EvidenceRecord :=
  { provenance := { source := 1, sequence := sequence }, payload := .maintenance ⟨action, .rack, 0, []⟩ }

/-- A process that dies once its checkpoint file is in place and before the manifest points at it, and the next
one, which takes more evidence. -/
def tornCheckpoint : List Event :=
  [.start 0, .call 1 (.submitEvidence [drainOrder 1 .drain]), .call 2 (.checkpoint),
    .call 3 (.submitEvidence [drainOrder 2 .clear]), { Event.call 4 .checkpoint with cut := some 2 },
    .start 5, .call 6 (.submitEvidence [drainOrder 3 .drain]), .crash]

theorem ledger_recovered_torn_checkpoint :
    evidenceOf (after loneRack tornCheckpoint).log =
        [drainOrder 1 .drain, drainOrder 2 .clear, drainOrder 3 .drain] ∧
      ((DaemonCore.create loneRack).start (after loneRack tornCheckpoint).disk { now := 7 }).1.ledger.slots =
        (ledgerOf loneRack.evidenceLimits
          [drainOrder 1 .drain, drainOrder 2 .clear, drainOrder 3 .drain]).slots := by
  have log : evidenceOf (after loneRack tornCheckpoint).log =
      [drainOrder 1 .drain, drainOrder 2 .clear, drainOrder 3 .drain] := by decide +kernel
  refine ⟨log, ?_⟩
  have tame : Tame loneRack.evidenceLimits (evidenceOf (after loneRack tornCheckpoint).log) := by
    rw [log]
    refine ⟨⟨by decide +kernel, by decide +kernel⟩, ?_⟩
    unfold CollisionFree
    decide +kernel
  have recovered := (ledger_recovered loneRack_backed (by decide) tame { now := 7 }).1
  rwa [log] at recovered

end System

end RackFabric
