import RackFabric.Runtime.Frame
import RackFabric.Persist.Recovery

/-!
What the daemon's building blocks write when no write fails: the records they append, and checkpoints of the
current lifecycle.
-/

namespace RackFabric

/-- The records that carry authority: commits and ends of grants, and outcomes of requests. -/
def StoreRecord.isAuthority : StoreRecord → Bool
  | .grantCommit _ | .grantState _ | .requestOutcome _ => true
  | _ => false

/-- The records of what the rack is made of. -/
def StoreRecord.isPlain : StoreRecord → Bool
  | .evidence _ | .generation _ | .epoch _ => true
  | _ => false

/-- The authority records of a log, in order. -/
def journal (records : List StoreRecord) : List StoreRecord :=
  records.filter StoreRecord.isAuthority

@[simp] theorem journal_append (first second : List StoreRecord) :
    journal (first ++ second) = journal first ++ journal second :=
  List.filter_append ..

theorem journal_plain {records : List StoreRecord} (plain : ∀ record ∈ records, record.isPlain = true) :
    journal records = [] := by
  unfold journal
  rw [List.filter_eq_nil_iff]
  intro record member
  have kind := plain record member
  cases record <;> simp_all [StoreRecord.isPlain, StoreRecord.isAuthority]

namespace DaemonCore

/-- A process with a store whose writes all succeed. -/
def Quiet (core : DaemonCore) : Prop :=
  ∃ store, core.store = some store ∧ store.io = [] ∧ store.options = {}

/-- A stretch of a call that appended records, under one lifecycle. -/
def Logs (lifecycle : LifecycleState) (before : DaemonCore) (records : List StoreRecord) (after : DaemonCore) :
    Prop :=
  ∃ first last, before.store = some first ∧ after.store = some last ∧ first.Wrote lifecycle records last

theorem Logs.trans {lifecycle : LifecycleState} {first middle last : DaemonCore} {earlier later : List StoreRecord}
    (before : Logs lifecycle first earlier middle) (after : Logs lifecycle middle later last) :
    Logs lifecycle first (earlier ++ later) last := by
  obtain ⟨start, finish, started, finished, wrote⟩ := before
  obtain ⟨again, final, resumed, ended, more⟩ := after
  rw [finished] at resumed
  cases resumed
  exact ⟨start, final, started, ended, wrote.trans more⟩

theorem Logs.quiet {lifecycle : LifecycleState} {before after : DaemonCore} {records : List StoreRecord}
    (logs : Logs lifecycle before records after) (quiet : before.Quiet) : after.Quiet := by
  obtain ⟨first, last, started, finished, wrote⟩ := logs
  obtain ⟨store, held, io, options⟩ := quiet
  rw [started] at held
  cases held
  have extended := wrote.extends_ io
  exact ⟨last, finished, extended.io, extended.options.trans options⟩

theorem Quiet.logs_nothing {core : DaemonCore} (quiet : core.Quiet) (lifecycle : LifecycleState) {next : DaemonCore}
    (same : next.store = core.store) : Logs lifecycle core [] next := by
  obtain ⟨store, held, -, -⟩ := quiet
  exact ⟨store, store, held, same.trans held, .nothing store⟩

/-- An append succeeds exactly when the encoder takes the record. -/
theorem appendLocked_quiet {core : DaemonCore} (quiet : core.Quiet) (lifecycle : LifecycleState)
    (record : StoreRecord) :
    (record.Loggable ∧ ∃ next, core.appendLocked record = (next, .ok ()) ∧ Logs lifecycle core [record] next) ∨
      (¬ record.Loggable ∧ ∃ status, core.appendLocked record = (core, .error status)) := by
  obtain ⟨store, held, io, options⟩ := quiet
  have appends : core.appendLocked record =
      ({ core with store := some (store.append record).1 }, (store.append record).2) := by
    simp only [appendLocked, held]
  rcases Store.append_cases io record with ⟨writer, encoded, appended⟩ | ⟨status, encoded, appended⟩
  · rw [options] at encoded
    refine .inl ⟨⟨writer, encoded⟩, { core with store := some (store.appended record) }, ?_, ?_⟩
    · rw [appends, appended]
    · exact ⟨store, store.appended record, held, rfl, .one appended⟩
  · rw [options] at encoded
    refine .inr ⟨?_, status, ?_⟩
    · rintro ⟨writer, taken⟩
      rw [encoded] at taken
      cases taken
    · rw [appends, appended, ← held]

theorem appendLocked_logs {core : DaemonCore} (quiet : core.Quiet) (lifecycle : LifecycleState)
    {record : StoreRecord} (loggable : record.Loggable) :
    ∃ next, core.appendLocked record = (next, .ok ()) ∧ Logs lifecycle core [record] next := by
  rcases appendLocked_quiet quiet lifecycle record with ⟨-, next, done, logs⟩ | ⟨refused, -⟩
  · exact ⟨next, done, logs⟩
  · exact absurd loggable refused

theorem checkpointLocked_logs {core : DaemonCore} {store : Store} (held : core.store = some store) :
    Logs core.lifecycle core [] (core.checkpointLocked store).1 := by
  unfold checkpointLocked
  split
  · exact ⟨store, store, held, held, .nothing store⟩
  · rename_i encoded _
    exact ⟨store, _, held, rfl, .checkpoint (core.checkpointOf store encoded) (.nothing store) rfl rfl⟩

theorem maybeCheckpointLocked_logs {core : DaemonCore} (quiet : core.Quiet) :
    Logs core.lifecycle core [] core.maybeCheckpointLocked.1 := by
  have held := quiet.logs_nothing core.lifecycle rfl
  unfold maybeCheckpointLocked
  split
  · exact held
  · rename_i store found
    split
    · exact held
    · split
      · exact held
      · split
        · exact held
        · exact checkpointLocked_logs found

/-- A stretch of a call that logged nothing but what the rack is made of. -/
def LogsPlain (lifecycle : LifecycleState) (before after : DaemonCore) : Prop :=
  ∃ records, (∀ record ∈ records, record.isPlain = true) ∧ Logs lifecycle before records after

theorem LogsPlain.trans {lifecycle : LifecycleState} {first middle last : DaemonCore}
    (before : LogsPlain lifecycle first middle) (after : LogsPlain lifecycle middle last) :
    LogsPlain lifecycle first last := by
  obtain ⟨earlier, plain, wrote⟩ := before
  obtain ⟨later, also, more⟩ := after
  refine ⟨earlier ++ later, ?_, wrote.trans more⟩
  intro record member
  rcases List.mem_append.mp member with member | member
  · exact plain record member
  · exact also record member

theorem LogsPlain.quiet {lifecycle : LifecycleState} {before after : DaemonCore}
    (logs : LogsPlain lifecycle before after) (quiet : before.Quiet) : after.Quiet := by
  obtain ⟨records, -, logs⟩ := logs
  exact logs.quiet quiet

theorem Quiet.logsPlain {core : DaemonCore} (quiet : core.Quiet) (lifecycle : LifecycleState) {next : DaemonCore}
    (same : next.store = core.store) : LogsPlain lifecycle core next :=
  ⟨[], by simp, quiet.logs_nothing lifecycle same⟩

theorem appendLocked_logsPlain {core : DaemonCore} (quiet : core.Quiet) (lifecycle : LifecycleState)
    {record : StoreRecord} (plain : record.isPlain = true) :
    LogsPlain lifecycle core (core.appendLocked record).1 := by
  rcases appendLocked_quiet quiet lifecycle record with ⟨-, next, done, logs⟩ | ⟨-, status, failed⟩
  · rw [done]
    exact ⟨[record], by simpa using plain, logs⟩
  · rw [failed]
    exact quiet.logsPlain lifecycle rfl

theorem maybeCheckpointLocked_logsPlain {core : DaemonCore} (quiet : core.Quiet) :
    LogsPlain core.lifecycle core core.maybeCheckpointLocked.1 :=
  ⟨[], by simp, maybeCheckpointLocked_logs quiet⟩

theorem offerEvidence_logsPlain {core : DaemonCore} (quiet : core.Quiet) (record : EvidenceRecord)
    (lifecycle : LifecycleState) : LogsPlain lifecycle core (core.offerEvidence record).1 := by
  unfold offerEvidence
  split
  · exact quiet.logsPlain lifecycle rfl
  · split
    · exact quiet.logsPlain lifecycle rfl
    · have logs := appendLocked_logsPlain quiet lifecycle (show (StoreRecord.evidence record).isPlain = true from rfl)
      split
      · rename_i failed
        rwa [failed] at logs
      · rename_i done
        rw [done] at logs
        exact logs

theorem offerBatch_logsPlain {core : DaemonCore} (quiet : core.Quiet) (records : List EvidenceRecord)
    (lifecycle : LifecycleState) : LogsPlain lifecycle core (core.offerBatch records).1 := by
  induction records generalizing core with
  | nil => exact quiet.logsPlain lifecycle rfl
  | cons record rest ih =>
    have first := offerEvidence_logsPlain quiet record lifecycle
    exact first.trans (ih (first.quiet quiet))

/-- A composition touches the snapshot, the counters and the log. -/
structure Recomposes (before after : DaemonCore) : Prop where
  config : after.config = before.config
  ledger : after.ledger = before.ledger
  grants : after.grants = before.grants
  recovered : after.recoveredRecords = before.recoveredRecords

theorem Recomposes.refl (core : DaemonCore) : Recomposes core core :=
  ⟨rfl, rfl, rfl, rfl⟩

theorem appendLocked_recomposes (core : DaemonCore) (record : StoreRecord) :
    Recomposes core (core.appendLocked record).1 := by
  unfold appendLocked
  cases held : core.store with
  | none => exact .refl core
  | some store =>
    refine ⟨rfl, rfl, rfl, ?_⟩
    simp only [recoveredRecords, held]
    rw [Store.append_recovered]

theorem advanceEpoch_recomposes (core : DaemonCore) (target : UInt64) (digest : Digest) :
    Recomposes core (core.advanceEpoch target digest).1 := by
  unfold advanceEpoch
  split
  · exact .refl core
  · extract_lets advanced
    have appended := appendLocked_recomposes advanced (.epoch ⟨advanced.epoch, digest⟩)
    split
    · rename_i refused
      rw [refused] at appended
      exact ⟨appended.config, appended.ledger, appended.grants, appended.recovered⟩
    · rename_i done
      rw [done] at appended
      split <;> exact ⟨appended.config, appended.ledger, appended.grants, appended.recovered⟩

theorem composeLocked_recomposes (core : DaemonCore) (target : UInt64) :
    Recomposes core (core.composeLocked target).1 := by
  unfold composeLocked
  split
  · exact .refl core
  · split
    · exact .refl core
    · extract_lets found
      split
      · exact ⟨rfl, rfl, rfl, rfl⟩
      · split
        · exact advanceEpoch_recomposes core target found
        · exact ⟨rfl, rfl, rfl, rfl⟩

theorem advanceEpoch_logsPlain {core : DaemonCore} (quiet : core.Quiet) (target : UInt64) (digest : Digest)
    (lifecycle : LifecycleState) : LogsPlain lifecycle core (core.advanceEpoch target digest).1 := by
  unfold advanceEpoch
  split
  · exact quiet.logsPlain lifecycle rfl
  · extract_lets advanced
    have still : advanced.Quiet := quiet
    have logs := appendLocked_logsPlain still lifecycle
      (show (StoreRecord.epoch ⟨advanced.epoch, digest⟩).isPlain = true from rfl)
    split
    · rename_i refused
      rw [refused] at logs
      exact logs
    · rename_i done
      rw [done] at logs
      split <;> exact logs

theorem composeLocked_logsPlain {core : DaemonCore} (quiet : core.Quiet) (target : UInt64)
    (lifecycle : LifecycleState) : LogsPlain lifecycle core (core.composeLocked target).1 := by
  unfold composeLocked
  split
  · exact quiet.logsPlain lifecycle rfl
  · split
    · exact quiet.logsPlain lifecycle rfl
    · extract_lets found
      split
      · exact quiet.logsPlain lifecycle rfl
      · split
        · exact advanceEpoch_logsPlain quiet target found lifecycle
        · exact quiet.logsPlain lifecycle rfl

theorem advanceGeneration_recomposes (core : DaemonCore) (generation : UInt64) :
    Recomposes core (core.advanceGeneration generation).1 := by
  unfold advanceGeneration
  split
  · have appended := appendLocked_recomposes core (.generation generation)
    split
    · rename_i refused
      rwa [refused] at appended
    · rename_i done
      rw [done] at appended
      exact ⟨appended.config, appended.ledger, appended.grants, appended.recovered⟩
  · exact .refl core

theorem ensureSnapshotLocked_valid {core : DaemonCore} (valid : core.snapshot.valid = true) :
    core.ensureSnapshotLocked = (core, .ok ()) := by
  simp [ensureSnapshotLocked, valid]

theorem ensureSnapshotLocked_recomposes (core : DaemonCore) : Recomposes core core.ensureSnapshotLocked.1 := by
  unfold ensureSnapshotLocked
  split
  · exact .refl core
  · exact composeLocked_recomposes core core.generation

theorem advanceGeneration_logsPlain {core : DaemonCore} (quiet : core.Quiet) (generation : UInt64)
    (lifecycle : LifecycleState) : LogsPlain lifecycle core (core.advanceGeneration generation).1 := by
  unfold advanceGeneration
  split
  · have logs := appendLocked_logsPlain quiet lifecycle
      (show (StoreRecord.generation generation).isPlain = true from rfl)
    split
    · rename_i refused
      rwa [refused] at logs
    · rename_i done
      rw [done] at logs
      exact logs
  · exact quiet.logsPlain lifecycle rfl

end DaemonCore

end RackFabric
