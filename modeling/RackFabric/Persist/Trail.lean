import RackFabric.Persist.Encoding

/-!
The durable writes of a call that meets no failing write, in the order it makes them. Whatever was appended,
a crash on the way leaves the old log and some of the new records, in order.
-/

namespace RackFabric

namespace Store

theorem attempt_done {store : Store} (quiet : store.io = []) (disk : Disk) :
    store.attempt disk = (store.write disk, .ok ()) := by
  simp [attempt, answer, quiet]

/-- An append, answered or not, keeps what was recovered. -/
theorem append_recovered (store : Store) (record : StoreRecord) :
    (store.append record).1.recovered = store.recovered := by
  unfold append attempt answer
  split
  · rfl
  · cases store.io with
    | nil => rfl
    | cons outcome rest => cases outcome <;> rfl

/-- The store after an append that was reported as done. -/
def appended (store : Store) (record : StoreRecord) : Store :=
  { store.write { store.disk with wal := some (store.disk.log ++ [record]) } with
    logBytes := store.logBytes + frameSize store.options record
    appends := store.appends + 1 }

/-- Without failing writes an append depends on the encoder alone. -/
theorem append_cases {store : Store} (quiet : store.io = []) (record : StoreRecord) :
    (∃ writer, encodeStoreRecord record { limit := store.options.maxRecordBytes } = .ok writer ∧
      store.append record = (store.appended record, .ok ())) ∨
    (∃ status, encodeStoreRecord record { limit := store.options.maxRecordBytes } = .error status ∧
      store.append record = (store, .error status)) := by
  unfold append
  cases encoded : encodeStoreRecord record { limit := store.options.maxRecordBytes } with
  | error status => exact .inr ⟨status, rfl, rfl⟩
  | ok writer =>
    refine .inl ⟨writer, rfl, ?_⟩
    simp only [attempt_done quiet, appended, frameSize, encoded, Nat.add_assoc]
    rfl

/-- The durable writes of a stretch of a call, none of which failed: the records it appended, and checkpoints of
one lifecycle at the end of the log. -/
inductive Wrote (lifecycle : LifecycleState) : Store → List StoreRecord → Store → Prop where
  | nothing (store : Store) : Wrote lifecycle store [] store
  | append {first middle last : Store} {records : List StoreRecord} {record : StoreRecord}
      (earlier : Wrote lifecycle first records middle) (done : middle.append record = (last, .ok ())) :
      Wrote lifecycle first (records ++ [record]) last
  | checkpoint {first middle : Store} {records : List StoreRecord} (checkpoint : Checkpoint)
      (earlier : Wrote lifecycle first records middle) (offset : checkpoint.walOffset = middle.logBytes)
      (state : checkpoint.lifecycle = lifecycle) :
      Wrote lifecycle first records (middle.writeCheckpoint checkpoint).1

theorem Wrote.trans {lifecycle : LifecycleState} {first middle last : Store} {earlier later : List StoreRecord}
    (before : Wrote lifecycle first earlier middle) (after : Wrote lifecycle middle later last) :
    Wrote lifecycle first (earlier ++ later) last := by
  induction after with
  | nothing => simpa using before
  | append _ done ih =>
    rw [← List.append_assoc]
    exact .append ih done
  | checkpoint checkpoint _ offset state ih => exact .checkpoint checkpoint ih offset state

theorem Wrote.one {lifecycle : LifecycleState} {store next : Store} {record : StoreRecord}
    (done : store.append record = (next, .ok ())) : Wrote lifecycle store [record] next :=
  .append (.nothing store) done

/-- Writes that keep the log: every directory they leave has the old log, and a checkpoint file that is gone or
the given one. -/
structure KeepsLog (checkpoint : Checkpoint) (before after : Store) : Prop where
  io : after.io = []
  options : after.options = before.options
  logBytes : after.logBytes = before.logBytes
  wal : after.disk.wal = before.disk.wal
  trail : ∃ added, after.trail = before.trail ++ added ∧ ∀ disk ∈ added,
    disk.wal = before.disk.wal ∧ (disk.checkpoint = .absent ∨ disk.checkpoint = .intact checkpoint)

theorem KeepsLog.refl {store : Store} (quiet : store.io = []) (checkpoint : Checkpoint) :
    KeepsLog checkpoint store store :=
  ⟨quiet, rfl, rfl, rfl, [], by simp, by simp⟩

theorem KeepsLog.write {checkpoint : Checkpoint} {before after : Store} (kept : KeepsLog checkpoint before after)
    {disk : Disk} (wal : disk.wal = after.disk.wal)
    (file : disk.checkpoint = .absent ∨ disk.checkpoint = .intact checkpoint) :
    KeepsLog checkpoint before (after.write disk) := by
  obtain ⟨io, options, logBytes, same, added, trail, crashes⟩ := kept
  refine ⟨io, options, logBytes, wal.trans same, added ++ [disk], ?_, ?_⟩
  · rw [← List.append_assoc, ← trail]
    rfl
  · intro crash member
    rcases List.mem_append.mp member with member | member
    · exact crashes crash member
    · rw [List.mem_singleton] at member
      rw [member]
      exact ⟨wal.trans same, file⟩

/-- What the store remembers about its checkpoint is not on the disk. -/
theorem KeepsLog.rebook {checkpoint : Checkpoint} {before after : Store} (kept : KeepsLog checkpoint before after)
    {length : Nat} {recovered : RecoveredState} :
    KeepsLog checkpoint before { after with checkpointLength := length, recovered := recovered } :=
  ⟨kept.io, kept.options, kept.logBytes, kept.wal, kept.trail⟩

theorem rotate_keepsLog {store : Store} (quiet : store.io = []) (checkpoint : Checkpoint) :
    KeepsLog checkpoint store store.rotate := by
  unfold rotate
  split
  · exact .refl quiet checkpoint
  · rw [attempt_done quiet]
    exact (KeepsLog.refl quiet checkpoint).write rfl (.inl rfl)

/-- A checkpoint that is written, and one that does not fit its bound, keep the log. -/
theorem writeCheckpoint_keepsLog {store : Store} (quiet : store.io = []) (checkpoint : Checkpoint) :
    KeepsLog checkpoint store (store.writeCheckpoint checkpoint).1 ∧
      ((store.writeCheckpoint checkpoint).1.disk.checkpoint = store.disk.checkpoint ∨
        (store.writeCheckpoint checkpoint).1.disk.checkpoint = .intact checkpoint) := by
  unfold writeCheckpoint
  split
  · exact ⟨.refl quiet checkpoint, .inl rfl⟩
  · have rotated := rotate_keepsLog quiet checkpoint
    dsimp only
    generalize store.rotate = middle at rotated ⊢
    obtain ⟨written, file, same⟩ : ∃ written, written = middle.write { middle.disk with
        checkpoint := .intact checkpoint } ∧ KeepsLog checkpoint store written :=
      ⟨_, rfl, rotated.write rfl (.inr rfl)⟩
    have stored : written.disk.checkpoint = .intact checkpoint := by rw [file]; rfl
    rw [attempt_done rotated.io, ← file]
    dsimp only
    rw [persistMeta, attempt_done same.io]
    refine ⟨KeepsLog.rebook (same.write ?_ ?_), .inr stored⟩
    · rfl
    · exact .inr stored

/-- Writes of the manifest alone, answered or not. -/
structure KeepsFiles (before after : Store) : Prop where
  io : before.io = [] → after.io = []
  options : after.options = before.options
  logBytes : after.logBytes = before.logBytes
  recovered : after.recovered = before.recovered
  wal : after.disk.wal = before.disk.wal
  checkpoint : after.disk.checkpoint = before.disk.checkpoint
  trail : ∃ added, after.trail = before.trail ++ added ∧ ∀ disk ∈ added,
    disk.wal = before.disk.wal ∧ disk.checkpoint = before.disk.checkpoint

theorem KeepsFiles.refl (store : Store) : KeepsFiles store store :=
  ⟨id, rfl, rfl, rfl, rfl, rfl, [], by simp, by simp⟩

theorem KeepsFiles.trans {first second third : Store} (earlier : KeepsFiles first second)
    (later : KeepsFiles second third) : KeepsFiles first third := by
  obtain ⟨added, trail, files⟩ := earlier.trail
  obtain ⟨more, extended, same⟩ := later.trail
  refine ⟨later.io ∘ earlier.io, later.options.trans earlier.options, later.logBytes.trans earlier.logBytes,
    later.recovered.trans earlier.recovered, later.wal.trans earlier.wal,
    later.checkpoint.trans earlier.checkpoint, added ++ more, ?_, ?_⟩
  · rw [extended, trail, List.append_assoc]
  · intro disk member
    rcases List.mem_append.mp member with member | member
    · exact files disk member
    · exact ⟨(same disk member).1.trans earlier.wal, (same disk member).2.trans earlier.checkpoint⟩

theorem persistMeta_keepsFiles (store : Store) (manifest : Meta) :
    KeepsFiles store (store.persistMeta manifest).1 := by
  unfold persistMeta attempt answer
  cases answers : store.io with
  | nil =>
    exact ⟨fun _ => answers, rfl, rfl, rfl, rfl, rfl, [_], rfl, by simp⟩
  | cons outcome rest =>
    have loud : store.io = [] → rest = [] := by
      intro quiet
      rw [quiet] at answers
      cases answers
    cases outcome with
    | done => exact ⟨loud, rfl, rfl, rfl, rfl, rfl, [_], rfl, by simp⟩
    | lost detail => exact ⟨loud, rfl, rfl, rfl, rfl, rfl, [], by simp, by simp⟩
    | stored detail => exact ⟨loud, rfl, rfl, rfl, rfl, rfl, [_], rfl, by simp⟩

theorem nextIncarnation_keepsFiles (store : Store) : KeepsFiles store store.nextIncarnation.1 := by
  unfold nextIncarnation
  split
  · exact .refl store
  · have counted : KeepsFiles store { store with incarnationCounter := store.incarnationCounter + 1 } :=
      ⟨id, rfl, rfl, rfl, rfl, rfl, [], by simp, by simp⟩
    have persisted := counted.trans (persistMeta_keepsFiles _ (manifestOf { store with
      incarnationCounter := store.incarnationCounter + 1 }))
    dsimp only
    split
    · rename_i failed
      rwa [failed] at persisted
    · rename_i done
      rwa [done] at persisted

theorem bindRack_keepsFiles (store : Store) (rack : UInt64) : KeepsFiles store (store.bindRack rack).1 := by
  have bound : KeepsFiles store { store with boundRack := rack } :=
    ⟨id, rfl, rfl, rfl, rfl, rfl, [], by simp, by simp⟩
  exact bound.trans (persistMeta_keepsFiles _ _)

/-- A call that extends the log by records: what it leaves, and what a crash on the way leaves. -/
structure Extends (before after : Store) (records : List StoreRecord) : Prop where
  io : after.io = []
  options : after.options = before.options
  log : after.disk.log = before.disk.log ++ records
  trail : ∃ added, after.trail = before.trail ++ added ∧
    ∀ disk ∈ added, ∃ count, disk.log = before.disk.log ++ records.take count

theorem Wrote.extends_ {lifecycle : LifecycleState} {first last : Store} {records : List StoreRecord}
    (wrote : Wrote lifecycle first records last) (quiet : first.io = []) : Extends first last records := by
  induction wrote with
  | nothing => exact ⟨quiet, rfl, by simp, [], by simp, by simp⟩
  | @append middle last records record _ done ih =>
    obtain ⟨io, options, log, added, trail, crashes⟩ := ih
    rcases append_cases io record with ⟨writer, -, appended⟩ | ⟨status, -, failed⟩
    · rw [appended] at done
      cases done
      have whole : (middle.appended record).disk.log = first.disk.log ++ (records ++ [record]) := by
        rw [← List.append_assoc, ← log]
        rfl
      refine ⟨io, options, whole, added ++ [(middle.appended record).disk], ?_, ?_⟩
      · rw [← List.append_assoc, ← trail]
        rfl
      · intro disk member
        rcases List.mem_append.mp member with member | member
        · obtain ⟨count, crash⟩ := crashes disk member
          refine ⟨min count records.length, ?_⟩
          rw [crash, List.take_append_of_le_length (Nat.min_le_right _ _), ← List.take_eq_take_min]
        · rw [List.mem_singleton] at member
          refine ⟨(records ++ [record]).length, ?_⟩
          rw [member, whole, List.take_length]
    · rw [failed] at done
      cases done
  | @checkpoint middle records checkpoint _ _ _ ih =>
    obtain ⟨io, options, log, added, trail, crashes⟩ := ih
    obtain ⟨⟨io, keptOptions, -, wal, written, keptTrail, kept⟩, -⟩ := writeCheckpoint_keepsLog io checkpoint
    refine ⟨io, keptOptions.trans options, ?_, added ++ written, ?_, ?_⟩
    · rw [Disk.log, wal]
      exact log
    · rw [keptTrail, trail, List.append_assoc]
    · intro disk member
      rcases List.mem_append.mp member with member | member
      · exact crashes disk member
      · refine ⟨records.length, ?_⟩
        rw [Disk.log, (kept disk member).1, List.take_length]
        exact log

end Store

/-- The checkpoint file, if there is one, ends at a record boundary, and what it carries fits the rest of the
log. -/
def Disk.Aligned (fits : LifecycleState → List StoreRecord → Prop) (disk : Disk) : Prop :=
  ∀ checkpoint, disk.checkpoint = .intact checkpoint → ∃ covered rest, disk.log = covered ++ rest ∧
    checkpoint.walOffset = logSize {} covered ∧ fits checkpoint.lifecycle rest

theorem logSize_append (options : StoreOptions) (log : List StoreRecord) (record : StoreRecord) :
    logSize options (log ++ [record]) = logSize options log + frameSize options record := by
  simp [logSize]

namespace Store

/-- A store whose byte count is the size of its log and whose checkpoint fits. -/
structure Aligned (fits : LifecycleState → List StoreRecord → Prop) (store : Store) : Prop where
  options : store.options = {}
  logBytes : store.logBytes = logSize {} store.disk.log
  disk : store.disk.Aligned fits

theorem appended_aligned {fits after : LifecycleState → List StoreRecord → Prop} {store : Store} {record : StoreRecord}
    (aligned : store.Aligned fits) (grows : ∀ state rest, fits state rest → after state (rest ++ [record])) :
    (store.appended record).Aligned after := by
  have log : (store.appended record).disk.log = store.disk.log ++ [record] := rfl
  refine ⟨aligned.options, ?_, ?_⟩
  · rw [log, logSize_append, ← aligned.logBytes, ← aligned.options]
    rfl
  · intro checkpoint stored
    obtain ⟨covered, rest, split, offset, fit⟩ := aligned.disk checkpoint stored
    refine ⟨covered, rest ++ [record], ?_, offset, grows _ _ fit⟩
    rw [log, split, List.append_assoc]

theorem keepsLog_aligned {fits : LifecycleState → List StoreRecord → Prop} {store : Store} {checkpoint : Checkpoint}
    (aligned : store.Aligned fits) (offset : checkpoint.walOffset = store.logBytes)
    (fresh : fits checkpoint.lifecycle []) {disk : Disk} (wal : disk.wal = store.disk.wal)
    (file : disk.checkpoint = .absent ∨ disk.checkpoint = store.disk.checkpoint ∨
      disk.checkpoint = .intact checkpoint) : disk.Aligned fits := by
  have log : disk.log = store.disk.log := by rw [Disk.log, wal, Disk.log]
  intro found stored
  rcases file with absent | old | new
  · rw [absent] at stored
    cases stored
  · rw [log]
    exact aligned.disk found (old ▸ stored)
  · rw [new] at stored
    cases stored
    exact ⟨disk.log, [], by simp, by rw [offset, aligned.logBytes, log], fresh⟩

theorem Wrote.aligned {fits : LifecycleState → List StoreRecord → Prop} {lifecycle : LifecycleState}
    {first last : Store} {records : List StoreRecord} (wrote : Wrote lifecycle first records last)
    (quiet : first.io = []) (aligned : first.Aligned fits)
    (grows : ∀ record ∈ records, ∀ state rest, fits state rest → fits state (rest ++ [record]))
    (fresh : fits lifecycle []) :
    last.Aligned fits ∧ ∀ disk ∈ last.trail, disk ∈ first.trail ∨ disk.Aligned fits := by
  induction wrote with
  | nothing => exact ⟨aligned, fun disk member => .inl member⟩
  | @append middle last records record earlier done ih =>
    obtain ⟨before, trail⟩ := ih (fun old member => grows old (by simp [member]))
    rcases append_cases (earlier.extends_ quiet).io record with ⟨writer, -, appended⟩ | ⟨status, -, failed⟩
    · rw [appended] at done
      cases done
      have after := appended_aligned before (grows record (by simp))
      refine ⟨after, ?_⟩
      intro disk member
      have written : disk ∈ middle.trail ∨ disk = (middle.appended record).disk := by
        simpa [Store.appended, Store.write] using member
      rcases written with member | same
      · exact trail disk member
      · rw [same]
        exact .inr after.disk
    · rw [failed] at done
      cases done
  | @checkpoint middle records checkpoint earlier offset state ih =>
    obtain ⟨before, trail⟩ := ih grows
    obtain ⟨kept, file⟩ := writeCheckpoint_keepsLog (earlier.extends_ quiet).io checkpoint
    have start : fits checkpoint.lifecycle [] := by rwa [state]
    obtain ⟨added, extended, crashes⟩ := kept.trail
    refine ⟨⟨kept.options.trans before.options, ?_, ?_⟩, ?_⟩
    · rw [kept.logBytes, before.logBytes, Disk.log, Disk.log, kept.wal]
    · exact keepsLog_aligned before offset start kept.wal (.inr file)
    · intro disk member
      rw [extended] at member
      rcases List.mem_append.mp member with member | member
      · exact trail disk member
      · obtain ⟨wal, file⟩ := crashes disk member
        right
        apply keepsLog_aligned before offset start wal
        rcases file with absent | new
        · exact .inl absent
        · exact .inr (.inr new)

end Store

end RackFabric
