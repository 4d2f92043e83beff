import RackFabric.Persist.Trail

/-!
What opening a directory reads back: the checkpoint its manifest points at, if that is usable, and the records
of the log after it.
-/

namespace RackFabric

theorem frameSize_pos (options : StoreOptions) (record : StoreRecord) : 0 < frameSize options record := by
  unfold frameSize kWalHeaderSize
  split <;> omega

/-- A log split where a record ends falls into what was covered and the rest. -/
theorem splitLog_boundary (options : StoreOptions) (covered rest : List StoreRecord) :
    splitLog options (logSize options covered) (covered ++ rest) = (covered, rest) := by
  induction covered with
  | nil =>
    cases rest with
    | nil => rfl
    | cons record rest => simp [splitLog, logSize]
  | cons record covered ih =>
    have size : logSize options (record :: covered) = frameSize options record + logSize options covered := by
      simp [logSize]
    have positive := frameSize_pos options record
    rw [List.cons_append, splitLog, size, if_neg (by omega), if_pos (by omega), Nat.add_sub_cancel_left, ih]

namespace Disk

/-- The log exists and the manifest does not record a clean shutdown. -/
def unclean (disk : Disk) : Bool :=
  disk.wal.isSome &&
    !(match disk.manifest with
      | .intact manifest => manifest.cleanShutdown
      | _ => false)

/-- The checkpoint a start loads. -/
def usedCheckpoint (disk : Disk) : Checkpoint :=
  match Store.readManifest disk {} with
  | .error _ => {}
  | .ok (manifest, report) => (Store.readCheckpoint disk {} manifest report).1

/-- The records a start replays. -/
def replayed (disk : Disk) : List StoreRecord :=
  (splitLog {} disk.usedCheckpoint.walOffset disk.log).2

end Disk

namespace Store

/-- What an opened store has read. -/
structure Opened (disk : Disk) (io : List IoOutcome) (store : Store) : Prop where
  options : store.options = {}
  io : store.io = io
  checkpoint : store.recovered.checkpoint = disk.usedCheckpoint
  records : store.recovered.records = disk.replayed
  manifest : store.disk.manifest = disk.manifest
  file : store.disk.checkpoint = disk.checkpoint
  log : store.disk.log = (splitLog {} disk.usedCheckpoint.walOffset disk.log).1 ++ disk.replayed
  logBytes : store.logBytes = logSize {} store.disk.log
  trail : store.trail = [store.disk]
  unclean : (!store.recovered.report.freshStore && !store.recovered.report.cleanShutdown) = disk.unclean

theorem openDirectory_ok {disk : Disk} {io : List IoOutcome} {store : Store}
    (opened : openDirectory disk {} io = .ok store) : Opened disk io store := by
  unfold openDirectory at opened
  rw [bind_eq_ok] at opened
  obtain ⟨⟨manifest, report⟩, reading, opened⟩ := opened
  have used : disk.usedCheckpoint = (readCheckpoint disk {} manifest report).1 := by
    simp only [Disk.usedCheckpoint, reading]
  have reports : (readCheckpoint disk {} manifest report).2.freshStore = report.freshStore ∧
      (readCheckpoint disk {} manifest report).2.cleanShutdown = report.cleanShutdown := by
    unfold readCheckpoint
    dsimp only
    repeat' split
    all_goals exact ⟨rfl, rfl⟩
  have clean : (!report.freshStore && !report.cleanShutdown) = disk.unclean := by
    unfold readManifest at reading
    dsimp only at reading
    unfold Disk.unclean
    split at reading
    · rename_i absent
      cases reading
      simp [absent]
    · rename_i content intact
      cases reading
      simp [intact]
    · rename_i failure damaged
      split at reading
      · cases reading
      · split at reading
        · cases reading
        · cases reading
          simp [damaged]
  cases checking : readCheckpoint disk {} manifest report with
  | mk checkpoint checked =>
    rw [checking] at used reports
    cases splitting : splitLog {} checkpoint.walOffset disk.log with
    | mk skipped records =>
      have replays : disk.replayed = records := by rw [Disk.replayed, used, splitting]
      simp only [checking, splitting, Except.ok.injEq] at opened
      subst opened
      refine ⟨rfl, rfl, used.symm, replays.symm, rfl, rfl, ?_, rfl, rfl, ?_⟩
      · rw [replays, used, splitting]
        rfl
      · rw [← clean, ← reports.1, ← reports.2]

end Store

/-- Any checkpoint will do. -/
abbrev anyCheckpoint : LifecycleState → List StoreRecord → Prop :=
  fun _ _ => True

namespace Disk

theorem usedCheckpoint_cases (disk : Disk) :
    disk.usedCheckpoint = {} ∨ ∃ checkpoint, disk.checkpoint = .intact checkpoint ∧
      disk.usedCheckpoint = { checkpoint with present := true } := by
  unfold usedCheckpoint
  split
  · exact .inl rfl
  · unfold Store.readCheckpoint
    dsimp only
    split
    · exact .inl rfl
    · split
      · rename_i checkpoint found
        split
        · split
          · exact .inl rfl
          · exact .inr ⟨checkpoint, found, rfl⟩
        · exact .inl rfl
      · exact .inl rfl

/-- An aligned log is read back whole, split where the checkpoint that is used ends. -/
theorem Aligned.splits {fits : LifecycleState → List StoreRecord → Prop} {disk : Disk} (aligned : disk.Aligned fits) :
    (splitLog {} disk.usedCheckpoint.walOffset disk.log).1 ++ disk.replayed = disk.log ∧
      (disk.usedCheckpoint.present = true → fits disk.usedCheckpoint.lifecycle disk.replayed) := by
  unfold replayed
  rcases usedCheckpoint_cases disk with unused | ⟨checkpoint, found, used⟩
  · rw [unused]
    refine ⟨?_, fun present => by cases present⟩
    exact congrArg (fun parts : List StoreRecord × List StoreRecord => parts.1 ++ parts.2)
      (splitLog_boundary {} [] disk.log)
  · obtain ⟨covered, rest, log, offset, fit⟩ := aligned checkpoint found
    rw [used, log]
    simp only [offset, splitLog_boundary]
    exact ⟨trivial, fun _ => fit⟩

end Disk

namespace Store

/-- A store that was just opened on an aligned directory. -/
theorem Opened.aligned {fits : LifecycleState → List StoreRecord → Prop} {disk : Disk} {io : List IoOutcome}
    {store : Store} (opened : Opened disk io store) (aligned : disk.Aligned fits) :
    store.Aligned fits ∧ store.disk.log = disk.log := by
  have log : store.disk.log = disk.log := by rw [opened.log, aligned.splits.1]
  refine ⟨⟨opened.options, opened.logBytes, ?_⟩, log⟩
  intro checkpoint found
  rw [opened.file] at found
  rw [log]
  exact aligned checkpoint found

theorem aligned_of_files {fits : LifecycleState → List StoreRecord → Prop} {first second : Disk}
    (aligned : first.Aligned fits) (wal : second.wal = first.wal) (file : second.checkpoint = first.checkpoint) :
    second.Aligned fits := by
  intro checkpoint found
  rw [file] at found
  rw [Disk.log, wal]
  exact aligned checkpoint found

theorem KeepsFiles.aligned {fits : LifecycleState → List StoreRecord → Prop} {before after : Store}
    (kept : before.KeepsFiles after) (aligned : before.Aligned fits) : after.Aligned fits := by
  refine ⟨kept.options.trans aligned.options, ?_, aligned_of_files aligned.disk kept.wal kept.checkpoint⟩
  rw [kept.logBytes, aligned.logBytes, Disk.log, Disk.log, kept.wal]

theorem KeepsFiles.log {before after : Store} (kept : before.KeepsFiles after) :
    after.disk.log = before.disk.log := by
  rw [Disk.log, Disk.log, kept.wal]

end Store

end RackFabric
