import RackFabric.Persist.Recovery

/-!
What a directory keeps while its writes succeed: a property of the log, and of the checkpoint against the log on both
sides of its offset. Appends have to keep it, and a checkpoint has to have it; the writes of the manifest need nothing.
-/

namespace RackFabric

/-- What a log is held to, and a checkpoint against the part of the log it covers and the rest. -/
structure Chart where
  log : List StoreRecord → Prop
  fits : Checkpoint → List StoreRecord → List StoreRecord → Prop

/-- A record that may follow a log. -/
structure Chart.Admits (chart : Chart) (before : List StoreRecord) (record : StoreRecord) : Prop where
  log : chart.log (before ++ [record])
  fits : ∀ checkpoint covered rest, before = covered ++ rest → chart.fits checkpoint covered rest →
    chart.fits checkpoint covered (rest ++ [record])

structure Disk.Charted (chart : Chart) (disk : Disk) : Prop where
  log : chart.log disk.log
  checkpoint : ∀ checkpoint, disk.checkpoint = .intact checkpoint → ∃ covered rest, disk.log = covered ++ rest ∧
    checkpoint.walOffset = logSize {} covered ∧ chart.fits checkpoint covered rest

namespace Disk

variable {chart : Chart} {disk : Disk}

theorem Charted.aligned (charted : disk.Charted chart) : disk.Aligned anyCheckpoint := by
  intro checkpoint found
  obtain ⟨covered, rest, log, offset, -⟩ := charted.checkpoint checkpoint found
  exact ⟨covered, rest, log, offset, trivial⟩

/-- A directory with the same log, and the same checkpoint or none. -/
theorem Charted.of_files (charted : disk.Charted chart) {other : Disk} (wal : other.wal = disk.wal)
    (file : other.checkpoint = disk.checkpoint ∨ other.checkpoint = .absent) : other.Charted chart := by
  have log : other.log = disk.log := by rw [Disk.log, wal, Disk.log]
  constructor
  · rw [log]
    exact charted.log
  · intro checkpoint found
    rw [log]
    rcases file with same | absent
    · exact charted.checkpoint checkpoint (same ▸ found)
    · rw [absent] at found
      cases found

/-- A start replays the whole log, or what follows a checkpoint that fits. -/
theorem Charted.splits (charted : disk.Charted chart) :
    (disk.usedCheckpoint = {} ∧ disk.replayed = disk.log) ∨
      ∃ checkpoint covered, disk.usedCheckpoint = { checkpoint with present := true } ∧
        disk.log = covered ++ disk.replayed ∧ (splitLog {} disk.usedCheckpoint.walOffset disk.log).1 = covered ∧
        chart.fits checkpoint covered disk.replayed := by
  rcases usedCheckpoint_cases disk with unused | ⟨checkpoint, found, used⟩
  · left
    refine ⟨unused, ?_⟩
    unfold replayed
    rw [unused]
    exact congrArg Prod.snd (splitLog_boundary {} [] disk.log)
  · obtain ⟨covered, rest, log, offset, fits⟩ := charted.checkpoint checkpoint found
    have parts : splitLog {} disk.usedCheckpoint.walOffset disk.log = (covered, rest) := by
      rw [used, log]
      simp only [offset, splitLog_boundary]
    have rests : disk.replayed = rest := congrArg Prod.snd parts
    right
    refine ⟨checkpoint, covered, used, ?_, congrArg Prod.fst parts, ?_⟩
    · rw [rests, log]
    · rw [rests]
      exact fits

end Disk

namespace Store

/-- A store on such a directory, whose writes all succeed, with every directory its writes left on the way. -/
structure Charted (chart : Chart) (store : Store) : Prop where
  io : store.io = []
  options : store.options = {}
  logBytes : store.logBytes = logSize {} store.disk.log
  disk : store.disk.Charted chart
  trail : ∀ crash ∈ store.trail, crash.Charted chart

variable {chart : Chart} {store : Store}

theorem Charted.write (charted : store.Charted chart) {disk : Disk} (wal : disk.wal = store.disk.wal)
    (sound : disk.Charted chart) : (store.write disk).Charted chart := by
  refine ⟨charted.io, charted.options, ?_, sound, ?_⟩
  · have log : disk.log = store.disk.log := by rw [Disk.log, wal, Disk.log]
    change store.logBytes = logSize {} disk.log
    rw [log]
    exact charted.logBytes
  · intro crash member
    rcases List.mem_append.mp member with member | member
    · exact charted.trail crash member
    · rw [List.mem_singleton.mp member]
      exact sound

theorem Charted.rebook (charted : store.Charted chart) {length : Nat} {recovered : RecoveredState} :
    Charted chart { store with checkpointLength := length, recovered := recovered } :=
  ⟨charted.io, charted.options, charted.logBytes, charted.disk, charted.trail⟩

/-- An append that succeeds, and one that the encoder refuses. -/
theorem Charted.append (charted : store.Charted chart) {record : StoreRecord}
    (admits : chart.Admits store.disk.log record) :
    (store.append record).1.Charted chart ∧
      (((store.append record).2 = .ok () ∧ (store.append record).1.disk.log = store.disk.log ++ [record]) ∨
        ∃ status, store.append record = (store, .error status) ∧ ¬ record.Loggable) := by
  rcases append_cases charted.io record with ⟨writer, -, appended⟩ | ⟨status, encoded, failed⟩
  · have log : (store.appended record).disk.log = store.disk.log ++ [record] := rfl
    have sound : (store.appended record).disk.Charted chart := by
      constructor
      · rw [log]
        exact admits.log
      · intro checkpoint found
        obtain ⟨covered, rest, split, offset, fits⟩ := charted.disk.checkpoint checkpoint found
        refine ⟨covered, rest ++ [record], ?_, offset, admits.fits checkpoint covered rest split fits⟩
        rw [log, split, List.append_assoc]
    rw [appended]
    refine ⟨⟨charted.io, charted.options, ?_, sound, ?_⟩, .inl ⟨rfl, log⟩⟩
    · rw [log, logSize_append, ← charted.logBytes, ← charted.options]
      rfl
    · intro crash member
      rcases List.mem_append.mp member with member | member
      · exact charted.trail crash member
      · rw [List.mem_singleton.mp member]
        exact sound
  · refine ⟨by rwa [failed], .inr ⟨status, failed, ?_⟩⟩
    rintro ⟨writer, taken⟩
    rw [charted.options] at encoded
    rw [encoded] at taken
    cases taken

theorem Charted.rotate (charted : store.Charted chart) :
    store.rotate.Charted chart ∧ store.rotate.disk.log = store.disk.log := by
  unfold Store.rotate
  split
  · exact ⟨charted, rfl⟩
  · rw [attempt_done charted.io]
    exact ⟨charted.write rfl (charted.disk.of_files rfl (.inr rfl)), rfl⟩

/-- On the way of a checkpoint write there is the old checkpoint, none, or the new one. -/
theorem Charted.writeCheckpoint (charted : store.Charted chart) {checkpoint : Checkpoint}
    (offset : checkpoint.walOffset = store.logBytes) (fits : chart.fits checkpoint store.disk.log []) :
    (store.writeCheckpoint checkpoint).1.Charted chart ∧
      (store.writeCheckpoint checkpoint).1.disk.log = store.disk.log := by
  unfold Store.writeCheckpoint
  split
  · exact ⟨charted, rfl⟩
  · obtain ⟨rotated, log⟩ := charted.rotate
    dsimp only
    generalize store.rotate = middle at rotated log ⊢
    have sound : ({ middle.disk with checkpoint := .intact checkpoint } : Disk).Charted chart := by
      refine ⟨rotated.disk.log, ?_⟩
      intro found stored
      cases stored
      refine ⟨middle.disk.log, [], by simp [Disk.log], ?_, ?_⟩
      · rw [offset, charted.logBytes, log]
      · rw [log]
        exact fits
    obtain ⟨stored, wrote, written⟩ : ∃ stored, stored = middle.write { middle.disk with
        checkpoint := .intact checkpoint } ∧ Charted chart stored :=
      ⟨_, rfl, Charted.write rotated (by rfl) sound⟩
    have kept : stored.disk.log = store.disk.log := by
      rw [wrote, ← log]
      rfl
    rw [attempt_done rotated.io, ← wrote]
    dsimp only
    rw [Store.persistMeta, attempt_done written.io]
    refine ⟨Charted.rebook (written.write ?_ (written.disk.of_files ?_ ?_)), kept⟩
    · rfl
    · rfl
    · exact .inl rfl

/-- Writes of the manifest alone. -/
theorem KeepsFiles.charted {before after : Store} (kept : before.KeepsFiles after) (charted : before.Charted chart) :
    after.Charted chart ∧ after.disk.log = before.disk.log := by
  have log : after.disk.log = before.disk.log := kept.log
  refine ⟨⟨kept.io charted.io, kept.options.trans charted.options, ?_,
    charted.disk.of_files kept.wal (.inl kept.checkpoint), ?_⟩, log⟩
  · rw [kept.logBytes, log]
    exact charted.logBytes
  · obtain ⟨added, trail, files⟩ := kept.trail
    intro crash member
    rw [trail] at member
    rcases List.mem_append.mp member with member | member
    · exact charted.trail crash member
    · exact charted.disk.of_files (files crash member).1 (.inl (files crash member).2)

theorem Opened.charted {disk : Disk} (opened : Opened disk [] store) (charted : disk.Charted chart) :
    store.Charted chart ∧ store.disk.log = disk.log := by
  have log := (opened.aligned charted.aligned).2
  have sound : store.disk.Charted chart := by
    constructor
    · rw [log]
      exact charted.log
    · rw [log, opened.file]
      exact charted.checkpoint
  refine ⟨⟨opened.io, opened.options, opened.logBytes, sound, ?_⟩, log⟩
  intro crash member
  rw [opened.trail] at member
  rw [List.mem_singleton.mp member]
  exact sound

end Store

end RackFabric
