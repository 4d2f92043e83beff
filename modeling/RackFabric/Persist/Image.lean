import RackFabric.Persist.Calls
import RackFabric.Persist.Recovery
import RackFabric.Persist.Reopen

/-!
What the files of a directory say. A directory of bytes holds a directory of records when its manifest and its
checkpoint read as those, and its log is the frames of the records, possibly followed by a torn one.
-/

namespace RackFabric

/-- The checkpoint that its file can be read as. -/
def Disk.readableCheckpoint (disk : Disk) : Option Checkpoint :=
  match disk.checkpoint with
  | .intact checkpoint => if checkpoint.readable then some { checkpoint with present := true } else none
  | _ => none

theorem Store.readCheckpoint_readable (disk : Disk) (options : StoreOptions) (manifest : Option Meta)
    (report : RecoveryReport) :
    Store.readCheckpoint disk options manifest report =
      if manifest.any (fun manifest =>
          0 < manifest.checkpointLength && manifest.checkpointLength ≤ options.maxCheckpointBytes) = true then
        match disk.readableCheckpoint with
        | none => ({}, { report with checkpointRejected := true })
        | some checkpoint =>
          if checkpoint.walOffset > logSize options disk.log then ({}, { report with checkpointRejected := true })
          else (checkpoint, { report with checkpointUsed := true })
      else ({}, report) := by
  unfold Store.readCheckpoint Disk.readableCheckpoint
  dsimp only
  split
  · rename_i unwanted
    rw [if_neg (by simpa using unwanted)]
  · rename_i wanted
    rw [if_pos (by simpa using wanted)]
    cases disk.checkpoint with
    | absent => rfl
    | damaged failure => rfl
    | intact checkpoint =>
      by_cases readable : checkpoint.readable = true
      · simp only [readable, if_true]
      · simp only [readable, if_false, Bool.false_eq_true]

namespace OnDisk

open Foundation

def Manifest.meaning (manifest : Manifest) : Meta where
  rack := manifest.rack
  incarnationCounter := manifest.incarnationCounter
  epoch := manifest.epoch
  generation := manifest.generation
  checkpointOffset := manifest.checkpointOffset.toNat
  checkpointLength := manifest.checkpointLength.toNat
  snapshotDigest := manifest.snapshotDigest
  ledgerDigest := manifest.ledgerDigest
  cleanShutdown := manifest.cleanShutdown
  cleanShutdownAtMs := manifest.cleanShutdownAtMs

/-- What the bytes of a manifest are read as. -/
def manifestImage (options : Options) : Option (List UInt8) → FileContent Meta
  | none => .absent
  | some bytes =>
    match readMeta bytes options with
    | .ok manifest => .intact manifest.meaning
    | .error failure => .damaged failure

/-- The log is the frames of the records, then something that does not read. -/
structure HoldsLog (options : Options) (log : List UInt8) (records : List StoreRecord) (frames : Store.Frames options)
    (tail : List UInt8) : Prop where
  sized : frames.Sized
  values : frames.map Written.value = records
  bytes : log = joined frames ++ tail
  torn : ∃ stop, readFrame options.maxRecordBytes tail = .error stop

/-- The offset of a checkpoint is a record boundary of the log, and fits its field. -/
def AtBoundary (options : StoreOptions) (records : List StoreRecord) (checkpoint : Checkpoint) : Prop :=
  checkpoint.walOffset < 2 ^ 64 ∧
    ∃ covered rest, records = covered ++ rest ∧ checkpoint.walOffset = logSize options covered

/-- The files of a directory hold a directory of records. -/
structure Directory.Holds (options : Options) (directory : Directory) (disk : Disk) : Prop where
  manifest : disk.manifest = manifestImage options directory.manifest
  file : directory.checkpoint = none ↔ disk.checkpoint = .absent
  checkpoint : Store.readableCheckpoint directory options = disk.readableCheckpoint
  boundary : ∀ checkpoint, disk.readableCheckpoint = some checkpoint →
    AtBoundary options.toStoreOptions disk.log checkpoint
  wal : directory.wal.isSome = disk.wal.isSome
  log : ∃ frames tail, HoldsLog options directory.log disk.log frames tail

/-- An opened store over bytes models one over records: it answers the same, its files hold the same, and no torn frame
is left in its log. -/
structure Models (options : Options) (store : Store) (other : RackFabric.Store) : Prop where
  under : store.options = options
  same : other.options = options.toStoreOptions
  quiet : other.io = []
  begun : other.disk.wal.isSome = true
  view : store.view = other.view
  offset : other.recovered.checkpoint.walOffset < 2 ^ 64
  holds : store.directory.Holds options other.disk
  ends : store.directory.log.length = store.logBytes
  counted : store.logBytes = logSize options.toStoreOptions other.disk.log

variable {options : Options} {directory : Directory} {disk : Disk}

theorem HoldsLog.within {log tail : List UInt8} {records : List StoreRecord} {frames : Store.Frames options}
    (held : HoldsLog options log records frames tail) : logSize options.toStoreOptions records ≤ log.length := by
  rw [held.bytes, List.length_append, joined_length held.sized, held.values]
  exact Nat.le_add_right _ _

theorem AtBoundary.le {records : List StoreRecord} {checkpoint : Checkpoint}
    (boundary : AtBoundary options.toStoreOptions records checkpoint) :
    checkpoint.walOffset ≤ logSize options.toStoreOptions records := by
  obtain ⟨-, covered, rest, rfl, offset⟩ := boundary
  rw [offset]
  simp only [logSize, List.map_append, List.sum_append]
  exact Nat.le_add_right _ _

/-- Replay from a record boundary finds the records after it, up to the torn frame. -/
theorem HoldsLog.replays {log tail : List UInt8} {covered rest : List StoreRecord} {frames : Store.Frames options}
    (held : HoldsLog options log (covered ++ rest) frames tail) :
    (replayLog options.maxRecordBytes log (logSize options.toStoreOptions covered)).values = rest ∧
      logSize options.toStoreOptions covered +
        (replayLog options.maxRecordBytes log (logSize options.toStoreOptions covered)).taken =
          (joined frames).length := by
  obtain ⟨front, back, rfl, values, values'⟩ := List.map_eq_append_iff.mp held.values
  have sized : Store.Frames.Sized front := fun frame member => held.sized frame (List.mem_append_left _ member)
  have before : (joined front).length = logSize options.toStoreOptions covered := by rw [joined_length sized, values]
  obtain ⟨stop, failed⟩ := held.torn
  have dropped : log.drop (logSize options.toStoreOptions covered) = joined back ++ tail := by
    rw [held.bytes, joined_append, List.append_assoc]
    exact List.drop_left' before
  have scanned := scan_joined (readFrame_delimited options.maxRecordBytes) back tail
  rw [scan_error failed] at scanned
  unfold replayLog
  rw [dropped, scanned]
  refine ⟨by simp [Scan.append, values'], ?_⟩
  simp only [Scan.append, Nat.add_zero, joined_append, List.length_append, before]

theorem Directory.Holds.readManifest (holds : directory.Holds options disk) :
    (Store.readManifest directory options).map (fun found => (found.1.map Manifest.meaning, found.2)) =
      RackFabric.Store.readManifest disk options.toStoreOptions := by
  have fresh : directory.wal.isNone = disk.wal.isNone := by
    rw [← Option.not_isSome, ← Option.not_isSome, holds.wal]
  unfold Store.readManifest RackFabric.Store.readManifest
  rw [holds.manifest, ← fresh, ← holds.wal]
  cases directory.manifest with
  | none => rfl
  | some bytes =>
    unfold manifestImage
    cases read : readMeta bytes options with
    | ok manifest => simp only [read, Except.map, Option.map_some, Manifest.meaning]
    | error failure =>
      simp only [read]
      split
      · rfl
      · split <;> rfl

theorem wantsCheckpoint_meaning (manifest : Option Manifest) :
    Store.wantsCheckpoint manifest options = (manifest.map Manifest.meaning).any fun manifest =>
      0 < manifest.checkpointLength && manifest.checkpointLength ≤ options.maxCheckpointBytes := by
  cases manifest with
  | none => rfl
  | some manifest => rfl

theorem Directory.Holds.readCheckpoint (holds : directory.Holds options disk) (manifest : Option Manifest)
    (report : RecoveryReport) :
    Store.readCheckpoint directory options manifest report =
      RackFabric.Store.readCheckpoint disk options.toStoreOptions (manifest.map Manifest.meaning) report := by
  obtain ⟨frames, tail, held⟩ := holds.log
  rw [RackFabric.Store.readCheckpoint_readable, ← wantsCheckpoint_meaning, ← holds.checkpoint]
  unfold Store.readCheckpoint
  by_cases wanted : Store.wantsCheckpoint manifest options = true
  · simp only [wanted, Bool.not_true, if_true, Bool.false_eq_true, if_false]
    cases readable : Store.readableCheckpoint directory options with
    | none => rfl
    | some checkpoint =>
      have within := (holds.boundary checkpoint (holds.checkpoint.symm.trans readable)).le
      have inside := Nat.le_trans within held.within
      simp only [Nat.not_lt.mpr within, Nat.not_lt.mpr inside, if_false]
  · simp only [wanted, Bool.not_false, if_true, Bool.false_eq_true, if_false]

/-- Whichever checkpoint an opening settles on, it lies at a record boundary. -/
theorem Directory.Holds.atBoundary (holds : directory.Holds options disk) (manifest : Option Manifest)
    (report : RecoveryReport) :
    AtBoundary options.toStoreOptions disk.log (Store.readCheckpoint directory options manifest report).1 := by
  rcases Store.readCheckpoint_cases directory options manifest report with ⟨none, -⟩ | ⟨checkpoint, same, -, readable, -⟩
  · rw [none]
    exact ⟨by decide, [], disk.log, rfl, rfl⟩
  · rw [same]
    exact holds.boundary checkpoint (holds.checkpoint.symm.trans readable)

end OnDisk

end RackFabric
