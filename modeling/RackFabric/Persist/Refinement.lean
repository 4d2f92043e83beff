import RackFabric.Persist.Image

/-!
The store over the bytes of its files refines the store over records. Opening recovers the same, every call is answered
the same, and whatever byte a process dies at, the files hold a directory that the store over records can leave.
-/

namespace RackFabric

namespace Store

/-- A manifest that is written without a failure replaces the old one. -/
theorem persistMeta_quiet {store : Store} (quiet : store.io = []) (manifest : Meta) :
    store.persistMeta manifest = (store.write { store.disk with manifest := .intact manifest }, .ok ()) := by
  rw [persistMeta, attempt_done quiet]

/-- The store that an opening makes of what it read. -/
def recalled (disk : Disk) (options : StoreOptions) (manifest : Option Meta) (checkpoint : Checkpoint)
    (report : RecoveryReport) (skipped records : List StoreRecord) : Store where
  options := options
  disk := { disk with wal := some (skipped ++ records) }
  logBytes := logSize options (skipped ++ records)
  recovered := {
    checkpoint := checkpoint
    records := records
    report := { report with recordsReplayed := records.length } }
  incarnationCounter := max ((manifest.map Meta.incarnationCounter).getD 0) (maxIncarnationOf records)
  checkpointLength := (manifest.map Meta.checkpointLength).getD 0
  boundRack := (manifest.map Meta.rack).getD 0
  trail := [{ disk with wal := some (skipped ++ records) }]

theorem openDirectory_recalled {disk : Disk} {options : StoreOptions} {manifest : Option Meta}
    {report settled : RecoveryReport} {checkpoint : Checkpoint} {skipped records : List StoreRecord}
    (accepted : readManifest disk options = .ok (manifest, report))
    (read : readCheckpoint disk options manifest report = (checkpoint, settled))
    (split : splitLog options checkpoint.walOffset disk.log = (skipped, records)) :
    openDirectory disk options [] = .ok (recalled disk options manifest checkpoint settled skipped records) := by
  unfold openDirectory
  rw [accepted]
  simp only [bind, Except.bind, read, split]
  rfl

/-- The manifest that points at a checkpoint just written. -/
def pointingAt (store : Store) (checkpoint : Checkpoint) (length : Nat) : Meta where
  rack := store.boundRack
  incarnationCounter := store.incarnationCounter
  epoch := checkpoint.epoch
  generation := checkpoint.generation
  checkpointOffset := checkpoint.walOffset
  checkpointLength := length
  snapshotDigest := checkpoint.snapshotDigest
  ledgerDigest := checkpoint.ledgerDigest

/-- The directories that moving the checkpoint file away leaves. -/
def rotations (disk : Disk) : List Disk :=
  if disk.checkpoint = .absent then [] else [{ disk with checkpoint := .absent }]

theorem rotate_quiet {store : Store} (quiet : store.io = []) :
    store.rotate = { store with
      disk := { store.disk with checkpoint := .absent }
      trail := store.trail ++ rotations store.disk } := by
  unfold rotate rotations
  cases held : store.disk.checkpoint with
  | absent =>
    have same : { store.disk with checkpoint := FileContent.absent } = store.disk := by rw [← held]
    simp only [if_true, List.append_nil, same]
  | damaged failure =>
    rw [attempt_done quiet, if_neg (fun absent => nomatch absent)]
    rfl
  | intact checkpoint =>
    rw [attempt_done quiet, if_neg (fun absent => nomatch absent)]
    rfl

/-- A checkpoint that fits its bound is written, and the directory passes through three changes. -/
theorem writeCheckpoint_quiet {store : Store} (quiet : store.io = []) {checkpoint : Checkpoint} {body : List UInt8}
    (made : checkpoint.body store.options.maxCheckpointBytes = .ok body) :
    store.writeCheckpoint checkpoint = ({ store with
      disk := { store.disk with
        checkpoint := .intact checkpoint
        manifest := .intact (store.pointingAt checkpoint (kCheckpointHeaderSize + body.length)) }
      checkpointLength := kCheckpointHeaderSize + body.length
      recovered := { store.recovered with checkpoint := { checkpoint with present := true } }
      trail := store.trail ++ (rotations store.disk ++ [
        { store.disk with checkpoint := .intact checkpoint },
        { store.disk with
          checkpoint := .intact checkpoint
          manifest := .intact (store.pointingAt checkpoint (kCheckpointHeaderSize + body.length)) }]) }, .ok ()) := by
  unfold writeCheckpoint
  rw [made, rotate_quiet quiet]
  simp only [attempt, answer, quiet, persistMeta, write, pointingAt, List.append_assoc, List.cons_append,
    List.nil_append]

/-- A call leaves the directory it changed last. -/
theorem exec_last {store : Store} (quiet : store.io = []) (call : StoreCall) :
    (exec { store with trail := [] } call).1.trail.getLastD store.disk =
      (exec { store with trail := [] } call).1.disk := by
  have still : ({ store with trail := [] } : Store).io = [] := quiet
  cases call with
  | append record =>
    simp only [exec]
    rcases append_cases still record with ⟨writer, -, appended⟩ | ⟨status, -, failed⟩
    · rw [appended]
      rfl
    · rw [failed]
      rfl
  | writeCheckpoint checkpoint =>
    simp only [exec]
    cases made : checkpoint.body store.options.maxCheckpointBytes with
    | error status =>
      simp only [writeCheckpoint, made]
      rfl
    | ok body =>
      rw [writeCheckpoint_quiet still made]
      simp [List.getLastD_eq_getLast?]
  | markCleanShutdown atMs =>
    simp only [exec, markCleanShutdown, persistMeta, attempt_done still]
    rfl
  | nextIncarnation =>
    simp only [exec, nextIncarnation]
    split
    · rfl
    · simp only [persistMeta, attempt, answer, quiet]
      rfl
  | bindRack rack =>
    simp only [exec, bindRack, persistMeta, attempt, answer, quiet]
    rfl

/-- Every directory a call passes through is one that a death in it can leave. -/
theorem cut_of_mem {store : Store} {call : StoreCall} {disk : Disk}
    (passed : disk ∈ (exec { store with trail := [] } call).1.trail) : ∃ far, store.cut call far = disk := by
  obtain ⟨place, found⟩ := List.getElem?_of_mem passed
  refine ⟨place + 1, ?_⟩
  rw [cut, List.getElem?_cons_succ, found, Option.getD_some]

theorem cut_last {store : Store} (quiet : store.io = []) (call : StoreCall) :
    ∃ far, store.cut call far = (exec { store with trail := [] } call).1.disk := by
  refine ⟨(exec { store with trail := [] } call).1.trail.length + 1, ?_⟩
  rw [← exec_last quiet call, cut, List.getElem?_eq_none (by simp)]
  rfl

end Store

namespace OnDisk

open Foundation

variable {options : Options} {directory : Directory} {disk : Disk} {store : Store} {other : RackFabric.Store}

/-- Cutting the torn frame off leaves files that hold the same. -/
theorem Directory.Holds.settled (holds : directory.Holds options disk) {frames : Store.Frames options}
    {tail : List UInt8} (held : HoldsLog options directory.log disk.log frames tail) :
    ({ directory with wal := some (joined frames) } : Directory).Holds options { disk with wal := some disk.log } where
  manifest := holds.manifest
  file := holds.file
  checkpoint := holds.checkpoint
  boundary := holds.boundary
  wal := rfl
  log := ⟨frames, [], held.sized, held.values, (List.append_nil _).symm, .cleanEnd, readFrame_nil _⟩

/-- Opening directories that hold the same fails for the same reason or recovers the same. -/
theorem Directory.Holds.opens (holds : directory.Holds options disk) :
    (∃ failure, Store.openDirectory directory options = .error failure ∧
      RackFabric.Store.openDirectory disk options.toStoreOptions [] = .error failure) ∨
    ∃ store other, Store.openDirectory directory options = .ok store ∧
      RackFabric.Store.openDirectory disk options.toStoreOptions [] = .ok other ∧ Models options store other ∧
      other.disk.log = disk.log ∧ ∃ covered, disk.log = covered ++ store.recovered.records ∧
        store.recovered.checkpoint.walOffset = logSize options.toStoreOptions covered := by
  have same := holds.readManifest
  cases accepted : Store.readManifest directory options with
  | error failure =>
    rw [accepted] at same
    refine .inl ⟨failure, ?_, ?_⟩
    · simp only [Store.openDirectory, accepted]
      rfl
    · simp only [RackFabric.Store.openDirectory, ← same]
      rfl
  | ok found =>
    obtain ⟨manifest, report⟩ := found
    rw [accepted] at same
    obtain ⟨frames, tail, held⟩ := holds.log
    obtain ⟨short, covered, rest, split, offset⟩ := holds.atBoundary manifest report
    have read := holds.readCheckpoint manifest report
    have opened : Store.openDirectory directory options = .ok (Store.restore directory options manifest report) := by
      simp only [Store.openDirectory, accepted]
      rfl
    have restored : Store.restore directory options manifest report = {
        options := options
        directory := { directory with wal := some (joined frames) }
        logBytes := logSize options.toStoreOptions disk.log
        recovered := {
          checkpoint := (Store.readCheckpoint directory options manifest report).1
          records := rest
          report := { (Store.readCheckpoint directory options manifest report).2 with recordsReplayed := rest.length } }
        stop := (Store.restore directory options manifest report).stop
        bytesDiscarded := (Store.restore directory options manifest report).bytesDiscarded
        incarnationCounter := max ((manifest.map Manifest.incarnationCounter).getD 0) (maxIncarnationOf rest)
        checkpointLength := (manifest.map Manifest.checkpointLength).getD 0
        boundRack := (manifest.map Manifest.rack).getD 0 } := by
      have size := joined_length held.sized
      rw [held.values] at size
      have cut : directory.log.take (logSize options.toStoreOptions disk.log) = joined frames := by
        rw [held.bytes]
        exact List.take_left' size
      rw [split] at held
      obtain ⟨values, taken⟩ := held.replays
      rw [← offset] at values taken
      rw [size] at taken
      simp only [Store.restore, values, taken, cut]
    have divided : splitLog options.toStoreOptions (Store.readCheckpoint directory options manifest report).1.walOffset
        disk.log = (covered, rest) := by
      rw [split, offset]
      exact splitLog_boundary _ _ _
    have recalled := RackFabric.Store.openDirectory_recalled same.symm (read.symm.trans (Prod.eta _).symm) divided
    refine .inr ⟨_, _, opened, recalled, ?_, split.symm, covered, ?_, offset⟩
    · rw [restored, RackFabric.Store.recalled, ← split]
      have log : ({ directory with wal := some (joined frames) } : Directory).log = joined frames := rfl
      have size := joined_length held.sized
      rw [held.values] at size
      constructor
      · rfl
      · rfl
      · rfl
      · rfl
      · cases manifest <;> rfl
      · exact short
      · exact holds.settled held
      · rw [log]
        exact size
      · rfl
    · rw [restored]
      exact split

/-- The parts of a checkpoint file that was built. -/
theorem built_body {checkpoint : Checkpoint} {limit : Nat} {bytes : List UInt8}
    (built : buildCheckpointBytes checkpoint limit = .ok bytes) :
    ∃ body, checkpoint.body limit = .ok body ∧ bytes.length = kCheckpointHeaderSize + body.length := by
  unfold buildCheckpointBytes at built
  rw [bind_eq_ok] at built
  obtain ⟨body, made, put⟩ := built
  rw [Except.ok.injEq] at put
  refine ⟨body, made, ?_⟩
  rw [← put]
  exact (laidOut checkpoint body _).size

theorem build_of_error {checkpoint : Checkpoint} {limit : Nat} {status : Status}
    (made : checkpoint.body limit = .error status) : buildCheckpointBytes checkpoint limit = .error status := by
  simp only [buildCheckpointBytes, made]
  rfl

theorem build_of_body {checkpoint : Checkpoint} {limit : Nat} {body : List UInt8}
    (made : checkpoint.body limit = .ok body) :
    ∃ bytes, buildCheckpointBytes checkpoint limit = .ok bytes ∧
      bytes.length = kCheckpointHeaderSize + body.length := by
  obtain ⟨bytes, built⟩ : ∃ bytes, buildCheckpointBytes checkpoint limit = .ok bytes := by
    simp only [buildCheckpointBytes, made]
    exact ⟨_, rfl⟩
  obtain ⟨same, again, size⟩ := built_body built
  rw [made] at again
  cases again
  exact ⟨bytes, built, size⟩

/-- The manifest is replaced whole. -/
theorem Directory.Holds.persistMeta (holds : directory.Holds options disk) {manifest : Manifest}
    (current : manifest.formatVersion = kStateFormatVersion) :
    ({ directory with manifest := some (encodeMeta manifest) } : Directory).Holds options
      { disk with manifest := .intact manifest.meaning } where
  manifest := by rw [manifestImage, readMeta_encodeMeta current]
  file := holds.file
  checkpoint := holds.checkpoint
  boundary := holds.boundary
  wal := holds.wal
  log := holds.log

theorem Directory.Holds.rotated (holds : directory.Holds options disk) :
    ({ directory with checkpoint := none } : Directory).Holds options { disk with checkpoint := .absent } where
  manifest := holds.manifest
  file := ⟨fun _ => rfl, fun _ => rfl⟩
  checkpoint := rfl
  boundary := by
    intro checkpoint found
    cases found
  wal := holds.wal
  log := holds.log

/-- Options under which sizes fit the fields they are written to. -/
def Options.Sized (options : Options) : Prop :=
  options.maxCheckpointBytes + kCheckpointHeaderSize < 2 ^ 64

instance : DecidablePred Options.Sized := fun options =>
  inferInstanceAs (Decidable (options.maxCheckpointBytes + kCheckpointHeaderSize < 2 ^ 64))

/-- A checkpoint file as it was built reads as the checkpoint. -/
theorem readableCheckpoint_built (sized : options.Sized) {checkpoint : Checkpoint} {bytes : List UInt8}
    (built : buildCheckpointBytes checkpoint options.maxCheckpointBytes = .ok bytes)
    (readable : checkpoint.readable = true) (offset : checkpoint.walOffset < 2 ^ 64)
    (held : directory.checkpoint = some bytes) :
    Store.readableCheckpoint directory options = some { checkpoint with present := true } := by
  obtain ⟨few, valid⟩ := Bool.and_eq_true_iff.mp readable
  have all : ∀ record ∈ checkpoint.ledger, validateEvidence record = .ok () := by
    intro record member
    have ok := List.all_eq_true.mp valid record member
    cases checked : validateEvidence record with
    | ok accepted => rfl
    | error status =>
      rw [checked] at ok
      cases ok
  have within : options.maxCheckpointBytes < 2 ^ 64 := Nat.lt_of_le_of_lt (Nat.le_add_right _ _) sized
  have parsed := parseCheckpoint_build built within offset (of_decide_eq_true few) all
  obtain ⟨body, made, size⟩ := built_body built
  have short : ¬ bytes.length > options.maxCheckpointBytes + kCheckpointHeaderSize := by
    have bound := (body_bytes made).2.1
    omega
  simp only [Store.readableCheckpoint, held, Option.bind_eq_bind, Option.bind_some, if_neg short, parsed]

end OnDisk

end RackFabric
