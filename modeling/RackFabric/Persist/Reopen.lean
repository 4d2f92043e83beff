import RackFabric.Persist.CheckpointFile
import RackFabric.Persist.Tail

/-!
Reopening a store that was opened, bound, appended to and then closed or lost. What it recovers is what the
first opening recovered and what was appended, unless a clean shutdown brings back a checkpoint that the first
opening had rejected for pointing past the end of a log that has grown since.
-/

namespace RackFabric.OnDisk

open Foundation

theorem length_metaBack (manifest : Manifest) : (metaBack manifest).length = 240 := by
  simp only [metaBack, List.length_append, Blake2s256.length_le64, List.length_replicate, List.length_cons,
    List.length_nil, manifest.snapshotDigest.sized, manifest.ledgerDigest.sized]

theorem length_metaFront (manifest : Manifest) : (metaFront manifest).length = 12 := by
  simp only [metaFront, List.length_append, length_le32]
  decide

theorem length_encodeMeta (manifest : Manifest) : (encodeMeta manifest).length = kMetaSize := by
  simp only [encodeMeta, List.length_append, length_le32, length_metaBack, length_metaFront]
  decide

private theorem reads_meta (manifest : Manifest) (crc : UInt32) :
    Reads metaFields (kMetaMagic ++ (le32 manifest.formatVersion ++ (le32 crc ++
      (Blake2s256.le64 manifest.rack ++ (Blake2s256.le64 manifest.incarnationCounter ++
        (Blake2s256.le64 manifest.epoch ++ (Blake2s256.le64 manifest.generation ++
          (Blake2s256.le64 manifest.checkpointOffset ++ (Blake2s256.le64 manifest.checkpointLength ++
            (manifest.snapshotDigest.bytes ++ (manifest.ledgerDigest.bytes ++
              ([if manifest.cleanShutdown then 1 else 0] ++ (List.replicate 7 0 ++
                Blake2s256.le64 manifest.cleanShutdownAtMs))))))))))))) (crc, manifest) := by
  have read : Reads metaFields (kMetaMagic ++ (le32 manifest.formatVersion ++ (le32 crc ++
      (Blake2s256.le64 manifest.rack ++ (Blake2s256.le64 manifest.incarnationCounter ++
        (Blake2s256.le64 manifest.epoch ++ (Blake2s256.le64 manifest.generation ++
          (Blake2s256.le64 manifest.checkpointOffset ++ (Blake2s256.le64 manifest.checkpointLength ++
            (manifest.snapshotDigest.bytes ++ (manifest.ledgerDigest.bytes ++
              ([if manifest.cleanShutdown then 1 else 0] ++ (List.replicate 7 0 ++
                Blake2s256.le64 manifest.cleanShutdownAtMs)))))))))))))
      (crc, { manifest with cleanShutdown := (if manifest.cleanShutdown then (1 : UInt8) else 0) != 0 }) :=
    (ByteReader.reads_rawBytes kMetaMagic).bind ((ByteReader.reads_u32 _).bind ((ByteReader.reads_u32 _).bind
      ((ByteReader.reads_u64 _).bind ((ByteReader.reads_u64 _).bind ((ByteReader.reads_u64 _).bind
        ((ByteReader.reads_u64 _).bind ((ByteReader.reads_u64 _).bind ((ByteReader.reads_u64 _).bind
          ((ByteReader.reads_digest _).bind ((ByteReader.reads_digest _).bind ((ByteReader.reads_u8 _).bind
            ((ByteReader.reads_rawBytes (List.replicate 7 0)).bind (ByteReader.reads_u64 _).last))))))))))))
  have flag : ((if manifest.cleanShutdown then (1 : UInt8) else 0) != 0) = manifest.cleanShutdown := by
    cases manifest.cleanShutdown <;> rfl
  rwa [flag] at read

/-- A manifest that was written is decoded as it was, unless it is of another format version and those are refused. -/
theorem decodeMeta_encodeMeta_iff (manifest : Manifest) (allow : Bool) :
    decodeMeta (encodeMeta manifest) allow = .ok manifest ↔
      manifest.formatVersion = kStateFormatVersion ∨ allow = true := by
  have fields : ∀ crc, metaFields (metaFront manifest ++ (le32 crc ++ metaBack manifest)) =
      some ((crc, manifest), List.replicate 112 0) := by
    intro crc
    have read := reads_meta manifest crc (List.replicate 112 0)
    simp only [List.append_assoc] at read
    simp only [metaFront, metaBack, List.append_assoc]
    exact read
  have front : (encodeMeta manifest).take 12 = metaFront manifest := List.take_left' (length_metaFront manifest)
  have back : (encodeMeta manifest).drop 16 = metaBack manifest := by
    rw [encodeMeta, ← List.append_assoc]
    exact List.drop_left' (by rw [List.length_append, length_metaFront, length_le32])
  have magic : (encodeMeta manifest).take 8 = kMetaMagic := by
    simp only [encodeMeta, metaFront, List.append_assoc]
    exact List.take_left' (by decide)
  have decoded : decodeMeta (encodeMeta manifest) allow = (do
      checkMeta (encodeMeta manifest) (crc32c (metaFront manifest ++ (List.replicate 4 0 ++ metaBack manifest)))
        manifest allow
      .ok manifest) := by
    rw [decodeMeta]
    simp only [encodeMeta, fields]
  rw [decoded, checkMeta, magic, front, back]
  by_cases current : manifest.formatVersion = kStateFormatVersion
  · simp [current, bind, Except.bind]
  · cases allow <;> simp [current, bind, Except.bind]

/-- A manifest that was written is read back. -/
theorem readMeta_encodeMeta {manifest : Manifest} (current : manifest.formatVersion = kStateFormatVersion)
    (options : Options) : readMeta (encodeMeta manifest) options = .ok manifest := by
  unfold readMeta
  rw [length_encodeMeta, if_neg (Nat.lt_irrefl _), if_neg (by simp)]
  exact (decodeMeta_encodeMeta_iff manifest _).mpr (.inl current)

namespace Store

/-- A session between two openings: a new incarnation, the rack binding, appends, then a clean shutdown at a
time or a crash. -/
def session (store : Store) (rack : UInt64) (records : List StoreRecord) (shutdown : Option UInt64) :
    Result Directory := do
  let store ← store.nextIncarnation
  let store ← (store.bindRack rack).appendAll records
  match shutdown with
  | some atMs => .ok (store.markCleanShutdown atMs).directory
  | none => .ok store.directory

theorem appendAll_succeeds {store : Store} {options : Options} {records : List StoreRecord}
    (under : store.options = options) (encodable : ∀ record ∈ records, ∃ writer,
      encodeStoreRecord record { limit := options.maxRecordBytes } = .ok writer) :
    ∃ next, store.appendAll records = .ok next := by
  induction records generalizing store with
  | nil => exact ⟨store, rfl⟩
  | cons record rest ih =>
    obtain ⟨writer, encoded⟩ := encodable record (by simp)
    obtain ⟨middle, done⟩ : ∃ middle, store.append record .done = (middle, .ok ()) := by
      simp only [append, under, encoded]
      exact ⟨_, rfl⟩
    obtain ⟨next, appended⟩ := ih ((append_done done).1.options.trans under)
      fun other member => encodable other (by simp [member])
    refine ⟨next, ?_⟩
    simp only [appendAll, List.foldlM_cons, done]
    exact appended

theorem session_succeeds {store : Store} {options : Options} {records : List StoreRecord}
    (under : store.options = options) (counter : store.incarnationCounter ≠ maxU64)
    (encodable : ∀ record ∈ records, ∃ writer,
      encodeStoreRecord record { limit := options.maxRecordBytes } = .ok writer)
    (rack : UInt64) (shutdown : Option UInt64) : ∃ next, store.session rack records shutdown = .ok next := by
  obtain ⟨grown, appended⟩ := @appendAll_succeeds
    (({ store with incarnationCounter := store.incarnationCounter + 1 } : Store).persistMeta
      ({ store with incarnationCounter := store.incarnationCounter + 1 } : Store).manifestOf |>.bindRack rack)
    options records under encodable
  cases shutdown with
  | none =>
    refine ⟨grown.directory, ?_⟩
    simp only [session, nextIncarnation, if_neg counter, bind, Except.bind, appended]
  | some atMs =>
    refine ⟨(grown.markCleanShutdown atMs).directory, ?_⟩
    simp only [session, nextIncarnation, if_neg counter, bind, Except.bind, appended]

/-- What a session leaves in the directory. -/
structure Leaves (store : Store) (shutdown : Option UInt64) (next : Directory) (bytes : List UInt8)
    (manifest : Manifest) : Prop where
  written : next.manifest = some (encodeMeta manifest)
  current : manifest.formatVersion = kStateFormatVersion
  length : manifest.checkpointLength =
    if shutdown.isSome || store.recovered.checkpoint.present then store.checkpointLength else 0
  checkpoint : next.checkpoint = store.directory.checkpoint
  log : next.log = store.directory.log ++ bytes

theorem session_ok {store : Store} {options : Options} {rack : UInt64} {records : List StoreRecord}
    {shutdown : Option UInt64} {next : Directory} (under : store.options = options)
    (decodable : ∀ record ∈ records, record.Decodable)
    (held : store.session rack records shutdown = .ok next) :
    ∃ (frames : Frames options) (manifest : Manifest), frames.map Written.value = records ∧ frames.Sized ∧
      store.Leaves shutdown next (joined frames) manifest := by
  unfold session nextIncarnation at held
  rw [bind_eq_ok] at held
  obtain ⟨started, fresh, rest⟩ := held
  split at fresh
  · cases fresh
  cases fresh
  rw [bind_eq_ok] at rest
  obtain ⟨grown, appended, closed⟩ := rest
  have kept : ((({ store with incarnationCounter := store.incarnationCounter + 1 } : Store).persistMeta
      ({ store with incarnationCounter := store.incarnationCounter + 1 } : Store).manifestOf).bindRack rack).options =
      options := under
  obtain ⟨frames, values, extends_, sized⟩ := appendAll_ok kept decodable appended
  refine ⟨frames, ?_⟩
  cases shutdown with
  | none =>
    cases closed
    refine ⟨_, values, sized, extends_.manifest, rfl, ?_, extends_.checkpoint, extends_.log⟩
    rfl
  | some atMs =>
    cases closed
    refine ⟨_, values, sized, rfl, rfl, ?_, extends_.checkpoint, extends_.log⟩
    exact extends_.checkpointLength

theorem readManifest_written {directory : Directory} {manifest : Manifest}
    (written : directory.manifest = some (encodeMeta manifest))
    (current : manifest.formatVersion = kStateFormatVersion) (options : Options) :
    readManifest directory options = .ok (some manifest, {
      freshStore := directory.wal.isNone
      cleanShutdown := manifest.cleanShutdown }) := by
  unfold Store.readManifest
  rw [written]
  simp only [readMeta_encodeMeta current options]

/-- What an opening kept of the log replays again, and what was appended replays after it. -/
theorem replay_kept {options : Options} {log : List UInt8} {offset : Nat} (within : offset ≤ log.length)
    (frames : Frames options) :
    (replayLog options.maxRecordBytes
      (log.take (offset + (replayLog options.maxRecordBytes log offset).taken) ++ joined frames) offset).values =
      (replayLog options.maxRecordBytes log offset).values ++ frames.map Written.value := by
  have again := scan_taken_append (readFrame_delimited options.maxRecordBytes) (log.drop offset) (joined frames)
  have dropped : (log.take (offset + (replayLog options.maxRecordBytes log offset).taken) ++ joined frames).drop
      offset = (log.drop offset).take (replayLog options.maxRecordBytes log offset).taken ++ joined frames := by
    rw [List.take_add, List.append_assoc]
    exact List.drop_left' (by rw [List.length_take]; omega)
  unfold replayLog at dropped ⊢
  rw [dropped, again]
  simp only [Scan.append, (scan_frames frames).1]

theorem wantsCheckpoint_eq (manifest : Option Manifest) (options : Options) :
    wantsCheckpoint manifest options =
      (0 < (manifest.map Manifest.checkpointLength).getD 0 &&
        ((manifest.map Manifest.checkpointLength).getD 0).toNat ≤ options.maxCheckpointBytes) := by
  cases manifest with
  | none => rfl
  | some manifest => rfl

theorem readableCheckpoint_congr {first second : Directory} (same : first.checkpoint = second.checkpoint)
    (options : Options) : readableCheckpoint first options = readableCheckpoint second options := by
  unfold readableCheckpoint
  rw [same]

theorem readCheckpoint_used {directory : Directory} {options : Options} {manifest : Option Manifest}
    {report : RecoveryReport} {checkpoint : Checkpoint} (wanted : wantsCheckpoint manifest options = true)
    (readable : readableCheckpoint directory options = some checkpoint)
    (within : checkpoint.walOffset ≤ directory.log.length) :
    (readCheckpoint directory options manifest report).1 = checkpoint := by
  simp [readCheckpoint, wanted, readable, Nat.not_lt.mpr within]

end Store

/-- A session brings back a checkpoint that the opening before it rejected: it ends in a clean shutdown, the
checkpoint is wanted and readable but points past the end of the log, and the log grows up to it. -/
def Directory.Revives (directory : Directory) (options : Options) (records : List StoreRecord)
    (shutdown : Option UInt64) : Prop :=
  shutdown.isSome ∧ ∃ manifest report checkpoint,
    Store.readManifest directory options = .ok (manifest, report) ∧
    Store.wantsCheckpoint manifest options = true ∧
    Store.readableCheckpoint directory options = some checkpoint ∧
    directory.log.length < checkpoint.walOffset ∧
    checkpoint.walOffset ≤ (replayLog options.maxRecordBytes directory.log 0).taken +
      logSize options.toStoreOptions records

/-- The next opening recovers what this store holds and the records appended to it. -/
def Store.RecoveredBy (store : Store) (records : List StoreRecord) (next : Directory) (options : Options) : Prop :=
  ∃ reopened, Store.openDirectory next options = .ok reopened ∧
    reopened.recovered.checkpoint = store.recovered.checkpoint ∧
    reopened.recovered.records = store.recovered.records ++ records

namespace Store

variable {directory next : Directory} {options : Options} {manifest : Option Manifest} {written : Manifest}
  {report : RecoveryReport} {shutdown : Option UInt64} {frames : Frames options}

/-- The log after the session: what the opening kept, then the frames. -/
theorem Leaves.log_length (leaves : (restore directory options manifest report).Leaves shutdown next (joined frames) written)
    (sized : frames.Sized) :
    next.log.length = (readCheckpoint directory options manifest report).1.walOffset +
      (replayLog options.maxRecordBytes directory.log
        (readCheckpoint directory options manifest report).1.walOffset).taken +
      logSize options.toStoreOptions (frames.map Written.value) := by
  have kept := cursor_le options (readCheckpoint_within directory options manifest report)
  rw [leaves.log, List.length_append, joined_length sized]
  simp only [restore, Directory.log, Option.getD_some, List.length_take] at kept ⊢
  omega

theorem Leaves.wants_iff
    (leaves : (restore directory options manifest report).Leaves shutdown next (joined frames) written) :
    wantsCheckpoint (some written) options = true ↔
      (shutdown.isSome || (readCheckpoint directory options manifest report).1.present) = true ∧
        wantsCheckpoint manifest options = true := by
  have length : written.checkpointLength =
      if (shutdown.isSome || (readCheckpoint directory options manifest report).1.present) = true then
        (manifest.map Manifest.checkpointLength).getD 0 else 0 := leaves.length
  rw [wantsCheckpoint_eq, wantsCheckpoint_eq, Option.map_some, Option.getD_some, length]
  by_cases kept : (shutdown.isSome || (readCheckpoint directory options manifest report).1.present) = true
  · simp only [kept, if_true, true_and]
  · rw [if_neg kept]
    simp [kept]

/-- The next opening settles the checkpoint as this one did, unless it is revived. -/
theorem Leaves.same_checkpoint
    (leaves : (restore directory options manifest report).Leaves shutdown next (joined frames) written)
    (later : RecoveryReport) (sized : frames.Sized)
    (accepted : readManifest directory options = .ok (manifest, report))
    (clean : ¬ directory.Revives options (frames.map Written.value) shutdown) :
    (readCheckpoint next options (some written) later).1 = (readCheckpoint directory options manifest report).1 := by
  have size := leaves.log_length sized
  have readable := readableCheckpoint_congr leaves.checkpoint options
  rcases readCheckpoint_cases directory options manifest report with
    ⟨none, why⟩ | ⟨checkpoint, same, wanted, found, within⟩
  · rcases readCheckpoint_cases next options (some written) later with
      ⟨none', -⟩ | ⟨checkpoint, same, wanted, found, within⟩
    · rw [none, none']
    · exfalso
      have wants := leaves.wants_iff.mp wanted
      rw [none] at wants
      have shut : shutdown.isSome = true := by simpa using wants.1
      rw [readable] at found
      rcases why with unwanted | unreadable | ⟨past, -, located, beyond⟩
      · rw [wants.2] at unwanted
        cases unwanted
      · have located : readableCheckpoint directory options = some checkpoint := found
        rw [unreadable] at located
        cases located
      · have agree : some past = some checkpoint := located.symm.trans found
        cases agree
        rw [none] at size
        apply clean
        refine ⟨shut, manifest, report, checkpoint, accepted, wants.2, located, beyond, ?_⟩
        have bound : (({} : Checkpoint).walOffset) = 0 := rfl
        rw [bound] at size
        omega
  · rw [same]
    have present := readableCheckpoint_present found
    have wanted' := leaves.wants_iff.mpr ⟨by rw [same, present, Bool.or_true], wanted⟩
    apply readCheckpoint_used wanted' (readable.trans found)
    rw [size, same]
    omega

/-- A revived checkpoint is used although the opening before had none. -/
theorem Leaves.revived
    (leaves : (restore directory options manifest report).Leaves shutdown next (joined frames) written)
    (later : RecoveryReport) (sized : frames.Sized)
    (accepted : readManifest directory options = .ok (manifest, report))
    (revives : directory.Revives options (frames.map Written.value) shutdown) :
    (readCheckpoint next options (some written) later).1 ≠ (readCheckpoint directory options manifest report).1 := by
  obtain ⟨shut, manifest', report', checkpoint, accepted', wanted, found, beyond, reached⟩ := revives
  rw [accepted] at accepted'
  cases accepted'
  have none : (readCheckpoint directory options manifest report).1 = {} := by
    simp [readCheckpoint, wanted, found, beyond]
  have wanted' := leaves.wants_iff.mpr ⟨by rw [shut, Bool.true_or], wanted⟩
  have used : (readCheckpoint next options (some written) later).1 = checkpoint := by
    apply readCheckpoint_used wanted' ((readableCheckpoint_congr leaves.checkpoint options).trans found)
    rw [leaves.log_length sized, none]
    exact Nat.le_trans reached (Nat.le_of_eq (by rw [Nat.zero_add]))
  intro same
  have present := readableCheckpoint_present found
  rw [used, none] at same
  rw [same] at present
  cases present

end Store

/-- Reopening recovers what was open exactly when the session revives no rejected checkpoint. -/
theorem reopening_recovers_iff {directory next : Directory} {options : Options} {store : Store} {rack : UInt64}
    {records : List StoreRecord} {shutdown : Option UInt64}
    (opened : Store.openDirectory directory options = .ok store)
    (decodable : ∀ record ∈ records, record.Decodable)
    (held : store.session rack records shutdown = .ok next) :
    store.RecoveredBy records next options ↔ ¬ directory.Revives options records shutdown := by
  obtain ⟨manifest, report, accepted, rfl⟩ := Store.openDirectory_ok opened
  have under : (Store.restore directory options manifest report).options = options := rfl
  obtain ⟨frames, written, rfl, sized, leaves⟩ := Store.session_ok under decodable held
  have accepted' := Store.readManifest_written leaves.written leaves.current options
  generalize ({ freshStore := next.wal.isNone, cleanShutdown := written.cleanShutdown } : RecoveryReport) = later
    at accepted'
  have reopens : Store.openDirectory next options = .ok (Store.restore next options (some written) later) := by
    simp only [Store.openDirectory, accepted']
    rfl
  constructor
  · intro recovered revives
    obtain ⟨reopened, succeeds, same, -⟩ := recovered
    rw [reopens] at succeeds
    cases succeeds
    exact leaves.revived later sized accepted revives same
  · intro clean
    have same := leaves.same_checkpoint later sized accepted clean
    refine ⟨_, reopens, same, ?_⟩
    have within := Store.readCheckpoint_within directory options manifest report
    have records := Store.replay_kept within frames
    simp only [Store.restore, same, leaves.log] at records ⊢
    exact records

/-- A manifest that points 17 bytes into the log. -/
def strandedManifest : Manifest :=
  { rack := 1, incarnationCounter := 3, checkpointOffset := 17, checkpointLength := 200 }

def strandedCheckpoint : Checkpoint :=
  { walOffset := 17, generation := 2, epoch := 1 }

/-- A directory whose log was lost: its manifest and its checkpoint are whole. -/
def lostLog : Directory where
  manifest := some (encodeMeta strandedManifest)
  checkpoint := (buildCheckpointBytes strandedCheckpoint 67108864).toOption
  wal := some []

theorem lostLog_readable : Store.readableCheckpoint lostLog {} = some { strandedCheckpoint with present := true } := by
  have body : strandedCheckpoint.body 67108864 = .ok [0, 0, 0, 0, 0, 0, 0, 0] := by rfl
  obtain ⟨bytes, built, short⟩ : ∃ bytes, buildCheckpointBytes strandedCheckpoint 67108864 = .ok bytes ∧
      bytes.length = 200 := by
    refine ⟨_, by unfold buildCheckpointBytes; rw [body]; rfl, ?_⟩
    rw [(laidOut _ _ _).size]
    rfl
  have parsed := parseCheckpoint_build built (by decide) (by decide) (by decide) (by decide)
  have file : lostLog.checkpoint = some bytes := by
    show (buildCheckpointBytes strandedCheckpoint 67108864).toOption = some bytes
    rw [built]
    rfl
  have within : ¬ bytes.length > ({} : Options).maxCheckpointBytes + kCheckpointHeaderSize := by
    rw [short]
    decide
  unfold Store.readableCheckpoint
  rw [file, Option.bind_eq_bind, Option.bind_some, if_neg within, parsed]

/-- The checkpoint of a directory points past the end of its log, which was lost. -/
structure Directory.Stranded (directory : Directory) : Prop where
  manifest : directory.manifest = some (encodeMeta strandedManifest)
  readable : Store.readableCheckpoint directory {} = some { strandedCheckpoint with present := true }
  log : directory.log = []

theorem lostLog_stranded : lostLog.Stranded :=
  ⟨rfl, lostLog_readable, rfl⟩

private theorem stranded_wanted : Store.wantsCheckpoint (some strandedManifest) {} = true := by decide

/-- Opening such a directory uses no checkpoint, and a session follows. -/
theorem Directory.Stranded.opens {directory : Directory} (stranded : directory.Stranded)
    (shutdown : Option UInt64) :
    ∃ report next, Store.readManifest directory {} = .ok (some strandedManifest, report) ∧
      Store.openDirectory directory {} = .ok (Store.restore directory {} (some strandedManifest) report) ∧
      (Store.readCheckpoint directory {} (some strandedManifest) report).1 = {} ∧
      (Store.restore directory {} (some strandedManifest) report).session 1 [.generation 7] shutdown = .ok next := by
  have accepted := Store.readManifest_written stranded.manifest rfl {}
  generalize ({ freshStore := directory.wal.isNone, cleanShutdown := strandedManifest.cleanShutdown } :
    RecoveryReport) = report at accepted
  have none : (Store.readCheckpoint directory {} (some strandedManifest) report).1 = {} := by
    simp only [Store.readCheckpoint, stranded_wanted, stranded.readable, stranded.log]
    rfl
  have counter : (Store.restore directory {} (some strandedManifest) report).incarnationCounter ≠ maxU64 := by
    simp only [Store.restore, none, stranded.log]
    decide
  have encodable : ∀ record ∈ [StoreRecord.generation 7], ∃ writer,
      encodeStoreRecord record { limit := ({} : Options).maxRecordBytes } = .ok writer := by
    intro record member
    rw [List.mem_singleton.mp member]
    exact ⟨_, rfl⟩
  have under := Store.restore_options directory {} (some strandedManifest) report
  obtain ⟨next, held⟩ := Store.session_succeeds under counter encodable 1 shutdown
  refine ⟨report, next, accepted, ?_, none, held⟩
  simp only [Store.openDirectory, accepted]
  rfl

theorem Directory.Stranded.revives {directory : Directory} (stranded : directory.Stranded) {report : RecoveryReport}
    (accepted : Store.readManifest directory {} = .ok (some strandedManifest, report)) (atMs : UInt64) :
    directory.Revives {} [.generation 7] (some atMs) := by
  refine ⟨rfl, _, report, _, accepted, stranded_wanted, stranded.readable, ?_, ?_⟩
  · rw [stranded.log]
    decide
  · rw [stranded.log]
    decide

/-- The first opening rejects the checkpoint; after one append and a clean shutdown the next one uses it. -/
theorem rejected_checkpoint_returns : ∃ store next, Store.openDirectory lostLog {} = .ok store ∧
    store.recovered.checkpoint.present = false ∧
    store.session 1 [.generation 7] (some 5) = .ok next ∧ ¬ store.RecoveredBy [.generation 7] next {} := by
  obtain ⟨report, next, accepted, opened, none, held⟩ := lostLog_stranded.opens (some 5)
  have unused := (Store.restore_checkpoint lostLog {} (some strandedManifest) report).trans none
  refine ⟨_, next, opened, by rw [unused], held, ?_⟩
  have under := Store.restore_options lostLog {} (some strandedManifest) report
  obtain ⟨frames, written, values, sized, leaves⟩ := Store.session_ok under (by decide) held
  have revives : lostLog.Revives {} (frames.map Written.value) (some 5) := by
    rw [values]
    exact lostLog_stranded.revives accepted 5
  rintro ⟨reopened, succeeds, same, -⟩
  obtain ⟨manifest, later, accepted', rfl⟩ := Store.openDirectory_ok succeeds
  rw [Store.readManifest_written leaves.written leaves.current] at accepted'
  cases accepted'
  rw [Store.restore_checkpoint, Store.restore_checkpoint] at same
  exact leaves.revived _ sized accepted revives same

/-- After a crash the rejected checkpoint stays rejected and the appended record is there. -/
theorem reopening_recovers_after_crash : ∃ store next, Store.openDirectory lostLog {} = .ok store ∧
    store.session 1 [.generation 7] none = .ok next ∧ store.RecoveredBy [.generation 7] next {} := by
  obtain ⟨report, next, -, opened, -, held⟩ := lostLog_stranded.opens none
  refine ⟨_, next, opened, held, (reopening_recovers_iff opened (by decide) held).mpr ?_⟩
  rintro ⟨shut, -⟩
  cases shut

end RackFabric.OnDisk
