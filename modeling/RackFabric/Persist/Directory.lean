import RackFabric.Persist.Log

/-!
The store directory as the bytes of its files: the manifest, the checkpoint and the write-ahead log. File
writes other than a log append are taken to succeed here; a failed append leaves some prefix of its frame.
-/

namespace RackFabric.OnDisk

open Foundation

def kStateFormatVersion : UInt32 := 1

def kMetaMagic : List UInt8 := text "RNFSTOR1"

def kCheckpointMagic : List UInt8 := text "RNFCHK01"

def kMetaSize : Nat := 256

structure Options extends StoreOptions where
  allowUnknownFormat : Bool := false
deriving DecidableEq, Repr

/-- The fixed size manifest. -/
structure Manifest where
  formatVersion : UInt32 := kStateFormatVersion
  rack : UInt64 := 0
  incarnationCounter : UInt64 := 0
  epoch : UInt64 := 0
  generation : UInt64 := 0
  checkpointOffset : UInt64 := 0
  checkpointLength : UInt64 := 0
  snapshotDigest : Digest := .zero
  ledgerDigest : Digest := .zero
  cleanShutdown : Bool := false
  cleanShutdownAtMs : UInt64 := 0
deriving DecidableEq, Repr

/-- The manifest up to its checksum. -/
def metaFront (manifest : Manifest) : List UInt8 :=
  kMetaMagic ++ le32 manifest.formatVersion

/-- The manifest after its checksum, with the padding of the fixed layout. -/
def metaBack (manifest : Manifest) : List UInt8 :=
  Blake2s256.le64 manifest.rack ++ (Blake2s256.le64 manifest.incarnationCounter ++
    (Blake2s256.le64 manifest.epoch ++ (Blake2s256.le64 manifest.generation ++
      (Blake2s256.le64 manifest.checkpointOffset ++ (Blake2s256.le64 manifest.checkpointLength ++
        (manifest.snapshotDigest.bytes ++ (manifest.ledgerDigest.bytes ++
          ([if manifest.cleanShutdown then 1 else 0] ++ (List.replicate 7 0 ++
            (Blake2s256.le64 manifest.cleanShutdownAtMs ++ List.replicate 112 0))))))))))

/-- The checksum covers the buffer with the checksum field still zero. -/
def encodeMeta (manifest : Manifest) : List UInt8 :=
  metaFront manifest ++ (le32 (crc32c (metaFront manifest ++ (List.replicate 4 0 ++ metaBack manifest))) ++
    metaBack manifest)

def metaFields : Reading (UInt32 × Manifest) := do
  let _ ← ByteReader.rawBytes 8
  let formatVersion ← ByteReader.u32
  let storedCrc ← ByteReader.u32
  let rack ← ByteReader.u64
  let incarnationCounter ← ByteReader.u64
  let epoch ← ByteReader.u64
  let generation ← ByteReader.u64
  let checkpointOffset ← ByteReader.u64
  let checkpointLength ← ByteReader.u64
  let snapshotDigest ← ByteReader.digest
  let ledgerDigest ← ByteReader.digest
  let cleanShutdown ← ByteReader.u8
  let _ ← ByteReader.rawBytes 7
  let cleanShutdownAtMs ← ByteReader.u64
  pure (storedCrc, {
    formatVersion, rack, incarnationCounter, epoch, generation, checkpointOffset, checkpointLength
    snapshotDigest, ledgerDigest, cleanShutdownAtMs
    cleanShutdown := cleanShutdown != 0 })

def checkMeta (buffer : List UInt8) (storedCrc : UInt32) (manifest : Manifest) (allowUnknownFormat : Bool) :
    Result Unit :=
  if buffer.take 8 ≠ kMetaMagic then refuse .corrupt "store manifest has a wrong magic value"
  else if crc32c (buffer.take 12 ++ (List.replicate 4 0 ++ buffer.drop 16)) ≠ storedCrc then
    refuse .integrityFailure "store manifest failed its checksum"
  else if manifest.formatVersion ≠ kStateFormatVersion && !allowUnknownFormat then
    .error ⟨.incompatibleVersion, text "store manifest was written by state format version " ++
      decimal manifest.formatVersion.toUInt64 ++ text ", this build speaks " ++
      decimal kStateFormatVersion.toUInt64⟩
  else .ok ()

def decodeMeta (buffer : List UInt8) (allowUnknownFormat : Bool) : Result Manifest :=
  match metaFields buffer with
  | none => refuse .truncated "store manifest has an unexpected size"
  | some ((storedCrc, manifest), _) => do
    checkMeta buffer storedCrc manifest allowUnknownFormat
    .ok manifest

def readMeta (bytes : List UInt8) (options : Options) : Result Manifest :=
  if bytes.length > kMetaSize then refuse .oversizeField "the manifest is larger than the configured bound"
  else if bytes.length ≠ kMetaSize then refuse .truncated "store manifest has an unexpected size"
  else decodeMeta bytes options.allowUnknownFormat

/-- The checkpoint header before its own checksum, for a body of the given checksum and length. -/
def checkpointFront (checkpoint : Checkpoint) (body : List UInt8) : List UInt8 :=
  kCheckpointMagic ++ (le32 kStateFormatVersion ++ (le32 (crc32c body) ++
    (Blake2s256.le64 (UInt64.ofNat body.length) ++ (checkpoint.snapshotDigest.bytes ++
      (checkpoint.ledgerDigest.bytes ++ (Blake2s256.le64 (UInt64.ofNat checkpoint.walOffset) ++
        (Blake2s256.le64 checkpoint.generation ++ (Blake2s256.le64 checkpoint.epoch ++
          Blake2s256.le64 checkpoint.incarnation))))))))

def checkpointBack (checkpoint : Checkpoint) : List UInt8 :=
  [checkpoint.lifecycle.code] ++ (List.replicate 3 0 ++
    (checkpoint.memberSetDigest.bytes ++ List.replicate 32 0))

def buildCheckpointBytes (checkpoint : Checkpoint) (limit : Nat) : Result (List UInt8) := do
  let body ← checkpoint.body limit
  let front := checkpointFront checkpoint body
  let back := checkpointBack checkpoint
  .ok (front ++ (le32 (crc32c (front ++ (List.replicate 4 0 ++ back))) ++ (back ++ body)))

/-- The values of the checkpoint header that its checks compare. -/
structure CheckpointHeader where
  version : UInt32
  bodyCrc : UInt32
  bodyLength : UInt64
  headerCrc : UInt32
deriving DecidableEq, Repr

def checkpointFields : Reading (CheckpointHeader × Checkpoint) := do
  let _ ← ByteReader.rawBytes 8
  let version ← ByteReader.u32
  let bodyCrc ← ByteReader.u32
  let bodyLength ← ByteReader.u64
  let snapshotDigest ← ByteReader.digest
  let ledgerDigest ← ByteReader.digest
  let walOffset ← ByteReader.u64
  let generation ← ByteReader.u64
  let epoch ← ByteReader.u64
  let incarnation ← ByteReader.u64
  let headerCrc ← ByteReader.u32
  let lifecycle ← ByteReader.u8
  let _ ← ByteReader.rawBytes 3
  let memberSetDigest ← ByteReader.digest
  pure ({ version, bodyCrc, bodyLength, headerCrc }, {
    walOffset := walOffset.toNat
    lifecycle := .ofCode lifecycle
    generation, epoch, incarnation, snapshotDigest, ledgerDigest, memberSetDigest })

/-- One evidence record of the checkpoint body, in a blob of its own. Bytes after it are not looked at. -/
def decodeLedgerEntry : Decoding EvidenceRecord := do
  let entry ← expect (ByteReader.blob 512) .truncated "checkpoint ledger entry is truncated"
  let (record, _) ← StateT.lift (decodeEvidence entry)
  pure record

def decodeCheckpointBody (checkpoint : Checkpoint) (fileSize : Nat) : Decoding Checkpoint := do
  let count ← expect (ByteReader.count defaultEvidenceLimits.maxSlots) .malformedEncoding
    "checkpoint ledger count exceeds its bound"
  let ledger ← readMany decodeLedgerEntry count
  let snapshotBytes ← expect (ByteReader.blob fileSize) .truncated "checkpoint snapshot payload is truncated"
  pure { checkpoint with ledger, snapshotBytes }

def checkCheckpoint (bytes : List UInt8) (header : CheckpointHeader) : Result Unit :=
  let body := bytes.drop kCheckpointHeaderSize
  if bytes.take 8 ≠ kCheckpointMagic then refuse .corrupt "checkpoint has a wrong magic value"
  else if header.version ≠ kStateFormatVersion then
    .error ⟨.incompatibleVersion, text "checkpoint was written by state format version " ++
      decimal header.version.toUInt64⟩
  else if crc32c (bytes.take 120 ++ (List.replicate 4 0 ++
      (bytes.take kCheckpointHeaderSize).drop 124)) ≠ header.headerCrc then
    refuse .integrityFailure "checkpoint header failed its checksum"
  else if header.bodyLength.toNat ≠ body.length then
    refuse .truncated "checkpoint body length does not match its header"
  else if crc32c body ≠ header.bodyCrc then
    refuse .integrityFailure "checkpoint body failed its checksum"
  else .ok ()

def parseCheckpoint (bytes : List UInt8) : Result Checkpoint :=
  if bytes.length < kCheckpointHeaderSize then refuse .truncated "checkpoint is shorter than its header"
  else
    match checkpointFields bytes with
    | none => refuse .truncated "checkpoint is shorter than its header"
    | some ((header, checkpoint), _) => do
      checkCheckpoint bytes header
      let (checkpoint, rest) ← decodeCheckpointBody checkpoint bytes.length (bytes.drop kCheckpointHeaderSize)
      if !rest.isEmpty then refuse .malformedEncoding "trailing bytes in checkpoint payload"
      else .ok { checkpoint with present := true }

/-- The files of a store directory. -/
structure Directory where
  manifest : Option (List UInt8) := none
  checkpoint : Option (List UInt8) := none
  wal : Option (List UInt8) := none
deriving DecidableEq, Repr

/-- The bytes of the log; a log that does not exist yet has none. -/
def Directory.log (directory : Directory) : List UInt8 :=
  directory.wal.getD []

structure Store where
  options : Options
  directory : Directory
  logBytes : Nat
  appends : Nat := 0
  recovered : RecoveredState
  stop : Option Stop := none
  bytesDiscarded : Nat := 0
  incarnationCounter : UInt64
  checkpointLength : UInt64
  boundRack : UInt64
deriving DecidableEq, Repr

namespace Store

def readManifest (directory : Directory) (options : Options) : Result (Option Manifest × RecoveryReport) :=
  let report : RecoveryReport := { freshStore := directory.wal.isNone }
  match directory.manifest with
  | none => .ok (none, { report with manifestMissing := directory.wal.isSome })
  | some bytes =>
    match readMeta bytes options with
    | .ok manifest => .ok (some manifest, { report with cleanShutdown := manifest.cleanShutdown })
    | .error failure =>
      -- a store of another format version is never reinterpreted
      if failure.code = .incompatibleVersion then .error failure
      else if !options.allowManifestLoss then
        .error ⟨failure.code, text "the store manifest is unreadable (" ++ failure.detail ++
          text "); refusing to start, because the process incarnation counter cannot be recovered safely"⟩
      else .ok (none, { report with manifestRejected := true })

/-- Whether a manifest asks for the checkpoint file to be read. -/
def wantsCheckpoint (manifest : Option Manifest) (options : Options) : Bool :=
  manifest.any fun manifest =>
    0 < manifest.checkpointLength && manifest.checkpointLength.toNat ≤ options.maxCheckpointBytes

/-- The checkpoint file when it is there, within its bound and passes every check. -/
def readableCheckpoint (directory : Directory) (options : Options) : Option Checkpoint := do
  let bytes ← directory.checkpoint
  if bytes.length > options.maxCheckpointBytes + kCheckpointHeaderSize then none
  else
    match parseCheckpoint bytes with
    | .ok checkpoint => some checkpoint
    | .error _ => none

def readCheckpoint (directory : Directory) (options : Options) (manifest : Option Manifest)
    (report : RecoveryReport) : Checkpoint × RecoveryReport :=
  if !wantsCheckpoint manifest options then ({}, report)
  else
    match readableCheckpoint directory options with
    | none => ({}, { report with checkpointRejected := true })
    | some checkpoint =>
      if checkpoint.walOffset > directory.log.length then ({}, { report with checkpointRejected := true })
      else (checkpoint, { report with checkpointUsed := true })

/-- Replays the log from the checkpoint's offset, or from its start, and discards what does not read. -/
def restore (directory : Directory) (options : Options) (manifest : Option Manifest)
    (report : RecoveryReport) : Store :=
  let (checkpoint, report) := readCheckpoint directory options manifest report
  let replayed := replayLog options.maxRecordBytes directory.log checkpoint.walOffset
  let cursor := checkpoint.walOffset + replayed.taken
  { options := options
    directory := { directory with wal := some (directory.log.take cursor) }
    logBytes := cursor
    recovered := {
      checkpoint := checkpoint
      records := replayed.values
      report := { report with recordsReplayed := replayed.values.length } }
    stop := replayed.stop
    bytesDiscarded := directory.log.length - cursor
    incarnationCounter := max ((manifest.map Manifest.incarnationCounter).getD 0)
      (maxIncarnationOf replayed.values)
    checkpointLength := (manifest.map Manifest.checkpointLength).getD 0
    boundRack := (manifest.map Manifest.rack).getD 0 }

def openDirectory (directory : Directory) (options : Options) : Result Store := do
  let (manifest, report) ← readManifest directory options
  .ok (restore directory options manifest report)

/-- What became of one append: done, or failed with a part of the frame, possibly all of it, in the file. -/
inductive WriteOutcome where
  | done
  | failed (reached : Nat) (detail : Text)
deriving DecidableEq, Repr

def extend (store : Store) (bytes : List UInt8) : Store :=
  { store with directory := { store.directory with wal := some (store.directory.log ++ bytes) } }

/-- Appends one record. The byte count follows only appends that were reported as done. -/
def append (store : Store) (record : StoreRecord) (outcome : WriteOutcome) : Store × Result Unit :=
  match encodeStoreRecord record { limit := store.options.maxRecordBytes } with
  | .error status => (store, .error status)
  | .ok writer =>
    match outcome with
    | .done =>
      ({ store.extend (frameBytes writer.buffer) with
        logBytes := store.logBytes + (kWalHeaderSize + writer.size)
        appends := store.appends + 1 }, .ok ())
    | .failed reached detail =>
      (store.extend ((frameBytes writer.buffer).take reached), .error ⟨.io, detail⟩)

/-- Appends that all succeed. -/
def appendAll (store : Store) (records : List StoreRecord) : Result Store :=
  records.foldlM (fun (store : Store) record =>
    match store.append record .done with
    | (next, .ok ()) => .ok next
    | (_, .error status) => .error status) store

/-- The manifest written while the store is in use. -/
def manifestOf (store : Store) : Manifest :=
  let checkpoint := store.recovered.checkpoint
  { rack := store.boundRack
    incarnationCounter := store.incarnationCounter
    epoch := checkpoint.epoch
    generation := checkpoint.generation
    checkpointOffset := UInt64.ofNat checkpoint.walOffset
    checkpointLength := if checkpoint.present then store.checkpointLength else 0
    snapshotDigest := checkpoint.snapshotDigest
    ledgerDigest := checkpoint.ledgerDigest }

def persistMeta (store : Store) (manifest : Manifest) : Store :=
  { store with directory := { store.directory with manifest := some (encodeMeta manifest) } }

/-- Marks the store cleanly closed. The length it records is kept even when no checkpoint was used. -/
def markCleanShutdown (store : Store) (atMs : UInt64) : Store :=
  let closed := store.persistMeta { store.manifestOf with
    checkpointLength := store.checkpointLength
    cleanShutdown := true
    cleanShutdownAtMs := atMs }
  { closed with recovered := { closed.recovered with
      report := { closed.recovered.report with cleanShutdown := true } } }

def nextIncarnation (store : Store) : Result Store :=
  if store.incarnationCounter = maxU64 then
    refuse .resourceExhausted "the incarnation counter is exhausted"
  else
    let store := { store with incarnationCounter := store.incarnationCounter + 1 }
    .ok (store.persistMeta store.manifestOf)

def bindRack (store : Store) (rack : UInt64) : Store :=
  let store := { store with boundRack := rack }
  store.persistMeta store.manifestOf

end Store

end RackFabric.OnDisk
