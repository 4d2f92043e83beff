import RackFabric.Authority.Registry

/-!
Durable state at the level of whole records: the write-ahead log as the list of records its frames hold, the
checkpoint and the manifest as the values their files encode. A file may also be absent, or damaged in a way
its checks report. Every change of the directory is kept in the store's trail, so that a crash can be placed
after any of them.
-/

namespace RackFabric

structure RackBindRecord where
  rack : UInt64
  name : Text
deriving DecidableEq, Repr

structure ConfigRecord where
  headroomFloor : UInt64
  maxPathsPerPair : UInt64
  maxPathHops : UInt64
deriving DecidableEq, Repr

structure LifecycleRecord where
  state : LifecycleState
  generation : UInt64
  epoch : UInt64
deriving DecidableEq, Repr

structure EpochRecord where
  epoch : UInt64
  memberSetDigest : Digest
deriving DecidableEq, Repr

structure GrantStateRecord where
  id : UInt64
  state : GrantState
  reason : Text
deriving DecidableEq, Repr

structure RequestOutcomeRecord where
  request : RequestId
  code : StatusCode
  grant : UInt64
  fence : UInt64
  incarnation : UInt64
  requestDigest : Digest
  detail : Text
deriving DecidableEq, Repr

/-- One log record; its type byte is read off the constructor. -/
inductive StoreRecord where
  | rackBind (body : RackBindRecord)
  | config (body : ConfigRecord)
  | evidence (record : EvidenceRecord)
  | lifecycle (body : LifecycleRecord)
  | generation (generation : UInt64)
  | epoch (body : EpochRecord)
  | grantCommit (grant : Grant)
  | grantState (body : GrantStateRecord)
  | requestOutcome (body : RequestOutcomeRecord)
  | cleanShutdown (atMs : UInt64)
deriving DecidableEq, Repr

def StoreRecord.code : StoreRecord → UInt8
  | .rackBind _ => 1
  | .config _ => 2
  | .evidence _ => 3
  | .lifecycle _ => 4
  | .generation _ => 5
  | .epoch _ => 6
  | .grantCommit _ => 7
  | .grantState _ => 8
  | .requestOutcome _ => 9
  | .cleanShutdown _ => 10

def kMaxNameText : Nat := 128
def kMaxDetailText : Nat := 256
def kWalHeaderSize : Nat := 8
def kCheckpointHeaderSize : Nat := 192

def encodeStorePayload (record : StoreRecord) (writer : ByteWriter) : Result ByteWriter :=
  match record with
  | .rackBind body => .ok ((writer.u64 body.rack).text body.name kMaxNameText)
  | .config body =>
    .ok (((writer.u64 body.headroomFloor).u64 body.maxPathsPerPair).u64 body.maxPathHops)
  | .evidence record => encodeEvidence record writer
  | .lifecycle body => .ok (((writer.u8 body.state.code).u64 body.generation).u64 body.epoch)
  | .generation generation => .ok (writer.u64 generation)
  | .epoch body => .ok ((writer.u64 body.epoch).digest body.memberSetDigest)
  | .grantCommit grant => encodeGrant grant writer
  | .grantState body =>
    .ok (((writer.u64 body.id).u8 body.state.code).text body.reason kMaxReasonText)
  | .requestOutcome body =>
    let writer := writer.u64 body.request.hi
    let writer := writer.u64 body.request.lo
    let writer := writer.u16 body.code.value
    let writer := writer.u64 body.grant
    let writer := writer.u64 body.fence
    let writer := writer.u64 body.incarnation
    let writer := writer.digest body.requestDigest
    .ok (writer.text body.detail kMaxDetailText)
  | .cleanShutdown atMs => .ok (writer.u64 atMs)

def encodeStoreRecord (record : StoreRecord) (writer : ByteWriter) : Result ByteWriter := do
  let writer ← encodeStorePayload record (writer.u8 record.code)
  if !writer.ok then refuse .oversizeField "store record exceeds its encoding bound" else .ok writer

structure StoreOptions where
  maxRecordBytes : Nat := 8388608
  maxCheckpointBytes : Nat := 67108864
  allowManifestLoss : Bool := false
deriving DecidableEq, Repr

/-- Bytes a record's frame takes in the log. -/
def frameSize (options : StoreOptions) (record : StoreRecord) : Nat :=
  match encodeStoreRecord record { limit := options.maxRecordBytes } with
  | .ok writer => kWalHeaderSize + writer.size
  | .error _ => kWalHeaderSize

def logSize (options : StoreOptions) (log : List StoreRecord) : Nat :=
  (log.map (frameSize options)).sum

/-- The accepted evidence set and the counters at one log offset. Grants and remembered outcomes are not part
of it. -/
structure Checkpoint where
  walOffset : Nat := 0
  generation : UInt64 := 0
  epoch : UInt64 := 0
  lifecycle : LifecycleState := .assembling
  memberSetDigest : Digest := .zero
  incarnation : UInt64 := 0
  snapshotDigest : Digest := .zero
  ledgerDigest : Digest := .zero
  ledger : List EvidenceRecord := []
  snapshotBytes : List UInt8 := []
  present : Bool := false
deriving DecidableEq, Repr

structure Meta where
  rack : UInt64 := 0
  incarnationCounter : UInt64 := 0
  epoch : UInt64 := 0
  generation : UInt64 := 0
  checkpointOffset : Nat := 0
  checkpointLength : Nat := 0
  snapshotDigest : Digest := .zero
  ledgerDigest : Digest := .zero
  cleanShutdown : Bool := false
  cleanShutdownAtMs : UInt64 := 0
deriving DecidableEq, Repr

inductive FileContent (α : Type) where
  | absent
  | damaged (failure : Status)
  | intact (content : α)
deriving DecidableEq, Repr

/-- What a crash leaves behind. -/
structure Disk where
  manifest : FileContent Meta := .absent
  checkpoint : FileContent Checkpoint := .absent
  wal : Option (List StoreRecord) := none
deriving DecidableEq, Repr

/-- The records of the log; a log that does not exist yet has none. -/
def Disk.log (disk : Disk) : List StoreRecord :=
  disk.wal.getD []

/-- What the operating system answers one write. A write that reports a failure may still have reached the file, though
here never in part: that a failed append can leave the first bytes of its frame is for the store over bytes. -/
inductive IoOutcome where
  | done
  | lost (detail : Text)
  | stored (detail : Text)
deriving DecidableEq, Repr

structure RecoveryReport where
  freshStore : Bool := false
  checkpointUsed : Bool := false
  checkpointRejected : Bool := false
  cleanShutdown : Bool := false
  manifestRejected : Bool := false
  manifestMissing : Bool := false
  recordsReplayed : Nat := 0
deriving DecidableEq, Repr

structure RecoveredState where
  checkpoint : Checkpoint := {}
  records : List StoreRecord := []
  report : RecoveryReport := {}
deriving DecidableEq, Repr

structure Store where
  options : StoreOptions
  disk : Disk
  logBytes : Nat
  appends : Nat := 0
  recovered : RecoveredState
  incarnationCounter : UInt64
  checkpointLength : Nat
  boundRack : UInt64
  io : List IoOutcome := []
  trail : List Disk := []
deriving DecidableEq, Repr

namespace Checkpoint

/-- The body of the checkpoint file. -/
def body (checkpoint : Checkpoint) (limit : Nat) : Result (List UInt8) := do
  let payload ← checkpoint.ledger.foldlM
    (fun (payload : ByteWriter) record => do
      let entry ← encodeEvidence record { limit := 512 }
      .ok (payload.blob entry.buffer 512))
    (({ limit := limit } : ByteWriter).u32 (UInt32.ofNat checkpoint.ledger.length))
  let payload := payload.blob checkpoint.snapshotBytes limit
  if !payload.ok then refuse .resourceExhausted "checkpoint exceeds its configured bound"
  else .ok payload.buffer

/-- The part of parsing an undamaged file that can still refuse it. -/
def readable (checkpoint : Checkpoint) : Bool :=
  checkpoint.ledger.length ≤ defaultEvidenceLimits.maxSlots &&
    checkpoint.ledger.all fun record => (validateEvidence record).isOk

end Checkpoint

/-- Splits a log at a byte offset. An offset inside a frame leaves nothing readable after it. -/
def splitLog (options : StoreOptions) : Nat → List StoreRecord → List StoreRecord × List StoreRecord
  | _, [] => ([], [])
  | offset, record :: rest =>
    if offset = 0 then ([], record :: rest)
    else if frameSize options record ≤ offset then
      let (skipped, replayed) := splitLog options (offset - frameSize options record) rest
      (record :: skipped, replayed)
    else ([], [])

def commitsOf (records : List StoreRecord) : List Grant :=
  records.filterMap fun
    | .grantCommit grant => some grant
    | _ => none

def statesOf (records : List StoreRecord) : List GrantStateRecord :=
  records.filterMap fun
    | .grantState body => some body
    | _ => none

def outcomesOf (records : List StoreRecord) : List RequestOutcomeRecord :=
  records.filterMap fun
    | .requestOutcome body => some body
    | _ => none

def evidenceOf (records : List StoreRecord) : List EvidenceRecord :=
  records.filterMap fun
    | .evidence record => some record
    | _ => none

@[simp] theorem evidenceOf_append (first second : List StoreRecord) :
    evidenceOf (first ++ second) = evidenceOf first ++ evidenceOf second :=
  List.filterMap_append

@[simp] theorem commitsOf_append (first second : List StoreRecord) :
    commitsOf (first ++ second) = commitsOf first ++ commitsOf second :=
  List.filterMap_append

@[simp] theorem statesOf_append (first second : List StoreRecord) :
    statesOf (first ++ second) = statesOf first ++ statesOf second :=
  List.filterMap_append

@[simp] theorem outcomesOf_append (first second : List StoreRecord) :
    outcomesOf (first ++ second) = outcomesOf first ++ outcomesOf second :=
  List.filterMap_append

def maxIncarnationOf (records : List StoreRecord) : UInt64 :=
  (commitsOf records).foldl (fun highest grant => max highest grant.incarnation) 0

namespace Store

def readManifest (disk : Disk) (options : StoreOptions) : Result (Option Meta × RecoveryReport) :=
  let report : RecoveryReport := { freshStore := disk.wal.isNone }
  match disk.manifest with
  | .absent => .ok (none, { report with manifestMissing := disk.wal.isSome })
  | .intact manifest => .ok (some manifest, { report with cleanShutdown := manifest.cleanShutdown })
  | .damaged failure =>
    if failure.code = .incompatibleVersion then .error failure
    else if !options.allowManifestLoss then
      .error ⟨failure.code, text "the store manifest is unreadable (" ++ failure.detail ++
        text "); refusing to start, because the process incarnation counter cannot be recovered safely"⟩
    else .ok (none, { report with manifestRejected := true })

/-- The checkpoint the manifest points at, when it is wanted and its file passes every check. -/
def readCheckpoint (disk : Disk) (options : StoreOptions) (manifest : Option Meta)
    (report : RecoveryReport) : Checkpoint × RecoveryReport :=
  let wanted := manifest.any fun manifest =>
    0 < manifest.checkpointLength && manifest.checkpointLength ≤ options.maxCheckpointBytes
  if !wanted then ({}, report)
  else
    match disk.checkpoint with
    | .intact checkpoint =>
      if checkpoint.readable then
        if checkpoint.walOffset > logSize options disk.log then
          ({}, { report with checkpointRejected := true })
        else ({ checkpoint with present := true }, { report with checkpointUsed := true })
      else ({}, { report with checkpointRejected := true })
    | _ => ({}, { report with checkpointRejected := true })

/-- Opens a store directory and replays it from the checkpoint's offset, or from the start. -/
def openDirectory (disk : Disk) (options : StoreOptions) (io : List IoOutcome) : Result Store := do
  let (manifest, report) ← readManifest disk options
  let (checkpoint, report) := readCheckpoint disk options manifest report
  let (skipped, records) := splitLog options checkpoint.walOffset disk.log
  let disk := { disk with wal := some (skipped ++ records) }
  .ok {
    options := options
    disk := disk
    logBytes := logSize options (skipped ++ records)
    recovered := {
      checkpoint := checkpoint
      records := records
      report := { report with recordsReplayed := records.length } }
    incarnationCounter := max ((manifest.map Meta.incarnationCounter).getD 0) (maxIncarnationOf records)
    checkpointLength := (manifest.map Meta.checkpointLength).getD 0
    boundRack := (manifest.map Meta.rack).getD 0
    io := io
    trail := [disk] }

def answer (store : Store) : Store × IoOutcome :=
  match store.io with
  | [] => (store, .done)
  | outcome :: rest => ({ store with io := rest }, outcome)

def write (store : Store) (disk : Disk) : Store :=
  { store with disk := disk, trail := store.trail ++ [disk] }

/-- One durable change of the directory: what the caller is told and what reached the disk. -/
def attempt (store : Store) (disk : Disk) : Store × Result Unit :=
  match store.answer with
  | (store, .done) => (store.write disk, .ok ())
  | (store, .lost detail) => (store, .error ⟨.io, detail⟩)
  | (store, .stored detail) => (store.write disk, .error ⟨.io, detail⟩)

theorem attempt_error {store next : Store} {disk : Disk} {status : Status}
    (failed : store.attempt disk = (next, .error status)) : status.code = .io := by
  unfold attempt at failed
  split at failed
  · cases failed
  · cases failed
    rfl
  · cases failed
    rfl

/-- Appends one record. The byte count follows only appends that were reported as done. -/
def append (store : Store) (record : StoreRecord) : Store × Result Unit :=
  match encodeStoreRecord record { limit := store.options.maxRecordBytes } with
  | .error status => (store, .error status)
  | .ok writer =>
    match store.attempt { store.disk with wal := some (store.disk.log ++ [record]) } with
    | (store, .error status) => (store, .error status)
    | (store, .ok ()) =>
      ({ store with
        logBytes := store.logBytes + kWalHeaderSize + writer.size
        appends := store.appends + 1 }, .ok ())

/-- A manifest that points at the checkpoint this store recovered or wrote last. -/
def manifestOf (store : Store) : Meta :=
  let checkpoint := store.recovered.checkpoint
  { rack := store.boundRack
    incarnationCounter := store.incarnationCounter
    epoch := checkpoint.epoch
    generation := checkpoint.generation
    checkpointOffset := checkpoint.walOffset
    checkpointLength := if checkpoint.present then store.checkpointLength else 0
    snapshotDigest := checkpoint.snapshotDigest
    ledgerDigest := checkpoint.ledgerDigest }

def persistMeta (store : Store) (manifest : Meta) : Store × Result Unit :=
  store.attempt { store.disk with manifest := .intact manifest }

/-- The previous checkpoint is moved away first; a rotation that fails leaves it in place. -/
def rotate (store : Store) : Store :=
  match store.disk.checkpoint with
  | .absent => store
  | _ => (store.attempt { store.disk with checkpoint := .absent }).1

/-- Rewrites the checkpoint: rotation, new file, manifest. -/
def writeCheckpoint (store : Store) (checkpoint : Checkpoint) : Store × Result Unit :=
  match checkpoint.body store.options.maxCheckpointBytes with
  | .error status => (store, .error status)
  | .ok body =>
    let length := kCheckpointHeaderSize + body.length
    let store := store.rotate
    match store.attempt { store.disk with checkpoint := .intact checkpoint } with
    | (store, .error status) => (store, .error status)
    | (store, .ok ()) =>
      let manifest : Meta := {
        rack := store.boundRack
        incarnationCounter := store.incarnationCounter
        epoch := checkpoint.epoch
        generation := checkpoint.generation
        checkpointOffset := checkpoint.walOffset
        checkpointLength := length
        snapshotDigest := checkpoint.snapshotDigest
        ledgerDigest := checkpoint.ledgerDigest }
      match store.persistMeta manifest with
      | (store, .error status) => (store, .error status)
      | (store, .ok ()) =>
        ({ store with
          checkpointLength := length
          recovered := { store.recovered with checkpoint := { checkpoint with present := true } } }, .ok ())

/-- Marks the store cleanly closed. The length it records is kept even when no checkpoint was used. -/
def markCleanShutdown (store : Store) (atMs : UInt64) : Store × Result Unit :=
  match store.persistMeta { store.manifestOf with
      checkpointLength := store.checkpointLength
      cleanShutdown := true
      cleanShutdownAtMs := atMs } with
  | (store, .error status) => (store, .error status)
  | (store, .ok ()) =>
    ({ store with
      recovered := { store.recovered with
        report := { store.recovered.report with cleanShutdown := true } } }, .ok ())

def nextIncarnation (store : Store) : Store × Result UInt64 :=
  if store.incarnationCounter = maxU64 then
    (store, refuse .resourceExhausted "the incarnation counter is exhausted")
  else
    let store := { store with incarnationCounter := store.incarnationCounter + 1 }
    match store.persistMeta store.manifestOf with
    | (store, .error status) => (store, .error status)
    | (store, .ok ()) => (store, .ok store.incarnationCounter)

def bindRack (store : Store) (rack : UInt64) : Store × Result Unit :=
  let store := { store with boundRack := rack }
  store.persistMeta store.manifestOf

end Store

end RackFabric
