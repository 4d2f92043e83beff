import RackFabric.Foundation.Keeper
import RackFabric.Persist.Directory

/-!
An opened store and its calls at both levels: over the records a directory holds, and over the bytes of its files.
Writes succeed here unless the process dies in them. A death inside an append leaves any number of the bytes of its
frame; the manifest and the checkpoint are replaced whole, by renaming a file over them.
-/

namespace RackFabric

open Foundation

inductive StoreCall where
  | append (record : StoreRecord)
  | writeCheckpoint (checkpoint : Checkpoint)
  | markCleanShutdown (atMs : UInt64)
  | nextIncarnation
  | bindRack (rack : UInt64)
deriving DecidableEq, Repr

/-- What the accessors of an opened store give. -/
structure StoreView where
  recovered : RecoveredState
  logBytes : Nat
  appends : Nat
  incarnationCounter : UInt64
  checkpointLength : Nat
  boundRack : UInt64
deriving DecidableEq, Repr

/-- The result of a call, with the new incarnation if it asked for one, and what the accessors give after it. -/
abbrev StoreAnswer : Type := Result (Option UInt64) × StoreView

namespace Store

def exec (store : Store) : StoreCall → Store × Result (Option UInt64)
  | .append record =>
    let (store, result) := store.append record
    (store, result.map fun _ => none)
  | .writeCheckpoint checkpoint =>
    let (store, result) := store.writeCheckpoint checkpoint
    (store, result.map fun _ => none)
  | .markCleanShutdown atMs =>
    let (store, result) := store.markCleanShutdown atMs
    (store, result.map fun _ => none)
  | .nextIncarnation =>
    let (store, result) := store.nextIncarnation
    (store, result.map some)
  | .bindRack rack =>
    let (store, result) := store.bindRack rack
    (store, result.map fun _ => none)

def view (store : Store) : StoreView where
  recovered := store.recovered
  logBytes := store.logBytes
  appends := store.appends
  incarnationCounter := store.incarnationCounter
  checkpointLength := store.checkpointLength
  boundRack := store.boundRack

/-- The directory after some of the durable changes a call makes. -/
def cut (store : Store) (call : StoreCall) (reached : Nat) : Disk :=
  let writes := (exec { store with trail := [] } call).1.trail
  ((store.disk :: writes)[reached]?).getD (writes.getLastD store.disk)

/-- The directory after an opening, or before it if the opening did not get that far. -/
def cutOpening (options : StoreOptions) (disk : Disk) (reached : Nat) : Disk :=
  match reached, openDirectory disk options [] with
  | 0, _ => disk
  | _ + 1, .error _ => disk
  | _ + 1, .ok store => store.disk

/-- The store over records. -/
def keeper (options : StoreOptions) : Keeper Disk Store StoreCall StoreAnswer Status StoreView where
  opened disk := openDirectory disk options []
  cutOpening := cutOpening options
  report := view
  serve store call := ((store.exec call).1, (store.exec call).2, (store.exec call).1.view)
  cut := cut
  durable := disk

end Store

namespace OnDisk.Store

def withCheckpoint (store : Store) (checkpoint : Option (List UInt8)) : Store :=
  { store with directory := { store.directory with checkpoint } }

/-- The manifest that points at a checkpoint just written. -/
def pointingAt (store : Store) (checkpoint : Checkpoint) (length : UInt64) : Manifest where
  rack := store.boundRack
  incarnationCounter := store.incarnationCounter
  epoch := checkpoint.epoch
  generation := checkpoint.generation
  checkpointOffset := UInt64.ofNat checkpoint.walOffset
  checkpointLength := length
  snapshotDigest := checkpoint.snapshotDigest
  ledgerDigest := checkpoint.ledgerDigest

/-- Rewrites the checkpoint. The previous file is moved away first, and the manifest follows the new one. -/
def writeCheckpoint (store : Store) (checkpoint : Checkpoint) : Store × Result Unit :=
  match buildCheckpointBytes checkpoint store.options.maxCheckpointBytes with
  | .error status => (store, .error status)
  | .ok bytes =>
    let length := UInt64.ofNat bytes.length
    let written := (store.withCheckpoint none).withCheckpoint (some bytes)
    ({ written.persistMeta (store.pointingAt checkpoint length) with
      checkpointLength := length
      recovered := { store.recovered with checkpoint := { checkpoint with present := true } } }, .ok ())

def exec (store : Store) : StoreCall → Store × Result (Option UInt64)
  | .append record =>
    let (store, result) := store.append record .done
    (store, result.map fun _ => none)
  | .writeCheckpoint checkpoint =>
    let (store, result) := store.writeCheckpoint checkpoint
    (store, result.map fun _ => none)
  | .markCleanShutdown atMs => (store.markCleanShutdown atMs, .ok none)
  | .nextIncarnation =>
    match store.nextIncarnation with
    | .error status => (store, .error status)
    | .ok next => (next, .ok (some next.incarnationCounter))
  | .bindRack rack => (store.bindRack rack, .ok none)

def view (store : Store) : StoreView where
  recovered := store.recovered
  logBytes := store.logBytes
  appends := store.appends
  incarnationCounter := store.incarnationCounter
  checkpointLength := store.checkpointLength.toNat
  boundRack := store.boundRack

/-- The files after so many bytes of an append, so many steps of a checkpoint, or one other call. -/
def cut (store : Store) (call : StoreCall) (reached : Nat) : Directory :=
  match call with
  | .append record =>
    match encodeStoreRecord record { limit := store.options.maxRecordBytes } with
    | .error _ => store.directory
    | .ok writer => (store.extend ((frameBytes writer.buffer).take reached)).directory
  | .writeCheckpoint checkpoint =>
    match buildCheckpointBytes checkpoint store.options.maxCheckpointBytes with
    | .error _ => store.directory
    | .ok bytes =>
      match reached with
      | 0 => store.directory
      | 1 => (store.withCheckpoint none).directory
      | 2 => ((store.withCheckpoint none).withCheckpoint (some bytes)).directory
      | _ => (store.writeCheckpoint checkpoint).1.directory
  | call => if reached = 0 then store.directory else (store.exec call).1.directory

/-- The files after an opening, or before it if the opening did not get that far. -/
def cutOpening (options : Options) (directory : Directory) (reached : Nat) : Directory :=
  match reached, openDirectory directory options with
  | 0, _ => directory
  | _ + 1, .error _ => directory
  | _ + 1, .ok store => store.directory

/-- The store over the bytes of its files. -/
def keeper (options : Options) : Keeper Directory Store StoreCall StoreAnswer Status StoreView where
  opened directory := openDirectory directory options
  cutOpening := cutOpening options
  report := view
  serve store call := ((store.exec call).1, (store.exec call).2, (store.exec call).1.view)
  cut := cut
  durable := directory

end OnDisk.Store

end RackFabric
