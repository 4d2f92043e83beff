import RackFabric.Runtime.Daemon
import RackFabric.Foundation.Machine

/-!
The life of one store: processes that start on it, serve commands, stop or die. A crash inside a call is
placed after any number of the durable writes the call makes.
-/

namespace RackFabric

inductive Command where
  | submitEvidence (records : List EvidenceRecord)
  | compose (generation : UInt64)
  | acquire (request : AcquireRequest)
  | renew (token : LeaseToken) (ttlMs : UInt64)
  | release (token : LeaseToken)
  | validate (token : LeaseToken)
  | lookup (request : RequestId)
  | setLifecycle (target : LifecycleState)
  | checkpoint
  | expireDue
deriving DecidableEq, Repr

inductive Response where
  | evidence (entries : List EvidenceAckEntry)
  | composed (response : ComposeResponse)
  | grant (response : GrantResponse)
  | ack (response : AckResponse)
  | lookup (response : LookupResponse)
  | lifecycle (response : LifecycleResponse)
  | expired
deriving DecidableEq, Repr

namespace DaemonCore

/-- Serves one command at one reading of the clock. -/
def exec (core : DaemonCore) (now : UInt64) : Command → DaemonCore × Result Response
  | .submitEvidence records =>
    let (core, result) := core.submitEvidence now records
    (core, result.map .evidence)
  | .compose generation =>
    let (core, result) := core.compose generation
    (core, result.map .composed)
  | .acquire request =>
    let (core, result) := core.acquire now request
    (core, result.map .grant)
  | .renew token ttlMs =>
    let (core, result) := core.renew now token ttlMs
    (core, result.map .grant)
  | .release token =>
    let (core, result) := core.release token
    (core, result.map .ack)
  | .validate token =>
    let (core, result) := core.validate now token
    (core, result.map .grant)
  | .lookup request => (core, .ok (.lookup (core.lookup request)))
  | .setLifecycle target =>
    let (core, response) := core.setLifecycle now target
    (core, .ok (.lifecycle response))
  | .checkpoint =>
    let (core, response) := core.checkpoint
    (core, .ok (.ack response))
  | .expireDue => (core.expireDueLocked now, .ok .expired)

/-- The directory as this process leaves it; a daemon without a store leaves nothing. -/
def disk (core : DaemonCore) : Disk :=
  match core.store with
  | none => {}
  | some store => store.disk

def log (core : DaemonCore) : List StoreRecord :=
  core.disk.log

/-- The directory after each durable write since the call began. -/
def writes (core : DaemonCore) : List Disk :=
  match core.store with
  | none => []
  | some store => store.trail

/-- Hands a call what the operating system will answer its writes. -/
def enter (core : DaemonCore) (io : List IoOutcome) : DaemonCore :=
  { core with store := core.store.map fun store => { store with io := io, trail := [] } }

end DaemonCore

inductive Action where
  | command (command : Command)
  | start
  | stop
  | crash
deriving DecidableEq, Repr

/-- One event: an action, what it meets outside the process, and the number of durable writes after which the
process dies, if it does. -/
structure Event where
  action : Action
  env : Env
  cut : Option Nat := none
deriving DecidableEq, Repr

inductive System where
  | down (disk : Disk)
  | up (core : DaemonCore)

def Disk.afterCrash (before : Disk) (writes : List Disk) (count : Nat) : Disk :=
  ((before :: writes)[count]?).getD (writes.getLastD before)

namespace System

def disk : System → Disk
  | .down disk => disk
  | .up core => core.disk

def log (system : System) : List StoreRecord :=
  system.disk.log

/-- The registry in memory; a process that is down has none. -/
def registry : System → GrantRegistry
  | .down _ => {}
  | .up core => core.grants

/-- A command on a running process. -/
def serve (core : DaemonCore) (event : Event) (command : Command) : System :=
  let next := ((core.enter event.env.io).exec event.env.now command).1
  match event.cut with
  | none => .up next
  | some count => .down (core.disk.afterCrash next.writes count)

/-- A new process on a directory. A start that fails ends the process. -/
def boot (config : DaemonConfig) (disk : Disk) (event : Event) : System :=
  match (DaemonCore.create config).start disk event.env with
  | (core, result) =>
    match event.cut with
    | some count => .down (disk.afterCrash core.writes count)
    | none =>
      if result.isOk then .up core
      else .down (if core.store.isSome then core.disk else disk)

def halt (core : DaemonCore) (event : Event) : System :=
  let next := ((core.enter event.env.io).stop event.env.now).1
  match event.cut with
  | none => .down next.disk
  | some count => .down (core.disk.afterCrash next.writes count)

def step (config : DaemonConfig) (system : System) (event : Event) : System :=
  match system, event.action with
  | .up core, .command command => serve core event command
  | .up core, .stop => halt core event
  | .up core, .crash => .down core.disk
  | .up core, .start => .up core
  | .down disk, .start => boot config disk event
  | .down disk, _ => .down disk

/-- What a caller is answered; nothing when the process is down or dies inside the call. -/
def respond (system : System) (event : Event) : Option (Result Response) :=
  match system, event.action, event.cut with
  | .up core, .command command, none => some ((core.enter event.env.io).exec event.env.now command).2
  | _, _, _ => none

/-- A directory that does not exist yet. -/
def fresh : System :=
  .down {}

abbrev after (config : DaemonConfig) (events : List Event) : System :=
  Foundation.run (step config) fresh events

def lifecycle : System → Option LifecycleState
  | .down _ => none
  | .up core => some core.lifecycle

def grant (system : System) (id : UInt64) : Option Grant :=
  system.registry.grants[id]?

/-- The token that names a grant as the registry holds it. -/
def tokenOf (system : System) (id : UInt64) : LeaseToken :=
  ((system.grant id).map Grant.token).getD ⟨0, 0, 0, .zero⟩

end System

/-- The smallest rack with authority to hand out: no member, and a scope that is the rack itself. -/
def loneRack : DaemonConfig :=
  { rack := { rack := 7 }, storeDirectory := text "/var/lib/rnf" }

theorem loneRack_backed : loneRack.storeDirectory ≠ [] := by decide +kernel

namespace Event

def call (now : UInt64) (command : Command) : Event :=
  { action := .command command, env := { now := now } }

def start (now : UInt64) : Event :=
  { action := .start, env := { now := now } }

def stop (now : UInt64) : Event :=
  { action := .stop, env := { now := now } }

def crash : Event :=
  { action := .crash, env := { now := 0 } }

end Event

/-- A request for the whole of `loneRack`. -/
def wholeRack (request : UInt64) : AcquireRequest :=
  { request := ⟨0, request⟩, principal := 1, scope := ⟨.rack, 7⟩, mode := .exclusive, capacity := 0, ttlMs := 1000 }

/-- An obligation of the rack to one holder. -/
def System.owes (obligation sequence capacity : UInt64) : EvidenceRecord :=
  { provenance := { source := 1, sequence := sequence }
    payload := .obligation ⟨obligation, .rack, 0, capacity, 1, []⟩ }

end RackFabric
