import RackFabric.Runtime.CounterRun

/-!
Where a start finds the rack: from the counters of the checkpoint it uses, or from none, through the log it replays.
The epoch it finds is that of the log. The generation is, unless the checkpoint is of an earlier one and the log names
none after it; the member set is, if the checkpoint or the log names one at all.
-/

namespace RackFabric

open Counters

def StoreRecord.isEpoch : StoreRecord → Bool
  | .epoch _ => true
  | _ => false

namespace Disk

/-- The counters a start begins its replay with. -/
def savedCounters (disk : Disk) : Counters :=
  if disk.usedCheckpoint.present then disk.usedCheckpoint.counters else ⟨0, 0, .zero⟩

/-- The counters a start composes at. -/
def recoveredCounters (disk : Disk) : Counters :=
  disk.savedCounters.after disk.replayed

/-- A checkpoint or a replayed record names a member set. -/
def namesMembers (disk : Disk) : Bool :=
  disk.usedCheckpoint.present || disk.replayed.any StoreRecord.isEpoch

/-- The part of the log that a start does not replay. -/
def covered (disk : Disk) : List StoreRecord :=
  (splitLog {} disk.usedCheckpoint.walOffset disk.log).1

/-- The checkpoint that a start uses, if any, is of the last generation the log named before it, or the log names one
after it. -/
def namesGeneration (disk : Disk) : Bool :=
  !disk.usedCheckpoint.present || disk.replayed.any StoreRecord.counts ||
    disk.usedCheckpoint.generation == (logged disk.covered).generation

end Disk

namespace Counters

theorem after_cons (counters : Counters) (record : StoreRecord) (rest : List StoreRecord) :
    counters.after (record :: rest) = (counters.apply record).after rest := rfl

/-- Generation and epoch of a replay depend on those it begins with. -/
theorem after_congr {first second : Counters} (generation : first.generation = second.generation)
    (epoch : first.epoch = second.epoch) (records : List StoreRecord) :
    (first.after records).generation = (second.after records).generation ∧
      (first.after records).epoch = (second.after records).epoch := by
  induction records using List.reverseRecOn with
  | nil => exact ⟨generation, epoch⟩
  | append_singleton records record ih =>
    rw [after_snoc, after_snoc]
    cases record with
    | lifecycle body => exact ⟨by simp only [apply, ih.1], by simp only [apply, ih.2]⟩
    | generation generation => exact ⟨rfl, ih.2⟩
    | epoch body => exact ⟨ih.1, rfl⟩
    | _ => exact ih

/-- Records that name no generation leave it. -/
theorem after_uncounted (counters : Counters) {records : List StoreRecord}
    (uncounted : records.any StoreRecord.counts = false) : (counters.after records).generation = counters.generation := by
  induction records generalizing counters with
  | nil => rfl
  | cons record rest ih =>
    rw [List.any_cons, Bool.or_eq_false_iff] at uncounted
    rw [after_cons, ih _ uncounted.2]
    cases record with
    | lifecycle | generation => cases uncounted.1
    | _ => rfl

theorem after_unnamed (counters : Counters) {records : List StoreRecord}
    (unnamed : records.any StoreRecord.isEpoch = false) : (counters.after records).memberSet = counters.memberSet := by
  induction records generalizing counters with
  | nil => rfl
  | cons record rest ih =>
    rw [List.any_cons, Bool.or_eq_false_iff] at unnamed
    rw [after_cons, ih _ unnamed.2]
    cases record with
    | epoch => cases unnamed.1
    | _ => rfl

/-- Once a record names the member set, it does not matter what the replay began with. -/
theorem after_memberSet {first second : Counters} {records : List StoreRecord}
    (named : first.memberSet = second.memberSet ∨ records.any StoreRecord.isEpoch = true) :
    (first.after records).memberSet = (second.after records).memberSet := by
  induction records generalizing first second with
  | nil => exact named.resolve_right (by simp)
  | cons record rest ih =>
    rw [after_cons, after_cons]
    apply ih
    rw [List.any_cons, Bool.or_eq_true] at named
    cases record with
    | epoch body => exact .inl rfl
    | _ =>
      rcases named with same | named | later
      · exact .inl same
      · cases named
      · exact .inr later

end Counters

namespace Disk

variable {tracked : Tracked} {held : Counters → Prop} {disk : Disk}

/-- A start begins with nothing and replays the whole log, or resumes from a checkpoint. -/
theorem recoveredCounters_cases (charted : disk.Charted (chart tracked held)) :
    (disk.usedCheckpoint.present = false ∧ disk.replayed = disk.log ∧
      disk.recoveredCounters = (⟨0, 0, .zero⟩ : Counters).after disk.log) ∨
      ∃ saved : Counters, disk.usedCheckpoint.present = true ∧ disk.usedCheckpoint.generation = saved.generation ∧
        disk.log = disk.covered ++ disk.replayed ∧ saved.Resumes tracked disk.covered disk.replayed ∧
        disk.recoveredCounters = saved.after disk.replayed := by
  unfold recoveredCounters savedCounters
  rcases charted.splits with ⟨unused, whole⟩ | ⟨checkpoint, covered, used, split, front, resumes⟩
  · left
    have absent : disk.usedCheckpoint.present = false := by rw [unused]
    rw [absent, whole]
    exact ⟨rfl, rfl, rfl⟩
  · right
    have present : disk.usedCheckpoint.present = true := by rw [used]
    have saved : disk.usedCheckpoint.counters = checkpoint.counters := by rw [used]; rfl
    have here : disk.covered = covered := front
    rw [if_pos present, saved, here]
    exact ⟨checkpoint.counters, present, congrArg Counters.generation saved, split, resumes, rfl⟩

/-- The epoch a start finds is that of the log. -/
theorem recovered_epoch (charted : disk.Charted (chart tracked held)) :
    disk.recoveredCounters.epoch = (logged disk.log).epoch := by
  rcases recoveredCounters_cases charted with ⟨-, -, found⟩ | ⟨saved, -, -, split, resumes, found⟩
  · rw [found]
    exact (@after_congr ⟨0, 0, .zero⟩ first rfl rfl disk.log).2
  · rw [found, split]
    exact resumes.epoch

theorem recovered_generation (charted : disk.Charted (chart tracked held)) (follow : tracked.generation)
    (named : disk.namesGeneration = true) : disk.recoveredCounters.generation = (logged disk.log).generation := by
  rcases recoveredCounters_cases charted with ⟨-, -, found⟩ | ⟨saved, present, same, split, resumes, found⟩
  · rw [found]
    exact (@after_congr ⟨0, 0, .zero⟩ first rfl rfl disk.log).1
  · rw [found, split]
    cases counted : disk.replayed.any StoreRecord.counts with
    | true => exact resumes.generation follow counted
    | false =>
      rw [namesGeneration, present, counted, same] at named
      have whole : logged (disk.covered ++ disk.replayed) = (logged disk.covered).after disk.replayed := after_append ..
      rw [whole, after_uncounted _ counted, after_uncounted _ counted]
      simpa using named

theorem recovered_memberSet (charted : disk.Charted (chart tracked held)) (follow : tracked.members)
    (named : disk.namesMembers = true) : disk.recoveredCounters.memberSet = (logged disk.log).memberSet := by
  rcases recoveredCounters_cases charted with ⟨absent, whole, found⟩ | ⟨saved, -, -, split, resumes, found⟩
  · rw [found]
    rw [namesMembers, absent, whole, Bool.false_or] at named
    exact after_memberSet (.inr named)
  · rw [found, split]
    exact resumes.memberSet follow

/-- Nothing names the member set of a log that neither a checkpoint nor a record names. -/
theorem logged_unnamed (charted : disk.Charted (chart tracked held)) (unnamed : disk.namesMembers = false) :
    (logged disk.log).memberSet = emptyMemberSet := by
  rw [namesMembers, Bool.or_eq_false_iff] at unnamed
  rcases recoveredCounters_cases charted with ⟨-, whole, -⟩ | ⟨saved, present, -⟩
  · rw [whole] at unnamed
    exact after_unnamed first unnamed.2
  · rw [present] at unnamed
    cases unnamed.1

end Disk

namespace DaemonConfig

/-- The configuration that a replayed record leads to. -/
def reconfigured (config : DaemonConfig) : StoreRecord → DaemonConfig
  | .config body =>
    { config with rack := { config.rack with
        headroomFloor := body.headroomFloor
        maxPathsPerPair := body.maxPathsPerPair.toNat
        maxPathHops := body.maxPathHops.toNat } }
  | _ => config

def replaying (config : DaemonConfig) (records : List StoreRecord) : DaemonConfig :=
  records.foldl reconfigured config

/-- Records that do not reconfigure the rack leave it as it is configured. -/
theorem replaying_plain {records : List StoreRecord} (plain : ∀ record ∈ records, record.isConfig = false)
    (config : DaemonConfig) : config.replaying records = config := by
  induction records generalizing config with
  | nil => rfl
  | cons record rest ih =>
    have own : config.reconfigured record = config := by
      have kind := plain record List.mem_cons_self
      cases record with
      | config body => cases kind
      | _ => rfl
    rw [replaying, List.foldl_cons, own]
    exact ih (fun other member => plain other (List.mem_cons_of_mem _ member)) config

end DaemonConfig

namespace DaemonCore

theorem replayRecords_counters {records : List StoreRecord} {core next : DaemonCore}
    (replayed : core.replayRecords records = (next, .ok ())) :
    next.counters = core.counters.after records ∧
      next.membershipInitialized = (core.membershipInitialized || records.any StoreRecord.isEpoch) ∧
      next.config = core.config.replaying records := by
  induction records generalizing core with
  | nil =>
    cases replayed
    exact ⟨rfl, by simp, rfl⟩
  | cons record rest ih =>
    rw [replayRecords] at replayed
    split at replayed
    · cases replayed
    · rename_i middle applied
      obtain ⟨counters, known, config⟩ := ih replayed
      have first : middle.counters = core.counters.apply record ∧
          middle.membershipInitialized = (core.membershipInitialized || record.isEpoch) ∧
          middle.config = core.config.reconfigured record := by
        cases record with
        | rackBind body =>
          unfold applyRecoveredRecord at applied
          dsimp only at applied
          split at applied
          · cases applied
          · cases applied
            exact ⟨rfl, by simp [StoreRecord.isEpoch], rfl⟩
        | _ =>
          cases applied
          exact ⟨rfl, by simp [StoreRecord.isEpoch], rfl⟩
      refine ⟨?_, ?_, ?_⟩
      · rw [counters, first.1, after_cons]
      · rw [known, first.2.1, List.any_cons, Bool.or_assoc]
      · rw [config, first.2.2, DaemonConfig.replaying, DaemonConfig.replaying, List.foldl_cons]

theorem loadCheckpoint_counters (core : DaemonCore) (checkpoint : Checkpoint) :
    (core.loadCheckpoint checkpoint).counters = (if checkpoint.present then checkpoint.counters else core.counters) ∧
      (core.loadCheckpoint checkpoint).membershipInitialized = (checkpoint.present || core.membershipInitialized) ∧
      (core.loadCheckpoint checkpoint).config = core.config := by
  unfold loadCheckpoint
  cases checkpoint.present with
  | false => exact ⟨rfl, rfl, rfl⟩
  | true => exact ⟨rfl, rfl, rfl⟩

/-- What a process that opened its store has counted. -/
theorem openStore_counters {config : DaemonConfig} (backed : config.storeDirectory ≠ []) {disk : Disk} {env : Env}
    {opened : DaemonCore} (done : (starting config).openStore disk env = (opened, .ok ())) :
    opened.counters = disk.recoveredCounters ∧ opened.membershipInitialized = disk.namesMembers ∧
      opened.config = config.replaying disk.replayed := by
  unfold openStore at done
  rw [if_neg (by simpa [starting, create] using backed)] at done
  split at done
  · cases done
  · rename_i store opening
    have found := Store.openDirectory_ok opening
    dsimp only at done
    split at done
    · cases done
    · split at done
      · cases done
      · rename_i replayed replaying
        rw [found.records, found.checkpoint] at replaying
        obtain ⟨counters, known, same⟩ := replayRecords_counters replaying
        obtain ⟨loaded, adopted, kept⟩ := loadCheckpoint_counters { starting config with
          store := some store
          dirtyRecovery := !store.recovered.report.freshStore && !store.recovered.report.cleanShutdown }
          disk.usedCheckpoint
        rw [loaded] at counters
        rw [adopted] at known
        rw [kept] at same
        have ends : ∀ (last : Option Store) (incarnation : UInt64),
            opened = { replayed with store := last, incarnation := incarnation } →
            opened.counters = disk.recoveredCounters ∧ opened.membershipInitialized = disk.namesMembers ∧
              opened.config = config.replaying disk.replayed := by
          rintro last incarnation rfl
          refine ⟨counters, ?_, same⟩
          have blank : (starting config).membershipInitialized = false := rfl
          rw [blank, Bool.or_false] at known
          exact known
        split at done
        · cases done
        · exact ends _ _ (Prod.mk.inj done).1.symm

variable {tracked : Tracked} {held : Counters → Prop}

theorem openStore_leaves {config : DaemonConfig} (backed : config.storeDirectory ≠ []) {disk : Disk} {env : Env}
    (quiet : env.io = []) (charted : disk.Charted (chart tracked held)) :
    ((starting config).openStore disk env).1.store = none ∨
      ∃ store, ((starting config).openStore disk env).1.store = some store ∧ store.Charted (chart tracked held) ∧
        store.disk.log = disk.log := by
  rcases openStore_files backed disk env with unopened | ⟨first, last, read, kept, here⟩
  · exact .inl unopened
  · rw [quiet] at read
    obtain ⟨opened, log⟩ := read.charted charted
    obtain ⟨sound, same⟩ := kept.charted opened
    exact .inr ⟨last, here, sound, same.trans log⟩

/-- The rack that a start found, before it composes. -/
structure Found (tracked : Tracked) (held : Counters → Prop) (config : DaemonConfig) (disk : Disk)
    (opened : DaemonCore) : Prop where
  store : ∃ store, opened.store = some store ∧ store.Charted (chart tracked held)
  log : opened.log = disk.log
  counters : opened.counters = disk.recoveredCounters
  known : opened.membershipInitialized = disk.namesMembers
  config : opened.config = config
  epoch : opened.epoch = (logged opened.log).epoch
  grants : opened.grants.grants = {}
  recovered : opened.recoveredRecords = disk.replayed

theorem openStore_found {config : DaemonConfig} (backed : config.storeDirectory ≠ []) {disk : Disk} {env : Env}
    {opened : DaemonCore} (quiet : env.io = []) (charted : disk.Charted (chart tracked held))
    (done : (starting config).openStore disk env = (opened, .ok ())) : Found tracked held config disk opened := by
  have left := openStore_leaves backed quiet charted
  rw [done] at left
  obtain ⟨first, last, -, -, here⟩ := (openStore_ok backed done).store
  rcases left with unopened | ⟨store, here, sound, log⟩
  · rw [here] at unopened
    cases unopened
  · have replayed : ∀ record ∈ disk.replayed, record.isConfig = false := by
      intro record member
      refine charted.log.2.2 record ?_
      rw [← charted.aligned.splits.1]
      exact List.mem_append.mpr (.inr member)
    obtain ⟨counters, known, same⟩ := openStore_counters backed done
    rw [DaemonConfig.replaying_plain replayed] at same
    have here' : opened.log = disk.log := (log_of_store here).trans log
    have recovered := openStore_recovered done
    rw [if_neg backed] at recovered
    refine ⟨⟨store, here, sound⟩, here', counters, known, same, ?_, openStore_grants done, recovered⟩
    rw [here', ← Disk.recovered_epoch charted, ← counters]
    rfl

/-- Grants within the counters of a log stay within those of a process that stands where the log does. -/
theorem Tracks.commits {core : DaemonCore} (tracks : core.Tracks tracked held) :
    ∀ grant ∈ commitsOf core.log, grant.stamp.Within tracked core.counters := by
  obtain ⟨store, here, charted⟩ := tracks.store
  intro grant member
  rw [log_of_store here] at member
  have reached := charted.disk.log.2.1 grant member
  rw [← log_of_store here] at reached
  obtain ⟨generation, epoch, -⟩ := tracks.counters
  refine ⟨fun follow => ?_, ?_⟩
  · rw [generation follow]
    exact reached.generation follow
  · rw [epoch]
    exact reached.epoch

theorem foldl_install_dated {allowed : Stamp → Prop} (snapshot : Snapshot) {grants : List Grant}
    (fits : ∀ grant ∈ grants, allowed grant.stamp) {registry : GrantRegistry} (dated : registry.Dated allowed) :
    GrantRegistry.Dated allowed
      (grants.foldl (fun registry grant => (registry.installRecovered snapshot grant).1) registry) := by
  induction grants generalizing registry with
  | nil => exact dated
  | cons grant rest ih =>
    exact ih (fun other member => fits other (by simp [member])) (dated.installRecovered snapshot (fits grant (by simp)))

/-- What a start needs of the directory for what is followed: a generation that is named, and a member set that is named
or that nothing has been published of. -/
structure Grounded (tracked : Tracked) (disk : Disk) (opened : DaemonCore) : Prop where
  generation : tracked.generation → disk.namesGeneration = true
  members : tracked.members → disk.namesMembers = true ∨
    ∀ snapshot, opened.readyToCompose.Publishes opened.epoch snapshot →
      snapshot.data.memberSetDigest = (logged disk.log).memberSet

theorem recover_opened {core opened : DaemonCore} {disk : Disk} {env : Env}
    (opening : core.openStore disk env = (opened, .ok ())) :
    core.recover disk env = match opened.readyToCompose.composeLocked opened.readyToCompose.generation with
      | (composed, .error status) => (composed, .error status)
      | (composed, .ok ()) => ((composed.installGrants (commitsOf composed.recoveredRecords)).applyStates
          (statesOf composed.recoveredRecords), .ok ()) := by
  unfold recover
  rw [opening]
  rfl

/-- A composition of what a start found stands where the log does. -/
theorem Found.tracks {config : DaemonConfig} {disk : Disk} {opened composed : DaemonCore}
    (found : Found tracked held config disk opened) (charted : disk.Charted (chart tracked held))
    (lasting : Lasting tracked held) (grounded : Grounded tracked disk opened)
    (composes : Composes opened.readyToCompose composed (.ok ())) : composed.Tracks tracked held := by
  have counters : opened.counters = disk.recoveredCounters := found.counters
  have blank : opened.readyToCompose.grants.Dated (Stamp.Within tracked opened.readyToCompose.counters) := by
    have none : ∀ id : UInt64, opened.readyToCompose.grants.grants[id]? = none := by
      intro id
      simp [readyToCompose, found.grants]
    constructor <;> intro id grant held <;> rw [none id] at held <;> cases held
  refine composes.arrives lasting found.store ?_ found.epoch ?_ ?_ blank
  · intro follow
    have same := Disk.recovered_generation charted follow (grounded.generation follow)
    rw [← counters, ← found.log] at same
    exact same
  · intro follow known
    have same := Disk.recovered_memberSet charted follow (found.known.symm.trans known)
    rw [← counters, ← found.log] at same
    exact same
  · intro follow unknown snapshot published
    have unnamed : disk.namesMembers = false := found.known.symm.trans unknown
    rcases grounded.members follow with named | fresh
    · rw [unnamed] at named
      cases named
    · rw [fresh snapshot published, ← found.log]
      rfl

/-- A start leaves a store in order, and a process that comes up stands where the log does. -/
theorem recover_tracks {config : DaemonConfig} (backed : config.storeDirectory ≠ []) {disk : Disk} {env : Env}
    (quiet : env.io = []) (charted : disk.Charted (chart tracked held)) (lasting : Lasting tracked held)
    {core : DaemonCore} {result : Result Unit} (recovering : (starting config).recover disk env = (core, result)) :
    (core.store = none ∨ ∃ store, core.store = some store ∧ store.Charted (chart tracked held)) ∧
      (result = .ok () →
        (∀ opened, (starting config).openStore disk env = (opened, .ok ()) → Grounded tracked disk opened) →
        core.Tracks tracked held) := by
  have left := openStore_leaves backed quiet charted
  cases opening : (starting config).openStore disk env with
  | mk opened answer =>
    rw [opening] at left
    cases answer with
    | error status =>
      rw [recover, opening] at recovering
      cases recovering
      refine ⟨?_, fun done => by cases done⟩
      rcases left with unopened | ⟨store, here, sound, -⟩
      · exact .inl unopened
      · exact .inr ⟨store, here, sound⟩
    | ok _ =>
      have found := openStore_found backed quiet charted opening
      obtain ⟨store, here, sound⟩ := found.store
      have still : opened.readyToCompose.Quiet := ⟨store, here, sound.io, sound.options⟩
      have composes := composeLocked_composes (.inr still)
      have recomposed := composeLocked_recomposes opened.readyToCompose opened.readyToCompose.generation
      rw [recover_opened opening] at recovering
      cases composing : opened.readyToCompose.composeLocked opened.readyToCompose.generation with
      | mk composed answer =>
        rw [composing] at composes recomposed recovering
        obtain ⟨stored, added, grown⟩ := composes.left lasting ⟨store, here, sound⟩ found.epoch
        cases answer with
        | error status =>
          cases recovering
          exact ⟨.inr stored, fun done => by cases done⟩
        | ok _ =>
          cases recovering
          refine ⟨.inr stored, fun _ ready => ?_⟩
          have tracks := found.tracks charted lasting (ready opened rfl) composes
          have whole : composed.recoveredRecords = disk.replayed := recomposed.recovered.trans found.recovered
          have fits : ∀ grant ∈ commitsOf composed.recoveredRecords, grant.stamp.Within tracked composed.counters := by
            intro grant member
            refine tracks.commits grant ?_
            rw [whole] at member
            have log : composed.log = disk.log ++ added := by
              rw [grown, ← found.log]
              rfl
            rw [log, commitsOf_append, ← charted.aligned.splits.1, commitsOf_append]
            exact List.mem_append.mpr (.inl (List.mem_append.mpr (.inr member)))
          have installed := foldl_install_dated composed.snapshot fits tracks.dated
          exact tracks.regrant (installed.applyStates (statesOf composed.recoveredRecords))

theorem start_tracks {config : DaemonConfig} (backed : config.storeDirectory ≠ []) {disk : Disk} {env : Env}
    (quiet : env.io = []) (charted : disk.Charted (chart tracked held)) (lasting : Lasting tracked held)
    {core : DaemonCore} {result : Result Unit} (started : (create config).start disk env = (core, result)) :
    (core.store = none ∨ ∃ store, core.store = some store ∧ store.Charted (chart tracked held)) ∧
      (result = .ok () →
        (∀ opened, (starting config).openStore disk env = (opened, .ok ()) → Grounded tracked disk opened) →
        core.Tracks tracked held) := by
  have unstarted : (create config).started = false := rfl
  have begun : ({ create config with started := true } : DaemonCore) = starting config := rfl
  simp only [start, unstarted, Bool.false_eq_true, if_false, begun] at started
  cases recovering : (starting config).recover disk env with
  | mk recovered answer =>
    rw [recovering] at started
    obtain ⟨left, tracks⟩ := recover_tracks backed quiet charted lasting recovering
    cases answer with
    | error status =>
      cases started
      exact ⟨left, fun done => by cases done⟩
    | ok _ =>
      cases started
      refine ⟨left, fun _ ready => ?_⟩
      have recovered := tracks rfl ready
      exact recovered.regrant (recovered.dated.revalidate _ _ _)

theorem enter_store {core : DaemonCore} {store : Store} (here : core.store = some store) :
    (core.enter []).store = some { store with io := [], trail := [] } := by
  simp only [enter, here, Option.map_some]

theorem Tracks.enter {core : DaemonCore} (tracks : core.Tracks tracked held) :
    (core.enter []).Tracks tracked held := by
  obtain ⟨store, here, charted⟩ := tracks.store
  refine ⟨⟨_, enter_store here, ⟨rfl, charted.options, charted.logBytes, charted.disk, by simp⟩⟩, ?_, tracks.known,
    tracks.valid, tracks.published, tracks.digest, tracks.dated⟩
  rw [enter_log]
  exact tracks.counters

end DaemonCore

namespace System

variable {tracked : Tracked} {held wider : Counters → Prop}

/-- A directory that is in order, or a process on one that stands where its log does. -/
def Tracks (tracked : Tracked) (held : Counters → Prop) : System → Prop
  | .down disk => disk.Charted (chart tracked held)
  | .up core => (core.enter []).Tracks tracked held

theorem Tracks.disk {system : System} (tracks : system.Tracks tracked held) :
    system.disk.Charted (chart tracked held) := by
  cases system with
  | down disk => exact tracks
  | up core =>
    obtain ⟨store, here, charted⟩ := tracks.store
    cases found : core.store with
    | none =>
      rw [DaemonCore.enter, found] at here
      cases here
    | some before =>
      rw [DaemonCore.enter_store found] at here
      cases here
      simp only [System.disk, DaemonCore.disk, found]
      exact charted.disk

/-- Another condition on the counters may be taken up between two events. -/
theorem Tracks.rehold {system : System} (tracks : system.Tracks tracked held) (holds : wider (logged system.log)) :
    system.Tracks tracked wider := by
  have recharted : ∀ disk : Disk, disk.Charted (chart tracked held) → wider (logged disk.log) →
      disk.Charted (chart tracked wider) := fun disk charted holds =>
    ⟨⟨holds, charted.log.2⟩, charted.checkpoint⟩
  cases system with
  | down disk => exact recharted disk tracks holds
  | up core =>
    have sound := Tracks.disk tracks
    obtain ⟨⟨store, here, charted⟩, counters, known, valid, published, digest, dated⟩ := tracks
    cases found : core.store with
    | none =>
      rw [DaemonCore.enter, found] at here
      cases here
    | some before =>
      rw [DaemonCore.enter_store found] at here
      cases here
      have same : (System.up core).disk = before.disk := by simp only [System.disk, DaemonCore.disk, found]
      have disk := recharted _ sound holds
      rw [same] at disk
      exact ⟨⟨_, DaemonCore.enter_store found, ⟨rfl, charted.options, charted.logBytes, disk, by simp⟩⟩, counters, known,
        valid, published, digest, dated⟩

/-- One step of a run without failing writes, whose starts find what is followed. -/
theorem boot_tracks {config : DaemonConfig} (backed : config.storeDirectory ≠ []) (lasting : Lasting tracked held)
    {disk : Disk} {event : Event} (quiet : event.env.io = []) (charted : disk.Charted (chart tracked held))
    (ready : ∀ core opened, boot config disk event = .up core →
      (DaemonCore.starting config).openStore disk event.env = (opened, .ok ()) → DaemonCore.Grounded tracked disk opened) :
    (boot config disk event).Tracks tracked held := by
  cases starting : (DaemonCore.create config).start disk event.env with
  | mk core result =>
    obtain ⟨left, arrives⟩ := DaemonCore.start_tracks backed quiet charted lasting starting
    have crashes : ∀ crash ∈ core.writes, crash.Charted (chart tracked held) := by
      intro crash member
      rcases left with unopened | ⟨store, opened, charted⟩
      · simp only [DaemonCore.writes, unopened] at member
        cases member
      · simp only [DaemonCore.writes, opened] at member
        exact charted.trail crash member
    cases cut : event.cut with
    | some count =>
      simp only [boot, starting, cut]
      rcases Disk.afterCrash_mem disk core.writes count with same | member
      · rw [same]
        exact charted
      · exact crashes _ member
    | none =>
      cases result with
      | error status =>
        simp only [boot, starting, cut]
        rcases left with unopened | ⟨store, opened, charted⟩
        · simp only [Result.isOk_error, Bool.false_eq_true, if_false, unopened, Option.isSome_none]
          exact charted
        · simp only [Result.isOk_error, Bool.false_eq_true, if_false, opened, Option.isSome_some, if_true]
          have disk : core.disk = store.disk := by simp only [DaemonCore.disk, opened]
          rw [disk]
          exact charted.disk
      | ok _ =>
        have up : boot config disk event = .up core := by simp only [boot, starting, cut, Result.isOk_ok, if_true]
        rw [up]
        exact (arrives rfl fun opened opening => ready core opened up opening).enter

theorem serve_tracks {core : DaemonCore} (tracks : (System.up core).Tracks tracked held)
    (lasting : Lasting tracked held) {event : Event} (quiet : event.env.io = []) (command : Command) :
    (serve core event command).Tracks tracked held := by
  have running : (core.enter []).Tracks tracked held := tracks
  have course := DaemonCore.exec_course running.dated.keyed event.env.now command
  have served := course.tracks lasting running
  have cases_ := serve_cases core event command
  rw [quiet] at cases_
  rcases cases_ with up | ⟨disk, crashed, rfl | member⟩
  · rw [up]
    exact served.enter
  · rw [crashed]
    exact Tracks.disk tracks
  · rw [crashed]
    obtain ⟨store, opened, charted⟩ := served.store
    simp only [DaemonCore.writes, opened] at member
    exact charted.trail disk member

theorem halt_tracks {core : DaemonCore} (tracks : (System.up core).Tracks tracked held) (event : Event) :
    (halt core event).Tracks tracked held := by
  have running : (core.enter []).Tracks tracked held := tracks
  have here := Tracks.disk tracks
  cases found : core.store with
  | none =>
    obtain ⟨store, opened, -⟩ := running.store
    rw [DaemonCore.enter, found] at opened
    cases opened
  | some store =>
    obtain ⟨disk, halted, wal, file⟩ := halt_files found event
    have left : (System.up core).disk = store.disk := by simp only [System.disk, DaemonCore.disk, found]
    rw [left] at here
    rw [halted]
    exact here.of_files wal (.inl file)

theorem step_tracks {config : DaemonConfig} (backed : config.storeDirectory ≠ []) (lasting : Lasting tracked held)
    {system : System} {event : Event} (quiet : event.env.io = []) (tracks : system.Tracks tracked held)
    (ready : event.action = .start → ∀ disk core opened, system = .down disk → boot config disk event = .up core →
      (DaemonCore.starting config).openStore disk event.env = (opened, .ok ()) → DaemonCore.Grounded tracked disk opened) :
    (step config system event).Tracks tracked held := by
  cases system with
  | down disk =>
    have here : disk.Charted (chart tracked held) := tracks
    cases action : event.action with
    | command command | stop | crash =>
      simp only [step, action]
      exact here
    | start =>
      simp only [step, action]
      exact boot_tracks backed lasting quiet here fun core opened up opening =>
        ready action disk core opened rfl up opening
  | up core =>
    cases action : event.action with
    | command command =>
      simp only [step, action]
      exact serve_tracks tracks lasting quiet command
    | stop =>
      simp only [step, action]
      exact halt_tracks tracks event
    | crash =>
      simp only [step, action]
      exact Tracks.disk tracks
    | start =>
      simp only [step, action]
      exact tracks

end System

end RackFabric
