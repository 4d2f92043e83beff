import RackFabric.Runtime.CounterStart

/-!
What an answer of OK says about a daemon object that is started again and again: the first start recovers it, and
every later one finds the flag of the first.
-/

namespace RackFabric

open Foundation EvidenceLedger

/-- The directory a daemon works on; one without a directory starts from nothing. -/
def DaemonConfig.directory (config : DaemonConfig) (disk : Disk) : Disk :=
  if config.storeDirectory = [] then {} else disk

namespace DaemonCore

/-- The registry that the records of a directory lead to, before anything in it is revalidated. -/
def recoveredGrants (config : DaemonConfig) (disk : Disk) (snapshot : Snapshot) (incarnation : UInt64) : GrantRegistry :=
  (statesOf disk.replayed).foldl (fun registry body => (registry.applyState body.id body.state body.reason).1)
    ((commitsOf disk.replayed).foldl (fun registry grant => (registry.installRecovered snapshot grant).1)
      { outcomesAfter { limits := config.authorityLimits } disk.replayed with incarnation := incarnation })

/-- A daemon that has recovered from a directory. -/
structure Recovered (config : DaemonConfig) (disk : Disk) (env : Env) (core : DaemonCore) : Prop where
  /-- Its store is open and bound to its rack, and its incarnation is one the store has not counted before. -/
  store : config.storeDirectory ≠ [] → ∃ opened store, Store.openDirectory disk {} env.io = .ok opened ∧
    core.store = some store ∧ store.boundRack = config.rack.rack ∧
    core.incarnation.toNat = opened.incarnationCounter.toNat + 1
  unstored : config.storeDirectory = [] → core.store = none ∧ core.incarnation = 1
  /-- What it was to replay are the records that the store has read. -/
  records : core.recoveredRecords = (config.directory disk).replayed
  /-- Checkpoint and records have been applied to what the daemon is configured with. -/
  configuration : core.config = config.replaying (config.directory disk).replayed
  ledger : core.ledger = (config.directory disk).rebuiltLedger config
  lifecycle : core.lifecycle = bootLifecycle (config.directory disk)
  generation : core.generation = (config.directory disk).recoveredCounters.generation
  /-- The epoch is the replayed one, or the next one if the rack is found with other members than were replayed. -/
  epoch : core.epoch.toNat = (config.directory disk).recoveredCounters.epoch.toNat +
    if (config.directory disk).namesMembers = true ∧
      core.memberSetDigest ≠ (config.directory disk).recoveredCounters.memberSet then 1 else 0
  members : core.membershipInitialized = true ∧ core.memberSetDigest = core.snapshot.data.memberSetDigest
  /-- The snapshot has been composed of that. -/
  snapshot : core.snapshot.ComposedUnder core.lifecycle
  composed : ∃ outcome, RackFabric.compose core.ledger core.config.rack (core.composeInput core.generation) =
    .ok outcome ∧ core.snapshot = outcome.snapshot
  /-- The recovered grants have been revalidated under the incarnation. -/
  grants : core.grants =
    (recoveredGrants config (config.directory disk) core.snapshot core.incarnation).revalidate core.snapshot
      core.incarnation env.now
  settled : ∀ (id : UInt64) (grant : Grant), core.grants.grants[id]? = some grant → grant.state ≠ .recovering

theorem replayRecords_ledger {core next : DaemonCore} {records : List StoreRecord}
    (replayed : core.replayRecords records = (next, .ok ())) :
    next.ledger = core.ledger.insertAll (evidenceOf records) ∧ next.config.rack.rack = core.config.rack.rack ∧
      next.config.storeDirectory = core.config.storeDirectory := by
  induction records generalizing core with
  | nil =>
    cases replayed
    exact ⟨rfl, rfl, rfl⟩
  | cons record rest ih =>
    obtain ⟨middle, applied, ledger, rack, directory⟩ : ∃ middle, core.applyRecoveredRecord record = (middle, .ok ()) ∧
        middle.ledger = core.ledger.insertAll (evidenceOf [record]) ∧
        middle.config.rack.rack = core.config.rack.rack ∧
        middle.config.storeDirectory = core.config.storeDirectory := by
      cases record with
      | rackBind body =>
        simp only [replayRecords, applyRecoveredRecord] at replayed ⊢
        split
        · rename_i foreign
          rw [if_pos foreign] at replayed
          cases replayed
        · exact ⟨core, rfl, rfl, rfl, rfl⟩
      | config body | evidence record | lifecycle body | generation generation | epoch body | grantCommit grant
      | grantState body | requestOutcome body | cleanShutdown atMs => exact ⟨_, rfl, rfl, rfl, rfl⟩
    rw [replayRecords, applied] at replayed
    obtain ⟨final, same, there⟩ := ih replayed
    refine ⟨?_, same.trans rack, there.trans directory⟩
    rw [final, ledger, ← insertAll_append, ← evidenceOf_append, List.singleton_append]

theorem bindRack_bound (store : Store) (rack : UInt64) : (store.bindRack rack).1.boundRack = rack := by
  simp only [Store.bindRack, Store.persistMeta, Store.attempt, Store.answer]
  cases store.io with
  | nil => rfl
  | cons outcome rest => cases outcome <;> rfl

theorem nextIncarnation_counts {store next : Store} {incarnation : UInt64}
    (counted : store.nextIncarnation = (next, .ok incarnation)) :
    incarnation.toNat = store.incarnationCounter.toNat + 1 := by
  simp only [Store.nextIncarnation] at counted
  split at counted
  · cases counted
  · rename_i room
    have own : incarnation = store.incarnationCounter + 1 := by
      simp only [Store.persistMeta, Store.attempt, Store.answer] at counted
      cases io : store.io with
      | nil =>
        rw [io] at counted
        cases counted
        rfl
      | cons outcome rest =>
        rw [io] at counted
        cases outcome <;> cases counted
        rfl
    have top : store.incarnationCounter.toNat ≠ 2 ^ 64 - 1 := fun last => room (UInt64.toNat_inj.mp last)
    have below := store.incarnationCounter.toNat_lt
    rw [own, UInt64.toNat_add, UInt64.toNat_one]
    omega

/-- What a process that opened its store holds. -/
theorem openStore_binds {config : DaemonConfig} {disk : Disk} {env : Env} {opened : DaemonCore}
    (backed : config.storeDirectory ≠ []) (done : (starting config).openStore disk env = (opened, .ok ())) :
    (∃ first last, Store.openDirectory disk {} env.io = .ok first ∧ opened.store = some last ∧
      last.boundRack = config.rack.rack ∧ opened.incarnation.toNat = first.incarnationCounter.toNat + 1) ∧
    opened.ledger = disk.rebuiltLedger config := by
  unfold openStore at done
  rw [if_neg (by simpa [starting, create] using backed)] at done
  split at done
  · cases done
  · rename_i store opening
    have found := Store.openDirectory_ok opening
    dsimp only at done
    split at done
    · cases done
    · split at done
      · cases done
      · rename_i replayed replaying
        obtain ⟨ledger, rack, -⟩ := replayRecords_ledger replaying
        obtain ⟨loaded, config_⟩ := loadCheckpoint_ledger config { starting config with
          store := some store
          dirtyRecovery := !store.recovered.report.freshStore && !store.recovered.report.cleanShutdown }
          store.recovered.checkpoint rfl
        rw [config_] at rack
        rw [loaded, found.checkpoint, found.records] at ledger
        split at done
        · cases done
        · rename_i next incarnation counting
          obtain rfl := (Prod.mk.inj done).1
          refine ⟨⟨store, _, opening, rfl, ?_, nextIncarnation_counts counting⟩, ledger⟩
          exact (bindRack_bound next _).trans rack

theorem appendLocked_bound (core : DaemonCore) (record : StoreRecord) :
    (core.appendLocked record).1.store.map Store.boundRack = core.store.map Store.boundRack := by
  cases held : core.store with
  | none => simp only [appendLocked, held]
  | some store =>
    simp only [appendLocked, held, Store.append, Store.attempt, Store.answer]
    split
    · rfl
    · cases store.io with
      | nil => rfl
      | cons outcome rest => cases outcome <;> rfl

/-- A composition neither opens a store nor binds it to another rack. -/
theorem composeLocked_bound (core : DaemonCore) (target : UInt64) :
    (core.composeLocked target).1.store.map Store.boundRack = core.store.map Store.boundRack := by
  have advances : ∀ digest, (core.advanceEpoch target digest).1.store.map Store.boundRack =
      core.store.map Store.boundRack := by
    intro digest
    have logged := appendLocked_bound { core with epoch := core.epoch + 1, memberSetDigest := digest }
      (.epoch ⟨core.epoch + 1, digest⟩)
    simp only [advanceEpoch]
    split
    · rfl
    · split
      · rename_i failed
        rwa [failed] at logged
      · rename_i done
        rw [done] at logged
        split
        · exact logged
        · exact logged
  simp only [composeLocked]
  split
  · rfl
  · split
    · rfl
    · split
      · rfl
      · split
        · exact advances _
        · rfl

/-- No grant is left waiting once the grants have been revalidated. -/
theorem revalidate_settles {registry : GrantRegistry} (keyed : registry.Keyed) (snapshot : Snapshot)
    (incarnation nowMs : UInt64) {id : UInt64} {grant : Grant}
    (found : (registry.revalidate snapshot incarnation nowMs).grants[id]? = some grant) :
    grant.state ≠ .recovering := by
  have carried := (GrantRegistry.revalidate_carries keyed snapshot incarnation nowMs).2
  obtain ⟨before, -, moved⟩ := carried.source found
  cases moved with
  | idle other => exact other
  | rearmed fence _ _ => simp
  | fenced failure _ _ => simp [Grant.mark]

/-- What a process has read from its directory once its store is open. -/
structure Loaded (config : DaemonConfig) (disk : Disk) (env : Env) (opened : DaemonCore) : Prop where
  store : config.storeDirectory ≠ [] → ∃ first last, Store.openDirectory disk {} env.io = .ok first ∧
    opened.store = some last ∧ last.boundRack = config.rack.rack ∧
    opened.incarnation.toNat = first.incarnationCounter.toNat + 1
  unstored : config.storeDirectory = [] → opened.store = none ∧ opened.incarnation = 1
  records : opened.recoveredRecords = (config.directory disk).replayed
  configuration : opened.config = config.replaying (config.directory disk).replayed
  counters : opened.counters = (config.directory disk).recoveredCounters
  known : opened.membershipInitialized = (config.directory disk).namesMembers
  ledger : opened.ledger = (config.directory disk).rebuiltLedger config
  lifecycle : opened.startLifecycle = bootLifecycle (config.directory disk)
  grants : opened.grants = outcomesAfter { limits := config.authorityLimits } (config.directory disk).replayed

theorem openStore_loaded {config : DaemonConfig} {disk : Disk} {env : Env} {opened : DaemonCore}
    (done : (starting config).openStore disk env = (opened, .ok ())) : Loaded config disk env opened := by
  by_cases unbacked : config.storeDirectory = []
  · have nothing : config.directory disk = {} := by rw [DaemonConfig.directory, if_pos unbacked]
    have replayed : ({} : Disk).replayed = [] := by rfl
    unfold openStore at done
    rw [if_pos (by simp [starting, create, unbacked])] at done
    cases done
    constructor
    · exact fun backed => absurd unbacked backed
    · exact fun _ => ⟨rfl, rfl⟩
    · rw [nothing, replayed]
      rfl
    · rw [nothing, replayed]
      rfl
    · rw [nothing]
      rfl
    · rw [nothing]
      rfl
    · rw [nothing, Disk.rebuiltLedger, replayed]
      rfl
    · rw [nothing]
      rfl
    · rw [nothing, replayed]
      rfl
  · have there : config.directory disk = disk := by rw [DaemonConfig.directory, if_neg unbacked]
    have found := openStore_ok unbacked done
    obtain ⟨bound, ledger⟩ := openStore_binds unbacked done
    obtain ⟨counters, known, configuration⟩ := openStore_counters unbacked done
    obtain ⟨-, last, -, -, held⟩ := found.store
    constructor
    · exact fun _ => bound
    · exact fun nothing => absurd nothing unbacked
    · rw [openStore_recovered done, if_neg unbacked, there]
    · rw [configuration, there]
    · rw [counters, there]
    · rw [known, there]
    · rw [ledger, there]
    · simp only [startLifecycle, bootLifecycle, found.dirtyRecovery, found.lifecycle, held, Option.isSome_some,
        Bool.and_true, there]
    · rw [found.grants, there]

theorem recovered_of_recover {config : DaemonConfig} {disk : Disk} {env : Env} {recovered : DaemonCore}
    (done : (starting config).recover disk env = (recovered, .ok ())) :
    Recovered config disk env (recovered.revalidateGrants env.now) := by
  obtain ⟨keyed, -⟩ := recover_stands done
  obtain ⟨opened, composed, opening, composing, rfl⟩ := recover_ok done
  have loaded := openStore_loaded opening
  have keeps := composeLocked_keeps opened.readyToCompose opened.generation
  have same := composeLocked_recomposes opened.readyToCompose opened.generation
  have bound := composeLocked_bound opened.readyToCompose opened.generation
  have published := composeLocked_composedUnder composing
  obtain ⟨outcome, succeeds, held⟩ := (composeLocked_ok composing).2
  obtain ⟨generation, initialized, adopted, epoch⟩ := composeLocked_adopts composing
  rw [composing] at keeps same bound
  have lifecycle : composed.lifecycle = bootLifecycle (config.directory disk) := keeps.lifecycle.trans loaded.lifecycle
  have incarnation : composed.incarnation = opened.incarnation := keeps.incarnation
  have records : composed.recoveredRecords = (config.directory disk).replayed := same.recovered.trans loaded.records
  have ledger : composed.ledger = (config.directory disk).rebuiltLedger config := same.ledger.trans loaded.ledger
  have grants : composed.grants = { outcomesAfter { limits := config.authorityLimits }
      (config.directory disk).replayed with incarnation := composed.incarnation } := by
    rw [same.grants, incarnation, ← loaded.grants]
    rfl
  constructor
  · intro backed
    obtain ⟨first, last, opens, held, own, counted⟩ := loaded.store backed
    have here : opened.readyToCompose.store = some last := held
    rw [here, Option.map_some, Option.map_eq_some_iff] at bound
    obtain ⟨next, stored, kept⟩ := bound
    exact ⟨first, next, opens, stored, kept.trans own, by rw [← counted, ← incarnation]; rfl⟩
  · intro unbacked
    obtain ⟨nothing, first⟩ := loaded.unstored unbacked
    have here : opened.readyToCompose.store = none := nothing
    rw [here, Option.map_none, Option.map_eq_none_iff] at bound
    exact ⟨bound, incarnation.trans first⟩
  · exact records
  · exact same.config.trans loaded.configuration
  · exact ledger
  · exact lifecycle
  · rw [← loaded.counters]
    exact generation
  · rw [← loaded.counters, ← loaded.known]
    exact epoch
  · exact ⟨initialized, adopted⟩
  · have under : opened.readyToCompose.lifecycle = composed.lifecycle := keeps.lifecycle.symm
    rw [under] at published
    exact published
  · refine ⟨outcome, ?_, held⟩
    have lifecycle : composed.lifecycle = opened.readyToCompose.lifecycle := keeps.lifecycle
    have configuration : composed.config = opened.readyToCompose.config := same.config
    have ledger : composed.ledger = opened.readyToCompose.ledger := same.ledger
    show RackFabric.compose composed.ledger composed.config.rack (composed.composeInput composed.generation) = _
    rw [composeInput, generation, lifecycle, configuration, ledger]
    exact succeeds
  · rw [records, recoveredGrants]
    show GrantRegistry.revalidate _ composed.snapshot composed.incarnation env.now =
      GrantRegistry.revalidate _ composed.snapshot composed.incarnation env.now
    congr 1
    show _ = List.foldl _ (List.foldl _ { outcomesAfter _ _ with incarnation := composed.incarnation } _) _
    rw [← grants]
    rfl
  · intro id grant found
    exact revalidate_settles keyed _ _ _ found

/-- What replay has no part in: the flag of the start and the published snapshot. -/
def Aside (before after : DaemonCore) : Prop :=
  after.started = before.started ∧ after.snapshot = before.snapshot

theorem Aside.trans {first second third : DaemonCore} (earlier : Aside first second) (later : Aside second third) :
    Aside first third :=
  ⟨later.1.trans earlier.1, later.2.trans earlier.2⟩

theorem replayRecords_aside (core : DaemonCore) (records : List StoreRecord) :
    Aside core (core.replayRecords records).1 := by
  induction records generalizing core with
  | nil => exact ⟨rfl, rfl⟩
  | cons record rest ih =>
    have applied : Aside core (core.applyRecoveredRecord record).1 := by
      cases record with
      | rackBind body =>
        simp only [applyRecoveredRecord]
        split <;> exact ⟨rfl, rfl⟩
      | config body | evidence record | lifecycle body | generation generation | epoch body | requestOutcome body
      | grantCommit grant | grantState body | cleanShutdown atMs => exact ⟨rfl, rfl⟩
    simp only [replayRecords]
    split
    · rename_i failed
      rwa [failed] at applied
    · rename_i next done
      rw [done] at applied
      exact applied.trans (ih next)

theorem openStore_aside (core : DaemonCore) (disk : Disk) (env : Env) : Aside core (core.openStore disk env).1 := by
  simp only [openStore]
  split
  · exact ⟨rfl, rfl⟩
  · split
    · exact ⟨rfl, rfl⟩
    · rename_i store _
      split
      · exact ⟨rfl, rfl⟩
      · let begun : DaemonCore := ({ core with
          store := some store
          dirtyRecovery := !store.recovered.report.freshStore && !store.recovered.report.cleanShutdown } :
            DaemonCore).loadCheckpoint store.recovered.checkpoint
        have loaded : Aside core begun := by
          simp only [begun, loadCheckpoint]
          split <;> exact ⟨rfl, rfl⟩
        have replayed := loaded.trans (replayRecords_aside begun store.recovered.records)
        split
        · rename_i failed
          rw [failed] at replayed
          exact replayed
        · rename_i done
          rw [done] at replayed
          split <;> exact replayed

theorem composeLocked_started (core : DaemonCore) (target : UInt64) :
    (core.composeLocked target).1.started = core.started := by
  have advances : ∀ digest, (core.advanceEpoch target digest).1.started = core.started := by
    intro digest
    obtain ⟨store, appended⟩ := appendLocked_store { core with epoch := core.epoch + 1, memberSetDigest := digest }
      (.epoch ⟨core.epoch + 1, digest⟩)
    have logged := congrArg DaemonCore.started appended
    simp only [advanceEpoch]
    split
    · rfl
    · split
      · rename_i failed
        rwa [failed] at logged
      · rename_i done
        rw [done] at logged
        split <;> exact logged
  simp only [composeLocked]
  split
  · rfl
  · split
    · rfl
    · split
      · rfl
      · split
        · exact advances _
        · rfl

/-- A composition that fails publishes nothing. -/
theorem composeLocked_unpublished {core next : DaemonCore} {target : UInt64} {status : Status}
    (failed : core.composeLocked target = (next, .error status)) : next.snapshot = core.snapshot := by
  simp only [composeLocked] at failed
  split at failed
  · cases failed
    rfl
  · split at failed
    · cases failed
      rfl
    · split at failed
      · cases failed
      · split at failed
        · rename_i outcome _ _ _
          obtain ⟨store, appended⟩ := appendLocked_store
            { core with epoch := core.epoch + 1, memberSetDigest := outcome.snapshot.data.memberSetDigest }
            (.epoch ⟨core.epoch + 1, outcome.snapshot.data.memberSetDigest⟩)
          have kept := congrArg DaemonCore.snapshot appended
          simp only [advanceEpoch] at failed
          split at failed
          · cases failed
            rfl
          · split at failed
            · rename_i refused
              rw [refused] at kept
              cases failed
              exact kept
            · rename_i done
              rw [done] at kept
              split at failed
              · cases failed
                exact kept
              · cases failed
        · cases failed

/-- One call of start on a directory as it is found. -/
def startOn (core : DaemonCore) (call : Disk × Env) : DaemonCore :=
  (core.start call.1 call.2).1

theorem start_again {core : DaemonCore} (started : core.started = true) (call : Disk × Env) :
    core.start call.1 call.2 = (core, .ok ()) := by
  simp only [start, started, if_true]

theorem run_started {core : DaemonCore} (started : core.started = true) (calls : List (Disk × Env)) :
    run startOn core calls = core := by
  induction calls with
  | nil => rfl
  | cons call rest ih =>
    rw [run_cons, startOn, start_again started]
    exact ih

/-- A start flags the object, and one that fails has published nothing. -/
theorem recover_aside (core : DaemonCore) (disk : Disk) (env : Env) :
    (core.recover disk env).1.started = core.started ∧
      ((core.recover disk env).2.isOk = false → (core.recover disk env).1.snapshot = core.snapshot) := by
  have opened := openStore_aside core disk env
  rcases recover_cases core disk env with ⟨next, status, opening, failed⟩ | ⟨next, opening, rest⟩
  · rw [opening] at opened
    rw [failed]
    exact ⟨opened.1, fun _ => opened.2⟩
  · rw [opening] at opened
    have started := composeLocked_started next.readyToCompose next.generation
    rcases rest with ⟨composed, status, composing, failed⟩ | ⟨composed, composing, done⟩
    · have unpublished := composeLocked_unpublished composing
      rw [composing] at started
      rw [failed]
      exact ⟨started.trans opened.1, fun _ => unpublished.trans opened.2⟩
    · rw [composing] at started
      rw [done]
      exact ⟨started.trans opened.1, fun failed => absurd failed (by simp)⟩

/-- The first start either recovers the daemon, or leaves it flagged as started with nothing published. -/
theorem first_start (config : DaemonConfig) (call : Disk × Env) :
    (startOn (create config) call).started = true ∧
      ((((create config).start call.1 call.2).2.isOk = true ∧
          Recovered config call.1 call.2 (startOn (create config) call)) ∨
        (((create config).start call.1 call.2).2.isOk = false ∧
          (startOn (create config) call).snapshot.valid = false)) := by
  have unstarted : (create config).started = false := rfl
  have begun : ({ create config with started := true } : DaemonCore) = starting config := rfl
  have aside := recover_aside (starting config) call.1 call.2
  simp only [startOn, start, unstarted, Bool.false_eq_true, if_false, begun]
  cases recovering : (starting config).recover call.1 call.2 with
  | mk recovered result =>
    rw [recovering] at aside
    cases result with
    | ok _ => exact ⟨aside.1, .inl ⟨rfl, recovered_of_recover recovering⟩⟩
    | error status =>
      refine ⟨aside.1, .inr ⟨rfl, ?_⟩⟩
      rw [aside.2 rfl]
      rfl

/-- Every OK that a daemon object answers to its calls of start means that one of these calls recovered it, exactly
when none is made on an object that is flagged as started with nothing published. -/
theorem ok_start_recovered (config : DaemonConfig) (calls : List (Disk × Env)) :
    (∀ before call after, calls = before ++ call :: after →
        ((run startOn (create config) before).start call.1 call.2).2.isOk = true →
        ∃ used ∈ before ++ [call], Recovered config used.1 used.2 (run startOn (create config) (before ++ [call]))) ↔
      ∀ before call after, calls = before ++ call :: after →
        (run startOn (create config) before).started = true →
        (run startOn (create config) before).snapshot.valid = true := by
  constructor
  · intro recovers before call after split started
    have again := start_again started call
    obtain ⟨used, -, recovered⟩ := recovers before call after split (by rw [again]; rfl)
    have same : run startOn (create config) (before ++ [call]) = run startOn (create config) before := by
      rw [run_append, run_started started]
    rw [same] at recovered
    exact recovered.snapshot.1
  · intro safe before call after split ok
    cases before with
    | nil =>
      refine ⟨call, by simp, ?_⟩
      rcases first_start config call with ⟨-, ⟨-, recovered⟩ | ⟨failed, -⟩⟩
      · exact recovered
      · rw [run_nil, failed] at ok
        cases ok
    | cons first rest =>
      obtain ⟨started, outcome⟩ := first_start config first
      have here : ∀ others, run startOn (create config) (first :: others) = startOn (create config) first := by
        intro others
        rw [run_cons, run_started started]
      refine ⟨first, by simp, ?_⟩
      rw [List.cons_append, here]
      rcases outcome with ⟨-, recovered⟩ | ⟨-, unpublished⟩
      · exact recovered
      · have published := safe (first :: rest) call after split
        rw [here] at published
        rw [published started] at unpublished
        cases unpublished

/-- A directory of another rack. -/
def foreignDisk : Disk :=
  { manifest := .intact { rack := 9 } }

/-- The second start on the directory of another rack answers OK, with the foreign store open and nothing published. -/
theorem second_start_unrecovered :
    ¬ ∀ (config : DaemonConfig) (calls : List (Disk × Env)) (before : List (Disk × Env)) (call : Disk × Env)
      (after : List (Disk × Env)), calls = before ++ call :: after →
        ((run startOn (create config) before).start call.1 call.2).2.isOk = true →
        ∃ used ∈ before ++ [call], Recovered config used.1 used.2 (run startOn (create config) (before ++ [call])) := by
  intro claim
  have unpublished : ((run startOn (create loneRack) [(foreignDisk, { now := 0 })]).start foreignDisk
      { now := 0 }).2.isOk = true ∧ (run startOn (create loneRack) [(foreignDisk, { now := 0 }),
        (foreignDisk, { now := 0 })]).snapshot.valid = false := by decide +kernel
  obtain ⟨used, -, recovered⟩ := claim loneRack [(foreignDisk, { now := 0 }), (foreignDisk, { now := 0 })]
    [(foreignDisk, { now := 0 })] (foreignDisk, { now := 0 }) [] rfl unpublished.1
  have published := recovered.snapshot.1
  rw [List.singleton_append, unpublished.2] at published
  cases published

end DaemonCore

end RackFabric
