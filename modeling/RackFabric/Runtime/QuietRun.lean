import RackFabric.Runtime.Boot
import RackFabric.Runtime.Transition

/-!
Runs that meet no failing write. The log only grows, checkpoints end at record boundaries, and whatever a step
leaves on disk, crashed or not, is the old log and a front part of the records the step logs.
-/

namespace RackFabric

namespace Store

/-- Marking a clean shutdown writes the manifest alone. -/
theorem markCleanShutdown_keepsFiles (store : Store) (atMs : UInt64) :
    ∃ next, KeepsFiles store next ∧ (store.markCleanShutdown atMs).1.disk = next.disk ∧
      (store.markCleanShutdown atMs).1.trail = next.trail := by
  have kept := persistMeta_keepsFiles store { store.manifestOf with
    checkpointLength := store.checkpointLength
    cleanShutdown := true
    cleanShutdownAtMs := atMs }
  unfold markCleanShutdown
  split
  · rename_i next _ failed
    rw [failed] at kept
    exact ⟨next, kept, rfl, rfl⟩
  · rename_i next done
    rw [done] at kept
    exact ⟨next, kept, rfl, rfl⟩

end Store

namespace DaemonCore

/-- A process whose store is in order and whose snapshot is composed. -/
structure Sturdy (core : DaemonCore) : Prop where
  keyed : core.grants.Keyed
  settled : core.grants.Settled
  valid : core.snapshot.valid = true
  store : ∃ store, core.store = some store ∧ store.Aligned anyCheckpoint

theorem enter_quiet {core : DaemonCore} (sturdy : core.Sturdy) : (core.enter []).Quiet := by
  obtain ⟨store, held, aligned⟩ := sturdy.store
  exact ⟨{ store with io := [], trail := [] }, by simp only [enter, held, Option.map_some], rfl, aligned.options⟩

/-- What a stretch of a call leaves on disk when it ends, and after each of its writes. -/
theorem Logs.leaves {fits : LifecycleState → List StoreRecord → Prop} {lifecycle : LifecycleState} {core next : DaemonCore}
    {records : List StoreRecord} (logs : Logs lifecycle (core.enter []) records next)
    (aligned : ∀ store, core.store = some store → store.Aligned fits)
    (grows : ∀ record ∈ records, ∀ state rest, fits state rest → fits state (rest ++ [record]))
    (fresh : fits lifecycle []) :
    next.log = core.log ++ records ∧
      (∃ store, next.store = some store ∧ store.Aligned fits) ∧
      ∀ disk ∈ next.writes, disk.Aligned fits ∧ ∃ count, disk.log = core.log ++ records.take count := by
  obtain ⟨first, last, started, finished, wrote⟩ := logs
  obtain ⟨store, held, rfl⟩ : ∃ store, core.store = some store ∧ first = { store with io := [], trail := [] } := by
    simp only [enter, Option.map_eq_some_iff] at started
    obtain ⟨store, held, same⟩ := started
    exact ⟨store, held, same.symm⟩
  have entered : Store.Aligned fits { store with io := [], trail := [] } :=
    ⟨(aligned store held).options, (aligned store held).logBytes, (aligned store held).disk⟩
  have extended := wrote.extends_ rfl
  obtain ⟨final, crashes⟩ := wrote.aligned rfl entered grows fresh
  have before : core.log = store.disk.log := by simp only [log, disk, held]
  have after : next.log = last.disk.log := by simp only [log, disk, finished]
  have writes : next.writes = last.trail := by simp only [DaemonCore.writes, finished]
  refine ⟨?_, ⟨last, finished, final⟩, ?_⟩
  · rw [after, before]
    exact extended.log
  · intro disk member
    rw [writes] at member
    refine ⟨(crashes disk member).resolve_left (by simp), ?_⟩
    obtain ⟨added, trail, crash⟩ := extended.trail
    rw [trail] at member
    rw [before]
    exact crash disk (by simpa using member)

theorem enter_log (core : DaemonCore) (io : List IoOutcome) : (core.enter io).log = core.log := by
  unfold log disk enter
  cases core.store <;> rfl

theorem enter_sturdy {core : DaemonCore} (sturdy : core.Sturdy) :
    (core.enter []).grants.Keyed ∧ (core.enter []).snapshot.valid = true :=
  ⟨sturdy.keyed, sturdy.valid⟩

theorem Keeps.valid {before after : DaemonCore} (kept : Keeps before after) (valid : before.snapshot.valid = true) :
    after.snapshot.valid = true := by
  rcases kept.snapshot with same | composed
  · rw [same]
    exact valid
  · exact composed.1

theorem exec_valid {core : DaemonCore} (valid : core.snapshot.valid = true) (now : UInt64) (command : Command) :
    (core.exec now command).1.snapshot.valid = true := by
  by_cases transition : ∃ target, command = .setLifecycle target
  · obtain ⟨target, rfl⟩ := transition
    have same : (core.exec now (.setLifecycle target)).1 = (core.setLifecycle now target).1 := rfl
    rw [same]
    cases allowed : lifecycleTransitionAllowed core.lifecycle target with
    | false => rwa [setLifecycle_refused allowed]
    | true =>
      rw [setLifecycle_moves allowed]
      obtain ⟨grants, entered⟩ := enterLifecycle_eq core target
      have kept := transitionLifecycleLocked_keeps core now target
      rw [entered] at kept
      exact kept.valid valid
  · exact (exec_keeps core now command (fun target same => transition ⟨target, same⟩)).valid valid

/-- Every command that meets no failing write logs records, under the lifecycle it ends with. -/
theorem exec_logs {core : DaemonCore} (sturdy : core.Sturdy) (now : UInt64) (command : Command) :
    ∃ lifecycle records, Logs lifecycle (core.enter []) records ((core.enter []).exec now command).1 := by
  have quiet := enter_quiet sturdy
  by_cases transition : ∃ target, command = .setLifecycle target
  · obtain ⟨target, rfl⟩ := transition
    cases allowed : lifecycleTransitionAllowed core.lifecycle target with
    | false =>
      refine ⟨core.lifecycle, [], quiet.logs_nothing _ ?_⟩
      exact congrArg DaemonCore.store (setLifecycle_refused allowed)
    | true =>
      obtain ⟨plain, -, ⟨logs, -⟩ | ⟨generation, epoch, logs⟩⟩ := setLifecycle_logs quiet now allowed
      · exact ⟨target, _, logs⟩
      · exact ⟨target, _, logs⟩
  · obtain ⟨records, logs, -⟩ := exec_serves quiet sturdy.keyed sturdy.valid now command
      (fun target same => transition ⟨target, same⟩)
    exact ⟨_, records, logs⟩

/-- Whatever opening a store ends with, it has written the manifest alone. -/
theorem openStore_files {config : DaemonConfig} (backed : config.storeDirectory ≠ []) (disk : Disk) (env : Env) :
    ((starting config).openStore disk env).1.store = none ∨ ∃ first last, Store.Opened disk env.io first ∧
      first.KeepsFiles last ∧ ((starting config).openStore disk env).1.store = some last := by
  unfold openStore
  rw [if_neg (by simpa [starting, create] using backed)]
  split
  · exact .inl rfl
  · rename_i store opening
    have found := Store.openDirectory_ok opening
    right
    dsimp only
    split
    · exact ⟨store, store, found, .refl store, rfl⟩
    · split
      · rename_i failed replaying
        refine ⟨store, store, found, .refl store, ?_⟩
        have kept := replayRecords_store ({ starting config with
          store := some store
          dirtyRecovery := !store.recovered.report.freshStore && !store.recovered.report.cleanShutdown }.loadCheckpoint
            store.recovered.checkpoint) store.recovered.records
        rw [replaying] at kept
        rw [kept]
        unfold loadCheckpoint
        split <;> rfl
      · have counted := Store.nextIncarnation_keepsFiles store
        split
        · rename_i next _ counting
          rw [counting] at counted
          exact ⟨store, next, found, counted, rfl⟩
        · rename_i next _ counting
          rw [counting] at counted
          exact ⟨store, _, found, counted.trans (Store.bindRack_keepsFiles next _), rfl⟩

/-- What a start that meets no failing write leaves of its store, whether it comes up or not. -/
theorem start_files {config : DaemonConfig} (backed : config.storeDirectory ≠ []) (disk : Disk) {env : Env}
    (quiet : env.io = []) (lifecycle : LifecycleState) :
    (((create config).start disk env).1.store = none ∧ ((create config).start disk env).2.isOk = false) ∨
      ∃ first last final plain, Store.Opened disk [] first ∧ first.KeepsFiles last ∧
        (∀ record ∈ plain, record.isPlain = true) ∧ last.Wrote lifecycle plain final ∧
        ((create config).start disk env).1.store = some final := by
  have begun : ({ create config with started := true } : DaemonCore) = starting config := rfl
  have unstarted : (create config).started = false := rfl
  unfold start
  simp only [unstarted, Bool.false_eq_true, if_false, begun]
  have files := openStore_files backed disk env
  have recovered : (((starting config).recover disk env).1.store = none ∧
      ((starting config).recover disk env).2.isOk = false) ∨ ∃ first last final plain,
      Store.Opened disk [] first ∧ first.KeepsFiles last ∧ (∀ record ∈ plain, record.isPlain = true) ∧
      last.Wrote lifecycle plain final ∧ ((starting config).recover disk env).1.store = some final := by
    rcases recover_cases (starting config) disk env with
      ⟨opened, status, opening, failed⟩ | ⟨opened, opening, rest⟩
    · rw [opening] at files
      rw [failed]
      rcases files with none | ⟨first, last, read, kept, held⟩
      · exact .inl ⟨none, rfl⟩
      · exact .inr ⟨first, last, last, [], quiet ▸ read, kept, by simp, .nothing last, held⟩
    · obtain ⟨first, last, read, kept, held⟩ := (openStore_ok backed opening).store
      rw [quiet] at read
      right
      have still : opened.readyToCompose.Quiet := ⟨last, held, kept.io read.io, kept.options.trans read.options⟩
      obtain ⟨plain, isPlain, start, final, started, finished, wrote⟩ :=
        composeLocked_logsPlain still opened.generation lifecycle
      obtain rfl : last = start := by
        have same : opened.readyToCompose.store = some last := held
        rw [same] at started
        exact Option.some.inj started
      refine ⟨first, last, final, plain, read, kept, isPlain, wrote, ?_⟩
      rcases rest with ⟨composed, status, composing, failed⟩ | ⟨composed, composing, done⟩
      · rw [failed]
        rwa [composing] at finished
      · rw [done]
        rw [composing] at finished
        exact finished
  split
  · rename_i failed
    rwa [failed] at recovered
  · rename_i done
    rw [done] at recovered
    exact recovered

end DaemonCore

/-- A crash leaves the directory as it was, or as one of the writes left it. -/
theorem Disk.afterCrash_mem (before : Disk) (writes : List Disk) (count : Nat) :
    before.afterCrash writes count = before ∨ before.afterCrash writes count ∈ writes := by
  unfold afterCrash
  cases found : (before :: writes)[count]? with
  | none =>
    rw [Option.getD_none]
    cases writes with
    | nil => exact .inl rfl
    | cons first rest =>
      right
      rw [List.getLastD_cons]
      exact List.getLastD_mem_cons
  | some disk =>
    rw [Option.getD_some]
    have member := List.mem_of_getElem? found
    rcases List.mem_cons.mp member with same | member
    · exact .inl same
    · exact .inr member

namespace System

def Sturdy : System → Prop
  | .down disk => disk.Aligned anyCheckpoint
  | .up core => core.Sturdy

/-- A command leaves a process that served it, or a directory on the way there. -/
theorem serve_cases (core : DaemonCore) (event : Event) (command : Command) :
    serve core event command = .up ((core.enter event.env.io).exec event.env.now command).1 ∨
      ∃ disk, serve core event command = .down disk ∧
        (disk = core.disk ∨ disk ∈ ((core.enter event.env.io).exec event.env.now command).1.writes) := by
  unfold serve
  dsimp only
  split
  · exact .inl rfl
  · exact .inr ⟨_, rfl, Disk.afterCrash_mem _ _ _⟩

/-- Stopping writes the manifest alone, wherever it is cut short. -/
theorem halt_files {core : DaemonCore} {store : Store} (held : core.store = some store) (event : Event) :
    ∃ disk, halt core event = .down disk ∧ disk.wal = store.disk.wal ∧
      disk.checkpoint = store.disk.checkpoint := by
  have entered : (core.enter event.env.io).store = some { store with io := event.env.io, trail := [] } := by
    simp only [DaemonCore.enter, held, Option.map_some]
  have here : core.disk = store.disk := by simp only [DaemonCore.disk, held]
  have stopped : ∃ final, ((core.enter event.env.io).stop event.env.now).1.store = some final ∧
      final.disk.wal = store.disk.wal ∧ final.disk.checkpoint = store.disk.checkpoint ∧
      ∀ disk ∈ final.trail, disk.wal = store.disk.wal ∧ disk.checkpoint = store.disk.checkpoint := by
    unfold DaemonCore.stop
    split
    · exact ⟨_, entered, rfl, rfl, by simp⟩
    · simp only [entered]
      obtain ⟨next, kept, disk, trail⟩ :=
        Store.markCleanShutdown_keepsFiles { store with io := event.env.io, trail := [] } event.env.now
      obtain ⟨added, extended, files⟩ := kept.trail
      refine ⟨_, rfl, ?_, ?_, ?_⟩
      · rw [disk, kept.wal]
      · rw [disk, kept.checkpoint]
      · intro crash member
        rw [trail, extended] at member
        exact files crash (by simpa using member)
  obtain ⟨final, left, wal, file, crashes⟩ := stopped
  have writes : ((core.enter event.env.io).stop event.env.now).1.writes = final.trail := by
    simp only [DaemonCore.writes, left]
  unfold halt
  dsimp only
  split
  · exact ⟨_, rfl, by simp only [DaemonCore.disk, left, wal], by simp only [DaemonCore.disk, left, file]⟩
  · rename_i count _
    refine ⟨_, rfl, ?_⟩
    rcases Disk.afterCrash_mem core.disk ((core.enter event.env.io).stop event.env.now).1.writes count with
      same | member
    · rw [same, here]
      exact ⟨rfl, rfl⟩
    · rw [writes] at member
      rw [writes]
      exact crashes _ member

/-- Whatever a start leaves, the log has at most gained records of what the rack is made of. -/
theorem boot_leaves {config : DaemonConfig} (backed : config.storeDirectory ≠ []) {disk : Disk} {event : Event}
    (quiet : event.env.io = []) {fits : LifecycleState → List StoreRecord → Prop} (aligned : disk.Aligned fits)
    (grows : ∀ record, record.isPlain = true → ∀ state rest, fits state rest → fits state (rest ++ [record]))
    {lifecycle : LifecycleState} (fresh : fits lifecycle []) :
    ∃ plain, (∀ record ∈ plain, record.isPlain = true) ∧ (boot config disk event).log = disk.log ++ plain ∧
      match boot config disk event with
      | .down disk => disk.Aligned fits
      | .up core => ∃ store, core.store = some store ∧ store.Aligned fits := by
  have unchanged : ∃ plain, (∀ record ∈ plain, record.isPlain = true) ∧ (System.down disk).log = disk.log ++ plain ∧
      disk.Aligned fits := ⟨[], by simp, by simp [log, System.disk], aligned⟩
  have files := DaemonCore.start_files backed disk quiet lifecycle
  unfold boot
  cases starting : (DaemonCore.create config).start disk event.env with
  | mk core result =>
    rw [starting] at files
    dsimp only at files ⊢
    rcases files with ⟨unopened, failed⟩ | ⟨first, last, final, plain, read, kept, isPlain, wrote, held⟩
    · have writes : core.writes = [] := by simp only [DaemonCore.writes, unopened]
      rw [writes, failed, unopened]
      split
      · rename_i count _
        rcases Disk.afterCrash_mem disk [] count with same | member
        · rw [same]
          exact unchanged
        · cases member
      · exact unchanged
    · obtain ⟨opened, log⟩ := read.aligned aligned
      have before := kept.log.trans log
      have grow : ∀ record ∈ plain, ∀ state rest, fits state rest → fits state (rest ++ [record]) :=
        fun record member => grows record (isPlain record member)
      have extended := wrote.extends_ (kept.io read.io)
      obtain ⟨ends, crashes⟩ := wrote.aligned (kept.io read.io) (kept.aligned opened) grow fresh
      have after : core.disk = final.disk := by simp only [DaemonCore.disk, held]
      have writes : core.writes = final.trail := by simp only [DaemonCore.writes, held]
      have whole : final.disk.log = disk.log ++ plain := by rw [extended.log, before]
      -- a directory in the trail is one that opening left, or one that composing left
      have earlier : ∀ crash ∈ last.trail, crash.Aligned fits ∧ crash.log = disk.log := by
        intro crash member
        obtain ⟨added, trail, files⟩ := kept.trail
        rw [trail, read.trail] at member
        rcases List.mem_append.mp member with member | member
        · rw [List.mem_singleton] at member
          rw [member]
          exact ⟨opened.disk, log⟩
        · obtain ⟨wal, file⟩ := files crash member
          refine ⟨Store.aligned_of_files opened.disk wal file, ?_⟩
          rw [Disk.log, wal, ← Disk.log, log]
      have trails : ∀ crash ∈ final.trail, crash.Aligned fits ∧ ∃ count, crash.log = disk.log ++ plain.take count := by
        intro crash member
        refine ⟨(crashes crash member).elim (fun old => (earlier crash old).1) id, ?_⟩
        obtain ⟨added, trail, extends_⟩ := extended.trail
        rw [trail] at member
        rcases List.mem_append.mp member with member | member
        · exact ⟨0, by simp [(earlier crash member).2]⟩
        · obtain ⟨count, crashed⟩ := extends_ crash member
          exact ⟨count, by rw [crashed, before]⟩
      split
      · rename_i count _
        rw [writes]
        rcases Disk.afterCrash_mem disk final.trail count with same | member
        · rw [same]
          exact unchanged
        · obtain ⟨fit, count, crashed⟩ := trails _ member
          exact ⟨plain.take count, fun record member => isPlain record (List.mem_of_mem_take member), crashed, fit⟩
      · split
        · refine ⟨plain, isPlain, ?_, final, held, ends⟩
          simp only [System.log, System.disk, after, whole]
        · rw [held]
          refine ⟨plain, isPlain, ?_, ?_⟩
          · simp only [System.log, System.disk, Option.isSome_some, if_true, after, whole]
          · simp only [Option.isSome_some, if_true, after]
            exact ends.disk

/-- One step of a run without failing writes keeps the store in order and only adds to the log. -/
theorem step_sturdy {config : DaemonConfig} (backed : config.storeDirectory ≠ []) {system : System} {event : Event}
    (quiet : event.env.io = []) (sturdy : system.Sturdy) :
    (step config system event).Sturdy ∧ ∃ records, (step config system event).log = system.log ++ records := by
  cases system with
  | down disk =>
    have here : disk.Aligned anyCheckpoint := sturdy
    cases action : event.action with
    | command command | stop | crash =>
      simp only [step, action]
      exact ⟨here, [], by simp⟩
    | start =>
      have same : step config (.down disk) event = boot config disk event := by simp only [step, action]
      obtain ⟨plain, -, log, left⟩ := boot_leaves backed quiet here (fun _ _ _ _ _ => trivial)
        (show anyCheckpoint .assembling [] from trivial)
      rw [same]
      refine ⟨?_, plain, log⟩
      cases booted : boot config disk event with
      | down left_ =>
        rw [booted] at left
        exact left
      | up core =>
        rw [booted] at left
        obtain ⟨recovered, recovering, rfl⟩ := boot_up booted
        exact ⟨(boot_stands booted).1, (boot_stands booted).2, (DaemonCore.recover_composedUnder recovering).1, left⟩
  | up core =>
    have running : core.Sturdy := sturdy
    obtain ⟨store, held, aligned⟩ := running.store
    have here : core.disk = store.disk := by simp only [DaemonCore.disk, held]
    cases action : event.action with
    | command command =>
      have same : step config (.up core) event = serve core event command := by simp only [step, action]
      obtain ⟨lifecycle, records, logs⟩ := DaemonCore.exec_logs running event.env.now command
      obtain ⟨log, left, crashes⟩ := logs.leaves
        (fun other found => by rw [held] at found; cases found; exact aligned) (fun _ _ _ _ _ => trivial) trivial
      rw [same]
      have cases_ := serve_cases core event command
      rw [quiet] at cases_
      rcases cases_ with served | ⟨disk, crashed, rfl | member⟩
      · rw [served]
        have calls := DaemonCore.exec_calls (core.enter []) event.env.now command
        have keyed := calls.keyed (DaemonCore.enter_sturdy running).1
        have settled := calls.settled running.keyed running.settled
        have valid := DaemonCore.exec_valid (DaemonCore.enter_sturdy running).2 event.env.now command
        exact ⟨⟨keyed, settled, valid, left⟩, records, log⟩
      · rw [crashed, here]
        refine ⟨aligned.disk, [], ?_⟩
        simp only [System.log, System.disk, here, List.append_nil]
      · rw [crashed]
        obtain ⟨fit, count, extended⟩ := crashes disk member
        exact ⟨fit, records.take count, extended⟩
    | stop =>
      have same : step config (.up core) event = halt core event := by simp only [step, action]
      obtain ⟨disk, halted, wal, file⟩ := halt_files held event
      rw [same, halted]
      refine ⟨Store.aligned_of_files aligned.disk wal file, [], ?_⟩
      simp only [System.log, System.disk, here, Disk.log, wal, List.append_nil]
    | crash =>
      simp only [step, action]
      refine ⟨?_, [], by simp [System.log, System.disk]⟩
      rw [here]
      exact aligned.disk
    | start =>
      simp only [step, action]
      exact ⟨sturdy, [], by simp⟩

theorem after_sturdy {config : DaemonConfig} (backed : config.storeDirectory ≠ []) {events : List Event}
    (quiet : ∀ event ∈ events, event.env.io = []) : (after config events).Sturdy := by
  induction events using List.reverseRecOn with
  | nil =>
    intro checkpoint found
    cases found
  | append_singleton events event ih =>
    rw [after, Foundation.run_append]
    exact (step_sturdy backed (quiet event (by simp)) (ih (fun old member => quiet old (by simp [member])))).1

/-- A process that is up publishes a snapshot. -/
theorem after_valid (config : DaemonConfig) (events : List Event) {core : DaemonCore}
    (up : after config events = .up core) : core.snapshot.valid = true := by
  induction events using List.reverseRecOn generalizing core with
  | nil => cases up
  | append_singleton events event ih =>
    rw [after, Foundation.run_append] at up
    rcases step_up up with ⟨before, command, reached, -, -, rfl⟩ | ⟨reached, -⟩ | ⟨disk, -, -, booted⟩
    · have stands := ih reached
      have entered : (before.enter event.env.io).snapshot.valid = true := stands
      exact DaemonCore.exec_valid entered _ _
    · exact ih reached
    · obtain ⟨recovered, recovering, rfl⟩ := boot_up booted
      obtain ⟨opened, composed, -, composing, rfl⟩ := DaemonCore.recover_ok recovering
      exact (DaemonCore.composeLocked_composedUnder composing).1

end System

end RackFabric
