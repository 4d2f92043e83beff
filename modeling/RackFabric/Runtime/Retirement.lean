import RackFabric.Runtime.QuietRun
import RackFabric.Runtime.RecoveryGate

/-!
Retirement. A retired rack stays retired in memory and on record; a start on a cleanly closed store of a retired
rack refuses to compose and so never comes up, but a start after an unclean shutdown comes up in recovery.
-/

namespace RackFabric

open DaemonCore

/-- Replaying these records from this lifecycle ends in retirement. -/
def EndsRetired (state : LifecycleState) (records : List StoreRecord) : Prop :=
  lifecycleAfter state records = .retired

/-- A record that does not lead a retired rack back. -/
def KeepsRetired (record : StoreRecord) : Prop :=
  ∀ state rest, EndsRetired state rest → EndsRetired state (rest ++ [record])

theorem lifecycleAfter_snoc (state : LifecycleState) (records : List StoreRecord) (record : StoreRecord) :
    lifecycleAfter state (records ++ [record]) =
      match record with
      | .lifecycle body => body.state
      | _ => lifecycleAfter state records := by
  unfold lifecycleAfter
  rw [List.foldl_append]
  cases record <;> rfl

theorem keepsRetired_of_kind {record : StoreRecord} (kind : record.isPlain = true ∨ record.isAuthority = true) :
    KeepsRetired record := by
  intro state rest ends
  unfold EndsRetired
  rw [lifecycleAfter_snoc]
  cases record with
  | lifecycle body => rcases kind with plain | authority <;> contradiction
  | _ => exact ends

theorem keepsRetired_of_retired (generation epoch : UInt64) :
    KeepsRetired (.lifecycle ⟨.retired, generation, epoch⟩) := by
  intro state rest _
  unfold EndsRetired
  rw [lifecycleAfter_snoc]

theorem endsRetired_append {state : LifecycleState} {records more : List StoreRecord}
    (ends : EndsRetired state records) (keeps : ∀ record ∈ more, KeepsRetired record) :
    EndsRetired state (records ++ more) := by
  induction more using List.reverseRecOn with
  | nil => simpa using ends
  | append_singleton more last ih =>
    rw [← List.append_assoc]
    exact keeps last (by simp) state _ (ih (fun record member => keeps record (by simp [member])))

/-- The lifecycle on record is what the checkpoint and the log after it lead to, and both lead to retirement. -/
theorem recordedLifecycle_retired {disk : Disk} (aligned : disk.Aligned EndsRetired)
    (ends : EndsRetired .assembling disk.log) : recordedLifecycle disk = .retired := by
  unfold recordedLifecycle
  split
  · rename_i present
    exact aligned.splits.2 present
  · rename_i unused
    rcases disk.usedCheckpoint_cases with none | ⟨checkpoint, -, used⟩
    · have whole := aligned.splits.1
      rw [none] at whole
      have covered : (splitLog {} ({} : Checkpoint).walOffset disk.log).1 = [] :=
        congrArg Prod.fst (splitLog_boundary {} [] disk.log)
      rw [covered, List.nil_append] at whole
      rw [whole]
      exact ends
    · rw [used] at unused
      exact absurd rfl unused

namespace DaemonCore

/-- A process of a retired rack. -/
structure RetiredCore (core : DaemonCore) : Prop where
  sturdy : core.Sturdy
  lifecycle : core.lifecycle = .retired
  ended : core.grants.Ended
  store : ∀ store, core.store = some store → store.Aligned EndsRetired
  log : EndsRetired .assembling core.log

/-- A retired rack allows no lifecycle command but to retire again. -/
theorem transition_from_retired {target : LifecycleState}
    (allowed : lifecycleTransitionAllowed .retired target = true) : target = .retired := by
  unfold lifecycleTransitionAllowed at allowed
  split at allowed
  · rename_i same
    exact same.symm
  · simp at allowed

/-- What a command of a retired rack logs, and where it leaves the process. -/
theorem exec_retired {core : DaemonCore} (retired : core.RetiredCore) (now : UInt64) (command : Command) :
    ∃ records, (∀ record ∈ records, KeepsRetired record) ∧
      Logs .retired (core.enter []) records ((core.enter []).exec now command).1 ∧
      ((core.enter []).exec now command).1.lifecycle = .retired ∧
      ((core.enter []).exec now command).1.grants.Ended := by
  have quiet := enter_quiet retired.sturdy
  have here : (core.enter []).lifecycle = .retired := retired.lifecycle
  by_cases transition : ∃ target, command = .setLifecycle target
  · obtain ⟨target, rfl⟩ := transition
    have same : ((core.enter []).exec now (.setLifecycle target)).1 = ((core.enter []).setLifecycle now target).1 := rfl
    rw [same]
    cases allowed : lifecycleTransitionAllowed (core.enter []).lifecycle target with
    | false =>
      rw [setLifecycle_refused allowed]
      exact ⟨[], by simp, quiet.logs_nothing _ rfl, retired.lifecycle, retired.ended⟩
    | true =>
      obtain rfl : target = .retired := transition_from_retired (here ▸ allowed)
      have kept := transitionLifecycleLocked_keeps (core.enter []) now .retired
      have grants := setLifecycle_grants (core.enter []) now .retired
      rw [if_pos allowed] at grants
      have fenced : ((core.enter []).setLifecycle now .retired).1.grants =
          core.grants.fenceAll (text "the rack was retired") := grants
      have lifecycle : ((core.enter []).setLifecycle now .retired).1.lifecycle = .retired := by
        rw [setLifecycle_moves allowed]
        exact kept.lifecycle
      have ended : ((core.enter []).setLifecycle now .retired).1.grants.Ended := by
        rw [fenced]
        exact GrantRegistry.fenceAll_ended retired.sturdy.keyed retired.sturdy.settled _
      obtain ⟨plain, isPlain, ⟨-, serves⟩ | ⟨generation, epoch, logs⟩⟩ := setLifecycle_logs quiet now allowed
      · rcases serves with serves | serves <;> cases serves
      · refine ⟨_, ?_, logs, lifecycle, ended⟩
        intro record member
        rcases List.mem_append.mp member with member | member
        · exact keepsRetired_of_kind (.inl (isPlain record member))
        · rw [List.mem_singleton] at member
          rw [member]
          exact keepsRetired_of_retired generation epoch
  · have other : ∀ target, command ≠ .setLifecycle target := fun target same => transition ⟨target, same⟩
    obtain ⟨records, logs, kinds, -⟩ := exec_serves quiet retired.sturdy.keyed retired.sturdy.valid now command other
    have kept := exec_keeps (core.enter []) now command other
    rw [here] at logs
    refine ⟨records, fun record member => keepsRetired_of_kind (kinds record member), logs,
      kept.lifecycle.trans retired.lifecycle, ?_⟩
    have calls := kept.calls
    rw [here] at calls
    exact GrantRegistry.Calls.ended calls retired.sturdy.keyed retired.ended

/-- A retirement composes nothing: it is logged, and a checkpoint may follow. -/
theorem setLifecycle_retired_logs {core : DaemonCore} {store : Store} (held : core.store = some store)
    (quiet : store.io = []) (options : store.options = {}) (now : UInt64)
    (allowed : lifecycleTransitionAllowed core.lifecycle .retired = true) :
    ∃ (record : LifecycleRecord) (middle : DaemonCore), record.state = .retired ∧ middle.lifecycle = .retired ∧
      middle.store = some (store.appended (.lifecycle record)) ∧
      (core.setLifecycle now .retired).1 = middle.maybeCheckpointLocked.1 := by
  obtain ⟨writer, encoded⟩ := lifecycle_loggable ⟨.retired, core.generation, core.epoch⟩
  rcases Store.append_cases quiet (.lifecycle ⟨.retired, core.generation, core.epoch⟩) with
    ⟨-, -, appended⟩ | ⟨status, failed, -⟩
  · have here : (core.enterLifecycle .retired).store = some store := held
    refine ⟨_, { core.enterLifecycle .retired with store := some (store.appended
      (.lifecycle ⟨.retired, core.generation, core.epoch⟩)) }, rfl, rfl, rfl, ?_⟩
    have append : (core.enterLifecycle .retired).appendLocked
        (.lifecycle ⟨.retired, core.generation, core.epoch⟩) = ({ core.enterLifecycle .retired with
          store := some (store.appended (.lifecycle ⟨.retired, core.generation, core.epoch⟩)) }, .ok ()) := by
      simp only [appendLocked, here, appended]
    have serves : (core.enterLifecycle .retired).serveLifecycle now core.lifecycle .retired =
        (core.enterLifecycle .retired, .ok ()) := by
      simp [serveLifecycle]
    have counters : (core.enterLifecycle .retired).generation = core.generation ∧
        (core.enterLifecycle .retired).epoch = core.epoch := ⟨rfl, rfl⟩
    rw [setLifecycle_moves allowed]
    simp only [transitionLifecycleLocked, serves, counters.1, counters.2, append]
  · rw [options, encoded] at failed
    cases failed

/-- A retirement that meets no failing write leaves nothing live and is on record. -/
theorem setLifecycle_retired {core : DaemonCore} (sturdy : core.Sturdy) (now : UInt64)
    (allowed : lifecycleTransitionAllowed core.lifecycle .retired = true) :
    ((core.enter []).setLifecycle now .retired).1.lifecycle = .retired ∧
      ((core.enter []).setLifecycle now .retired).1.grants.Ended ∧
      (∀ store, ((core.enter []).setLifecycle now .retired).1.store = some store → store.Aligned EndsRetired) ∧
      EndsRetired .assembling ((core.enter []).setLifecycle now .retired).1.log := by
  have grants := setLifecycle_grants (core.enter []) now .retired
  have enters : lifecycleTransitionAllowed (core.enter []).lifecycle .retired = true := allowed
  rw [if_pos enters] at grants
  have fenced : ((core.enter []).setLifecycle now .retired).1.grants =
      core.grants.fenceAll (text "the rack was retired") := grants
  have kept := transitionLifecycleLocked_keeps (core.enter []) now .retired
  obtain ⟨store, held, aligned⟩ := sturdy.store
  have entered : (core.enter []).store = some { store with io := [], trail := [] } := by
    simp only [enter, held, Option.map_some]
  obtain ⟨record, middle, state, retired, stored, final⟩ :=
    setLifecycle_retired_logs entered rfl aligned.options now enters
  -- the log ends with the retirement, so every checkpoint already there is followed by it
  have ends : ∀ other records, EndsRetired other (records ++ [.lifecycle record]) := by
    intro other records
    unfold EndsRetired
    rw [lifecycleAfter_snoc, ← state]
  have fits : Store.Aligned EndsRetired (Store.appended { store with io := [], trail := [] } (.lifecycle record)) :=
    Store.appended_aligned
      (show Store.Aligned anyCheckpoint _ from ⟨aligned.options, aligned.logBytes, aligned.disk⟩)
      (fun other records _ => ends other records)
  have still : middle.Quiet := ⟨_, stored, rfl, aligned.options⟩
  obtain ⟨first, last, started, finished, wrote⟩ := maybeCheckpointLocked_logs still
  rw [stored] at started
  cases started
  rw [retired] at wrote
  refine ⟨?_, ?_, ?_, ?_⟩
  · rw [setLifecycle_moves enters]
    exact kept.lifecycle
  · rw [fenced]
    exact GrantRegistry.fenceAll_ended sturdy.keyed sturdy.settled _
  · intro other found
    rw [final, finished] at found
    cases found
    exact (wrote.aligned rfl fits (by simp) rfl).1
  · have log : ((core.enter []).setLifecycle now .retired).1.log = store.disk.log ++ [.lifecycle record] := by
      rw [final]
      simp only [DaemonCore.log, DaemonCore.disk, finished, (wrote.extends_ rfl).log, List.append_nil]
      rfl
    rw [log]
    exact ends .assembling _

end DaemonCore

namespace System

def RetiredHere : System → Prop
  | .down disk => disk.Aligned EndsRetired ∧ EndsRetired .assembling disk.log
  | .up core => core.RetiredCore

/-- A start, if the event is one, finds a store that was closed cleanly. -/
def StartsClean (system : System) (event : Event) (_ : System) : Prop :=
  match system, event.action with
  | .down disk, .start => disk.unclean = false
  | _, _ => True

instance (next : System) : ∀ system event, Decidable (StartsClean system event next)
  | .down disk, ⟨.start, _, _⟩ => inferInstanceAs (Decidable (disk.unclean = false))
  | .down _, ⟨.command _, _, _⟩ | .down _, ⟨.stop, _, _⟩ | .down _, ⟨.crash, _, _⟩ | .up _, _ => .isTrue trivial

/-- A start on the cleanly closed store of a retired rack does not come up. -/
theorem boot_retired {config : DaemonConfig} (backed : config.storeDirectory ≠ []) {disk : Disk} {event : Event}
    (quiet : event.env.io = []) (aligned : disk.Aligned EndsRetired) (ends : EndsRetired .assembling disk.log)
    (clean : disk.unclean = false) : (boot config disk event).RetiredHere := by
  obtain ⟨plain, isPlain, log, left⟩ := boot_leaves backed quiet aligned
    (fun record plain => keepsRetired_of_kind (.inl plain)) (show EndsRetired .retired [] from rfl)
  have still : EndsRetired .assembling (boot config disk event).log := by
    rw [log]
    exact endsRetired_append ends (fun record member => keepsRetired_of_kind (.inl (isPlain record member)))
  cases booted : boot config disk event with
  | down next =>
    rw [booted] at left still
    exact ⟨left, still⟩
  | up core =>
    obtain ⟨recovered, recovering, rfl⟩ := boot_up booted
    have composes := (recover_recovers backed recovering).composes
    have lifecycle : bootLifecycle disk = .retired := by
      simp [bootLifecycle, clean, recordedLifecycle_retired aligned ends]
    rw [lifecycle] at composes
    cases composes

theorem step_retired {config : DaemonConfig} (backed : config.storeDirectory ≠ []) {system : System} {event : Event}
    (quiet : event.env.io = []) (retired : system.RetiredHere)
    (clean : StartsClean system event (step config system event)) : (step config system event).RetiredHere := by
  cases system with
  | down disk =>
    obtain ⟨aligned, ends⟩ : disk.Aligned EndsRetired ∧ EndsRetired .assembling disk.log := retired
    cases action : event.action with
    | command command | stop | crash =>
      simp only [step, action]
      exact ⟨aligned, ends⟩
    | start =>
      simp only [StartsClean, action] at clean
      simp only [step, action]
      exact boot_retired backed quiet aligned ends clean
  | up core =>
    have running : core.RetiredCore := retired
    obtain ⟨sturdy, -⟩ := step_sturdy backed quiet (show (System.up core).Sturdy from running.sturdy)
    obtain ⟨store, held, -⟩ := running.sturdy.store
    have aligned := running.store store held
    have here : core.disk = store.disk := by simp only [DaemonCore.disk, held]
    have ends : EndsRetired .assembling store.disk.log := by
      rw [← here]
      exact running.log
    cases action : event.action with
    | command command =>
      have same : step config (.up core) event = serve core event command := by simp only [step, action]
      rw [same] at sturdy ⊢
      obtain ⟨records, keeps, logs, lifecycle, ended⟩ := exec_retired running event.env.now command
      obtain ⟨log, left, crashes⟩ := logs.leaves running.store keeps rfl
      have cases_ := serve_cases core event command
      rw [quiet] at cases_
      rcases cases_ with served | ⟨disk, crashed, rfl | member⟩
      · rw [served] at sturdy ⊢
        obtain ⟨final, finished, fit⟩ := left
        refine ⟨sturdy, lifecycle, ended, ?_, ?_⟩
        · intro other found
          rw [finished] at found
          cases found
          exact fit
        · rw [log]
          exact endsRetired_append running.log keeps
      · rw [crashed, here]
        exact ⟨aligned.disk, ends⟩
      · rw [crashed]
        obtain ⟨fit, count, extended⟩ := crashes disk member
        refine ⟨fit, ?_⟩
        rw [extended]
        exact endsRetired_append running.log (fun record member => keeps record (List.mem_of_mem_take member))
    | stop =>
      have same : step config (.up core) event = halt core event := by simp only [step, action]
      obtain ⟨disk, halted, wal, file⟩ := halt_files held event
      rw [same, halted]
      refine ⟨Store.aligned_of_files aligned.disk wal file, ?_⟩
      rw [Disk.log, wal]
      exact ends
    | crash =>
      simp only [step, action]
      rw [here]
      exact ⟨aligned.disk, ends⟩
    | start =>
      simp only [step, action]
      exact running

/-- A command that retires the rack and is acknowledged. -/
def Retires (system : System) (event : Event) : Prop :=
  event.action = .command (.setLifecycle .retired) ∧
    match system.respond event with
    | some (.ok (.lifecycle response)) => response.code = .ok
    | _ => False

instance (system : System) (event : Event) : Decidable (Retires system event) := by
  unfold Retires
  cases system.respond event with
  | none => infer_instance
  | some answer =>
    cases answer with
    | error status => infer_instance
    | ok response => cases response <;> infer_instance

theorem retires_retired {config : DaemonConfig} (backed : config.storeDirectory ≠ []) {system : System} {event : Event}
    (quiet : event.env.io = []) (sturdy : system.Sturdy) (retires : system.Retires event) :
    (step config system event).RetiredHere := by
  obtain ⟨action, acknowledged⟩ := retires
  cases system with
  | down disk => simp [respond] at acknowledged
  | up core =>
    have running : core.Sturdy := sturdy
    have next := (step_sturdy backed quiet sturdy).1
    cases cut : event.cut with
    | some count => simp [respond, action, cut] at acknowledged
    | none =>
      have served : step config (.up core) event =
          .up ((core.enter []).setLifecycle event.env.now .retired).1 := by
        simp only [step, action, serve, cut, quiet]
        rfl
      have answered : ((core.enter []).setLifecycle event.env.now .retired).2.code = .ok := by
        simpa [respond, action, cut, quiet, DaemonCore.exec] using acknowledged
      have allowed : lifecycleTransitionAllowed core.lifecycle .retired = true := by
        cases refused : lifecycleTransitionAllowed core.lifecycle .retired with
        | true => rfl
        | false =>
          have entered : lifecycleTransitionAllowed (core.enter []).lifecycle .retired = false := refused
          simp [DaemonCore.setLifecycle, entered] at answered
      obtain ⟨lifecycle, ended, store, log⟩ := setLifecycle_retired running event.env.now allowed
      rw [served] at next ⊢
      exact ⟨next, lifecycle, ended, store, log⟩

/-- The rack is retired, nothing is granted and no lease validates. -/
def RetiredFor (env : Env) (request : AcquireRequest) (token : LeaseToken) : System → Prop
  | .down _ => True
  | .up core =>
    core.lifecycle = .retired ∧ core.GrantsNothingNew env request ∧
      (match ((core.enter env.io).acquire env.now request).2 with
        | .error _ => True
        | .ok response => response.code = .ok → isTerminalState response.grant.state = true) ∧
      (match ((core.enter env.io).validate env.now token).2 with
        | .error _ => True
        | .ok response => response.code ≠ .ok)

structure Retired (system : System) : Prop where
  stays : ∀ env request token, system.RetiredFor env request token

theorem RetiredHere.retired {system : System} (here : system.RetiredHere) : system.Retired := by
  refine ⟨fun env request token => ?_⟩
  cases system with
  | down disk => trivial
  | up core =>
    have running : core.RetiredCore := here
    have keyed := running.sturdy.keyed
    have closed : lifecycleAcceptsNewAuthority core.lifecycle = false := by
      rw [running.lifecycle]
      rfl
    have entered : lifecycleAcceptsNewAuthority (core.enter env.io).lifecycle = false := closed
    have still : (core.enter env.io).grants.Keyed := keyed
    obtain ⟨-, answers⟩ := acquire_closed still entered env.now request
    refine ⟨running.lifecycle, acquire_grantsNothingNew keyed closed env request, ?_, ?_⟩
    · split
      · trivial
      · rename_i response answered
        intro code
        obtain ⟨id, grant, found, same⟩ := answers response answered code
        have expired : (core.grants.expireDue env.now).1.Ended :=
          (GrantRegistry.Call.expireDue core.grants env.now : GrantRegistry.Call false _ _).ended keyed running.ended
        rw [same]
        exact expired id grant found
    · have valid : (core.enter env.io).snapshot.valid = true := running.sturdy.valid
      simp only [DaemonCore.validate, ensureSnapshotLocked_valid valid]
      cases checked : (core.enter env.io).grants.validate (core.enter env.io).snapshot token env.now with
      | error status => exact (GrantRegistry.checkLease_error checked).1
      | ok grant =>
        have facts := GrantRegistry.checkLease_ok checked
        have terminal := running.ended token.grant grant facts.1
        rw [(GrantRegistry.checkState_ok facts.2.2.1).1] at terminal
        cases terminal

/-- Once a retirement is acknowledged, and as long as every later start finds a cleanly closed store, the rack
stays retired. -/
theorem retired_while_starts_clean (config : DaemonConfig) (backed : config.storeDirectory ≠ [])
    (earlier later : List Event) (retirement : Event)
    (quiet : ∀ event ∈ earlier ++ retirement :: later, event.env.io = [])
    (retires : (after config earlier).Retires retirement)
    (clean : Foundation.Along (step config) StartsClean (after config (earlier ++ [retirement])) later) :
    (after config (earlier ++ retirement :: later)).Retired := by
  have sturdy : (after config earlier).Sturdy :=
    after_sturdy backed (fun event member => quiet event (by simp [member]))
  have first : (after config (earlier ++ [retirement])).RetiredHere := by
    rw [after, Foundation.run_append]
    exact retires_retired backed (quiet retirement (by simp)) sturdy retires
  have whole : after config (earlier ++ retirement :: later) =
      Foundation.run (step config) (after config (earlier ++ [retirement])) later := by
    rw [after, after, ← Foundation.run_append, List.append_assoc]
    rfl
  rw [whole]
  apply RetiredHere.retired
  refine clean.invariant_of_mem first ?_
  intro system event member here clean
  exact step_retired backed (quiet event (by simp [member])) here clean

/-- A rack that is retired. -/
def assembledRun : List Event :=
  [.start 0, .call 1 (.setLifecycle .active), .call 2 (.acquire (wholeRack 1))]

def retirement : Event :=
  .call 3 (.setLifecycle .retired)

/-- What is still asked of it: another lease, a way back, a checkpoint. -/
def afterRetirement : List Event :=
  [.call 4 (.acquire (wholeRack 2)), .call 5 (.setLifecycle .active), .call 6 .checkpoint]

theorem retired_while_running :
    (after loneRack (assembledRun ++ retirement :: afterRetirement)).lifecycle = some .retired ∧
      (after loneRack (assembledRun ++ retirement :: afterRetirement)).Retired :=
  ⟨by decide +kernel, retired_while_starts_clean loneRack loneRack_backed assembledRun afterRetirement retirement
    (by decide +kernel) (by decide +kernel) (by decide +kernel)⟩

/-- A retired rack that crashes comes back in recovery. -/
theorem not_retired_after_crash :
    ¬ ∀ (config : DaemonConfig) (earlier later : List Event) (retirement : Event),
      config.storeDirectory ≠ [] → (∀ event ∈ earlier ++ retirement :: later, event.env.io = []) →
      (after config earlier).Retires retirement → (after config (earlier ++ retirement :: later)).Retired := by
  intro retired
  have stays := retired loneRack assembledRun [.crash, .start 4] retirement loneRack_backed (by decide +kernel)
    (by decide +kernel)
  have back : (after loneRack (assembledRun ++ retirement :: [.crash, .start 4])).lifecycle = some .recovering := by
    decide +kernel
  generalize after loneRack (assembledRun ++ retirement :: [.crash, .start 4]) = system at stays back
  cases system with
  | down disk => cases back
  | up core =>
    have lifecycle := (stays.stays { now := 5 } (wholeRack 1) ⟨0, 0, 0, .zero⟩).1
    simp only [System.lifecycle, lifecycle] at back
    cases back

end System

end RackFabric
