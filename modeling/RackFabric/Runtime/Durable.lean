import Mathlib.Data.List.Infix
import RackFabric.Compose.CapacityLedger
import RackFabric.Persist.Retained
import RackFabric.Runtime.LedgerRecovery

/-!
Answers that outlive the process. Whatever the disk answers, a positive answer is given only once everything it speaks
for is on the log, and nothing is taken off the log while the process lives or when it dies.
-/

namespace RackFabric

namespace DaemonCore

/-- The log begins with what is there by now; a crash of this call leaves at least what was there before it. -/
def Retains (past present : List StoreRecord) (core : DaemonCore) : Prop :=
  ∃ store, core.store = some store ∧ store.Retains past present

variable {past present : List StoreRecord} {core before after : DaemonCore}

theorem Retains.append (retains : core.Retains past present) (record : StoreRecord) :
    (core.appendLocked record).1.Retains past present := by
  obtain ⟨store, held, kept⟩ := retains
  refine ⟨(store.append record).1, ?_, kept.append record⟩
  simp only [appendLocked, held]

/-- A step of a call takes nothing off the log. -/
theorem Books.retains (books : Books before after) (retains : before.Retains past present) :
    after.Retains past present := by
  induction books with
  | keep ledger store =>
    obtain ⟨held, found, kept⟩ := retains
    exact ⟨held, store.trans found, kept⟩
  | log => exact retains.append _
  | @refuse before after record status failed =>
    have appended := retains.append (.evidence record)
    rwa [failed] at appended
  | @accept before logged record valid done =>
    have appended := retains.append (.evidence record)
    rw [done] at appended
    exact appended
  | @checkpoint before store held =>
    obtain ⟨same, found, kept⟩ := retains
    rw [held] at found
    cases found
    unfold checkpointLocked
    split
    · exact ⟨store, held, kept⟩
    · exact ⟨_, rfl, kept.writeCheckpoint _⟩
  | trans _ _ first second => exact second (first retains)

theorem Retains.onLog (retains : core.Retains past present) : present <+: core.log := by
  obtain ⟨store, held, kept⟩ := retains
  rw [log_of_store held]
  exact kept.log

/-- By now there is what is on the log. -/
theorem Retains.now (retains : core.Retains past present) : core.Retains past core.log := by
  have grown := retains.onLog
  obtain ⟨store, held, kept⟩ := retains
  refine ⟨store, held, kept.since.trans grown, ?_, kept.trail⟩
  rw [log_of_store held]

/-- What is on the log stays on it through the steps of a call. -/
theorem Books.stays (books : Books before after) (retains : before.Retains past present) {record : StoreRecord}
    (logged : record ∈ before.log) : record ∈ after.log :=
  (books.retains retains.now).onLog.subset logged

/-- A process that has a store. -/
def Backed (core : DaemonCore) : Prop :=
  ∃ store, core.store = some store

theorem Retains.backed (retains : core.Retains past present) : core.Backed := by
  obtain ⟨store, held, -⟩ := retains
  exact ⟨store, held⟩

theorem Backed.books (backed : before.Backed) (books : Books before after) : after.Backed := by
  obtain ⟨store, held⟩ := backed
  have kept : before.Retains [] [] := ⟨store, held, List.prefix_rfl, List.nil_prefix, fun _ _ => List.nil_prefix⟩
  exact (books.retains kept).backed

theorem Backed.enter (backed : core.Backed) (io : List IoOutcome) : (core.enter io).Retains core.log core.log := by
  obtain ⟨store, held⟩ := backed
  refine ⟨{ store with io := io, trail := [] }, by simp only [DaemonCore.enter, held, Option.map_some], List.prefix_rfl, ?_, ?_⟩
  · rw [log_of_store held]
  · intro crash member
    cases member

/-- An append that is reported as done is on the log. -/
theorem Retains.logged (retains : core.Retains past present) {next : DaemonCore} {record : StoreRecord}
    (done : core.appendLocked record = (next, .ok ())) : next.Retains past present ∧ record ∈ next.log := by
  have appended := retains.append record
  obtain ⟨store, held, -⟩ := retains
  rw [done] at appended
  refine ⟨appended, ?_⟩
  simp only [appendLocked, held, Prod.mk.injEq] at done
  obtain ⟨rfl, succeeded⟩ := done
  have whole : store.append record = ((store.append record).1, .ok ()) := Prod.ext rfl succeeded
  have written := Store.append_logged whole
  rwa [log_of_store rfl]

theorem commitGrant_logged (retains : core.Retains past present) {request : RequestId} {grant : Grant}
    {next : DaemonCore} (done : core.commitGrant request grant = (next, .ok ())) :
    next.Retains past present ∧ .grantCommit grant ∈ next.log ∧
      .requestOutcome (outcomeRecordOf request grant) ∈ next.log := by
  unfold commitGrant at done
  split at done
  · cases done
  · rename_i committed committing
    obtain ⟨kept, commit⟩ := retains.logged committing
    split at done
    · cases done
    · rename_i recorded recording
      cases done
      obtain ⟨again, outcome⟩ := kept.logged recording
      have stays := kept.now.append (.requestOutcome (outcomeRecordOf request grant))
      rw [recording] at stays
      exact ⟨again, stays.onLog.subset commit, outcome⟩

/-- A request is answered with a grant once the grant and the outcome are on the log. -/
theorem acquire_logged (retains : core.Retains past present) {now : UInt64} {request : AcquireRequest}
    {next : DaemonCore} {response : GrantResponse} (answered : core.acquire now request = (next, .ok response))
    (accepted : response.code = .ok) :
    ∃ grant, response = grantToResponse grant .ok ∧ .grantCommit grant ∈ next.log ∧
      .requestOutcome (outcomeRecordOf request.request grant) ∈ next.log := by
  have acquires := acquire_acquires core now request
  have prepared := (expireDueLocked_books core now).trans (ensureSnapshotLocked_books _)
  rw [answered] at acquires
  generalize served : (next, Except.ok response) = outcome at acquires
  cases acquires with
  | unready status failed => cases served
  | decided ready registry granted readied decides =>
    rw [readied] at prepared
    have decided : Books core { ready with grants := registry } := prepared.trans (.keep rfl rfl)
    cases granted with
    | error status =>
      cases served
      exact absurd accepted decides.error_code
    | ok grant =>
      rw [settleAcquire, concludeAcquire] at served
      split at served
      · cases served
      · rename_i committed committing
        cases served
        obtain ⟨kept, commit, outcome⟩ := commitGrant_logged (decided.retains retains) committing
        have checked := maybeCheckpointLocked_books committed
        exact ⟨grant, rfl, checked.stays kept commit, checked.stays kept outcome⟩

theorem renew_logged (retains : core.Retains past present) {now : UInt64} {token : LeaseToken} {ttlMs : UInt64}
    {next : DaemonCore} {response : GrantResponse} (answered : core.renew now token ttlMs = (next, .ok response))
    (accepted : response.code = .ok) :
    ∃ grant, response = grantToResponse grant .ok ∧ .grantCommit grant ∈ next.log := by
  have prepared := ensureSnapshotLocked_books core
  simp only [renew] at answered
  split at answered
  · cases answered
  · rename_i ready readied
    rw [readied] at prepared
    cases renewing : ready.grants.renew ready.snapshot token
        (if ttlMs = 0 then ready.config.defaultTtlMs else ttlMs) now with
    | mk registry renewed =>
      rw [renewing] at answered
      have decided : Books core { ready with grants := registry } := prepared.trans (.keep rfl rfl)
      cases renewed with
      | error status =>
        cases answered
        exact absurd accepted (GrantRegistry.renew_error renewing).2.1
      | ok grant =>
        dsimp only at answered
        split at answered
        · cases answered
        · rename_i committed committing
          cases answered
          obtain ⟨kept, commit⟩ := (decided.retains retains).logged committing
          exact ⟨grant, rfl, (maybeCheckpointLocked_books committed).stays kept commit⟩

theorem release_logged (retains : core.Retains past present) {token : LeaseToken} {next : DaemonCore}
    {response : AckResponse} (answered : core.release token = (next, .ok response)) (accepted : response.code = .ok) :
    ∃ reason, .grantState ⟨token.grant, .released, reason⟩ ∈ next.log := by
  unfold release at answered
  cases releasing : core.grants.release token with
  | mk registry released =>
    rw [releasing] at answered
    have decided : Books core { core with grants := registry } := .keep rfl rfl
    cases released with
    | error status =>
      cases answered
      unfold GrantRegistry.release at releasing
      split at releasing
      · cases releasing
        cases accepted
      · split at releasing
        · cases releasing
          cases accepted
        · split at releasing <;> cases releasing
    | ok _ =>
      dsimp only at answered
      split at answered
      · cases answered
      · rename_i marked marking
        cases answered
        obtain ⟨kept, state⟩ := (decided.retains retains).logged marking
        exact ⟨_, (maybeCheckpointLocked_books marked).stays kept state⟩

/-- What was accepted of a batch is on the log. -/
theorem offerBatch_logged (retains : core.Retains past present) (records : List EvidenceRecord) :
    ∀ offer ∈ records.zip (core.offerBatch records).2, offer.2.outcome ≠ .refused →
      .evidence offer.1 ∈ (core.offerBatch records).1.log := by
  induction records generalizing core with
  | nil =>
    intro offer member
    cases member
  | cons record rest ih =>
    have kept := (offerEvidence_books core record).retains retains
    intro offer member accepted
    rw [offerBatch, List.zip_cons_cons] at member
    rw [offerBatch]
    rcases List.mem_cons.mp member with rfl | later
    · refine (offerBatch_books _ rest).stays kept ?_
      unfold offerEvidence at accepted ⊢
      dsimp only at accepted ⊢
      split at accepted
      · exact absurd rfl accepted
      · split at accepted
        · exact absurd rfl accepted
        · split at accepted
          · exact absurd rfl accepted
          · rename_i logged done
            exact (retains.logged done).2
    · exact ih kept offer later accepted

theorem submitEvidence_logged (retains : core.Retains past present) {now : UInt64} {records : List EvidenceRecord}
    {next : DaemonCore} {entries : List EvidenceAckEntry}
    (answered : core.submitEvidence now records = (next, .ok entries)) :
    ∀ offer ∈ records.zip entries, offer.2.outcome ≠ .refused → .evidence offer.1 ∈ next.log := by
  unfold submitEvidence at answered
  split at answered
  · cases answered
  · split at answered
    · cases answered
    · dsimp only at answered
      cases answered
      intro offer member accepted
      have swept := (expireDueLocked_books core now).retains retains
      have offered := offerBatch_logged swept records offer member accepted
      have kept := (offerBatch_books _ records).retains swept
      split
      · have composed := composeLocked_books ((core.expireDueLocked now).offerBatch records).1
          ((core.expireDueLocked now).offerBatch records).1.generation
        exact (composed.trans (maybeCheckpointLocked_books _)).stays kept offered
      · exact (maybeCheckpointLocked_books _).stays kept offered

theorem compose_logged (retains : core.Retains past present) {generation : UInt64} {next : DaemonCore}
    {response : ComposeResponse} (answered : core.compose generation = (next, .ok response)) :
    generation ≤ core.generation ∨ .generation generation ∈ next.log := by
  unfold compose at answered
  split at answered
  · cases answered
  · split at answered
    · cases answered
    · split at answered
      · cases answered
      · rename_i advanced advancing
        by_cases later : generation > core.generation
        · right
          rw [advanceGeneration, if_pos later] at advancing
          split at advancing
          · cases advancing
          · rename_i logged done
            cases advancing
            obtain ⟨kept, step⟩ := retains.logged done
            have moved : Books logged { logged with generation := generation } := .keep rfl rfl
            have composed := moved.trans (composeLocked_books { logged with generation := generation } generation)
            dsimp only at answered
            split at answered
            · rename_i refusing
              cases answered
              rw [refusing] at composed
              exact composed.stays kept step
            · rename_i done
              cases answered
              rw [done] at composed
              exact (composed.trans (maybeCheckpointLocked_books _)).stays kept step
        · exact .inl (UInt64.not_lt.mp later)

/-- A record of the rack that is not taken is not taken for a reason. -/
theorem appendLocked_error {record : StoreRecord} {next : DaemonCore} {status : Status}
    (plain : ∀ writer, ∃ written, encodeStorePayload record writer = .ok written)
    (failed : core.appendLocked record = (next, .error status)) : status.code ≠ .ok := by
  unfold appendLocked at failed
  split at failed
  · cases failed
  · rename_i store held
    obtain ⟨-, result⟩ := Prod.mk.inj failed
    exact Store.append_error plain (Prod.ext rfl result)

theorem compose_error {ledger : EvidenceLedger} {rack : RackConfig} {input : ComposeInput} {status : Status}
    (failed : RackFabric.compose ledger rack input = .error status) : status.code ≠ .ok := by
  have known := compose_ensures ledger rack input
  rw [failed] at known
  intro fine
  rcases known with code | code | code <;> rw [fine] at code <;> cases code

theorem composeLocked_error {target : UInt64} {next : DaemonCore} {status : Status}
    (failed : core.composeLocked target = (next, .error status)) : status.code ≠ .ok := by
  unfold composeLocked at failed
  split at failed
  · cases failed
    simp
  · split at failed
    · rename_i refused
      cases failed
      exact compose_error refused
    · dsimp only at failed
      split at failed
      · cases failed
      · split at failed
        · unfold advanceEpoch at failed
          split at failed
          · cases failed
            simp
          · dsimp only at failed
            split at failed
            · rename_i refused
              cases failed
              exact appendLocked_error (fun _ => ⟨_, rfl⟩) refused
            · split at failed
              · rename_i refused
                cases failed
                exact compose_error refused
              · cases failed
        · cases failed

theorem setLifecycle_recorded (retains : core.Retains past present) {now : UInt64} {target : LifecycleState}
    (accepted : (core.setLifecycle now target).2.code = .ok) :
    ∃ generation epoch, .lifecycle ⟨target, generation, epoch⟩ ∈ (core.setLifecycle now target).1.log := by
  by_cases allowed : lifecycleTransitionAllowed core.lifecycle target = true
  · obtain ⟨grants, entered⟩ := enterLifecycle_eq core target
    have entering : Books core (core.enterLifecycle target) := by
      rw [entered]
      exact .keep rfl rfl
    have serving := entering.trans (serveLifecycle_books (core.enterLifecycle target) now core.lifecycle target)
    simp only [setLifecycle, allowed, Bool.not_true, Bool.false_eq_true, if_false, transitionLifecycleLocked]
      at accepted ⊢
    cases served : (core.enterLifecycle target).serveLifecycle now core.lifecycle target with
    | mk ready result =>
      rw [served] at accepted serving
      cases result with
      | error status =>
        dsimp only at accepted
        unfold serveLifecycle at served
        split at served
        · split at served
          · rename_i refused
            cases served
            exact absurd accepted (composeLocked_error refused)
          · cases served
        · cases served
      | ok _ =>
        dsimp only at accepted ⊢
        cases logging : ready.appendLocked (.lifecycle ⟨target, ready.generation, ready.epoch⟩) with
        | mk logged result =>
          rw [logging] at accepted
          cases result with
          | error status => exact absurd accepted (appendLocked_error (fun _ => ⟨_, rfl⟩) logging)
          | ok _ =>
            obtain ⟨kept, mark⟩ := (serving.retains retains).logged logging
            exact ⟨_, _, (maybeCheckpointLocked_books logged).stays kept mark⟩
  · rw [Bool.not_eq_true] at allowed
    simp only [setLifecycle, allowed, Bool.not_false, if_true] at accepted
    cases accepted

end DaemonCore

/-- The records that an answer speaks for are on a log: the grant of a lease and its request, the end of a lease, the
evidence that was not refused, the generation that was asked for and the lifecycle that was entered. -/
def Response.Durable (before : UInt64) (log : List StoreRecord) : Command → Response → Prop
  | .acquire request, .grant response => response.code = .ok →
      ∃ grant, response = grantToResponse grant .ok ∧ .grantCommit grant ∈ log ∧
        .requestOutcome (DaemonCore.outcomeRecordOf request.request grant) ∈ log
  | .renew _ _, .grant response => response.code = .ok →
      ∃ grant, response = grantToResponse grant .ok ∧ .grantCommit grant ∈ log
  | .release token, .ack response => response.code = .ok →
      ∃ reason, .grantState ⟨token.grant, .released, reason⟩ ∈ log
  | .submitEvidence records, .evidence entries =>
      ∀ offer ∈ records.zip entries, offer.2.outcome ≠ .refused → .evidence offer.1 ∈ log
  | .compose generation, .composed _ => generation ≤ before ∨ .generation generation ∈ log
  | .setLifecycle target, .lifecycle response => response.code = .ok →
      ∃ generation epoch, .lifecycle ⟨target, generation, epoch⟩ ∈ log
  | _, _ => True

theorem Response.Durable.mono {before : UInt64} {log longer : List StoreRecord} (kept : log ⊆ longer)
    {command : Command} {response : Response} (durable : response.Durable before log command) :
    response.Durable before longer command := by
  unfold Durable at durable ⊢
  split
  · intro accepted
    obtain ⟨grant, told, commit, outcome⟩ := durable accepted
    exact ⟨grant, told, kept commit, kept outcome⟩
  · intro accepted
    obtain ⟨grant, told, commit⟩ := durable accepted
    exact ⟨grant, told, kept commit⟩
  · intro accepted
    obtain ⟨reason, state⟩ := durable accepted
    exact ⟨reason, kept state⟩
  · intro offer member accepted
    exact kept (durable offer member accepted)
  · exact durable.imp_right fun step => kept step
  · intro accepted
    obtain ⟨generation, epoch, mark⟩ := durable accepted
    exact ⟨generation, epoch, kept mark⟩
  · trivial

namespace DaemonCore

variable {past present : List StoreRecord} {core : DaemonCore}

theorem exec_durable (retains : core.Retains past present) (now : UInt64) (command : Command) {response : Response}
    (answered : (core.exec now command).2 = .ok response) :
    response.Durable core.generation (core.exec now command).1.log command := by
  cases command with
  | acquire request =>
    rw [exec] at answered ⊢
    cases served : core.acquire now request with
    | mk next result =>
      rw [served] at answered
      cases result with
      | error status => cases answered
      | ok told =>
        cases answered
        exact acquire_logged retains served
  | renew token ttlMs =>
    rw [exec] at answered ⊢
    cases served : core.renew now token ttlMs with
    | mk next result =>
      rw [served] at answered
      cases result with
      | error status => cases answered
      | ok told =>
        cases answered
        exact renew_logged retains served
  | release token =>
    rw [exec] at answered ⊢
    cases served : core.release token with
    | mk next result =>
      rw [served] at answered
      cases result with
      | error status => cases answered
      | ok told =>
        cases answered
        exact release_logged retains served
  | submitEvidence records =>
    rw [exec] at answered ⊢
    cases served : core.submitEvidence now records with
    | mk next result =>
      rw [served] at answered
      cases result with
      | error status => cases answered
      | ok told =>
        cases answered
        exact submitEvidence_logged retains served
  | compose generation =>
    rw [exec] at answered ⊢
    cases served : core.compose generation with
    | mk next result =>
      rw [served] at answered
      cases result with
      | error status => cases answered
      | ok told =>
        cases answered
        exact compose_logged retains served
  | setLifecycle target =>
    rw [exec] at answered ⊢
    cases answered
    exact setLifecycle_recorded retains
  | validate | lookup | checkpoint | expireDue =>
    unfold Response.Durable
    trivial

end DaemonCore

namespace System

/-- A process that is up has a store. -/
theorem after_backed {config : DaemonConfig} (backed : config.storeDirectory ≠ []) (events : List Event)
    {core : DaemonCore} (up : after config events = .up core) : core.Backed := by
  induction events using List.reverseRecOn generalizing core with
  | nil => cases up
  | append_singleton events event ih =>
    rw [after, Foundation.run_append] at up
    rcases step_up up with ⟨before, command, running, -, -, rfl⟩ | ⟨before, -⟩ | ⟨disk, -, -, booted⟩
    · exact ((ih running).enter event.env.io).backed.books (DaemonCore.exec_books _ event.env.now command)
    · exact ih before
    · obtain ⟨recovered, recovering, rfl⟩ := boot_up booted
      obtain ⟨first, last, -, -, composing, composed, held, same, target, done⟩ :=
        (DaemonCore.recover_recovers backed recovering).store
      have books := DaemonCore.composeLocked_books composing target
      rw [done] at books
      obtain ⟨store, left⟩ := (show composing.Backed from ⟨last, held⟩).books books
      exact ⟨store, same.symm.trans left⟩

private theorem after_snoc (config : DaemonConfig) (events : List Event) (event : Event) :
    after config (events ++ [event]) = step config (after config events) event :=
  Foundation.run_append _ fresh events [event]

/-- In a run without failing writes the log keeps what was there, through restarts as well. -/
theorem run_retains_quiet {config : DaemonConfig} (backed : config.storeDirectory ≠ []) {earlier later : List Event}
    (quiet : ∀ event ∈ earlier ++ later, event.env.io = []) :
    (after config earlier).log <+: (after config (earlier ++ later)).log := by
  induction later using List.reverseRecOn with
  | nil =>
    rw [List.append_nil]
  | append_singleton later event ih =>
    rw [← List.append_assoc] at quiet
    have before := ih fun old member => quiet old (List.mem_append_left _ member)
    have sturdy := after_sturdy backed fun old member => quiet old (List.mem_append_left _ member)
    obtain ⟨-, records, grown⟩ := step_sturdy backed
      (quiet event (List.mem_append_right _ (List.mem_singleton_self event))) sturdy
    rw [← List.append_assoc, after_snoc]
    exact before.trans ⟨records, grown.symm⟩

end System

/-- What is answered outlives the process. Where no write fails, the records that an answer speaks for are on the log
from then on, through everything that follows: other calls, stops, deaths at any durable write, and restarts. -/
theorem answers_are_durable {config : DaemonConfig} (backed : config.storeDirectory ≠ []) {earlier later : List Event}
    {event : Event} {core : DaemonCore} (up : System.after config earlier = .up core) {command : Command}
    (asked : event.action = .command command) {response : Response}
    (answered : (System.after config earlier).respond event = some (.ok response))
    (quiet : ∀ next ∈ earlier ++ event :: later, next.env.io = []) :
    response.Durable core.generation (System.after config (earlier ++ event :: later)).log command := by
  have here : response.Durable core.generation (System.after config (earlier ++ [event])).log command := by
    have moved : System.after config (earlier ++ [event]) = System.step config (.up core) event := by
      rw [← up]
      exact Foundation.run_append _ System.fresh earlier [event]
    rw [up] at answered
    cases uncut : event.cut with
    | some count =>
      simp only [System.respond, asked, uncut] at answered
      cases answered
    | none =>
      simp only [System.respond, asked, uncut] at answered
      simp only [moved, System.step, asked, System.serve, uncut]
      exact DaemonCore.exec_durable ((System.after_backed backed earlier up).enter event.env.io) event.env.now command
        (Option.some.inj answered)
  have regrouped : earlier ++ event :: later = (earlier ++ [event]) ++ later := by
    rw [List.append_assoc, List.singleton_append]
  rw [regrouped] at quiet ⊢
  exact here.mono (System.run_retains_quiet backed quiet).subset

namespace System

/-- A test of the process, if one is running. -/
def passes (system : System) (test : DaemonCore → Bool) : Bool :=
  match system with
  | .up core => test core
  | .down _ => false

theorem exists_of_passes {system : System} {test : DaemonCore → Bool} (held : system.passes test = true) :
    ∃ core, system = .up core ∧ test core = true := by
  cases system with
  | up core => exact ⟨core, rfl, held⟩
  | down disk => cases held

end System

/-- A rack is opened, and its whole is leased. -/
def openingRun : List Event :=
  [.start 0, .call 1 (.setLifecycle .active)]

theorem answers_are_durable_lease :
    ∃ response : GrantResponse, (System.after loneRack openingRun).respond (.call 2 (.acquire (wholeRack 1))) =
        some (.ok (.grant response)) ∧
      ∃ grant, response = grantToResponse grant .ok ∧ .grantCommit grant ∈
        (System.after loneRack (openingRun ++ .call 2 (.acquire (wholeRack 1)) :: [.crash, .start 3])).log := by
  have held : (System.after loneRack openingRun).passes (fun core =>
      ((core.enter []).acquire 2 (wholeRack 1)).2.passes fun response => decide (response.code = .ok)) = true := by
    decide +kernel
  have quiet : ∀ next ∈ openingRun ++ .call 2 (.acquire (wholeRack 1)) :: [.crash, .start 3], next.env.io = [] := by
    decide +kernel
  obtain ⟨core, up, held⟩ := System.exists_of_passes held
  obtain ⟨response, answered, accepted⟩ := Result.exists_of_passes held
  have told : (System.after loneRack openingRun).respond (.call 2 (.acquire (wholeRack 1))) =
      some (.ok (.grant response)) := by
    rw [up]
    show some (((core.enter []).acquire 2 (wholeRack 1)).2.map Response.grant) = _
    rw [answered]
    rfl
  obtain ⟨grant, same, commit, -⟩ :=
    answers_are_durable loneRack_backed up rfl told quiet (of_decide_eq_true accepted)
  exact ⟨response, told, grant, same, commit⟩

end RackFabric
