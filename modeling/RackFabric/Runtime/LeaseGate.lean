import RackFabric.Runtime.Composing
import RackFabric.Runtime.Lending

/-!
Leases against the lifecycle. A lease call reads the lifecycle frozen into the published snapshot, not the daemon's
own, so the two have to agree on whether leases are honoured, unless no lease comes as far as that reading.
-/

namespace RackFabric

/-- Whether the next write of the store takes a record. -/
def Store.takes (store : Store) (record : StoreRecord) : Bool :=
  (encodeStoreRecord record { limit := store.options.maxRecordBytes }).isOk && store.answer.2 == .done

theorem Store.append_of_takes {store : Store} {record : StoreRecord} (able : store.takes record = true) :
    ∃ next, store.append record = (next, .ok ()) := by
  simp only [takes, Bool.and_eq_true, beq_iff_eq] at able
  obtain ⟨encodes, done⟩ := able
  cases encoded : encodeStoreRecord record { limit := store.options.maxRecordBytes } with
  | error status =>
    rw [encoded] at encodes
    cases encodes
  | ok writer =>
    cases answered : store.answer with
    | mk next outcome =>
      rw [answered] at done
      dsimp only at done
      subst done
      simp only [append, encoded, attempt, answered]
      exact ⟨_, rfl⟩

namespace DaemonCore

theorem appendLocked_of_takes {core : DaemonCore} {record : StoreRecord}
    (able : (core.store.all fun store => store.takes record) = true) :
    ∃ logged, core.appendLocked record = (logged, .ok ()) := by
  cases held : core.store with
  | none => exact ⟨core, by simp only [appendLocked, held]⟩
  | some store =>
    rw [held, Option.all_some] at able
    obtain ⟨next, done⟩ := Store.append_of_takes able
    exact ⟨{ core with store := some next }, by simp only [appendLocked, held, done]⟩

/-- Whether the rack composes as it stands: it is not retired, its evidence composes, and where that has a new member
set there is an epoch left for it and the record of it is written. -/
def composable (core : DaemonCore) : Bool :=
  acceptsCompose core.lifecycle &&
    match RackFabric.compose core.ledger core.config.rack (core.composeInput core.generation) with
    | .error _ => false
    | .ok outcome =>
      let found := outcome.snapshot.data.memberSetDigest
      !core.membershipInitialized || found == core.memberSetDigest ||
        (core.epoch != maxU64 && core.store.all fun store => store.takes (.epoch ⟨core.epoch + 1, found⟩))

theorem composeLocked_of_composable {core : DaemonCore} (composable : core.composable = true) :
    (core.composeLocked core.generation).2.isOk = true := by
  simp only [DaemonCore.composable, Bool.and_eq_true] at composable
  obtain ⟨accepts, composes⟩ := composable
  cases composed : RackFabric.compose core.ledger core.config.rack (core.composeInput core.generation) with
  | error status =>
    rw [composed] at composes
    cases composes
  | ok outcome =>
    simp only [composed, Bool.or_eq_true, Bool.and_eq_true, Bool.not_eq_true', beq_iff_eq, bne_iff_ne] at composes
    simp only [composeLocked, accepts, composed, Bool.not_true, Bool.false_eq_true, if_false]
    split
    · rfl
    · rename_i known
      split
      · rename_i moved
        rcases composes with (fresh | same) | ⟨room, takes⟩
        · exact absurd fresh (by simpa using known)
        · exact absurd same moved
        · have able : (({ core with
              epoch := core.epoch + 1
              memberSetDigest := outcome.snapshot.data.memberSetDigest } : DaemonCore).store.all fun store =>
                store.takes (.epoch ⟨core.epoch + 1, outcome.snapshot.data.memberSetDigest⟩)) = true := takes
          obtain ⟨logged, done⟩ := appendLocked_of_takes able
          obtain ⟨again, -, -, -, advanced⟩ := advanceEpoch_logged composed room done
          rw [advanced]
          rfl
      · rfl

/-- Whether the published snapshot has leases honoured or refused as a lifecycle has them. -/
def speaksFor (core : DaemonCore) (lifecycle : LifecycleState) : Prop :=
  lifecycleHonoursExistingAuthority core.snapshot.lifecycle = lifecycleHonoursExistingAuthority lifecycle

instance (core : DaemonCore) (lifecycle : LifecycleState) : Decidable (core.speaksFor lifecycle) :=
  inferInstanceAs (Decidable (_ = _))

/-- No lease call is answered for a lifecycle that the rack has left: the published snapshot speaks for the rack's own,
or no lease is checked as far as the lifecycle. -/
structure Gated (core : DaemonCore) : Prop where
  valid : core.snapshot.valid = true
  agrees : core.speaksFor core.lifecycle ∨ core.grants.readsLifecycle core.snapshot = false

theorem gated_of_composedUnder {core : DaemonCore} (composed : core.snapshot.ComposedUnder core.lifecycle) :
    core.Gated :=
  ⟨composed.1, .inl (congrArg lifecycleHonoursExistingAuthority composed.2)⟩

/-- A request for authority that comes while the published snapshot speaks for the lifecycle, or is not admitted. -/
def AsksInStep (core : DaemonCore) (now : UInt64) (request : AcquireRequest) : Prop :=
  core.speaksFor core.lifecycle ∨
    (core.grants.expireDue now).1.admits core.snapshot (core.grantRequestOf request)
      (lifecycleAcceptsNewAuthority core.lifecycle) = false

/-- A request that is not admitted leaves no more leases checked as far as the lifecycle. -/
theorem acquire_unadmitted_reads {core : DaemonCore} (valid : core.snapshot.valid = true) (keyed : core.grants.Keyed)
    {now : UInt64} {request : AcquireRequest}
    (refused : (core.grants.expireDue now).1.admits core.snapshot (core.grantRequestOf request)
      (lifecycleAcceptsNewAuthority core.lifecycle) = false) {snapshot : Snapshot}
    (reads : (core.acquire now request).1.grants.readsLifecycle snapshot = true) :
    core.grants.readsLifecycle snapshot = true := by
  obtain ⟨next, acquired, settled⟩ := acquire_lends valid now request
  have decided : next.readsLifecycle snapshot = true → core.grants.readsLifecycle snapshot = true := by
    intro reads
    rw [← acquired] at reads
    exact GrantRegistry.expireDue_reads keyed (GrantRegistry.acquire_reads refused reads)
  rcases settled with same | ⟨token, undone⟩
  · rw [same] at reads
    exact decided reads
  · rw [undone] at reads
    exact decided (GrantRegistry.release_reads reads)

/-- Commands that leave the lifecycle alone keep the gate, if authority is asked for in step with the snapshot. -/
theorem exec_gated {core : DaemonCore} (gated : core.Gated) (keyed : core.grants.Keyed) {now : UInt64}
    {command : Command} (moves : ∀ target, command ≠ .setLifecycle target)
    (asks : ∀ request, command = .acquire request → core.AsksInStep now request) : (core.exec now command).1.Gated := by
  have kept := exec_keeps core now command moves
  rcases kept.snapshot with same | composed
  · refine ⟨by rw [same]; exact gated.valid, ?_⟩
    rw [speaksFor, same, kept.lifecycle]
    by_cases speaks : core.speaksFor core.lifecycle
    · exact .inl speaks
    · have unread := gated.agrees.resolve_left speaks
      refine .inr (Bool.eq_false_iff.mpr fun reads => Bool.eq_false_iff.mp unread ?_)
      by_cases acquires : ∃ request, command = .acquire request
      · obtain ⟨request, rfl⟩ := acquires
        have refused := (asks request rfl).resolve_left speaks
        exact acquire_unadmitted_reads gated.valid keyed refused reads
      · have touches := exec_touches gated.valid now command (fun request same => acquires ⟨request, same⟩) moves
        generalize (core.exec now command).1.grants = next at reads touches
        cases touches with
        | nothing => exact reads
        | expires => exact GrantRegistry.expireDue_reads keyed reads
        | renews token ttlMs => exact GrantRegistry.renew_reads reads
        | releases token => exact GrantRegistry.release_reads reads
  · rw [← kept.lifecycle] at composed
    exact gated_of_composedUnder composed

/-- A lifecycle command after which leases are gated: the published snapshot speaks for the lifecycle it enters; or it
suspends or fences every lease; or it serves leases, and the rack composes for it; or no lease is checked as far as the
lifecycle. -/
def MovesInStep (core : DaemonCore) (target : LifecycleState) : Prop :=
  core.speaksFor target ∨ (target = .maintenance ∨ target = .retired) ∨
    (lifecycleAcceptsNewAuthority target = true ∧
      ({ core with lifecycle := target } : DaemonCore).composable = true) ∨
    core.grants.readsLifecycle core.snapshot = false

/-- Composing for a lifecycle that serves leases publishes a snapshot of it, whatever happens afterwards. -/
theorem transitionLifecycleLocked_composedUnder {core : DaemonCore} {now : UInt64} {target : LifecycleState}
    (serves : target = .active ∨ target = .degraded)
    (composes : ((core.enterLifecycle target).composeLocked core.generation).2.isOk = true) :
    (core.transitionLifecycleLocked now target).1.snapshot.ComposedUnder target := by
  obtain ⟨grants, entered⟩ := enterLifecycle_eq core target
  have generation : (core.enterLifecycle target).generation = core.generation := by rw [entered]
  have lifecycle : (core.enterLifecycle target).lifecycle = target := by rw [entered]
  unfold transitionLifecycleLocked serveLifecycle
  simp only [serves, if_true, generation]
  cases composing : (core.enterLifecycle target).composeLocked core.generation with
  | mk composed result =>
    cases result with
    | error status => simp [composing] at composes
    | ok _ =>
      have published := composeLocked_composedUnder composing
      rw [lifecycle] at published
      split
      · rename_i refused
        cases refused
      · rename_i resumed same
        have snapshot : resumed.snapshot = composed.snapshot := by
          cases same
          split <;> rfl
        have appended := appendLocked_store resumed (.lifecycle ⟨target, resumed.generation, resumed.epoch⟩)
        obtain ⟨store, appended⟩ := appended
        split
        · rename_i refused
          rw [refused] at appended
          obtain rfl := appended
          rwa [← snapshot] at published
        · rename_i done
          rw [done] at appended
          obtain rfl := appended
          obtain ⟨final, written⟩ := maybeCheckpointLocked_store { resumed with store := store }
          rw [written]
          rwa [← snapshot] at published

/-- A lifecycle command that composes nothing leaves no lease checked as far as the lifecycle, if it suspends or fences
them all or none was before. -/
theorem transitionGrants_unread {core : DaemonCore} (keyed : core.grants.Keyed) (settled : core.grants.Settled)
    (now : UInt64) {target : LifecycleState} {snapshot : Snapshot}
    (unserved : target = .active ∨ target = .degraded → core.servedSnapshot target = none)
    (left : (target = .maintenance ∨ target = .retired) ∨ core.grants.readsLifecycle snapshot = false) :
    (core.transitionGrants now target).readsLifecycle snapshot = false := by
  unfold transitionGrants
  split
  · exact Bool.eq_false_iff.mpr (GrantRegistry.suspendAll_unread keyed settled _ _)
  · rename_i window
    split
    · exact Bool.eq_false_iff.mpr (GrantRegistry.fenceAll_unread keyed settled _ _)
    · rename_i retired
      have unread : core.grants.readsLifecycle snapshot = false := by
        rcases left with (same | same) | unread
        · exact absurd same window
        · exact absurd same retired
        · exact unread
      split
      · rename_i serves
        rw [unserved serves]
        exact unread
      · exact unread

theorem setLifecycle_gated {core : DaemonCore} (gated : core.Gated) (keyed : core.grants.Keyed)
    (settled : core.grants.Settled) {now : UInt64} {target : LifecycleState}
    (follows : lifecycleTransitionAllowed core.lifecycle target = true → core.MovesInStep target) :
    (core.setLifecycle now target).1.Gated := by
  cases allowed : lifecycleTransitionAllowed core.lifecycle target with
  | false => rwa [setLifecycle_refused allowed]
  | true =>
    rw [setLifecycle_moves allowed]
    have kept := transitionLifecycleLocked_keeps core now target
    obtain ⟨_, entered⟩ := enterLifecycle_eq core target
    rw [entered] at kept
    have lifecycle : (core.transitionLifecycleLocked now target).1.lifecycle = target := kept.lifecycle
    by_cases served : (target = .active ∨ target = .degraded) ∧
        ((core.enterLifecycle target).composeLocked core.generation).2.isOk = true
    · have published : (core.transitionLifecycleLocked now target).1.snapshot.ComposedUnder target :=
        transitionLifecycleLocked_composedUnder served.1 served.2
      exact gated_of_composedUnder (by rwa [lifecycle])
    · have unserved : target = .active ∨ target = .degraded → core.servedSnapshot target = none := by
        intro serves
        unfold servedSnapshot
        split
        · rfl
        · rename_i done
          exact absurd ⟨serves, by rw [done]; rfl⟩ served
      rcases kept.snapshot with same | composed
      · have valid : (core.transitionLifecycleLocked now target).1.snapshot.valid = true := by
          rw [same]
          exact gated.valid
        have unread : (target = .maintenance ∨ target = .retired) ∨ core.grants.readsLifecycle core.snapshot = false →
            (core.transitionLifecycleLocked now target).1.Gated := by
          intro left
          refine ⟨valid, .inr ?_⟩
          rw [transitionLifecycleLocked_grants, same]
          exact transitionGrants_unread keyed settled now unserved left
        rcases follows allowed with speaks | ends | ⟨accepts, composes⟩ | idle
        · refine ⟨valid, .inl ?_⟩
          rw [speaksFor, same, lifecycle]
          exact speaks
        · exact unread (.inl ends)
        · have serves : target = .active ∨ target = .degraded := by
            cases target <;> simp [lifecycleAcceptsNewAuthority] at accepts ⊢
          refine absurd ⟨serves, ?_⟩ served
          rw [enterLifecycle_serving core serves]
          exact composeLocked_of_composable composes
        · exact unread (.inr idle)
      · exact gated_of_composedUnder (by rwa [lifecycle])

/-- The refusal an answer to a lease call carries, if it is one. -/
def leaseRefusal : Result GrantResponse → Option Status
  | .error status => some status
  | .ok response => if response.code = .ok then none else some ⟨response.code, response.detail⟩

/-- An answer to a lease call that respects a lifecycle: it is positive only under one that honours leases, and
blames the lifecycle only under one that does not. -/
def AnswersFor (lifecycle : LifecycleState) (answer : Result GrantResponse) : Prop :=
  (leaseRefusal answer = none → lifecycleHonoursExistingAuthority lifecycle = true) ∧
    (lifecycleHonoursExistingAuthority lifecycle = true → leaseRefusal answer ≠ some lifecycleRefusal)

instance (lifecycle : LifecycleState) (answer : Result GrantResponse) :
    Decidable (AnswersFor lifecycle answer) :=
  inferInstanceAs (Decidable (_ ∧ _))

theorem answersFor_refusal {lifecycle : LifecycleState} {status : Status} (failed : status.code ≠ .ok)
    (blames : status = lifecycleRefusal → lifecycleHonoursExistingAuthority lifecycle = false) :
    AnswersFor lifecycle (.ok { code := status.code, detail := status.detail }) := by
  refine ⟨?_, ?_⟩
  · simp [leaseRefusal, failed]
  · intro honours same
    simp only [leaseRefusal, failed, if_false, Option.some.injEq] at same
    rw [blames same] at honours
    cases honours

/-- What a gated lease check says of the lifecycle. -/
theorem Gated.checkLease {core : DaemonCore} (gated : core.Gated) (token : LeaseToken) (now : UInt64) :
    (∀ grant, core.grants.checkLease core.snapshot token now = .ok grant →
      lifecycleHonoursExistingAuthority core.lifecycle = true) ∧
    (core.grants.checkLease core.snapshot token now = .error lifecycleRefusal →
      lifecycleHonoursExistingAuthority core.lifecycle = false) := by
  rcases gated.agrees with speaks | unread
  · rw [← speaks]
    exact ⟨fun _ passed => GrantRegistry.checkCurrent_ok (GrantRegistry.checkLease_ok passed).2.2.2,
      fun blamed => (GrantRegistry.checkLease_error blamed).2 rfl⟩
  · have unread := Bool.eq_false_iff.mp unread
    exact ⟨fun grant passed => absurd (GrantRegistry.checkLease_reads (.inl ⟨grant, passed⟩)) unread,
      fun blamed => absurd (GrantRegistry.checkLease_reads (.inr blamed)) unread⟩

theorem validate_answersFor {core : DaemonCore} (gated : core.Gated) (now : UInt64) (token : LeaseToken) :
    AnswersFor core.lifecycle (core.validate now token).2 := by
  obtain ⟨passes, blames⟩ := gated.checkLease token now
  unfold validate
  rw [ensureSnapshotLocked_valid gated.valid]
  dsimp only
  cases checked : core.grants.validate core.snapshot token now with
  | error status =>
    refine answersFor_refusal (GrantRegistry.checkLease_error checked).1 ?_
    rintro rfl
    exact blames checked
  | ok grant => exact ⟨fun _ => passes grant checked, by simp [leaseRefusal, grantToResponse]⟩

theorem appendLocked_commit_error {core next : DaemonCore} {grant : Grant} {status : Status}
    (failed : core.appendLocked (.grantCommit grant) = (next, .error status)) :
    status.code = .io ∨ status.code = .oversizeField := by
  unfold appendLocked at failed
  split at failed
  · cases failed
  · unfold Store.append encodeStoreRecord encodeStorePayload encodeGrant refuse at failed
    dsimp only at failed
    split at failed
    · rename_i encoded
      cases failed
      split at encoded
      · cases encoded
        exact .inr rfl
      · simp only [bind, Except.bind] at encoded
        split at encoded
        · cases encoded
          exact .inr rfl
        · cases encoded
    · split at failed
      · rename_i attempted
        cases failed
        exact .inl (Store.attempt_error attempted)
      · cases failed

theorem renew_answersFor {core : DaemonCore} (gated : core.Gated) (now : UInt64) (token : LeaseToken)
    (ttlMs : UInt64) : AnswersFor core.lifecycle (core.renew now token ttlMs).2 := by
  obtain ⟨passes, blames⟩ := gated.checkLease token now
  unfold renew
  rw [ensureSnapshotLocked_valid gated.valid]
  dsimp only
  cases renewing : core.grants.renew core.snapshot token
      (if ttlMs = 0 then core.config.defaultTtlMs else ttlMs) now with
  | mk registry result =>
    dsimp only
    cases result with
    | error status =>
      obtain ⟨-, failed, refused⟩ := GrantRegistry.renew_error renewing
      exact answersFor_refusal failed fun same => blames (refused same)
    | ok renewed =>
      obtain ⟨grant, deadline, checked, -, -, -⟩ := GrantRegistry.renew_ok renewing
      refine ⟨fun _ => passes grant checked, ?_⟩
      intro _
      dsimp only
      split
      · rename_i failed
        intro same
        have code := appendLocked_commit_error failed
        simp only [leaseRefusal, Option.some.injEq] at same
        subst same
        simp [lifecycleRefusal] at code
      · simp [leaseRefusal, grantToResponse]

end DaemonCore

namespace System

/-- A lease call on a running process is answered for its lifecycle. -/
def GatedAt (io : List IoOutcome) (now : UInt64) (token : LeaseToken) (ttlMs : UInt64) : System → Prop
  | .down _ => True
  | .up core =>
    DaemonCore.AnswersFor core.lifecycle ((core.enter io).validate now token).2 ∧
      DaemonCore.AnswersFor core.lifecycle ((core.enter io).renew now token ttlMs).2

instance (io : List IoOutcome) (now : UInt64) (token : LeaseToken) (ttlMs : UInt64) :
    ∀ system, Decidable (GatedAt io now token ttlMs system)
  | .down _ => .isTrue trivial
  | .up _ => inferInstanceAs (Decidable (_ ∧ _))

def LeasesGated (system : System) : Prop :=
  ∀ io now token ttlMs, system.GatedAt io now token ttlMs

/-- Lifecycle commands and requests for authority come in step with the published snapshot. -/
def SnapshotFollows (system : System) (event : Event) (_ : System) : Prop :=
  match system, event.action with
  | .up core, .command (.setLifecycle target) =>
    lifecycleTransitionAllowed core.lifecycle target = true → (core.enter event.env.io).MovesInStep target
  | .up core, .command (.acquire request) => (core.enter event.env.io).AsksInStep event.env.now request
  | _, _ => True

instance (core : DaemonCore) (target : LifecycleState) : Decidable (core.MovesInStep target) :=
  inferInstanceAs (Decidable (_ ∨ (_ ∨ _) ∨ (_ ∧ _) ∨ _))

instance (core : DaemonCore) (now : UInt64) (request : AcquireRequest) : Decidable (core.AsksInStep now request) :=
  inferInstanceAs (Decidable (_ ∨ _))

instance (next : System) : ∀ system event, Decidable (SnapshotFollows system event next)
  | .up _, ⟨.command (.setLifecycle _), _, _⟩ => inferInstanceAs (Decidable (_ → DaemonCore.MovesInStep ..))
  | .up _, ⟨.command (.acquire _), _, _⟩ => inferInstanceAs (Decidable (DaemonCore.AsksInStep ..))
  | .up _, ⟨.command (.submitEvidence _), _, _⟩ | .up _, ⟨.command (.compose _), _, _⟩
  | .up _, ⟨.command (.renew ..), _, _⟩ | .up _, ⟨.command (.release _), _, _⟩
  | .up _, ⟨.command (.validate _), _, _⟩ | .up _, ⟨.command (.lookup _), _, _⟩ | .up _, ⟨.command .checkpoint, _, _⟩
  | .up _, ⟨.command .expireDue, _, _⟩ | .up _, ⟨.start, _, _⟩ | .up _, ⟨.stop, _, _⟩ | .up _, ⟨.crash, _, _⟩
  | .down _, _ => .isTrue trivial

/-- A running process is gated, and its registry is in order. -/
def Gated (system : System) : Prop :=
  ∀ core, system = .up core → core.Gated ∧ core.grants.Keyed ∧ core.grants.Settled

theorem step_gated {config : DaemonConfig} {system : System} {event : Event} (gated : system.Gated)
    (follows : SnapshotFollows system event (step config system event)) : (step config system event).Gated := by
  intro next stepped
  rcases step_up stepped with ⟨core, command, up, action, -, rfl⟩ | ⟨up, -⟩ | ⟨disk, -, -, booted⟩
  · obtain ⟨before, keyed, settled⟩ := gated core up
    have entered : (core.enter event.env.io).Gated := ⟨before.valid, before.agrees⟩
    have calls := DaemonCore.exec_calls (core.enter event.env.io) event.env.now command
    refine ⟨?_, calls.keyed keyed, calls.settled keyed settled⟩
    subst up
    by_cases transition : ∃ target, command = .setLifecycle target
    · obtain ⟨target, rfl⟩ := transition
      simp only [SnapshotFollows, action] at follows
      exact DaemonCore.setLifecycle_gated entered keyed settled follows
    · refine DaemonCore.exec_gated entered keyed (fun target same => transition ⟨target, same⟩) ?_
      rintro request rfl
      simp only [SnapshotFollows, action] at follows
      exact follows
  · exact gated next up
  · refine ⟨?_, boot_stands booted⟩
    obtain ⟨recovered, recovering, rfl⟩ := boot_up booted
    have composed := DaemonCore.recover_composedUnder recovering
    exact DaemonCore.gated_of_composedUnder composed

/-- As long as lifecycle commands and requests for authority come in step with the published snapshot, lease calls are
gated by the lifecycle. -/
theorem leases_gated_while_snapshot_follows (config : DaemonConfig) (events : List Event)
    (follows : Foundation.Along (step config) SnapshotFollows fresh events) :
    (after config events).LeasesGated := by
  have gated : (after config events).Gated := by
    apply follows.invariant
    · intro core up
      cases up
    · intro system event gated follows
      exact step_gated gated follows
  intro io now token ttlMs
  cases up : after config events with
  | down disk => trivial
  | up core =>
    obtain ⟨before, -⟩ := gated core up
    have entered : (core.enter io).Gated := ⟨before.valid, before.agrees⟩
    exact ⟨DaemonCore.validate_answersFor entered now token, DaemonCore.renew_answersFor entered now token ttlMs⟩

/-- A lease is issued and drained. -/
def drainedRun : List Event :=
  [.start 0, .call 1 (.setLifecycle .active), .call 2 (.acquire (wholeRack 1)), .call 3 (.setLifecycle .draining)]

/-- The drained lease is released, the rack recovers, and a second lease meets a maintenance window. -/
def servicedRun : List Event :=
  drainedRun ++
    [.call 4 (.release ((after loneRack drainedRun).tokenOf 1)), .call 5 (.setLifecycle .recovering),
      .call 6 (.setLifecycle .active), .call 7 (.acquire (wholeRack 2)), .call 8 (.setLifecycle .maintenance),
      .call 9 (.setLifecycle .draining), .call 10 (.setLifecycle .active)]

theorem leases_gated_serviced : (after loneRack servicedRun).LeasesGated :=
  leases_gated_while_snapshot_follows loneRack servicedRun (by decide +kernel)

/-- A lease is issued and the rack is then put into recovery, which composes nothing. -/
def recoveringRun : List Event :=
  [.start 0, .call 1 (.setLifecycle .active), .call 2 (.acquire (wholeRack 1)), .call 3 (.setLifecycle .recovering)]

/-- In recovery the lease still validates: the published snapshot is that of the active rack. -/
theorem leases_not_gated_in_recovery : ¬ ∀ config events, (after config events).LeasesGated := by
  intro gated
  exact absurd (gated loneRack recoveringRun [] 4 ((after loneRack recoveringRun).tokenOf 1) 0)
    (by decide +kernel)

end System

end RackFabric
