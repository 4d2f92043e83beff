import RackFabric.Runtime.Moves

/-!
Lifecycle commands and shutdown: what they do to grants, none of which is logged, and what they do log.
-/

namespace RackFabric

theorem lifecycle_loggable (body : LifecycleRecord) : (StoreRecord.lifecycle body).Loggable := by
  have fits : (((({ limit := ({} : StoreOptions).maxRecordBytes } : ByteWriter).u8
      (StoreRecord.lifecycle body).code).u8 body.state.code).u64 body.generation).Fits (8 + 0) := by
    apply ByteWriter.Fits.u64
    apply ByteWriter.Fits.u8
    apply ByteWriter.Fits.u8
    exact ⟨rfl, by decide⟩
  exact loggable_of_fits rfl (fits.u64 body.epoch).1

namespace DaemonCore

/-- The rack as composed for a lifecycle that serves leases, if it composes. -/
def servedSnapshot (core : DaemonCore) (target : LifecycleState) : Option Snapshot :=
  match (core.enterLifecycle target).composeLocked core.generation with
  | (_, .error _) => none
  | (composed, .ok ()) => some composed.snapshot

/-- The grants after an allowed lifecycle command. -/
def transitionGrants (core : DaemonCore) (now : UInt64) (target : LifecycleState) : GrantRegistry :=
  if target = .maintenance then core.grants.suspendAll (text "the rack entered a maintenance window")
  else if target = .retired then core.grants.fenceAll (text "the rack was retired")
  else if target = .active ∨ target = .degraded then
    match core.servedSnapshot target with
    | none => core.grants
    | some snapshot =>
      (if core.lifecycle = .recovering then core.grants.revalidate snapshot core.incarnation now
        else core.grants).resumeAll snapshot now
  else core.grants

theorem enterLifecycle_serving (core : DaemonCore) {target : LifecycleState}
    (serves : target = .active ∨ target = .degraded) :
    core.enterLifecycle target = { core with lifecycle := target } := by
  rcases serves with rfl | rfl <;> rfl

theorem enterLifecycle_grants (core : DaemonCore) (target : LifecycleState) :
    (core.enterLifecycle target).grants =
      if target = .maintenance then core.grants.suspendAll (text "the rack entered a maintenance window")
      else if target = .retired then core.grants.fenceAll (text "the rack was retired")
      else core.grants := by
  unfold enterLifecycle
  dsimp only
  split
  · rfl
  · split <;> rfl

theorem serveLifecycle_grants (core : DaemonCore) (now : UInt64) (target : LifecycleState) :
    ((core.enterLifecycle target).serveLifecycle now core.lifecycle target).1.grants =
      core.transitionGrants now target := by
  unfold transitionGrants
  by_cases serves : target = .active ∨ target = .degraded
  · have entered := enterLifecycle_serving core serves
    have generation : (core.enterLifecycle target).generation = core.generation := by rw [entered]
    have maintenance : target ≠ .maintenance := by rcases serves with rfl | rfl <;> simp
    have retired : target ≠ .retired := by rcases serves with rfl | rfl <;> simp
    have kept := composeLocked_keeps (core.enterLifecycle target) core.generation
    have same := composeLocked_recomposes (core.enterLifecycle target) core.generation
    simp only [serveLifecycle, servedSnapshot, serves, if_true, if_neg maintenance, if_neg retired, generation]
    cases composing : (core.enterLifecycle target).composeLocked core.generation with
    | mk composed result =>
      rw [composing, entered] at kept same
      have grants : composed.grants = core.grants := same.grants
      have incarnation : composed.incarnation = core.incarnation := kept.incarnation
      cases result with
      | error status => exact grants
      | ok _ =>
        dsimp only
        split
        · simp only [revalidateGrants, grants, incarnation]
        · rw [grants]
  · simp only [serveLifecycle, serves, if_false]
    exact enterLifecycle_grants core target

theorem transitionLifecycleLocked_grants (core : DaemonCore) (now : UInt64) (target : LifecycleState) :
    (core.transitionLifecycleLocked now target).1.grants = core.transitionGrants now target := by
  have served := serveLifecycle_grants core now target
  unfold transitionLifecycleLocked
  split
  · rename_i refused
    rwa [refused] at served
  · rename_i next done
    rw [done] at served
    split
    · rename_i failed
      exact (appendLocked_grants failed).trans served
    · rename_i final appended
      obtain ⟨store, written⟩ := maybeCheckpointLocked_store final
      rw [written]
      exact (appendLocked_grants appended).trans served

/-- What a lifecycle command does to grants. -/
theorem setLifecycle_grants (core : DaemonCore) (now : UInt64) (target : LifecycleState) :
    (core.setLifecycle now target).1.grants =
      if lifecycleTransitionAllowed core.lifecycle target then core.transitionGrants now target else core.grants := by
  cases allowed : lifecycleTransitionAllowed core.lifecycle target with
  | false => rw [setLifecycle_refused allowed, if_neg (by simp)]
  | true => rw [setLifecycle_moves allowed, transitionLifecycleLocked_grants, if_pos rfl]

theorem serveLifecycle_logsPlain {core : DaemonCore} (quiet : core.Quiet) (now : UInt64)
    (previous target lifecycle : LifecycleState) :
    LogsPlain lifecycle core (core.serveLifecycle now previous target).1 := by
  unfold serveLifecycle
  split
  · have logs := composeLocked_logsPlain quiet core.generation lifecycle
    split
    · rename_i refused
      rwa [refused] at logs
    · rename_i composed done
      rw [done] at logs
      obtain ⟨records, plain, logs⟩ := logs
      refine ⟨records, plain, ?_⟩
      split <;> exact logs
  · exact quiet.logsPlain lifecycle rfl

/-- An allowed lifecycle command that meets no failing write logs what the rack is made of and then the lifecycle,
unless it had to compose and could not. -/
theorem setLifecycle_logs {core : DaemonCore} (quiet : core.Quiet) (now : UInt64) {target : LifecycleState}
    (allowed : lifecycleTransitionAllowed core.lifecycle target = true) :
    ∃ plain, (∀ record ∈ plain, record.isPlain = true) ∧
      ((Logs target core plain (core.setLifecycle now target).1 ∧ (target = .active ∨ target = .degraded)) ∨
        ∃ generation epoch, Logs target core (plain ++ [.lifecycle ⟨target, generation, epoch⟩])
          (core.setLifecycle now target).1) := by
  obtain ⟨grants, entered⟩ := enterLifecycle_eq core target
  have still : (core.enterLifecycle target).Quiet := by
    rw [entered]
    exact quiet
  have kept := (serveLifecycle_keeps (core.enterLifecycle target) now core.lifecycle target).lifecycle
  obtain ⟨plain, isPlain, logs⟩ := serveLifecycle_logsPlain still now core.lifecycle target target
  have fromCore : ∀ {records next}, Logs target (core.enterLifecycle target) records next →
      Logs target core records next := by
    intro records next logs
    rw [entered] at logs
    exact logs
  refine ⟨plain, isPlain, ?_⟩
  simp only [setLifecycle, allowed, Bool.not_true, Bool.false_eq_true, if_false, transitionLifecycleLocked]
  cases serving : (core.enterLifecycle target).serveLifecycle now core.lifecycle target with
  | mk served result =>
    rw [serving] at logs kept
    cases result with
    | error status =>
      left
      refine ⟨fromCore logs, ?_⟩
      unfold serveLifecycle at serving
      split at serving
      · rename_i serves
        exact serves
      · cases serving
    | ok _ =>
      right
      refine ⟨served.generation, served.epoch, ?_⟩
      obtain ⟨next, appended, more⟩ := appendLocked_logs (logs.quiet still) target
        (lifecycle_loggable ⟨target, served.generation, served.epoch⟩)
      have lifecycle : next.lifecycle = target := by
        rw [appendLocked_lifecycle appended, kept, entered]
      have final := maybeCheckpointLocked_logs (more.quiet (logs.quiet still))
      rw [lifecycle] at final
      dsimp only
      rw [appended]
      have whole := (fromCore (logs.trans more)).trans final
      rwa [List.append_nil] at whole

end DaemonCore

end RackFabric
