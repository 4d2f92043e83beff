import RackFabric.Foundation.Journal
import RackFabric.Runtime.Serving

/-!
What a call that meets no failing write does to the registry and to the log, as a chain of moves. Every move says
which authority records it logs.
-/

namespace RackFabric

/-- The records of leases that were ended because their deadline passed. -/
def expirations (ids : List UInt64) : List StoreRecord :=
  ids.map fun id => .grantState ⟨id, .expired, text "lease deadline passed"⟩

namespace GrantRegistry

/-- The grants an expiry names are those that were due. -/
theorem mem_expireDue {registry : GrantRegistry} (keyed : registry.Keyed) {nowMs id : UInt64} :
    id ∈ (registry.expireDue nowMs).2 ↔ ∃ grant, registry.grants[id]? = some grant ∧ isDue nowMs grant = true := by
  simp only [expireDue, List.mem_map, List.mem_filter]
  refine ⟨?_, ?_⟩
  · rintro ⟨grant, ⟨⟨⟨key, value⟩, member, rfl⟩, due⟩, rfl⟩
    rw [Std.ExtTreeMap.mem_toList_iff_getElem?_eq_some] at member
    refine ⟨value, ?_, due⟩
    rwa [keyed key value member]
  · rintro ⟨grant, found, due⟩
    refine ⟨grant, ⟨⟨(id, grant), ?_, rfl⟩, due⟩, keyed id grant found⟩
    rwa [Std.ExtTreeMap.mem_toList_iff_getElem?_eq_some]

end GrantRegistry

namespace DaemonCore

/-- One move of the registry inside a call of a process, with the authority records it logs. -/
inductive Move (core : DaemonCore) (now : UInt64) : GrantRegistry → List StoreRecord → GrantRegistry → Prop where
  | expire (registry : GrantRegistry) :
      Move core now registry (expirations (registry.expireDue now).2) (registry.expireDue now).1
  | release (registry : GrantRegistry) (grant : Grant) (found : registry.grants[grant.id]? = some grant)
      (live : grant.isLive = true) :
      Move core now registry [.grantState ⟨grant.id, .released, text "released by holder"⟩]
        (registry.endGrant grant .released (text "released by holder"))
  | releaseAgain (registry : GrantRegistry) (grant : Grant) (found : registry.grants[grant.id]? = some grant)
      (ended : grant.isLive = false) :
      Move core now registry [.grantState ⟨grant.id, .released, grant.reason⟩] registry
  | turnDown (registry : GrantRegistry) (request : GrantRequest) (refusal : GrantRegistry.Refusal)
      (failed : refusal.status.code ≠ .ok) (fresh : registry.outcomes[request.request]? = none) :
      Move core now registry [] (registry.turnedDown request refusal)
  | burn (registry : GrantRegistry) (fence : registry.nextFence = core.grants.nextFence) :
      Move core now registry [] registry.takeFence
  | issue (registry : GrantRegistry) (request : GrantRequest) (deadline : UInt64) (expanded pool : List ResourceRef)
      (fence : registry.nextFence = core.grants.nextFence) (identified : request.request.isSet = true)
      (fresh : registry.outcomes[request.request]? = none)
      (admitted : registry.Admitted core.snapshot request (lifecycleAcceptsNewAuthority core.lifecycle)
        expanded pool) (grant : Grant)
      (issued : grant = GrantRegistry.issuedGrant core.snapshot request core.incarnation now deadline
        registry.takeFence.nextFence expanded pool) :
      Move core now registry [.grantCommit grant, .requestOutcome (outcomeRecordOf request.request grant)]
        (registry.takeFence.enlist core.snapshot request grant)
  | replay (registry : GrantRegistry) (request : RequestId) (outcome : RequestOutcome) (grant : Grant)
      (remembered : registry.outcomes[request]? = some outcome) (accepted : outcome.code = .ok)
      (found : registry.grants[outcome.grant]? = some grant) :
      Move core now registry [.grantCommit grant, .requestOutcome (outcomeRecordOf request grant)] registry
  | undo (registry : GrantRegistry) (id : UInt64) (grant : Grant) (found : registry.grants[id]? = some grant)
      (unloggable : ¬ (StoreRecord.grantCommit grant).Loggable) :
      Move core now registry [] (registry.release grant.token).1
  | renew (registry : GrantRegistry) (token : LeaseToken) (deadline : UInt64) (grant : Grant)
      (checked : registry.checkLease core.snapshot token now = .ok grant) :
      Move core now registry [.grantCommit { grant with expiresAtMs := deadline }]
        { registry with grants := registry.grants.insert token.grant { grant with expiresAtMs := deadline } }
  | renewUnlogged (registry : GrantRegistry) (token : LeaseToken) (deadline : UInt64) (grant : Grant)
      (checked : registry.checkLease core.snapshot token now = .ok grant)
      (unloggable : ¬ (StoreRecord.grantCommit { grant with expiresAtMs := deadline }).Loggable) :
      Move core now registry []
        { registry with grants := registry.grants.insert token.grant { grant with expiresAtMs := deadline } }

abbrev Moves (core : DaemonCore) (now : UInt64) :
    GrantRegistry → List StoreRecord → GrantRegistry → Prop :=
  Foundation.Chain (Move core now)

/-- A stretch of a call: the records it logs, and the moves their authority records belong to. -/
def Serves (core : DaemonCore) (now : UInt64) (before after : DaemonCore) : Prop :=
  ∃ records, Logs core.lifecycle before records after ∧
    (∀ record ∈ records, record.isPlain = true ∨ record.isAuthority = true) ∧
    Moves core now before.grants (journal records) after.grants

theorem Serves.trans {core first second third : DaemonCore} {now : UInt64} (earlier : Serves core now first second)
    (later : Serves core now second third) : Serves core now first third := by
  obtain ⟨records, logs, kinds, moves⟩ := earlier
  obtain ⟨more, logsMore, kindsMore, movesMore⟩ := later
  refine ⟨records ++ more, logs.trans logsMore, ?_, ?_⟩
  · intro record member
    rcases List.mem_append.mp member with member | member
    · exact kinds record member
    · exact kindsMore record member
  · rw [journal_append]
    exact moves.trans movesMore

theorem Serves.quiet {core before after : DaemonCore} {now : UInt64} (serves : Serves core now before after)
    (quiet : before.Quiet) : after.Quiet := by
  obtain ⟨records, logs, -, -⟩ := serves
  exact logs.quiet quiet

/-- A stretch that leaves the registry alone and logs nothing but what the rack is made of. -/
theorem serves_of_logsPlain {core before after : DaemonCore} {now : UInt64}
    (logs : LogsPlain core.lifecycle before after) (same : after.grants = before.grants) :
    Serves core now before after := by
  obtain ⟨records, plain, logs⟩ := logs
  refine ⟨records, logs, fun record member => .inl (plain record member), ?_⟩
  rw [journal_plain plain, same]
  exact .nothing before.grants

theorem serves_nothing {core before after : DaemonCore} {now : UInt64} (quiet : before.Quiet)
    (store : after.store = before.store) (same : after.grants = before.grants) : Serves core now before after :=
  serves_of_logsPlain (quiet.logsPlain core.lifecycle store) same

theorem maybeCheckpointLocked_serves {core before : DaemonCore} {now : UInt64} (quiet : before.Quiet)
    (lifecycle : before.lifecycle = core.lifecycle) : Serves core now before before.maybeCheckpointLocked.1 := by
  have logs := maybeCheckpointLocked_logsPlain quiet
  rw [lifecycle] at logs
  obtain ⟨store, written⟩ := maybeCheckpointLocked_store before
  exact serves_of_logsPlain logs (by rw [written])

/-- A stretch that makes one move and logs its records. -/
theorem serves_move {core before after : DaemonCore} {now : UInt64} {records : List StoreRecord}
    (logs : Logs core.lifecycle before records after) (authority : ∀ record ∈ records, record.isAuthority = true)
    (move : Move core now before.grants records after.grants) : Serves core now before after := by
  refine ⟨records, logs, fun record member => .inr (authority record member), ?_⟩
  rw [journal, List.filter_eq_self.mpr authority]
  exact .single move

/-- The expiries of a call are all logged: the reason they carry is short. -/
theorem foldl_expiry_logs {core : DaemonCore} (quiet : core.Quiet) (lifecycle : LifecycleState) {ids : List UInt64}
    (records : ∀ id ∈ ids, ((core.grants.grants[id]?).map Grant.reason).getD (text "expired") =
      text "lease deadline passed") :
    Logs lifecycle core (expirations ids) (ids.foldl (fun core id => (core.appendLocked (core.expiryRecord id)).1)
      core) := by
  induction ids generalizing core with
  | nil => exact quiet.logs_nothing lifecycle rfl
  | cons id rest ih =>
    have record : core.expiryRecord id = .grantState ⟨id, .expired, text "lease deadline passed"⟩ := by
      rw [expiryRecord, records id (by simp)]
    have loggable : (core.expiryRecord id).Loggable := by
      have short : ByteWriter.Writable (text "lease deadline passed") kMaxReasonText := by decide +kernel
      rw [record]
      exact state_loggable short
    obtain ⟨next, done, logs⟩ := appendLocked_logs quiet lifecycle loggable
    rw [List.foldl_cons, done]
    rw [record] at logs
    refine logs.trans (ih (logs.quiet quiet) ?_)
    intro other member
    rw [appendLocked_grants done]
    exact records other (by simp [member])

theorem expireDueLocked_serves {core before : DaemonCore} {now : UInt64} (quiet : before.Quiet)
    (keyed : before.grants.Keyed) : Serves core now before (before.expireDueLocked now) := by
  have swept := GrantRegistry.expireDue_swept keyed now
  have reasons : ∀ id ∈ (before.grants.expireDue now).2,
      (((before.grants.expireDue now).1.grants[id]?).map Grant.reason).getD (text "expired") =
        text "lease deadline passed" := by
    intro id member
    obtain ⟨grant, found, due⟩ := (GrantRegistry.mem_expireDue keyed).mp member
    rw [swept.entries id, found, Option.map_some, GrantRegistry.expireRewrite, if_pos due]
    rfl
  have ended : ({ before with grants := (before.grants.expireDue now).1 } : DaemonCore).Quiet := quiet
  have logs := foldl_expiry_logs ended core.lifecycle reasons
  obtain ⟨store, expired⟩ := expireDueLocked_store before now
  have grants : (before.expireDueLocked now).grants = (before.grants.expireDue now).1 := by rw [expired]
  refine serves_move logs ?_ ?_
  · intro record member
    obtain ⟨id, -, rfl⟩ := List.mem_map.mp member
    rfl
  · rw [grants]
    exact .expire before.grants

theorem submitEvidence_serves {core : DaemonCore} (quiet : core.Quiet) (keyed : core.grants.Keyed) (now : UInt64)
    (records : List EvidenceRecord) : Serves core now core (core.submitEvidence now records).1 := by
  unfold submitEvidence
  split
  · exact serves_nothing quiet rfl rfl
  split
  · exact serves_nothing quiet rfl rfl
  have expired : Serves core now core (core.expireDueLocked now) := expireDueLocked_serves quiet keyed
  obtain ⟨ledger, store, batched⟩ := offerBatch_ledger (core.expireDueLocked now) records
  have offered : Serves core now core ((core.expireDueLocked now).offerBatch records).1 :=
    expired.trans (serves_of_logsPlain (offerBatch_logsPlain (expired.quiet quiet) records core.lifecycle)
      (by rw [batched]))
  have kept : ((core.expireDueLocked now).offerBatch records).1.lifecycle = core.lifecycle := by
    rw [batched]
    exact (expireDueLocked_keeps core now).lifecycle
  dsimp only
  generalize ((core.expireDueLocked now).offerBatch records).1 = before at offered kept ⊢
  split
  · have composed : Serves core now core (before.composeLocked before.generation).1 :=
      offered.trans (serves_of_logsPlain (composeLocked_logsPlain (offered.quiet quiet) _ core.lifecycle)
        (composeLocked_recomposes before before.generation).grants)
    exact composed.trans (maybeCheckpointLocked_serves (composed.quiet quiet)
      ((composeLocked_keeps before before.generation).lifecycle.trans kept))
  · exact offered.trans (maybeCheckpointLocked_serves (offered.quiet quiet) kept)

theorem compose_serves {core : DaemonCore} (quiet : core.Quiet) (now generation : UInt64) :
    Serves core now core (core.compose generation).1 := by
  unfold compose
  split
  · exact serves_nothing quiet rfl rfl
  split
  · exact serves_nothing quiet rfl rfl
  have advanced : Serves core now core (core.advanceGeneration generation).1 :=
    serves_of_logsPlain (advanceGeneration_logsPlain quiet generation core.lifecycle)
      (advanceGeneration_recomposes core generation).grants
  have lifecycle := (advanceGeneration_keeps core generation).lifecycle
  split
  · rename_i refused
    rwa [refused] at advanced
  · rename_i next done
    rw [done] at advanced lifecycle
    have composed : Serves core now core (next.composeLocked next.generation).1 :=
      advanced.trans (serves_of_logsPlain (composeLocked_logsPlain (advanced.quiet quiet) _ core.lifecycle)
        (composeLocked_recomposes next next.generation).grants)
    have kept := (composeLocked_keeps next next.generation).lifecycle.trans lifecycle
    split
    · rename_i refused
      rwa [refused] at composed
    · rename_i done
      rw [done] at composed kept
      exact composed.trans (maybeCheckpointLocked_serves (composed.quiet quiet) kept)

theorem checkpoint_serves {core : DaemonCore} (quiet : core.Quiet) (valid : core.snapshot.valid = true)
    (now : UInt64) : Serves core now core core.checkpoint.1 := by
  unfold checkpoint
  rw [ensureSnapshotLocked_valid valid]
  split
  · exact serves_nothing quiet rfl rfl
  · rename_i store held
    have written : Serves core now core (core.checkpointLocked store).1 := by
      obtain ⟨final, same⟩ := checkpointLocked_store core store
      exact serves_of_logsPlain ⟨[], by simp, checkpointLocked_logs held⟩ (by rw [same])
    simp only [held]
    split
    · rename_i refused
      rwa [refused] at written
    · rename_i done
      rwa [done] at written

theorem release_serves {core : DaemonCore} (quiet : core.Quiet) (keyed : core.grants.Keyed) (now : UInt64)
    (token : LeaseToken) : Serves core now core (core.release token).1 := by
  unfold release
  cases releasing : core.grants.release token with
  | mk registry released =>
    dsimp only
    cases released with
    | error status =>
      rcases GrantRegistry.release_cases core.grants token with same | ⟨grant, -, -, done⟩
      · rw [releasing] at same
        exact serves_nothing quiet rfl same
      · rw [releasing] at done
        cases done
    | ok _ =>
      have still : ({ core with grants := registry } : DaemonCore).Quiet := quiet
      obtain ⟨grant, found, cases_⟩ := GrantRegistry.release_ok releasing
      have own := keyed token.grant grant found
      rw [← own] at found ⊢
      dsimp only
      rcases cases_ with ⟨ended, rfl⟩ | ⟨live, rfl⟩
      · rw [found, Option.map_some, Option.getD_some]
        rcases appendLocked_quiet still core.lifecycle (.grantState ⟨grant.id, .released, grant.reason⟩) with
          ⟨-, next, done, logs⟩ | ⟨-, status, failed⟩
        · have served : Serves core now core next := by
            refine serves_move logs (by simp [StoreRecord.isAuthority]) ?_
            rw [appendLocked_grants done]
            exact .releaseAgain core.grants grant found ended
          rw [done]
          exact served.trans (maybeCheckpointLocked_serves (served.quiet quiet) (appendLocked_lifecycle done))
        · rw [failed]
          exact serves_nothing quiet rfl rfl
      · have entry := GrantRegistry.endGrant_rewrites core.grants grant .released (text "released by holder") grant.id
        rw [if_pos rfl] at entry
        rw [entry, Option.map_some, Option.getD_some]
        have short : ByteWriter.Writable (text "released by holder") kMaxReasonText := by decide +kernel
        have loggable : (StoreRecord.grantState ⟨grant.id, .released, text "released by holder"⟩).Loggable :=
          state_loggable short
        obtain ⟨next, done, logs⟩ := appendLocked_logs still core.lifecycle loggable
        have served : Serves core now core next := by
          refine serves_move logs (by simp [StoreRecord.isAuthority]) ?_
          rw [appendLocked_grants done]
          exact .release core.grants grant found live
        have reason : (grant.mark .released (text "released by holder")).reason = text "released by holder" := rfl
        have lifecycle := appendLocked_lifecycle done
        rw [reason, done]
        exact served.trans (maybeCheckpointLocked_serves (served.quiet quiet) lifecycle)

theorem renew_serves {core : DaemonCore} (quiet : core.Quiet) (valid : core.snapshot.valid = true) (now : UInt64)
    (token : LeaseToken) (ttlMs : UInt64) : Serves core now core (core.renew now token ttlMs).1 := by
  unfold renew
  rw [ensureSnapshotLocked_valid valid]
  dsimp only
  cases renewing : core.grants.renew core.snapshot token
      (if ttlMs = 0 then core.config.defaultTtlMs else ttlMs) now with
  | mk registry result =>
    dsimp only
    cases result with
    | error status => exact serves_nothing quiet rfl (GrantRegistry.renew_error renewing).1
    | ok renewed =>
      obtain ⟨grant, deadline, checked, -, rfl, extended⟩ := GrantRegistry.renew_ok renewing
      have still : ({ core with grants := registry } : DaemonCore).Quiet := quiet
      rcases appendLocked_quiet still core.lifecycle (.grantCommit { grant with expiresAtMs := deadline }) with
        ⟨-, next, done, logs⟩ | ⟨unloggable, status, failed⟩
      · have served : Serves core now core next := by
          refine serves_move logs (by simp [StoreRecord.isAuthority]) ?_
          rw [appendLocked_grants done, extended]
          exact .renew core.grants token deadline grant checked
        have lifecycle := appendLocked_lifecycle done
        dsimp only
        rw [done]
        exact served.trans (maybeCheckpointLocked_serves (served.quiet quiet) lifecycle)
      · dsimp only
        rw [failed, extended]
        exact serves_move (quiet.logs_nothing core.lifecycle rfl) (by simp)
          (.renewUnlogged core.grants token deadline grant checked unloggable)

/-- A grant that was just issued can be logged. -/
theorem issuedGrant_loggable {registry : GrantRegistry} {snapshot : Snapshot} {request : GrantRequest}
    {allowNew : Bool} {expanded pool : List ResourceRef}
    (admitted : registry.Admitted snapshot request allowNew expanded pool) (incarnation now deadline fence : UInt64) :
    (StoreRecord.grantCommit
      (GrantRegistry.issuedGrant snapshot request incarnation now deadline fence expanded pool)).Loggable := by
  apply commit_loggable
  have empty : ByteWriter.Writable [] kMaxReasonText := by decide +kernel
  exact ⟨capacityPoolRefs_length admitted.pools, empty⟩

theorem outcomeRecordOf_loggable (request : RequestId) (grant : Grant) :
    (StoreRecord.requestOutcome (outcomeRecordOf request grant)).Loggable := by
  have short : ByteWriter.Writable (text "grant committed") kMaxDetailText := by decide +kernel
  exact outcome_loggable short

/-- Concluding an acquire whose commit can be logged. -/
theorem concludeAcquire_logs {core held : DaemonCore} (quiet : held.Quiet) (lifecycle : held.lifecycle = core.lifecycle)
    (request : RequestId) {grant : Grant} (loggable : (StoreRecord.grantCommit grant).Loggable) :
    ∃ middle, Logs core.lifecycle held [.grantCommit grant, .requestOutcome (outcomeRecordOf request grant)] middle ∧
      middle.grants = held.grants ∧ middle.lifecycle = core.lifecycle ∧
      held.concludeAcquire request grant = (middle.maybeCheckpointLocked.1, .ok (grantToResponse grant .ok)) := by
  obtain ⟨first, committed, logs⟩ := appendLocked_logs quiet core.lifecycle loggable
  obtain ⟨second, recorded, more⟩ := appendLocked_logs (logs.quiet quiet) core.lifecycle
    (outcomeRecordOf_loggable request grant)
  refine ⟨second, logs.trans more, ?_, ?_, ?_⟩
  · rw [appendLocked_grants recorded, appendLocked_grants committed]
  · rw [appendLocked_lifecycle recorded, appendLocked_lifecycle committed, lifecycle]
  · simp only [concludeAcquire, commitGrant, committed, recorded]

/-- Concluding an acquire whose commit cannot be logged takes the grant back. -/
theorem concludeAcquire_undoes {held : DaemonCore} (quiet : held.Quiet) {request : RequestId} {grant : Grant}
    (unloggable : ¬ (StoreRecord.grantCommit grant).Loggable) :
    (held.concludeAcquire request grant).1 = held.rollBack grant := by
  rcases appendLocked_quiet quiet held.lifecycle (.grantCommit grant) with ⟨loggable, -⟩ | ⟨-, status, failed⟩
  · exact absurd loggable unloggable
  · simp only [concludeAcquire, commitGrant, failed]

theorem acquire_serves {core : DaemonCore} (quiet : core.Quiet) (keyed : core.grants.Keyed)
    (valid : core.snapshot.valid = true) (now : UInt64) (request : AcquireRequest) :
    Serves core now core (core.acquire now request).1 := by
  have expired : Serves core now core (core.expireDueLocked now) := expireDueLocked_serves quiet keyed
  obtain ⟨store, same⟩ := expireDueLocked_store core now
  have ensured : (core.expireDueLocked now).ensureSnapshotLocked = (core.expireDueLocked now, .ok ()) := by
    apply ensureSnapshotLocked_valid
    rw [same]
    exact valid
  have acquires := acquire_acquires core now request
  generalize core.acquire now request = served at acquires ⊢
  cases acquires with
  | unready status failed =>
    rw [ensured] at failed
    cases failed
  | decided ready next granted readied decides =>
    rw [ensured] at readied
    obtain rfl : core.expireDueLocked now = ready := (Prod.mk.inj readied).1
    refine expired.trans ?_
    have ready := expired.quiet quiet
    have snapshot : (core.expireDueLocked now).snapshot = core.snapshot := by rw [same]
    have lifecycle : (core.expireDueLocked now).lifecycle = core.lifecycle := by rw [same]
    have incarnation : (core.expireDueLocked now).incarnation = core.incarnation := by rw [same]
    have fence : (core.expireDueLocked now).grants.nextFence = core.grants.nextFence := by
      rw [same]
      exact (GrantRegistry.expireDue_swept keyed now).around.nextFence
    generalize core.expireDueLocked now = before at *
    rw [snapshot, lifecycle, incarnation] at decides
    have still : ({ before with grants := next } : DaemonCore).Quiet := ready
    cases decides with
    | refused status failed => exact serves_nothing ready rfl rfl
    | replayed outcome remembered =>
      cases replayed : before.grants.replay outcome with
      | error status => exact serves_nothing ready rfl rfl
      | ok grant =>
        obtain ⟨accepted, found⟩ := GrantRegistry.replay_ok replayed
        by_cases loggable : (StoreRecord.grantCommit grant).Loggable
        · obtain ⟨middle, logs, grants, kept, concluded⟩ := concludeAcquire_logs still lifecycle
            request.request loggable
          rw [settleAcquire, concluded]
          have moved : Serves core now before middle := by
            refine serves_move logs (by simp [StoreRecord.isAuthority]) ?_
            rw [grants]
            exact .replay before.grants request.request outcome grant remembered accepted found
          exact moved.trans (maybeCheckpointLocked_serves (moved.quiet ready) kept)
        · rw [settleAcquire, concludeAcquire_undoes still loggable]
          exact serves_move (ready.logs_nothing core.lifecycle rfl) (by simp)
            (.undo before.grants outcome.grant grant found loggable)
    | turnedDown refusal identified fresh checked =>
      exact serves_move (ready.logs_nothing core.lifecycle rfl) (by simp)
        (.turnDown before.grants _ refusal (GrantRegistry.admission_error checked) fresh)
    | burned status failed expanded pool checked =>
      exact serves_move (ready.logs_nothing core.lifecycle rfl) (by simp) (.burn before.grants fence)
    | issued deadline expanded pool identified fresh checked =>
      have admitted := GrantRegistry.admission_ok checked
      obtain ⟨middle, logs, grants, kept, concluded⟩ := concludeAcquire_logs still lifecycle
        request.request
        (issuedGrant_loggable admitted core.incarnation now deadline before.grants.takeFence.nextFence)
      rw [settleAcquire, concluded]
      have moved : Serves core now before middle := by
        refine serves_move logs (by simp [StoreRecord.isAuthority]) ?_
        rw [grants]
        exact .issue before.grants (before.grantRequestOf request) deadline expanded pool fence identified fresh
          admitted _ rfl
      exact moved.trans (maybeCheckpointLocked_serves (moved.quiet ready) kept)

/-- Every command but a lifecycle command serves by moves. -/
theorem exec_serves {core : DaemonCore} (quiet : core.Quiet) (keyed : core.grants.Keyed)
    (valid : core.snapshot.valid = true) (now : UInt64) (command : Command)
    (other : ∀ target, command ≠ .setLifecycle target) : Serves core now core (core.exec now command).1 := by
  cases command with
  | submitEvidence records => exact submitEvidence_serves quiet keyed now records
  | compose generation => exact compose_serves quiet now generation
  | acquire request => exact acquire_serves quiet keyed valid now request
  | renew token ttlMs => exact renew_serves quiet valid now token ttlMs
  | release token => exact release_serves quiet keyed now token
  | validate token =>
    have same : (core.exec now (.validate token)).1 = core := by
      simp only [exec, validate, ensureSnapshotLocked_valid valid]
      split <;> rfl
    rw [same]
    exact serves_nothing quiet rfl rfl
  | lookup request => exact serves_nothing quiet rfl rfl
  | setLifecycle target => exact absurd rfl (other target)
  | checkpoint => exact checkpoint_serves quiet valid now
  | expireDue => exact expireDueLocked_serves quiet keyed

end DaemonCore

end RackFabric
