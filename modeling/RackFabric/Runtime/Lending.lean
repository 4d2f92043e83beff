import RackFabric.Authority.Exclusion
import RackFabric.Runtime.QuietRun
import RackFabric.Runtime.Transition

/-!
What the commands of a process do to the books of its registry. New grants enter them only through a request for
authority, under the published snapshot; every other command trims what is there.
-/

namespace RackFabric

open Foundation GrantRegistry

namespace DaemonCore

theorem expireDueLocked_grants (core : DaemonCore) (now : UInt64) :
    (core.expireDueLocked now).grants = (core.grants.expireDue now).1 := by
  obtain ⟨store, same⟩ := expireDueLocked_store core now
  rw [same]

theorem maybeCheckpointLocked_grants (core : DaemonCore) : core.maybeCheckpointLocked.1.grants = core.grants := by
  obtain ⟨store, same⟩ := maybeCheckpointLocked_store core
  rw [same]

/-- The one call on its registry that a process makes for a command that neither asks for authority nor moves the
lifecycle. -/
inductive Touches (core : DaemonCore) (now : UInt64) : GrantRegistry → Prop where
  | nothing : Touches core now core.grants
  | expires : Touches core now (core.grants.expireDue now).1
  | renews (token : LeaseToken) (ttlMs : UInt64) : Touches core now (core.grants.renew core.snapshot token ttlMs now).1
  | releases (token : LeaseToken) : Touches core now (core.grants.release token).1

theorem submitEvidence_touches (core : DaemonCore) (now : UInt64) (records : List EvidenceRecord) :
    Touches core now (core.submitEvidence now records).1.grants := by
  unfold submitEvidence
  split
  · exact .nothing
  · split
    · exact .nothing
    · obtain ⟨ledger, store, offered⟩ := offerBatch_ledger (core.expireDueLocked now) records
      have batch : ((core.expireDueLocked now).offerBatch records).1.grants = (core.grants.expireDue now).1 := by
        rw [offered, ← expireDueLocked_grants]
      dsimp only
      rw [maybeCheckpointLocked_grants]
      split
      · rw [(composeLocked_recomposes _ _).grants, batch]
        exact .expires
      · rw [batch]
        exact .expires

theorem compose_grants (core : DaemonCore) (generation : UInt64) : (core.compose generation).1.grants = core.grants := by
  unfold compose
  split
  · rfl
  · split
    · rfl
    · have advanced := (advanceGeneration_recomposes core generation).grants
      split
      · rename_i refused
        rw [refused] at advanced
        exact advanced
      · rename_i next done
        rw [done] at advanced
        have composed := (composeLocked_recomposes next next.generation).grants
        split
        · rename_i refused
          rw [refused] at composed
          exact composed.trans advanced
        · rename_i done
          rw [done] at composed
          dsimp only
          rw [maybeCheckpointLocked_grants]
          exact composed.trans advanced

theorem renew_touches {core : DaemonCore} (valid : core.snapshot.valid = true) (now : UInt64) (token : LeaseToken)
    (ttlMs : UInt64) : Touches core now (core.renew now token ttlMs).1.grants := by
  simp only [renew, ensureSnapshotLocked_valid valid]
  have called : Touches core now _ := .renews token (if ttlMs = 0 then core.config.defaultTtlMs else ttlMs)
  cases renewing : core.grants.renew core.snapshot token (if ttlMs = 0 then core.config.defaultTtlMs else ttlMs) now with
  | mk registry renewed =>
    rw [renewing] at called
    cases renewed with
    | error status => exact called
    | ok grant =>
      dsimp only
      split
      · rename_i failed
        rw [appendLocked_grants failed]
        exact called
      · rename_i done
        rw [maybeCheckpointLocked_grants, appendLocked_grants done]
        exact called

theorem release_touches (core : DaemonCore) (now : UInt64) (token : LeaseToken) :
    Touches core now (core.release token).1.grants := by
  simp only [release]
  have called : Touches core now _ := .releases token
  cases releasing : core.grants.release token with
  | mk registry released =>
    rw [releasing] at called
    cases released with
    | error status => exact called
    | ok _ =>
      dsimp only
      split
      · rename_i failed
        rw [appendLocked_grants failed]
        exact called
      · rename_i done
        rw [maybeCheckpointLocked_grants, appendLocked_grants done]
        exact called

theorem checkpoint_grants (core : DaemonCore) (valid : core.snapshot.valid = true) :
    core.checkpoint.1.grants = core.grants := by
  cases held : core.store with
  | none => simp only [checkpoint, held]
  | some store =>
    obtain ⟨next, written⟩ := checkpointLocked_store core store
    simp only [checkpoint, held, ensureSnapshotLocked_valid valid]
    split <;> rename_i done <;> rw [done] at written <;> obtain rfl := written <;> rfl

theorem exec_touches {core : DaemonCore} (valid : core.snapshot.valid = true) (now : UInt64) (command : Command)
    (asks : ∀ request, command ≠ .acquire request) (moves : ∀ target, command ≠ .setLifecycle target) :
    Touches core now (core.exec now command).1.grants := by
  have idle : ∀ {grants : GrantRegistry}, grants = core.grants → Touches core now grants := by
    rintro _ rfl
    exact .nothing
  cases command with
  | submitEvidence records => exact submitEvidence_touches core now records
  | compose generation => exact idle (compose_grants core generation)
  | acquire request => exact absurd rfl (asks request)
  | renew token ttlMs => exact renew_touches valid now token ttlMs
  | release token => exact release_touches core now token
  | validate token =>
    apply idle
    simp only [exec, validate, ensureSnapshotLocked_valid valid]
    split <;> rfl
  | lookup request => exact .nothing
  | setLifecycle target => exact absurd rfl (moves target)
  | checkpoint => exact idle (checkpoint_grants core valid)
  | expireDue =>
    have same : (core.exec now .expireDue).1.grants = (core.grants.expireDue now).1 := expireDueLocked_grants core now
    rw [same]
    exact .expires

theorem Touches.trims {core : DaemonCore} {now : UInt64} {next : GrantRegistry} (touches : Touches core now next)
    (keyed : core.grants.Keyed) : Trims core.grants next := by
  cases touches with
  | nothing => exact .refl
  | expires => exact expireDue_trims keyed now
  | renews token ttlMs => exact GrantRegistry.renew_trims keyed core.snapshot token ttlMs now
  | releases token => exact GrantRegistry.release_trims keyed token

theorem setLifecycle_trims {core : DaemonCore} (keyed : core.grants.Keyed) (now : UInt64) (target : LifecycleState) :
    Trims core.grants (core.setLifecycle now target).1.grants := by
  rw [setLifecycle_grants]
  split
  · unfold transitionGrants
    split
    · exact suspendAll_trims keyed _
    · split
      · exact fenceAll_trims keyed _
      · split
        · split
          · exact .refl
          · rename_i snapshot _
            split
            · have rearmed := revalidate_trims keyed snapshot core.incarnation now
              exact rearmed.trans (resumeAll_trims (rearmed.keyed keyed) snapshot now)
            · exact resumeAll_trims keyed snapshot now
        · exact .refl
  · exact .refl

/-- A command that asks for no authority brings no grant. -/
theorem exec_trims {core : DaemonCore} (valid : core.snapshot.valid = true) (keyed : core.grants.Keyed) (now : UInt64)
    (command : Command) (asks : ∀ request, command ≠ .acquire request) :
    Trims core.grants (core.exec now command).1.grants := by
  by_cases moves : ∃ target, command = .setLifecycle target
  · obtain ⟨target, rfl⟩ := moves
    exact setLifecycle_trims keyed now target
  · exact (exec_touches valid now command asks fun target same => moves ⟨target, same⟩).trims keyed

/-- Under a published snapshot a request for authority ends the leases that are due, has the registry decide, and is
settled by what the registry decided. -/
theorem acquire_settles {core : DaemonCore} (valid : core.snapshot.valid = true) (now : UInt64)
    (request : AcquireRequest) {next : GrantRegistry} {granted : Result Grant}
    (acquired : (core.grants.expireDue now).1.acquire core.snapshot (core.grantRequestOf request) core.incarnation now
      (lifecycleAcceptsNewAuthority core.lifecycle) = (next, granted)) :
    ∃ store, core.acquire now request =
      { core with grants := next, store := store }.settleAcquire request.request granted := by
  obtain ⟨store, expired⟩ := expireDueLocked_store core now
  refine ⟨store, ?_⟩
  have ensured : (core.expireDueLocked now).ensureSnapshotLocked = (core.expireDueLocked now, .ok ()) := by
    apply ensureSnapshotLocked_valid
    rw [expired]
    exact valid
  simp only [acquire, ensured]
  rw [expired]
  dsimp only
  simp only [show grantRequestOf { core with grants := (core.grants.expireDue now).1, store := store } request =
    core.grantRequestOf request from rfl, acquired]
  cases granted with
  | error status => rfl
  | ok grant => rfl

/-- An acquire leaves the registry as it decided, or takes the grant back. -/
theorem acquire_lends {core : DaemonCore} (valid : core.snapshot.valid = true) (now : UInt64) (request : AcquireRequest) :
    ∃ next, (((core.grants.expireDue now).1.acquire core.snapshot (core.grantRequestOf request) core.incarnation now
        (lifecycleAcceptsNewAuthority core.lifecycle)).1 = next) ∧
      ((core.acquire now request).1.grants = next ∨
        ∃ token, (core.acquire now request).1.grants = (next.release token).1) := by
  refine ⟨_, rfl, ?_⟩
  cases acquired : (core.grants.expireDue now).1.acquire core.snapshot (core.grantRequestOf request) core.incarnation
      now (lifecycleAcceptsNewAuthority core.lifecycle) with
  | mk next granted =>
    obtain ⟨store, settled⟩ := acquire_settles valid now request acquired
    rw [settled]
    cases granted with
    | error status => exact .inl rfl
    | ok grant =>
      rcases concludeAcquire_cases { core with grants := next, store := store } request.request grant with
        ⟨-, same⟩ | ⟨-, undone⟩
      · exact .inl same
      · exact .inr ⟨grant.token, undone⟩

end DaemonCore

namespace GrantRegistry

variable {registry : GrantRegistry}

/-- A registry that has never held a grant. -/
def Unused (registry : GrantRegistry) : Prop :=
  ∀ id, id ∉ registry.grants

/-- A registry that holds nothing after commits were offered for installation took none of them up. -/
theorem installAll_unused (snapshot : Snapshot) (commits : List Grant) (registry : GrantRegistry)
    (unused : (commits.foldl (fun registry grant => (registry.installRecovered snapshot grant).1) registry).Unused) :
    commits.foldl (fun registry grant => (registry.installRecovered snapshot grant).1) registry = registry := by
  induction commits generalizing registry with
  | nil => rfl
  | cons grant rest ih =>
    rw [List.foldl_cons] at unused ⊢
    have same := ih _ unused
    rw [same] at unused ⊢
    cases installRecovered_installs registry snapshot grant with
    | refused same => exact same
    | lost dead fresh id ended aside raised =>
      exact absurd ((aside.mem_iff dead.id).mpr (mem_insert_grants.mpr (.inl rfl))) (unused dead.id)
    | enrolled kept fresh id live aside raised =>
      exact absurd ((aside.mem_iff kept.id).mpr (mem_insert_grants.mpr (.inl rfl))) (unused kept.id)

theorem installOutcome_aside (registry : GrantRegistry) (request : RequestId) (outcome : RequestOutcome) :
    Aside registry (registry.installOutcome request outcome) := by
  unfold installOutcome
  split
  · exact ⟨rfl, rfl, rfl, rfl, rfl, rfl, rfl, rfl⟩
  · split <;> exact ⟨rfl, rfl, rfl, rfl, rfl, rfl, rfl, rfl⟩

/-- A grant enters an exclusive registry without conflict. -/
theorem Exclusive.acquire {snapshots : List Snapshot} {scopes : List ResourceRef}
    (exclusive : Exclusive snapshots scopes registry) {snapshot : Snapshot} (known : snapshot ∈ snapshots)
    {request : GrantRequest} (asked : request.scope ∈ scopes) {incarnation nowMs : UInt64} {allowNew : Bool}
    (grows : registry.nextFence ≤ (registry.acquire snapshot request incarnation nowMs allowNew).1.nextFence) :
    Exclusive snapshots scopes (registry.acquire snapshot request incarnation nowMs allowNew).1 := by
  have fence := UInt64.le_iff_toNat_le.mp grows
  cases acquire_enrolls registry snapshot request incarnation nowMs allowNew with
  | kept same _ => exact exclusive.trims (.single (.aside same)) fence
  | enrolled grant expanded pool admitted id scope mode live basis same taken =>
    have next : registry.nextFence.toNat < (registry.nextFence + 1).toNat := by
      rw [taken] at fence
      have apart : registry.nextFence.toNat ≠ (registry.nextFence + 1).toNat :=
        fun equal => succ_ne_self registry.nextFence (UInt64.toNat_inj.mp equal).symm
      omega
    have fresh : grant.id ∉ registry.grants := by
      intro stored
      have bound := exclusive.numbered grant.id stored
      rw [id] at bound
      omega
    have number : grant.id.toNat ≤ (registry.acquire snapshot request incarnation nowMs allowNew).1.nextFence.toNat :=
      Nat.le_of_eq (by rw [id, taken])
    rw [← scope] at asked
    exact exclusive.enroll known asked (scope ▸ admitted.expands) live (mode ▸ admitted.exclusive) basis fresh same
      fence number

theorem release_nextFence (registry : GrantRegistry) (token : LeaseToken) :
    (registry.release token).1.nextFence = registry.nextFence := by
  rcases release_cases registry token with same | ⟨grant, -, -, released⟩
  · rw [same]
  · rw [released]
    exact (endGrant_around registry grant _ _).nextFence

theorem Unused.exclusive (unused : registry.Unused) (indexed : registry.Indexed) (snapshots : List Snapshot)
    (scopes : List ResourceRef) : Exclusive snapshots scopes registry := by
  have none_ : ∀ (id : UInt64) (grant : Grant), registry.grants[id]? ≠ some grant := by
    intro id grant found
    exact unused id (Std.ExtTreeMap.mem_iff_isSome_getElem?.mpr (by rw [found]; rfl))
  refine ⟨indexed, ?_, ?_, ?_, ?_⟩
  · intro id member
    exact absurd member (unused id)
  · intro id grant found
    exact absurd found (none_ id grant)
  · intro id grant found
    exact absurd found (none_ id grant)
  · intro i j a b _ found
    exact absurd found (none_ i a)

end GrantRegistry

namespace DaemonCore

/-- What a command keeps: no two live leases that exclude each other share a resource. -/
theorem exec_exclusive {core : DaemonCore} (valid : core.snapshot.valid = true) {snapshots : List Snapshot}
    {scopes : List ResourceRef} (exclusive : Exclusive snapshots scopes core.grants) (known : core.snapshot ∈ snapshots)
    {now : UInt64} {command : Command} (asked : ∀ request, command = .acquire request → request.scope ∈ scopes)
    (grows : core.grants.nextFence ≤ (core.exec now command).1.grants.nextFence) :
    Exclusive snapshots scopes (core.exec now command).1.grants := by
  have keyed := exclusive.indexed.keyed
  by_cases requests : ∃ request, command = .acquire request
  · obtain ⟨request, rfl⟩ := requests
    have same : (core.exec now (.acquire request)).1.grants = (core.acquire now request).1.grants := rfl
    rw [same] at grows ⊢
    obtain ⟨next, acquired, settled⟩ := acquire_lends valid now request
    have expiry := (expireDue_swept keyed now).around.nextFence
    have swept : Exclusive snapshots scopes (core.grants.expireDue now).1 :=
      exclusive.trims (expireDue_trims keyed now) (Nat.le_of_eq (congrArg UInt64.toNat expiry).symm)
    have scope : (core.grantRequestOf request).scope ∈ scopes := asked request rfl
    have kept : next.nextFence = (core.acquire now request).1.grants.nextFence := by
      rcases settled with same | ⟨token, undone⟩
      · rw [same]
      · rw [undone, release_nextFence]
    rw [← kept, ← expiry, ← acquired] at grows
    have entered := swept.acquire known scope grows
    rw [acquired] at entered
    rcases settled with same | ⟨token, undone⟩
    · rw [same]
      exact entered
    · rw [undone]
      exact entered.trims (GrantRegistry.release_trims entered.indexed.keyed token)
        (Nat.le_of_eq (congrArg UInt64.toNat (release_nextFence next token)).symm)
  · have trims := exec_trims valid keyed now command fun request same => requests ⟨request, same⟩
    exact exclusive.trims trims (UInt64.le_iff_toNat_le.mp grows)

/-- A command after which nothing was ever leased has only trimmed the registry. -/
theorem exec_unused {core : DaemonCore} (valid : core.snapshot.valid = true) (now : UInt64) (command : Command)
    (keyed : core.grants.Keyed) (unused : (core.exec now command).1.grants.Unused) :
    Trims core.grants (core.exec now command).1.grants := by
  by_cases requests : ∃ request, command = .acquire request
  · obtain ⟨request, rfl⟩ := requests
    have same : (core.exec now (.acquire request)).1.grants = (core.acquire now request).1.grants := rfl
    rw [same] at unused ⊢
    obtain ⟨next, acquired, settled⟩ := acquire_lends valid now request
    have expires := expireDue_trims keyed now
    have decided : next.Unused → Trims core.grants next := by
      intro unused
      rw [← acquired] at unused ⊢
      cases acquire_enrolls (core.grants.expireDue now).1 core.snapshot (core.grantRequestOf request) core.incarnation
          now (lifecycleAcceptsNewAuthority core.lifecycle) with
      | kept aside _ => exact expires.tail (.aside aside)
      | enrolled grant expanded pool admitted id scope mode live basis aside taken =>
        refine absurd ((aside.mem_iff grant.id).mpr ?_) (unused grant.id)
        exact mem_insert_grants.mpr (.inl rfl)
    have keyedNext : next.Keyed := by
      rw [← acquired]
      exact acquire_keyed (expires.keyed keyed) _ _ _ _ _
    rcases settled with kept | ⟨token, undone⟩
    · rw [kept] at unused ⊢
      exact decided unused
    · rw [undone] at unused ⊢
      have released := GrantRegistry.release_trims keyedNext token
      exact (decided fun id member => unused id ((released.mem_iff id).mpr member)).trans released
  · exact exec_trims valid keyed now command fun request same => requests ⟨request, same⟩

/-- A start that takes up no grant has only trimmed the empty registry. -/
theorem recover_unused {config : DaemonConfig} {disk : Disk} {env : Env} {recovered : DaemonCore}
    (done : (starting config).recover disk env = (recovered, .ok ())) (unused : recovered.grants.Unused) :
    Trims { limits := config.authorityLimits } recovered.grants := by
  obtain ⟨opened, composed, opening, composing, rfl⟩ := recover_ok done
  have same := composeLocked_recomposes opened.readyToCompose opened.generation
  rw [composing] at same
  have outcomes : ∀ (bodies : List RequestOutcomeRecord) (registry : GrantRegistry), Trims registry
      (bodies.foldl (fun registry body => registry.installOutcome body.request body.outcome) registry) := by
    intro bodies
    induction bodies with
    | nil => exact fun _ => .refl
    | cons body rest ih => exact fun registry => (ih _).head (.aside (installOutcome_aside registry _ _))
  have applied : ∀ (states : List GrantStateRecord) (registry : GrantRegistry), registry.Keyed → Trims registry
      (states.foldl (fun registry body => (registry.applyState body.id body.state body.reason).1) registry) := by
    intro states
    induction states with
    | nil => exact fun _ _ => .refl
    | cons body rest ih =>
      intro registry keyed
      have trims := applyState_trims keyed body.id body.state body.reason
      exact trims.trans (ih _ (trims.keyed keyed))
  have before : Trims { limits := config.authorityLimits } opened.grants := by
    by_cases backed : config.storeDirectory = []
    · unfold openStore at opening
      rw [if_pos (by simp [starting, create, backed])] at opening
      cases opening
      exact .refl
    · rw [(openStore_ok backed opening).grants]
      exact outcomes _ _
  have ready : Trims { limits := config.authorityLimits } composed.grants := by
    rw [same.grants]
    exact before.tail (.aside ⟨rfl, rfl, rfl, rfl, rfl, rfl, rfl, rfl⟩)
  have stands := ready.keyed (indexed_empty config.authorityLimits 0).keyed
  have keyed : (composed.installGrants (commitsOf composed.recoveredRecords)).grants.Keyed :=
    List.foldlRecOn _ _ stands fun registry keyed grant _ => installRecovered_keyed keyed composed.snapshot grant
  have ends : Trims (composed.installGrants (commitsOf composed.recoveredRecords)).grants _ :=
    applied (statesOf composed.recoveredRecords) _ keyed
  have installed := installAll_unused composed.snapshot (commitsOf composed.recoveredRecords) composed.grants
    fun id member => unused id ((ends.mem_iff id).mpr member)
  have start : Trims { limits := config.authorityLimits }
      (composed.installGrants (commitsOf composed.recoveredRecords)).grants := by
    rw [show (composed.installGrants (commitsOf composed.recoveredRecords)).grants = composed.grants from installed]
    exact ready
  exact start.trans ends

end DaemonCore

namespace System

/-- In every state a run reaches in which nothing was ever leased, the empty registry has only been trimmed. -/
theorem after_unused (config : DaemonConfig) (events : List Event) {core : DaemonCore}
    (up : after config events = .up core) (unused : core.grants.Unused) :
    Trims { limits := config.authorityLimits } core.grants := by
  induction events using List.reverseRecOn generalizing core with
  | nil => cases up
  | append_singleton events event ih =>
    rw [after, run_append] at up
    rcases step_up up with ⟨before, command, reached, -, -, rfl⟩ | ⟨reached, -⟩ | ⟨disk, -, -, booted⟩
    · have valid := after_valid config events reached
      have entered : (before.enter event.env.io).snapshot.valid = true := valid
      obtain ⟨keyed, -⟩ := after_stands config events reached
      have registry : (before.enter event.env.io).grants.Keyed := keyed
      have trims : Trims before.grants _ := DaemonCore.exec_unused entered event.env.now command registry unused
      exact (ih reached fun id member => unused id ((trims.mem_iff id).mpr member)).trans trims
    · exact ih reached unused
    · obtain ⟨recovered, recovering, rfl⟩ := boot_up booted
      have keyed := (DaemonCore.recover_stands recovering).1
      have trims : Trims recovered.grants _ := revalidate_trims keyed recovered.snapshot recovered.incarnation
        event.env.now
      exact (DaemonCore.recover_unused recovering fun id member => unused id ((trims.mem_iff id).mpr member)).trans trims

end System

end RackFabric
