import RackFabric.Authority.TakenUp
import RackFabric.Runtime.Boot

/-!
What a restart hands back. A grant comes back as the first commit on the log has it. It is re-armed under the
incarnation of the new process if no end of it was logged and revalidation passes, and has ended otherwise.
-/

namespace RackFabric

open Foundation GrantRegistry

/-- What has become of a commit once a start is through. -/
inductive Returns (snapshot : Snapshot) (incarnation nowMs : UInt64) (ends : List GrantStateRecord) (commit : Grant) :
    Grant → Prop where
  | rearmed (pool : List ResourceRef) (fence : UInt64) (standing : ∀ body ∈ ends, ¬ body.ends commit.id)
      (drawn : recoveredPool snapshot commit = .ok pool) (passes : revalidationFailure snapshot nowMs commit = none) :
      Returns snapshot incarnation nowMs ends commit { commit with
        capacityPool := pool
        state := .active
        incarnation := incarnation
        fence := fence
        issuedAtMs := nowMs
        reason := [] }
  | fenced (pool : List ResourceRef) (failure : Text) (standing : ∀ body ∈ ends, ¬ body.ends commit.id)
      (drawn : recoveredPool snapshot commit = .ok pool)
      (fails : revalidationFailure snapshot nowMs commit = some failure) :
      Returns snapshot incarnation nowMs ends commit (({ commit with capacityPool := pool } : Grant).mark .fenced failure)
  | lost (status : Status) (standing : ∀ body ∈ ends, ¬ body.ends commit.id)
      (undrawn : recoveredPool snapshot commit = .error status) :
      Returns snapshot incarnation nowMs ends commit (lostGrant commit)
  | ended (body : GrantStateRecord) (logged : body ∈ ends) (named : body.ends commit.id) :
      Returns snapshot incarnation nowMs ends commit ((commit.takenUp snapshot).mark body.state body.reason)

theorem Returns.of_revalidates {snapshot : Snapshot} {incarnation nowMs : UInt64} {ends : List GrantStateRecord}
    {commit next : Grant}
    (moved : Revalidates snapshot incarnation nowMs ((commit.takenUp snapshot).afterEnds ends) next) :
    Returns snapshot incarnation nowMs ends commit next := by
  rcases (commit.takenUp snapshot).afterEnds_cases ends with ⟨standing, same⟩ | ⟨body, logged, named, marked⟩
  · rw [same] at moved
    rw [Grant.takenUp_id] at standing
    cases drawn : recoveredPool snapshot commit with
    | error status =>
      have taken : commit.takenUp snapshot = lostGrant commit := by rw [Grant.takenUp, drawn]
      rw [taken] at moved
      cases moved with
      | idle => exact .lost status standing drawn
      | rearmed fence recovering passes => cases recovering
      | fenced failure recovering fails => cases recovering
    | ok pool =>
      have taken : commit.takenUp snapshot = recoveredGrant commit pool := by rw [Grant.takenUp, drawn]
      rw [taken] at moved
      cases moved with
      | idle other => exact absurd rfl other
      | rearmed fence recovering passes => exact .rearmed pool fence standing drawn passes
      | fenced failure recovering fails => exact .fenced pool failure standing drawn fails
  · rw [marked] at moved
    rw [Grant.takenUp_id] at named
    have terminal : isTerminalState body.state = true := named.2
    cases moved with
    | idle => exact .ended body logged named
    | rearmed fence recovering passes =>
      have same : body.state = .recovering := recovering
      rw [same] at terminal
      cases terminal
    | fenced failure recovering fails =>
      have same : body.state = .recovering := recovering
      rw [same] at terminal
      cases terminal

namespace DaemonCore

/-- A start takes up the commits of the log before it looks at the ends. -/
theorem Recovers.takes {config : DaemonConfig} {disk : Disk} {env : Env} {recovered : DaemonCore}
    (recovers : Recovers config disk env recovered) :
    ∃ registry, Takes recovered.snapshot config.authorityLimits.maxLiveGrants (commitsOf disk.replayed) registry ∧
      recovered.grants = (statesOf disk.replayed).foldl
        (fun registry body => (registry.applyState body.id body.state body.reason).1) registry := by
  obtain ⟨incarnation, grants⟩ := recovers.grants
  obtain ⟨table, limits, -, live, -⟩ := outcomesAfter_books { limits := config.authorityLimits } disk.replayed
  refine ⟨_, foldl_install_takes recovers.snapshot.1 ?_ (commitsOf disk.replayed), grants⟩
  refine ⟨congrArg AuthorityLimits.maxLiveGrants limits, ?_, fun _ member => absurd member List.not_mem_nil, [],
    List.nodup_nil, Nat.le_of_eq live, fun _ member => absurd member List.not_mem_nil⟩
  intro id grant found
  dsimp only at found
  rw [table] at found
  simp at found

end DaemonCore

/-- A restart on any directory. Every grant of the new process is what the first commit of its identity, the ends that
are logged for it and revalidation make of it; and as long as the commits name no more grants than may live at a time,
each of them is there. -/
theorem restart_hands_back {config : DaemonConfig} (backed : config.storeDirectory ≠ []) {disk : Disk} {event : Event}
    {core : DaemonCore} (up : System.step config (.down disk) event = .up core) :
    (∀ (id : UInt64) (grant : Grant), core.grants.grants[id]? = some grant →
      ∃ commit, (commitsOf disk.replayed).find? (fun commit => commit.id == id) = some commit ∧
        Returns core.snapshot core.incarnation event.env.now (statesOf disk.replayed) commit grant) ∧
    (((commitsOf disk.replayed).map Grant.id).dedup.length ≤ config.authorityLimits.maxLiveGrants →
      ∀ commit ∈ commitsOf disk.replayed, commit.id ≠ 0 → core.grants.grants.contains commit.id = true) := by
  rcases System.step_up up with ⟨_, _, same, -⟩ | ⟨same, -⟩ | ⟨_, same, -, booted⟩
  · cases same
  · cases same
  · cases same
    obtain ⟨recovered, recovering, rfl⟩ := System.boot_up booted
    obtain ⟨registry, takes, grants⟩ := (DaemonCore.recover_recovers backed recovering).takes
    have swept := foldl_applyState_swept takes.keyed (statesOf disk.replayed)
    rw [← grants] at swept
    obtain ⟨-, carries⟩ := revalidate_carries swept.keyed recovered.snapshot recovered.incarnation event.env.now
    constructor
    · intro id grant found
      obtain ⟨old, held, moved⟩ := carries.source found
      rw [swept.entries id, Option.map_eq_some_iff] at held
      obtain ⟨taken, first, rfl⟩ := held
      obtain ⟨commit, found, rfl⟩ := takes.entries id taken first
      exact ⟨commit, found, .of_revalidates moved⟩
    · intro room commit member identified
      have known := takes.whole room member identified
      rw [← Std.ExtTreeMap.isSome_getElem?_eq_contains] at known ⊢
      have entry := carries commit.id
      rw [swept.entries commit.id] at entry
      obtain ⟨taken, first⟩ := Option.isSome_iff_exists.mp known
      rw [first, Option.map_some] at entry
      rw [DaemonCore.revalidateGrants]
      generalize (recovered.grants.revalidate recovered.snapshot recovered.incarnation event.env.now).grants[commit.id]? =
        after at entry ⊢
      cases entry with
      | some _ => rfl

/-- The directory of a process that crashes with the whole rack leased. -/
def lentDisk : Disk :=
  (System.after loneRack [.start 0, .call 1 (.setLifecycle .active), .call 2 (.acquire (wholeRack 1)), .crash]).disk

/-- The process that is started on it. -/
def lentCore : DaemonCore :=
  match System.step loneRack (.down lentDisk) (.start 3) with
  | .up core => core
  | .down _ => .create loneRack

theorem restart_hands_back_lease :
    lentCore.grants.grants.contains 1 = true ∧ ∀ (id : UInt64) (grant : Grant), lentCore.grants.grants[id]? = some grant →
      ∃ commit, (commitsOf lentDisk.replayed).find? (fun commit => commit.id == id) = some commit ∧
        Returns lentCore.snapshot lentCore.incarnation 3 (statesOf lentDisk.replayed) commit grant := by
  have up : System.step loneRack (.down lentDisk) (.start 3) = .up lentCore := by
    have running : (System.step loneRack (.down lentDisk) (.start 3)).lifecycle.isSome = true := by decide +kernel
    unfold lentCore
    cases reached : System.step loneRack (.down lentDisk) (.start 3) with
    | up core => rfl
    | down disk =>
      rw [reached] at running
      cases running
  have whole := restart_hands_back loneRack_backed up
  have logged : (commitsOf lentDisk.replayed).map Grant.id = [1] := by decide +kernel
  refine ⟨?_, whole.1⟩
  obtain ⟨commit, member, own⟩ := List.mem_map.mp (logged ▸ List.mem_singleton_self 1)
  rw [← own]
  exact whole.2 (by rw [logged]; decide) commit member (by rw [own]; decide)

end RackFabric
