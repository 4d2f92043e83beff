import RackFabric.Runtime.Boot
import RackFabric.Runtime.Serving

/-!
The operator's gate after an unclean shutdown. A start that finds one comes up in recovery, where no new authority
is given out, but it logs nothing: the next start takes its lifecycle from the log again.
-/

namespace RackFabric

namespace GrantRegistry

/-- Releasing brings no new identity. -/
theorem release_contains {registry : GrantRegistry} (keyed : registry.Keyed) (token : LeaseToken) {id : UInt64}
    (found : (registry.release token).1.grants.contains id = true) : registry.grants.contains id = true := by
  rcases release_cases registry token with same | ⟨grant, held, -, released⟩
  · rwa [same] at found
  · rw [released, ← Std.ExtTreeMap.isSome_getElem?_eq_contains, endGrant_rewrites registry grant _ _ id] at found
    rw [← Std.ExtTreeMap.isSome_getElem?_eq_contains]
    split at found
    · rename_i own
      rw [own, keyed token.grant grant held, held]
      rfl
    · exact found

/-- Ending due leases brings no new identity. -/
theorem expireDue_contains {registry : GrantRegistry} (keyed : registry.Keyed) (nowMs id : UInt64) :
    (registry.expireDue nowMs).1.grants.contains id = registry.grants.contains id := by
  rw [← Std.ExtTreeMap.isSome_getElem?_eq_contains, ← Std.ExtTreeMap.isSome_getElem?_eq_contains,
    (expireDue_swept keyed nowMs).entries id, Option.isSome_map]

end GrantRegistry

namespace DaemonCore

/-- An acquire that neither leaves a new grant behind nor hands one out. -/
def GrantsNothingNew (core : DaemonCore) (env : Env) (request : AcquireRequest) : Prop :=
  (((core.enter env.io).acquire env.now request).1.grants.grants.keys.all core.grants.grants.contains) = true ∧
    match ((core.enter env.io).acquire env.now request).2 with
    | .error _ => True
    | .ok response => response.code = .ok → core.grants.grants.contains response.grant.id = true

instance (core : DaemonCore) (env : Env) (request : AcquireRequest) :
    Decidable (core.GrantsNothingNew env request) := by
  unfold GrantsNothingNew
  cases ((core.enter env.io).acquire env.now request).2 <;> infer_instance

/-- Under a closed lifecycle an acquire leaves no new identity, and a positive answer carries a grant that was
there once due leases had ended. -/
theorem acquire_closed {core : DaemonCore} (keyed : core.grants.Keyed)
    (closed : lifecycleAcceptsNewAuthority core.lifecycle = false) (now : UInt64) (request : AcquireRequest) :
    (∀ id, (core.acquire now request).1.grants.grants.contains id = true →
        (core.grants.expireDue now).1.grants.contains id = true) ∧
      ∀ response, (core.acquire now request).2 = .ok response → response.code = .ok →
        ∃ (id : UInt64) (grant : Grant), (core.grants.expireDue now).1.grants[id]? = some grant ∧
          response.grant = .ofGrant grant := by
  have readied := ensureSnapshotLocked_readied core now
  have acquires := acquire_acquires core now request
  generalize core.acquire now request = served at acquires ⊢
  cases acquires with
  | unready status failed =>
    refine ⟨?_, fun response answered => by cases answered⟩
    rw [readied.grants]
    exact fun id found => found
  | decided ready next granted ensured decides =>
    rw [ensured] at readied
    rw [readied.lifecycle, closed] at decides
    obtain ⟨same, handed⟩ := decides.closed
    have grants : ready.grants = (core.grants.expireDue now).1 := readied.grants
    rw [grants] at same handed
    have stands : next.Keyed := by
      intro id grant found
      rw [same] at found
      exact (GrantRegistry.expireDue_swept keyed now).keyed id grant found
    cases granted with
    | error status =>
      rw [settleAcquire]
      refine ⟨?_, ?_⟩
      · intro id found
        rwa [same] at found
      · rintro response answered code
        cases answered
        exact absurd code decides.error_code
    | ok grant =>
      rw [settleAcquire]
      obtain ⟨id, found⟩ := handed grant rfl
      rcases concludeAcquire_cases { ready with grants := next } request.request grant with
        ⟨answered, kept⟩ | ⟨⟨status, failed⟩, undone⟩
      · refine ⟨?_, ?_⟩
        · intro id found
          rwa [kept, same] at found
        · rw [answered]
          rintro response same -
          cases same
          exact ⟨id, grant, found, rfl⟩
      · refine ⟨?_, ?_⟩
        · intro id found
          rw [undone] at found
          have before := GrantRegistry.release_contains stands grant.token found
          rwa [same] at before
        · rw [failed]
          intro response answered
          cases answered

theorem acquire_grantsNothingNew {core : DaemonCore} (keyed : core.grants.Keyed)
    (closed : lifecycleAcceptsNewAuthority core.lifecycle = false) (env : Env) (request : AcquireRequest) :
    core.GrantsNothingNew env request := by
  have entered : (core.enter env.io).grants.Keyed := keyed
  have still : lifecycleAcceptsNewAuthority (core.enter env.io).lifecycle = false := closed
  obtain ⟨within, answers⟩ := acquire_closed entered still env.now request
  refine ⟨?_, ?_⟩
  · rw [List.all_eq_true]
    intro id member
    rw [← GrantRegistry.expireDue_contains keyed env.now]
    exact within id (by rwa [Std.ExtTreeMap.contains_iff_mem, ← Std.ExtTreeMap.mem_keys])
  · split
    · trivial
    · rename_i response answered
      intro code
      obtain ⟨id, grant, found, same⟩ := answers response answered code
      have own : grant.id = id := (GrantRegistry.expireDue_swept keyed env.now).keyed id grant found
      have named : response.grant.id = id := by
        rw [same]
        exact own
      rw [named, ← GrantRegistry.expireDue_contains keyed env.now, ← Std.ExtTreeMap.isSome_getElem?_eq_contains]
      exact Option.isSome_iff_exists.mpr ⟨grant, found⟩

end DaemonCore

namespace System

def GrantsNothingNewAt (env : Env) (request : AcquireRequest) : System → Prop
  | .down _ => True
  | .up core => core.GrantsNothingNew env request

instance (env : Env) (request : AcquireRequest) : ∀ system, Decidable (GrantsNothingNewAt env request system)
  | .down _ => .isTrue trivial
  | .up _ => inferInstanceAs (Decidable (DaemonCore.GrantsNothingNew ..))

/-- No call can be granted anything new. -/
structure Shut (system : System) : Prop where
  nothingNew : ∀ env request, system.GrantsNothingNewAt env request

/-- A run without failing writes up to a start that finds an unclean shutdown. -/
structure RecoversAt (config : DaemonConfig) (earlier : List Event) (restart : Event) : Prop where
  quiet : ∀ event ∈ earlier, event.env.io = []
  down : (after config earlier).lifecycle = none
  unclean : (after config earlier).disk.unclean = true
  restarts : restart.action = .start

/-- No write of the event fails, and a start, if the event is one, finds another unclean shutdown or a recorded
lifecycle that is closed to new authority. -/
def StartsClosed (system : System) (event : Event) (_ : System) : Prop :=
  event.env.io = [] ∧
    match system, event.action with
    | .down disk, .start =>
      disk.unclean = true ∨ lifecycleAcceptsNewAuthority (DaemonCore.recordedLifecycle disk) = false
    | _, _ => True

instance (next : System) : ∀ system event, Decidable (StartsClosed system event next)
  | .down _, ⟨.start, _, _⟩ => inferInstanceAs (Decidable (_ ∧ (_ ∨ _)))
  | .down _, ⟨.command _, _, _⟩ | .down _, ⟨.stop, _, _⟩ | .down _, ⟨.crash, _, _⟩ | .up _, _ =>
    inferInstanceAs (Decidable (_ ∧ True))

def IsTransition (event : Event) : Prop :=
  match event.action with
  | .command (.setLifecycle _) => True
  | _ => False

instance : ∀ event, Decidable (IsTransition event)
  | ⟨.command (.setLifecycle _), _, _⟩ => .isTrue trivial
  | ⟨.command (.submitEvidence _), _, _⟩ | ⟨.command (.compose _), _, _⟩ | ⟨.command (.acquire _), _, _⟩
  | ⟨.command (.renew ..), _, _⟩ | ⟨.command (.release _), _, _⟩ | ⟨.command (.validate _), _, _⟩
  | ⟨.command (.lookup _), _, _⟩ | ⟨.command .checkpoint, _, _⟩ | ⟨.command .expireDue, _, _⟩
  | ⟨.start, _, _⟩ | ⟨.stop, _, _⟩ | ⟨.crash, _, _⟩ => .isFalse id

def Closed (system : System) : Prop :=
  ∀ core, system = .up core → lifecycleAcceptsNewAuthority core.lifecycle = false

theorem bootLifecycle_closed {disk : Disk}
    (found : disk.unclean = true ∨ lifecycleAcceptsNewAuthority (DaemonCore.recordedLifecycle disk) = false) :
    lifecycleAcceptsNewAuthority (DaemonCore.bootLifecycle disk) = false := by
  unfold DaemonCore.bootLifecycle
  split
  · rfl
  · rename_i clean
    split
    · rfl
    · exact found.resolve_left clean

theorem step_closed {config : DaemonConfig} (backed : config.storeDirectory ≠ []) {system : System} {event : Event}
    (closed : system.Closed) (untouched : ¬ IsTransition event)
    (starts : StartsClosed system event (step config system event)) : (step config system event).Closed := by
  intro next stepped
  rcases step_up stepped with ⟨core, command, up, action, -, rfl⟩ | ⟨up, -⟩ | ⟨disk, down, action, booted⟩
  · have other : ∀ target, command ≠ .setLifecycle target := by
      rintro target rfl
      exact untouched (by simp only [IsTransition, action])
    rw [(DaemonCore.exec_keeps _ _ command other).lifecycle]
    exact closed core up
  · exact closed next up
  · obtain ⟨recovered, recovering, rfl⟩ := boot_up booted
    simp only [StartsClosed, down, action] at starts
    obtain ⟨-, starts⟩ := starts
    have lifecycle : (recovered.revalidateGrants event.env.now).lifecycle = DaemonCore.bootLifecycle disk :=
      (DaemonCore.recover_recovers backed recovering).lifecycle
    rw [lifecycle]
    exact bootLifecycle_closed starts

/-- From a start on an unclean directory on, without lifecycle commands and failing writes, and as long as every later
start finds another unclean shutdown or a recorded lifecycle that is closed, no call is granted anything new. -/
theorem shut_while_in_recovery (config : DaemonConfig) (backed : config.storeDirectory ≠ [])
    (earlier later : List Event) (restart : Event) (recovers : RecoversAt config earlier restart)
    (untouched : ∀ event ∈ later, ¬ IsTransition event)
    (starts : Foundation.Along (step config) StartsClosed (after config earlier) (restart :: later)) :
    (after config (earlier ++ restart :: later)).Shut := by
  obtain ⟨opened, others⟩ := starts
  have before : (after config earlier).Closed := by
    intro core up
    have down := recovers.down
    rw [up] at down
    cases down
  have first : (step config (after config earlier) restart).Closed := by
    refine step_closed backed before ?_ opened
    simp [IsTransition, recovers.restarts]
  have closed : (after config (earlier ++ restart :: later)).Closed := by
    rw [after, Foundation.run_append, Foundation.run_cons]
    refine others.invariant_of_mem first ?_
    intro system event member closed starts
    exact step_closed backed closed (untouched event member) starts
  refine ⟨fun env request => ?_⟩
  cases up : after config (earlier ++ restart :: later) with
  | down disk => trivial
  | up core =>
    exact DaemonCore.acquire_grantsNothingNew (after_stands config _ up).1 (closed core up) env request

/-- A rack that was active crashes; two starts after unclean shutdowns follow. -/
def crashedRun : List Event :=
  [.start 0, .call 1 (.setLifecycle .active), .crash]

theorem crashedRun_recovers : RecoversAt loneRack crashedRun (.start 3) where
  quiet := by decide +kernel
  down := rfl
  unclean := by decide +kernel
  restarts := rfl

theorem shut_after_crashes :
    (after loneRack (crashedRun ++ .start 3 :: [.call 4 (.acquire (wholeRack 2)), .crash, .start 5])).Shut :=
  shut_while_in_recovery loneRack loneRack_backed crashedRun _ (.start 3) crashedRun_recovers (by decide +kernel)
    (by decide +kernel)

/-- The start after the crash comes up in recovery, but a clean stop follows and the next start is active again. -/
def reopenedRun : List Event :=
  [.stop 4, .start 5]

/-- The gate is gone after one clean restart: the recovery was never recorded. -/
theorem not_shut_after_clean_stop :
    ¬ ∀ (config : DaemonConfig) (earlier later : List Event) (restart : Event),
      config.storeDirectory ≠ [] → RecoversAt config earlier restart →
      (∀ event ∈ later, ¬ IsTransition event) → (after config (earlier ++ restart :: later)).Shut := by
  intro shut
  have closed := shut loneRack crashedRun reopenedRun (.start 3) loneRack_backed crashedRun_recovers
    (by decide +kernel)
  have granted : ¬ GrantsNothingNewAt { now := 6 } (wholeRack 2)
      (after loneRack (crashedRun ++ .start 3 :: reopenedRun)) := by decide +kernel
  generalize after loneRack (crashedRun ++ .start 3 :: reopenedRun) = system at closed granted
  exact granted (closed.nothingNew { now := 6 } (wholeRack 2))

end System

end RackFabric
