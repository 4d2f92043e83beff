import RackFabric.Runtime.CounterStart

/-!
Generation and epoch across the processes of one store. A start never comes up at an epoch before one that was
reported. Its generation is one before only when it resumes from a checkpoint of an earlier snapshot: a generation is
logged before the rack composes at it, and a checkpoint saves the generation of the last snapshot that composed.
-/

namespace RackFabric

open Counters Foundation

/-- Both the generation and the epoch are followed. -/
def stampTracked : Tracked :=
  ⟨True, False⟩

/-- The stamps an answer carries. -/
def Response.stamps : Response → List Stamp
  | .composed response => [⟨response.generation, response.epoch⟩]
  | .grant response => [⟨response.grant.generation, response.grant.epoch⟩]
  | _ => []

/-- What a running process shows between calls: its counters in a hello, its snapshot in a state query, and its grants
in a listing. -/
def DaemonCore.shown (core : DaemonCore) : List Stamp :=
  ⟨core.generation, core.epoch⟩ :: core.snapshot.stamp ::
    (core.grants.grants.toList.map fun entry => entry.2.stamp)

namespace System

def shown : System → List Stamp
  | .down _ => []
  | .up core => core.shown

/-- What callers can read on an event and until the next one. -/
def reports (config : DaemonConfig) (system : System) (event : Event) : List Stamp :=
  (match system.respond event with
    | some (.ok response) => response.stamps
    | _ => []) ++ (step config system event).shown

/-- Everything callers could read in a run. -/
def reported (config : DaemonConfig) : System → List Event → List Stamp
  | _, [] => []
  | system, event :: rest => reports config system event ++ reported config (step config system event) rest

/-- A start that comes up finds the last generation the log names. -/
def FindsGeneration (system : System) (_ : Event) (next : System) : Prop :=
  match system, next with
  | .down disk, .up _ => disk.namesGeneration = true
  | _, _ => True

instance (event : Event) : ∀ system next, Decidable (FindsGeneration system event next)
  | .down disk, .up _ => inferInstanceAs (Decidable (disk.namesGeneration = true))
  | .down _, .down _ | .up _, _ => .isTrue trivial

end System

namespace DaemonCore

theorem held_shown {core : DaemonCore} {id : UInt64} {grant : Grant} (held : core.grants.grants[id]? = some grant) :
    grant.stamp ∈ core.shown := by
  have listed := Std.ExtTreeMap.mem_toList_iff_getElem?_eq_some.mpr held
  exact List.mem_cons_of_mem _ (List.mem_cons_of_mem _ (List.mem_map.mpr ⟨_, listed, rfl⟩))

theorem commitGrant_store {core next : DaemonCore} {request : RequestId} {grant : Grant}
    (done : core.commitGrant request grant = (next, .ok ())) : ∃ store, next = { core with store := store } := by
  unfold commitGrant at done
  split at done
  · cases done
  · rename_i logged appended
    obtain ⟨store, rfl⟩ := appendLocked_done appended
    split at done
    · cases done
    · rename_i recorded outcome
      obtain ⟨last, rfl⟩ := appendLocked_done outcome
      cases done
      exact ⟨last, rfl⟩

/-- Nothing but the store changes after a process has decided. -/
theorem maybeCheckpointLocked_shown (core : DaemonCore) : core.maybeCheckpointLocked.1.shown = core.shown := by
  obtain ⟨store, same⟩ := maybeCheckpointLocked_store core
  rw [same]
  rfl

/-- An answer that names no grant. -/
theorem refused_stamps (status : Status) {shown : List Stamp} :
    ∀ stamp ∈ (Response.grant { code := status.code, detail := status.detail }).stamps,
      stamp = ⟨0, 0⟩ ∨ stamp ∈ shown := by
  intro stamp member
  exact .inl (List.mem_singleton.mp member)

theorem granted_stamps {core : DaemonCore} {id : UInt64} {grant : Grant}
    (held : core.grants.grants[id]? = some grant) (code : StatusCode) :
    ∀ stamp ∈ (Response.grant (grantToResponse grant code)).stamps, stamp = ⟨0, 0⟩ ∨ stamp ∈ core.shown := by
  intro stamp member
  rw [List.mem_singleton.mp member]
  exact .inr (held_shown held)

theorem compose_stamps {core next : DaemonCore} {generation : UInt64} {response : ComposeResponse}
    (answered : core.compose generation = (next, .ok response)) :
    (⟨response.generation, response.epoch⟩ : Stamp) ∈ next.shown := by
  simp only [compose] at answered
  split at answered
  · cases answered
  · split at answered
    · cases answered
    · split at answered
      · cases answered
      · split at answered
        · cases answered
          exact List.mem_cons_self
        · cases answered
          exact List.mem_cons_of_mem _ List.mem_cons_self

theorem acquire_stamps {core next : DaemonCore} (keyed : core.grants.Keyed) {now : UInt64} {request : AcquireRequest}
    {response : GrantResponse} (answered : core.acquire now request = (next, .ok response)) :
    ∀ stamp ∈ (Response.grant response).stamps, stamp = ⟨0, 0⟩ ∨ stamp ∈ next.shown := by
  have reached := (expireDueLocked_keeps core now).trans (ensureSnapshotLocked_keeps _)
  simp only [acquire] at answered
  split at answered
  · cases answered
  · rename_i ensured done
    rw [done] at reached
    cases acquired : ensured.grants.acquire ensured.snapshot (ensured.grantRequestOf request) ensured.incarnation now
        (lifecycleAcceptsNewAuthority ensured.lifecycle) with
    | mk registry granted =>
      rw [acquired] at answered
      cases granted with
      | error status =>
        cases answered
        exact refused_stamps status
      | ok grant =>
        have anything : ensured.grants.Dated (fun _ => True) := ⟨reached.calls.keyed keyed, fun _ _ _ => trivial⟩
        obtain ⟨id, held⟩ := (anything.acquire trivial acquired).2 grant rfl
        dsimp only at answered
        split at answered
        · cases answered
        · rename_i committed done
          obtain ⟨store, rfl⟩ := commitGrant_store done
          cases answered
          rw [maybeCheckpointLocked_shown]
          exact granted_stamps held .ok

theorem renew_stamps {core next : DaemonCore} (keyed : core.grants.Keyed) {now : UInt64} {token : LeaseToken}
    {ttlMs : UInt64} {response : GrantResponse} (answered : core.renew now token ttlMs = (next, .ok response)) :
    ∀ stamp ∈ (Response.grant response).stamps, stamp = ⟨0, 0⟩ ∨ stamp ∈ next.shown := by
  have reached := ensureSnapshotLocked_keeps core
  simp only [renew] at answered
  split at answered
  · cases answered
  · rename_i ensured done
    rw [done] at reached
    cases renewed : ensured.grants.renew ensured.snapshot token
        (if ttlMs = 0 then ensured.config.defaultTtlMs else ttlMs) now with
    | mk registry granted =>
      rw [renewed] at answered
      cases granted with
      | error status =>
        cases answered
        exact refused_stamps status
      | ok grant =>
        have anything : ensured.grants.Dated (fun _ => True) := ⟨reached.calls.keyed keyed, fun _ _ _ => trivial⟩
        have held := (anything.renew renewed).2 grant rfl
        dsimp only at answered
        split at answered
        · cases answered
        · rename_i logged done
          obtain ⟨store, rfl⟩ := appendLocked_done done
          cases answered
          rw [maybeCheckpointLocked_shown]
          exact granted_stamps held .ok

theorem validate_stamps {core next : DaemonCore} {now : UInt64} {token : LeaseToken} {response : GrantResponse}
    (answered : core.validate now token = (next, .ok response)) :
    ∀ stamp ∈ (Response.grant response).stamps, stamp = ⟨0, 0⟩ ∨ stamp ∈ next.shown := by
  simp only [validate] at answered
  split at answered
  · cases answered
  · split at answered
    · rename_i status refused
      cases answered
      exact refused_stamps status
    · rename_i grant validated
      cases answered
      exact granted_stamps (GrantRegistry.checkLease_ok validated).1 .ok

/-- The core and the answer of a command that passes a result on. -/
theorem passed_on {α : Type} {wrap : α → Response} {served : DaemonCore × Result α} {next : DaemonCore}
    {response : Response} (answered : (served.1, served.2.map wrap) = (next, .ok response)) :
    ∃ value, served = (next, .ok value) ∧ response = wrap value := by
  obtain ⟨core, result⟩ := served
  cases result with
  | error status => cases answered
  | ok value =>
    cases answered
    exact ⟨value, rfl, rfl⟩

/-- A grant that an answer names is one the process holds, and a composition answers with what the process shows. -/
theorem exec_stamps {core next : DaemonCore} (keyed : core.grants.Keyed) {now : UInt64} {command : Command}
    {response : Response} (answered : core.exec now command = (next, .ok response)) :
    ∀ stamp ∈ response.stamps, stamp = ⟨0, 0⟩ ∨ stamp ∈ next.shown := by
  cases command with
  | compose generation =>
    obtain ⟨composed, served, rfl⟩ := passed_on answered
    intro stamp member
    rw [List.mem_singleton.mp member]
    exact .inr (compose_stamps served)
  | acquire request =>
    obtain ⟨granted, served, rfl⟩ := passed_on answered
    exact acquire_stamps keyed served
  | renew token ttlMs =>
    obtain ⟨granted, served, rfl⟩ := passed_on answered
    exact renew_stamps keyed served
  | validate token =>
    obtain ⟨granted, served, rfl⟩ := passed_on answered
    exact validate_stamps served
  | submitEvidence records =>
    obtain ⟨entries, -, rfl⟩ := passed_on answered
    simp [Response.stamps]
  | release token =>
    obtain ⟨ack, -, rfl⟩ := passed_on answered
    simp [Response.stamps]
  | lookup request | setLifecycle target | checkpoint | expireDue =>
    cases answered
    simp [Response.stamps]

end DaemonCore

namespace System

/-- The counters have reached every stamp of a list. -/
def Reaches (stamps : List Stamp) (counters : Counters) : Prop :=
  ∀ stamp ∈ stamps, stamp.Within stampTracked counters

theorem reaches_lasting (stamps : List Stamp) : Lasting stampTracked (Reaches stamps) :=
  fun _ _ upto reaches stamp member => (reaches stamp member).upto upto

/-- A process shows nothing beyond the counters of its log. -/
theorem shown_within {held : Counters → Prop} {core : DaemonCore} (tracks : core.Tracks stampTracked held) :
    ∀ stamp ∈ core.shown, stamp.Within stampTracked (logged core.log) := by
  have agree := tracks.counters.upto
  obtain ⟨generation, epoch, -⟩ := tracks.published
  intro stamp member
  rcases List.mem_cons.mp member with rfl | member
  · exact Stamp.Within.upto ⟨fun _ => UInt64.le_refl _, UInt64.le_refl _⟩ agree
  · rcases List.mem_cons.mp member with rfl | member
    · have current : core.snapshot.epoch ≤ core.epoch := by
        rw [epoch]
        exact UInt64.le_refl _
      have within : core.snapshot.stamp.Within stampTracked core.counters := ⟨fun _ => generation, current⟩
      exact within.upto agree
    · obtain ⟨⟨id, grant⟩, listed, rfl⟩ := List.mem_map.mp member
      exact (tracks.dated.entries id grant (Std.ExtTreeMap.mem_toList_iff_getElem?_eq_some.mp listed)).upto agree

theorem zero_within (counters : Counters) : Stamp.Within stampTracked counters ⟨0, 0⟩ := by
  constructor
  · intro _
    rw [UInt64.le_iff_toNat_le]
    exact Nat.zero_le _
  · rw [UInt64.le_iff_toNat_le]
    exact Nat.zero_le _

/-- One event: the log reaches what it lets callers read. -/
theorem reports_within {config : DaemonConfig} {held : Counters → Prop} {system : System} {event : Event}
    (quiet : event.env.io = []) (before : system.Tracks stampTracked held)
    (after : (step config system event).Tracks stampTracked held) :
    Reaches (reports config system event) (logged (step config system event).log) := by
  have shown : ∀ stamp ∈ (step config system event).shown,
      stamp.Within stampTracked (logged (step config system event).log) := by
    cases stepped : step config system event with
    | down disk =>
      intro stamp member
      cases member
    | up core =>
      rw [stepped] at after
      have within := shown_within after
      rw [DaemonCore.enter_log] at within
      exact within
  intro stamp member
  rcases List.mem_append.mp member with answered | member
  · cases answer : system.respond event with
    | none =>
      rw [answer] at answered
      cases answered
    | some result =>
      rw [answer] at answered
      cases result with
      | error status => cases answered
      | ok response =>
        unfold respond at answer
        split at answer
        · rename_i core command action uncut
          rw [Option.some_inj, quiet] at answer
          have served : step config (.up core) event = .up ((core.enter []).exec event.env.now command).1 := by
            simp only [step, action, serve, uncut, quiet]
          have pair : (core.enter []).exec event.env.now command =
              (((core.enter []).exec event.env.now command).1, .ok response) := Prod.ext rfl answer
          rcases DaemonCore.exec_stamps before.dated.keyed pair stamp answered with rfl | member
          · exact zero_within _
          · apply shown
            rw [served]
            exact member
        · cases answer
  · exact shown stamp member

/-- Along a run whose starts find the generation of the log, the log reaches everything that was reported. -/
theorem run_reaches {config : DaemonConfig} (backed : config.storeDirectory ≠ []) {events : List Event}
    (quiet : ∀ event ∈ events, event.env.io = []) {system : System}
    (finds : Along (step config) FindsGeneration system events) {earlier : List Stamp}
    (tracks : system.Tracks stampTracked (Reaches earlier)) :
    (run (step config) system events).Tracks stampTracked (Reaches (earlier ++ reported config system events)) := by
  induction events generalizing system earlier with
  | nil =>
    rw [reported, List.append_nil]
    exact tracks
  | cons event rest ih =>
    have still := quiet event (by simp)
    have ready : event.action = .start → ∀ disk core opened, system = .down disk → boot config disk event = .up core →
        (DaemonCore.starting config).openStore disk event.env = (opened, .ok ()) →
        DaemonCore.Grounded stampTracked disk opened := by
      intro action disk core opened down up _
      have found := finds.1
      have stepped : step config (.down disk) event = .up core := by simp only [step, action, up]
      rw [down, stepped] at found
      exact ⟨fun _ => found, False.elim⟩
    have next := step_tracks backed (reaches_lasting earlier) still tracks ready
    have reached : Reaches (earlier ++ reports config system event) (logged (step config system event).log) := by
      intro stamp member
      rcases List.mem_append.mp member with old | new
      · exact next.disk.log.1 stamp old
      · exact reports_within still tracks next stamp new
    have later := ih (fun other member => quiet other (by simp [member])) finds.2 (next.rehold reached)
    rw [reported, ← List.append_assoc]
    exact later

theorem reported_append (config : DaemonConfig) (system : System) (first second : List Event) :
    reported config system (first ++ second) =
      reported config system first ++ reported config (run (step config) system first) second := by
  induction first generalizing system with
  | nil => rfl
  | cons event rest ih => rw [List.cons_append, reported, reported, ih, run_cons, List.append_assoc]

/-- The generation and the epoch of a running process. -/
def stamp : System → Option Stamp
  | .down _ => none
  | .up core => some ⟨core.generation, core.epoch⟩

/-- As long as every start that comes up finds the last generation the log names, no process comes up, or goes on, at a
generation or an epoch before one that was reported. -/
theorem counters_never_regress {config : DaemonConfig} (backed : config.storeDirectory ≠ []) {events : List Event}
    {event : Event} (quiet : ∀ other ∈ events ++ [event], other.env.io = [])
    (finds : Along (step config) FindsGeneration fresh (events ++ [event])) {found : Stamp}
    (up : (after config (events ++ [event])).stamp = some found) :
    ∀ stamp ∈ reported config fresh events, stamp.generation ≤ found.generation ∧ stamp.epoch ≤ found.epoch := by
  have blank : fresh.Tracks stampTracked (Reaches []) := by
    refine ⟨⟨?_, ?_, ?_⟩, ?_⟩
    · intro stamp member
      cases member
    · intro grant member
      cases member
    · intro record member
      cases member
    · intro checkpoint found
      cases found
  have tracks := run_reaches backed quiet finds blank
  change (after config (events ++ [event])).Tracks _ _ at tracks
  cases reached : after config (events ++ [event]) with
  | down disk =>
    rw [reached] at up
    cases up
  | up core =>
    rw [reached] at up tracks
    cases up
    intro stamp member
    have within : stamp.Within stampTracked (logged (System.up core).log) := by
      refine tracks.disk.log.1 stamp ?_
      rw [List.nil_append, reported_append]
      exact List.mem_append.mpr (.inl member)
    have counters := tracks.counters
    rw [DaemonCore.enter_log] at counters
    obtain ⟨generation, epoch, -⟩ := counters
    constructor
    · have here : core.generation = (logged core.log).generation := generation trivial
      rw [here]
      exact within.generation trivial
    · have here : core.epoch = (logged core.log).epoch := epoch
      rw [here]
      exact within.epoch

/-- A generation that is logged and reported although the rack does not compose at it, and a checkpoint of the snapshot
before it. -/
def unpublishedRun : List Event :=
  [.start 0, .call 1 (.submitEvidence [owes 1 1 maxU64, owes 2 1 maxU64]), .call 2 (.compose 5),
    .call 3 (.submitEvidence [owes 2 2 0]), .call 4 .checkpoint, .crash]

/-- The refused composition answers with generation 5, and the next process comes up at generation 0. -/
theorem unpublished_generation_lost :
    ⟨5, 0⟩ ∈ reported loneRack fresh unpublishedRun ∧
      (after loneRack (unpublishedRun ++ [.start 5])).stamp = some ⟨0, 0⟩ := by decide +kernel

/-- A rack that composes at its generation, checkpoints and dies. -/
def publishedRun : List Event :=
  [.start 0, .call 1 (.compose 5), .call 2 .checkpoint, .crash]

theorem published_generation_kept :
    ⟨5, 0⟩ ∈ reported loneRack fresh publishedRun ∧
      ∃ found, (after loneRack (publishedRun ++ [.start 3])).stamp = some found ∧
        ∀ stamp ∈ reported loneRack fresh publishedRun, stamp.generation ≤ found.generation ∧
          stamp.epoch ≤ found.epoch := by
  have up : (after loneRack (publishedRun ++ [.start 3])).stamp = some ⟨5, 0⟩ := by decide +kernel
  refine ⟨by decide +kernel, ⟨5, 0⟩, up, ?_⟩
  exact counters_never_regress loneRack_backed (by decide) (by decide +kernel) up

end System

end RackFabric
