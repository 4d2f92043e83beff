import RackFabric.Compose.CapacityLedger
import RackFabric.Runtime.Reached
import RackFabric.Runtime.Transition

/-!
What a lifecycle or compose command that is refused leaves behind: everything as it was, unless the rack had been
moved before it turned out not to compose.
-/

namespace RackFabric

theorem generation_loggable (generation : UInt64) : (StoreRecord.generation generation).Loggable := by
  have fits : ((({ limit := ({} : StoreOptions).maxRecordBytes } : ByteWriter).u8
      (StoreRecord.generation generation).code).u64 generation).Fits 0 := by
    apply ByteWriter.Fits.u64
    apply ByteWriter.Fits.u8
    exact ⟨rfl, by decide⟩
  exact loggable_of_fits rfl fits.1

/-- The commands an operator moves the rack with. -/
inductive Command.Steers : Command → Prop where
  | compose (generation : UInt64) : Steers (.compose generation)
  | setLifecycle (target : LifecycleState) : Steers (.setLifecycle target)

/-- The code of an answer; batches and sweeps carry none of their own. -/
def Response.code : Response → StatusCode
  | .composed response => response.code
  | .grant response => response.code
  | .ack response => response.code
  | .lookup response => response.code
  | .lifecycle response => response.code
  | .evidence _ | .expired => .ok

def answerCode : Result Response → StatusCode
  | .error status => status.code
  | .ok response => response.code

namespace DaemonCore

/-- Where the rack stands, what it publishes, and the state of every grant. -/
structure Untouched (before after : DaemonCore) : Prop where
  lifecycle : after.lifecycle = before.lifecycle
  generation : after.generation = before.generation
  epoch : after.epoch = before.epoch
  memberSetDigest : after.memberSetDigest = before.memberSetDigest
  snapshot : after.snapshot = before.snapshot
  states : ∀ id : UInt64, (after.grants.grants[id]?).map Grant.state = (before.grants.grants[id]?).map Grant.state

/-- The command moves the rack to where it does not compose. -/
inductive Strands (core : DaemonCore) : Command → Prop where
  | generation (generation : UInt64) (served : core.lifecycle ≠ .retired) (later : core.generation < generation)
      (why : ({ core with generation := generation } : DaemonCore).Uncomposable) : Strands core (.compose generation)
  | lifecycle (target : LifecycleState) (serves : target = .active ∨ target = .degraded)
      (allowed : lifecycleTransitionAllowed core.lifecycle target = true) (moves : core.lifecycle ≠ target)
      (why : ({ core with lifecycle := target } : DaemonCore).Uncomposable) : Strands core (.setLifecycle target)

theorem Untouched.refl (core : DaemonCore) : Untouched core core :=
  ⟨rfl, rfl, rfl, rfl, rfl, fun _ => rfl⟩

/-- Whether a rack composes does not depend on its store. -/
theorem Uncomposable.of_store {core : DaemonCore} (store : Option Store)
    (why : ({ core with store := store } : DaemonCore).Uncomposable) : core.Uncomposable := by
  cases why with
  | retired closed => exact .retired closed
  | refused status failed => exact .refused status failed
  | exhausted outcome composed known moved last => exact .exhausted outcome composed known moved last

theorem Uncomposable.with_store {core : DaemonCore} (why : core.Uncomposable) (store : Option Store) :
    ({ core with store := store } : DaemonCore).Uncomposable := by
  cases why with
  | retired closed => exact .retired closed
  | refused status failed => exact .refused status failed
  | exhausted outcome composed known moved last => exact .exhausted outcome composed known moved last

/-- A rack that does not compose is left alone, with an answer that says so. -/
theorem Uncomposable.refuses {core : DaemonCore} (why : core.Uncomposable) :
    ∃ status, core.composeLocked core.generation = (core, .error status) ∧ status.code ≠ .ok := by
  cases why with
  | retired closed =>
    simp only [composeLocked, closed, Bool.not_false, if_true]
    exact ⟨_, rfl, by simp⟩
  | refused status failed =>
    by_cases accepts : acceptsCompose core.lifecycle = true
    · simp only [composeLocked, accepts, Bool.not_true, Bool.false_eq_true, if_false, failed]
      refine ⟨status, rfl, ?_⟩
      have known := compose_ensures core.ledger core.config.rack (core.composeInput core.generation)
      rw [failed] at known
      intro fine
      rcases known with code | code | code <;> rw [fine] at code <;> cases code
    · simp only [composeLocked, accepts, Bool.not_false, if_true]
      exact ⟨_, rfl, by simp⟩
  | exhausted outcome composed known moved last =>
    by_cases accepts : acceptsCompose core.lifecycle = true
    · simp only [composeLocked, accepts, Bool.not_true, Bool.false_eq_true, if_false, composed, known, moved,
        ne_eq, not_false_eq_true, if_true, advanceEpoch, last]
      exact ⟨_, rfl, by simp⟩
    · simp only [composeLocked, accepts, Bool.not_false, if_true]
      exact ⟨_, rfl, by simp⟩

theorem composeLocked_done {core : DaemonCore} (calm : core.Calm) (composable : ¬ core.Uncomposable) :
    ∃ next, core.composeLocked core.generation = (next, .ok ()) := by
  cases composing : core.composeLocked core.generation with
  | mk next result =>
    cases result with
    | ok _ => exact ⟨next, rfl⟩
    | error status => exact absurd (composeLocked_failed calm composing).2 composable

/-- Once the rack serves its new lifecycle, all that is left is to log it. -/
theorem setLifecycle_answered {core served : DaemonCore} {now : UInt64} {target : LifecycleState}
    (allowed : lifecycleTransitionAllowed core.lifecycle target = true)
    (done : (core.enterLifecycle target).serveLifecycle now core.lifecycle target = (served, .ok ()))
    (calm : served.Calm) : (core.setLifecycle now target).2.code = .ok := by
  obtain ⟨logged, appended⟩ := appendLocked_calm calm
    (lifecycle_loggable ⟨target, served.generation, served.epoch⟩)
  simp only [setLifecycle, allowed, Bool.not_true, Bool.false_eq_true, if_false, transitionLifecycleLocked, done,
    appended]

theorem setLifecycle_untouched {core : DaemonCore} (calm : core.Calm) (now : UInt64) (target : LifecycleState) :
    ((core.setLifecycle now target).2.code ≠ .ok → Untouched core (core.setLifecycle now target).1) ↔
      ¬ core.Strands (.setLifecycle target) := by
  by_cases allowed : lifecycleTransitionAllowed core.lifecycle target = true
  · by_cases serves : target = .active ∨ target = .degraded
    · have entered := enterLifecycle_serving core serves
      have still : ({ core with lifecycle := target } : DaemonCore).Calm := calm
      by_cases why : ({ core with lifecycle := target } : DaemonCore).Uncomposable
      · obtain ⟨status, refused, code⟩ := why.refuses
        have stopped : core.setLifecycle now target = ({ core with lifecycle := target },
            { code := status.code, lifecycle := target, detail := [] }) := by
          simp only [setLifecycle, allowed, Bool.not_true, Bool.false_eq_true, if_false, transitionLifecycleLocked,
            serveLifecycle, serves, if_true, entered, refused]
        rw [stopped]
        constructor
        · intro untouched strands
          cases strands with
          | lifecycle _ _ _ moves _ => exact moves (untouched code).lifecycle.symm
        · intro safe _
          have same : core.lifecycle = target := by
            by_contra moves
            exact safe (.lifecycle target serves allowed moves why)
          exact ⟨same.symm, rfl, rfl, rfl, rfl, fun _ => rfl⟩
      · have answered : (core.setLifecycle now target).2.code = .ok := by
          obtain ⟨composed, composing⟩ := composeLocked_done still why
          have after := still.composeLocked core.generation
          rw [composing] at after
          apply setLifecycle_answered allowed
          · simp only [serveLifecycle, serves, if_true, entered, composing]
            rfl
          · split
            · exact after.of_store rfl
            · exact after.of_store rfl
        constructor
        · intro _ strands
          cases strands with
          | lifecycle _ _ _ _ stuck => exact why stuck
        · intro _ refused
          exact absurd answered refused
    · have answered : (core.setLifecycle now target).2.code = .ok := by
        obtain ⟨grants, entered⟩ := enterLifecycle_eq core target
        apply setLifecycle_answered allowed
        · simp only [serveLifecycle, serves, if_false]
          rfl
        · rw [entered]
          exact calm
      constructor
      · intro _ strands
        cases strands with
        | lifecycle _ also _ _ _ => exact serves also
      · intro _ refused
        exact absurd answered refused
  · have closed : lifecycleTransitionAllowed core.lifecycle target = false := by simpa using allowed
    constructor
    · intro _ strands
      cases strands with
      | lifecycle _ _ open_ _ _ => exact allowed open_
    · intro _ _
      rw [setLifecycle_refused closed]
      exact .refl core

/-- A generation that is not behind is taken before anything is composed. -/
theorem advanceGeneration_calm {core : DaemonCore} (calm : core.Calm) {generation : UInt64}
    (current : ¬ generation < core.generation) :
    ∃ store, core.advanceGeneration generation = ({ core with generation := generation, store := store }, .ok ()) ∧
      ({ core with generation := generation, store := store } : DaemonCore).Calm := by
  have after := calm.advanceGeneration generation
  by_cases later : generation > core.generation
  · obtain ⟨logged, done⟩ := appendLocked_calm calm (generation_loggable generation)
    obtain ⟨store, same⟩ := appendLocked_done done
    have advanced : core.advanceGeneration generation =
        ({ core with generation := generation, store := store }, .ok ()) := by
      simp only [advanceGeneration, later, if_true, done, same]
    rw [advanced] at after
    exact ⟨store, advanced, after⟩
  · have same : generation = core.generation := by
      apply UInt64.le_antisymm
      · exact UInt64.not_lt.mp later
      · exact UInt64.not_lt.mp current
    subst same
    refine ⟨core.store, ?_, calm⟩
    simp only [advanceGeneration, later, if_false]

theorem compose_untouched {core : DaemonCore} (calm : core.Calm) (generation : UInt64) :
    (answerCode ((core.compose generation).2.map .composed) ≠ .ok → Untouched core (core.compose generation).1) ↔
      ¬ core.Strands (.compose generation) := by
  by_cases retired : core.lifecycle = .retired
  · have kept : (core.compose generation).1 = core := by simp only [compose, retired, if_true]
    rw [kept]
    constructor
    · intro _ strands
      cases strands with
      | generation _ served _ _ => exact served retired
    · exact fun _ _ => .refl core
  · by_cases stale : generation < core.generation
    · have kept : (core.compose generation).1 = core := by simp only [compose, retired, if_false, stale, if_true]
      rw [kept]
      constructor
      · intro _ strands
        cases strands with
        | generation _ _ later _ => exact UInt64.lt_asymm later stale
      · exact fun _ _ => .refl core
    · obtain ⟨store, advanced, still⟩ := advanceGeneration_calm calm stale
      by_cases why : ({ core with generation := generation } : DaemonCore).Uncomposable
      · obtain ⟨status, refused, code⟩ := (why.with_store store).refuses
        have stopped : core.compose generation = ({ core with generation := generation, store := store }, .ok {
            code := status.code
            generation := generation
            epoch := core.epoch
            incarnation := core.incarnation
            detail := status.detail }) := by
          simp only [compose, retired, if_false, stale, advanced, refused]
        rw [stopped]
        constructor
        · intro untouched strands
          cases strands with
          | generation _ _ later _ =>
            have same : generation = core.generation := (untouched code).generation
            rw [same] at later
            exact UInt64.lt_irrefl _ later
        · intro safe _
          have same : generation = core.generation := by
            by_contra moves
            refine safe (.generation generation retired ?_ why)
            exact UInt64.lt_of_le_of_ne (UInt64.not_lt.mp stale) (Ne.symm moves)
          exact ⟨rfl, same, rfl, rfl, rfl, fun _ => rfl⟩
      · obtain ⟨composed, composing⟩ := composeLocked_done still fun stuck => why (stuck.of_store store)
        have answered : answerCode ((core.compose generation).2.map .composed) = .ok := by
          simp only [compose, retired, if_false, stale, advanced, composing]
          rfl
        constructor
        · intro _ strands
          cases strands with
          | generation _ _ _ stuck => exact why stuck
        · intro _ refused
          exact absurd answered refused

theorem Strands.of_store {core : DaemonCore} {store : Option Store} {command : Command}
    (strands : ({ core with store := store } : DaemonCore).Strands command) : core.Strands command := by
  cases strands with
  | generation generation served later why => exact .generation generation served later (why.of_store store)
  | lifecycle target serves allowed moves why => exact .lifecycle target serves allowed moves (why.of_store store)

theorem Strands.with_store {core : DaemonCore} {command : Command} (strands : core.Strands command)
    (store : Option Store) : ({ core with store := store } : DaemonCore).Strands command := by
  cases strands with
  | generation generation served later why => exact .generation generation served later (why.with_store store)
  | lifecycle target serves allowed moves why => exact .lifecycle target serves allowed moves (why.with_store store)

/-- In every state a daemon object reaches without failing writes, a refused lifecycle or compose command leaves
everything as it was, exactly when the command does not strand the rack. -/
theorem refused_command_untouched {config : DaemonConfig} {core : DaemonCore} (reached : Reached config core)
    (now : UInt64) {command : Command} (steers : command.Steers) :
    (answerCode ((core.enter []).exec now command).2 ≠ .ok →
      Untouched core ((core.enter []).exec now command).1) ↔ ¬ core.Strands command := by
  have calm := reached.steady.calm.enter
  have entered : ∀ after, Untouched (core.enter []) after ↔ Untouched core after := by
    intro after
    constructor
    · exact fun kept => ⟨kept.lifecycle, kept.generation, kept.epoch, kept.memberSetDigest, kept.snapshot, kept.states⟩
    · exact fun kept => ⟨kept.lifecycle, kept.generation, kept.epoch, kept.memberSetDigest, kept.snapshot, kept.states⟩
  have strands : (core.enter []).Strands command ↔ core.Strands command := by
    constructor
    · exact fun stuck => stuck.of_store
    · exact fun stuck => stuck.with_store _
  rw [← strands, ← entered]
  cases steers with
  | compose generation => exact compose_untouched calm generation
  | setLifecycle target => exact setLifecycle_untouched calm now target

/-- `loneRack` as its commands leave it, from its first start on. -/
def servedRack (commands : List Command) : DaemonCore :=
  commands.foldl (fun core command => ((core.enter []).exec 1 command).1) ((create loneRack).start {} { now := 0 }).1

theorem servedRack_reached (commands : List Command) : Reached loneRack (servedRack commands) := by
  induction commands using List.reverseRecOn with
  | nil => exact .started .created {} 0
  | append_singleton earlier last ih =>
    rw [servedRack, List.foldl_append]
    exact .served ih 1 last

/-- Leased as a whole, at its fourth generation, and put into maintenance. -/
def restingRack : DaemonCore :=
  servedRack [.setLifecycle .active, .acquire (wholeRack 1), .compose 4, .setLifecycle .maintenance]

/-- A composed rack in maintenance, its lease suspended, refuses to become active at once, and an old generation; it
stays as it is. -/
theorem restingRack_untouched :
    restingRack.snapshot.valid = true ∧ (restingRack.grants.grants[(1 : UInt64)]?.map Grant.state) = some .suspended ∧
      answerCode ((restingRack.enter []).exec 3 (.setLifecycle .active)).2 = .invalidLifecycleTransition ∧
      Untouched restingRack ((restingRack.enter []).exec 3 (.setLifecycle .active)).1 ∧
      answerCode ((restingRack.enter []).exec 3 (.compose 2)).2 = .staleGeneration ∧
      Untouched restingRack ((restingRack.enter []).exec 3 (.compose 2)).1 := by
  have safe : ¬ restingRack.Strands (.setLifecycle .active) := by
    intro strands
    cases strands with
    | lifecycle _ _ allowed _ _ => exact absurd allowed (by decide +kernel)
  have old : ¬ restingRack.Strands (.compose 2) := by
    intro strands
    cases strands with
    | generation _ _ later _ => exact absurd later (by decide +kernel)
  have refused : answerCode ((restingRack.enter []).exec 3 (.setLifecycle .active)).2 =
      .invalidLifecycleTransition := by decide +kernel
  have stale : answerCode ((restingRack.enter []).exec 3 (.compose 2)).2 = .staleGeneration := by decide +kernel
  have reached : Reached loneRack restingRack := servedRack_reached _
  refine ⟨by decide +kernel, by decide +kernel, refused, ?_, stale, ?_⟩
  · apply (refused_command_untouched reached 3 (.setLifecycle .active)).mpr safe
    rw [refused]
    simp
  · apply (refused_command_untouched reached 3 (.compose 2)).mpr old
    rw [stale]
    simp

/-- `loneRack` owing more than can be counted. -/
def overloaded : DaemonCore :=
  (((create loneRack).start {} { now := 0 }).1.enter []).exec 1
    (.submitEvidence [System.owes 1 1 maxU64, System.owes 2 1 maxU64]) |>.1

theorem overloaded_reached : Reached loneRack overloaded :=
  .served (.started .created {} 0) 1 _

/-- The rack becomes active although the command is refused. -/
theorem stranded_rack_moves :
    ¬ ∀ (config : DaemonConfig) (core : DaemonCore), Reached config core → ∀ (now : UInt64) (command : Command),
      command.Steers → answerCode ((core.enter []).exec now command).2 ≠ .ok →
        Untouched core ((core.enter []).exec now command).1 := by
  intro claim
  have activated := claim loneRack overloaded overloaded_reached 2 (.setLifecycle .active) (.setLifecycle .active)
  have moved : answerCode ((overloaded.enter []).exec 2 (.setLifecycle .active)).2 ≠ .ok ∧
      ((overloaded.enter []).exec 2 (.setLifecycle .active)).1.lifecycle ≠ overloaded.lifecycle := by decide +kernel
  exact moved.2 (activated moved.1).lifecycle

end DaemonCore

end RackFabric
