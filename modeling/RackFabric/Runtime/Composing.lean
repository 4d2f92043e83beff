import RackFabric.Compose.MemberSet
import RackFabric.Runtime.Course
import RackFabric.Runtime.Logging

/-!
Everything a composition of a running process can do while its writes succeed: refuse and change nothing, adopt the
first member set it finds, publish the member set it knows, or log a new epoch for a new one.
-/

namespace RackFabric

namespace DaemonCore

/-- A snapshot of what the process knows, at its generation. -/
structure Publishes (core : DaemonCore) (epoch : UInt64) (snapshot : Snapshot) : Prop where
  valid : snapshot.valid = true
  composed : ∃ outcome, RackFabric.compose core.ledger core.config.rack (core.composeInput core.generation) = .ok outcome ∧
    snapshot.data = { outcome.snapshot.data with epoch := epoch }

/-- The rack does not compose: it is retired, its evidence does not compose, or its epochs are used up. -/
inductive Uncomposable (core : DaemonCore) : Prop where
  | retired (closed : acceptsCompose core.lifecycle = false)
  | refused (status : Status)
      (failed : RackFabric.compose core.ledger core.config.rack (core.composeInput core.generation) = .error status)
  | exhausted (outcome : ComposeOutcome)
      (composed : RackFabric.compose core.ledger core.config.rack (core.composeInput core.generation) = .ok outcome)
      (known : core.membershipInitialized = true)
      (moved : outcome.snapshot.data.memberSetDigest ≠ core.memberSetDigest) (last : core.epoch = maxU64)

inductive Composes (core : DaemonCore) : DaemonCore → Result Unit → Prop where
  | refused (status : Status) (why : core.Uncomposable) : Composes core core (.error status)
  | adopted (snapshot : Snapshot) (fresh : core.membershipInitialized = false)
      (published : core.Publishes core.epoch snapshot) :
      Composes core ({ core with
        membershipInitialized := true
        memberSetDigest := snapshot.data.memberSetDigest }.publish snapshot) (.ok ())
  | republished (snapshot : Snapshot) (known : core.membershipInitialized = true)
      (published : core.Publishes core.epoch snapshot) (same : snapshot.data.memberSetDigest = core.memberSetDigest) :
      Composes core (core.publish snapshot) (.ok ())
  | advanced (snapshot : Snapshot) (logged : DaemonCore) (known : core.membershipInitialized = true)
      (room : core.epoch ≠ maxU64) (published : core.Publishes (core.epoch + 1) snapshot)
      (moved : snapshot.data.memberSetDigest ≠ core.memberSetDigest)
      (done : { core with
        epoch := core.epoch + 1
        memberSetDigest := snapshot.data.memberSetDigest }.appendLocked
          (.epoch ⟨core.epoch + 1, snapshot.data.memberSetDigest⟩) = (logged, .ok ())) :
      Composes core (logged.publish snapshot) (.ok ())

theorem Publishes.header {core : DaemonCore} {epoch : UInt64} {snapshot : Snapshot}
    (published : core.Publishes epoch snapshot) :
    snapshot.generation = core.generation ∧ snapshot.epoch = epoch ∧
      snapshot.data.memberSetDigest = RackFabric.memberSetDigest snapshot.data.devices := by
  obtain ⟨outcome, composed, data⟩ := published.composed
  obtain ⟨header, handle, -, generation, -, -⟩ := compose_header composed
  have here : outcome.snapshot.data = header := by rw [Snapshot.data, handle, Option.getD_some]
  refine ⟨?_, ?_, ?_⟩
  · rw [Snapshot.generation, data]
    exact (congrArg SnapshotData.generation here).trans generation
  · rw [Snapshot.epoch, data]
  · rw [data]
    exact (compose_memberSetDigest composed).1

theorem epoch_loggable (body : EpochRecord) : (StoreRecord.epoch body).Loggable := by
  have fits : (((({ limit := ({} : StoreOptions).maxRecordBytes } : ByteWriter).u8
      (StoreRecord.epoch body).code).u64 body.epoch).digest body.memberSetDigest).Fits 0 := by
    apply ByteWriter.Fits.digest
    apply ByteWriter.Fits.u64
    apply ByteWriter.Fits.u8
    exact ⟨rfl, by decide⟩
  exact loggable_of_fits rfl fits.1

/-- A logged record reaches nothing but the store. -/
theorem appendLocked_done {core logged : DaemonCore} {record : StoreRecord}
    (done : core.appendLocked record = (logged, .ok ())) : ∃ store, logged = { core with store := store } := by
  obtain ⟨store, same⟩ := appendLocked_store core record
  rw [done] at same
  exact ⟨store, same⟩

/-- What a composition publishes under the epoch it was made for. -/
theorem publishes_of_composed {core : DaemonCore} {outcome : ComposeOutcome}
    (composed : RackFabric.compose core.ledger core.config.rack (core.composeInput core.generation) = .ok outcome) :
    core.Publishes core.epoch outcome.snapshot := by
  obtain ⟨data, handle, -, -, epoch, -⟩ := compose_header composed
  have here : outcome.snapshot.data = data := by rw [Snapshot.data, handle, Option.getD_some]
  have same : data.epoch = core.epoch := epoch
  refine ⟨?_, outcome, composed, ?_⟩
  · simp only [Snapshot.valid, handle, Option.isSome_some]
  · rw [here, ← same]

/-- Once its record is written, a new epoch is composed for: the composition differs in nothing but the epoch. -/
theorem advanceEpoch_logged {core logged : DaemonCore} {outcome : ComposeOutcome}
    (composed : RackFabric.compose core.ledger core.config.rack (core.composeInput core.generation) = .ok outcome)
    (room : core.epoch ≠ maxU64)
    (done : { core with
      epoch := core.epoch + 1
      memberSetDigest := outcome.snapshot.data.memberSetDigest }.appendLocked
        (.epoch ⟨core.epoch + 1, outcome.snapshot.data.memberSetDigest⟩) = (logged, .ok ())) :
    ∃ again, RackFabric.compose core.ledger core.config.rack
        { core.composeInput core.generation with epoch := core.epoch + 1 } = .ok again ∧
      core.Publishes (core.epoch + 1) again.snapshot ∧
      again.snapshot.data.memberSetDigest = outcome.snapshot.data.memberSetDigest ∧
      core.advanceEpoch core.generation outcome.snapshot.data.memberSetDigest =
        (logged.publish again.snapshot, .ok ()) := by
  obtain ⟨again, repeats, valid, restamped⟩ := compose_restamp composed (core.epoch + 1)
  obtain ⟨store, same⟩ := appendLocked_done done
  have recomposed : RackFabric.compose logged.ledger logged.config.rack (logged.composeInput core.generation) =
      .ok again := by
    rw [same]
    exact repeats
  refine ⟨again, repeats, ⟨valid, outcome, composed, restamped⟩, by rw [restamped], ?_⟩
  simp only [advanceEpoch, room, if_false, done, recomposed]

/-- Everything a composition that succeeds can have done, whatever its writes were answered; what it publishes is what
the ledger composes to under the epoch it leaves. -/
theorem composeLocked_ok {core next : DaemonCore} (done : core.composeLocked core.generation = (next, .ok ())) :
    Composes core next (.ok ()) ∧
      ∃ outcome, RackFabric.compose core.ledger core.config.rack
          { core.composeInput core.generation with epoch := next.epoch } = .ok outcome ∧
        next.snapshot = outcome.snapshot := by
  simp only [composeLocked] at done
  split at done
  · cases done
  · split at done
    · cases done
    · rename_i outcome composed
      have published := publishes_of_composed composed
      split at done
      · rename_i fresh
        cases done
        exact ⟨.adopted outcome.snapshot (by simpa using fresh) published, outcome, composed, rfl⟩
      · rename_i known
        have known : core.membershipInitialized = true := by simpa using known
        split at done
        · rename_i moved
          by_cases last : core.epoch = maxU64
          · rw [advanceEpoch, if_pos last] at done
            cases done
          · cases appended : { core with
                epoch := core.epoch + 1
                memberSetDigest := outcome.snapshot.data.memberSetDigest }.appendLocked
                  (.epoch ⟨core.epoch + 1, outcome.snapshot.data.memberSetDigest⟩) with
            | mk logged result =>
              cases result with
              | error status =>
                simp only [advanceEpoch, last, if_false, appended] at done
                cases done
              | ok _ =>
                obtain ⟨again, repeats, published, digest, advanced⟩ := advanceEpoch_logged composed last appended
                rw [advanced] at done
                cases done
                obtain ⟨store, same⟩ := appendLocked_done appended
                rw [← digest] at appended moved
                refine ⟨.advanced again.snapshot logged known last published moved appended, again, ?_, rfl⟩
                rw [same]
                exact repeats
        · rename_i same
          cases done
          exact ⟨.republished outcome.snapshot known published (by simpa using same), outcome, composed, rfl⟩

/-- A composition that succeeds takes the member set of its snapshot up, and counts an epoch if it had another one. -/
theorem composeLocked_adopts {core next : DaemonCore} (done : core.composeLocked core.generation = (next, .ok ())) :
    next.generation = core.generation ∧ next.membershipInitialized = true ∧
      next.memberSetDigest = next.snapshot.data.memberSetDigest ∧
      next.epoch.toNat = core.epoch.toNat +
        if core.membershipInitialized = true ∧ next.memberSetDigest ≠ core.memberSetDigest then 1 else 0 := by
  cases (composeLocked_ok done).1 with
  | adopted snapshot fresh published => exact ⟨published.header.1, rfl, rfl, by simp [publish, fresh]⟩
  | republished snapshot known published same =>
    exact ⟨published.header.1, known, same.symm, by simp [publish]⟩
  | advanced snapshot logged known room published moved appended =>
    obtain ⟨store, same⟩ := appendLocked_done appended
    subst same
    refine ⟨published.header.1, known, rfl, ?_⟩
    have below : core.epoch.toNat ≠ 2 ^ 64 - 1 := fun last => room (UInt64.toNat_inj.mp last)
    have bound := core.epoch.toNat_lt
    rw [publish, if_pos ⟨known, moved⟩]
    show (core.epoch + 1).toNat = core.epoch.toNat + 1
    rw [UInt64.toNat_add, UInt64.toNat_one]
    omega

/-- No store at all, or one whose writes succeed. -/
def Calm (core : DaemonCore) : Prop :=
  core.store = none ∨ core.Quiet

theorem appendLocked_calm {core : DaemonCore} (calm : core.Calm) {record : StoreRecord}
    (loggable : record.Loggable) : ∃ logged, core.appendLocked record = (logged, .ok ()) := by
  rcases calm with none | quiet
  · exact ⟨core, by simp only [appendLocked, none]⟩
  · obtain ⟨logged, done, -⟩ := appendLocked_logs quiet .active loggable
    exact ⟨logged, done⟩

/-- While its writes succeed, a composition fails only where the rack does not compose, and then changes nothing. -/
theorem composeLocked_failed {core next : DaemonCore} (calm : core.Calm) {status : Status}
    (failed : core.composeLocked core.generation = (next, .error status)) : next = core ∧ core.Uncomposable := by
  simp only [composeLocked] at failed
  split at failed
  · rename_i closed
    cases failed
    exact ⟨rfl, .retired (by simpa using closed)⟩
  · split at failed
    · rename_i refusal composed
      cases failed
      exact ⟨rfl, .refused _ composed⟩
    · rename_i outcome composed
      split at failed
      · cases failed
      · rename_i known
        split at failed
        · rename_i moved
          by_cases last : core.epoch = maxU64
          · rw [advanceEpoch, if_pos last] at failed
            cases failed
            exact ⟨rfl, .exhausted outcome composed (by simpa using known) moved last⟩
          · have still : ({ core with
                epoch := core.epoch + 1
                memberSetDigest := outcome.snapshot.data.memberSetDigest } : DaemonCore).Calm := calm
            obtain ⟨logged, done⟩ := appendLocked_calm still
              (epoch_loggable ⟨core.epoch + 1, outcome.snapshot.data.memberSetDigest⟩)
            obtain ⟨again, -, -, -, advanced⟩ := advanceEpoch_logged composed last done
            rw [advanced] at failed
            cases failed
        · cases failed

theorem composeLocked_composes {core : DaemonCore} (calm : core.Calm) :
    Composes core (core.composeLocked core.generation).1 (core.composeLocked core.generation).2 := by
  cases composing : core.composeLocked core.generation with
  | mk next result =>
    cases result with
    | error status =>
      obtain ⟨rfl, why⟩ := composeLocked_failed calm composing
      exact .refused status why
    | ok _ => exact (composeLocked_ok composing).1

end DaemonCore

end RackFabric
