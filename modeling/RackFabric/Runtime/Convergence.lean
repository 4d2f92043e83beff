import RackFabric.Compose.Arrival
import RackFabric.Runtime.Composing
import RackFabric.Runtime.Durable

/-!
Daemons that logged the same evidence agree. Whatever order it arrived in, however often, and whatever restarts,
crashes and checkpoints lie in between, they hold the same ledger and compose the same snapshot.
-/

namespace RackFabric

open EvidenceLedger

namespace DaemonCore

variable {core next : DaemonCore} {target : UInt64}

/-- A composition that is answered well answers with the snapshot it published. -/
theorem compose_answers {generation : UInt64} {response : ComposeResponse}
    (answered : core.compose generation = (next, .ok response)) (accepted : response.code = .ok) :
    ∃ outcome, RackFabric.compose core.ledger core.config.rack
        { generation := response.generation
          epoch := response.epoch
          lifecycle := core.lifecycle
          limits := core.config.composeLimits } = .ok outcome ∧
      next.snapshot = outcome.snapshot ∧ response.digest = outcome.snapshot.digest ∧
      response.diagnostics = .ofNat outcome.snapshot.data.diagnostics.length := by
  unfold compose at answered
  split at answered
  · cases answered
  · split at answered
    · cases answered
    · split at answered
      · cases answered
      · rename_i advanced advancing
        have same := advanceGeneration_recomposes core generation
        have keeps := advanceGeneration_keeps core generation
        rw [advancing] at same keeps
        split at answered
        · rename_i refusing
          cases answered
          exact absurd accepted (composeLocked_error refusing)
        · rename_i composed composing
          obtain ⟨outcome, published, snapshot⟩ := (composeLocked_ok composing).2
          obtain ⟨data, handle, -, generation, epoch, -⟩ := compose_header published
          obtain ⟨store, checkpointed⟩ := maybeCheckpointLocked_store composed
          dsimp only at answered
          rw [checkpointed] at answered
          cases answered
          have here : outcome.snapshot.data = data := by rw [Snapshot.data, handle, Option.getD_some]
          dsimp only
          rw [snapshot]
          refine ⟨outcome, ?_, rfl, rfl, rfl⟩
          rw [Snapshot.generation, Snapshot.epoch, here, generation, epoch, ← same.config, ← same.ledger,
            ← keeps.lifecycle]
          exact published

/-- A compose command that is answered well, whatever its writes are answered, and the snapshot it publishes. -/
def ComposesTo (core : DaemonCore) (told : ComposeResponse) (snapshot : Snapshot) : Prop :=
  ∃ io generation next, (core.enter io).compose generation = (next, .ok told) ∧ told.code = .ok ∧
    next.snapshot = snapshot

end DaemonCore

/-- Daemons that logged the same evidence converge. In any two runs without failing writes, on stores of their own, with
whatever restarts, crashes and checkpoints: two running processes whose logs hold the same evidence, in any order and any
number of times, have the same ledger; and for the same rack in the same lifecycle, what they then compose for a
generation and an epoch is the same snapshot. -/
theorem same_evidence_same_snapshot {first second : DaemonConfig} (backedA : first.storeDirectory ≠ [])
    (backedB : second.storeDirectory ≠ []) {here there : List Event} (quietA : ∀ event ∈ here, event.env.io = [])
    (quietB : ∀ event ∈ there, event.env.io = []) {a b : DaemonCore} (upA : System.after first here = .up a)
    (upB : System.after second there = .up b) (tameA : Tame first.evidenceLimits (evidenceOf a.log))
    (tameB : Tame second.evidenceLimits (evidenceOf b.log))
    (same : ∀ record, record ∈ evidenceOf a.log ↔ record ∈ evidenceOf b.log) :
    a.ledger.slots = b.ledger.slots ∧ a.ledger.digest = b.ledger.digest ∧
      ∀ (told other : ComposeResponse) (snapshot rival : Snapshot), a.ComposesTo told snapshot →
        b.ComposesTo other rival → a.config.rack = b.config.rack → a.config.composeLimits = b.config.composeLimits →
        a.lifecycle = b.lifecycle → told.generation = other.generation → told.epoch = other.epoch →
        snapshot = rival ∧ told.digest = other.digest ∧ told.diagnostics = other.diagnostics := by
  have faithfulA : (System.after first here).Faithful first := System.after_faithful backedA quietA
  have faithfulB : (System.after second there).Faithful second := System.after_faithful backedB quietB
  rw [upA] at faithfulA
  rw [upB] at faithfulB
  have slots : a.ledger.slots = b.ledger.slots :=
    (DaemonCore.Faithful.ledger faithfulB tameB).slots_eq (DaemonCore.Faithful.ledger faithfulA tameA) tameB.free same
  refine ⟨slots, by simp only [digest, records, slots], ?_⟩
  rintro told other snapshot rival ⟨io, generation, next, answered, accepted, rfl⟩
    ⟨io', generation', next', answered', accepted', rfl⟩ rack limits lifecycle generations epochs
  obtain ⟨outcome, composed, published, digest, diagnostics⟩ := DaemonCore.compose_answers answered accepted
  obtain ⟨outcome', composed', published', digest', diagnostics'⟩ := DaemonCore.compose_answers answered' accepted'
  have agree : outcome = outcome' := by
    have left : RackFabric.compose a.ledger a.config.rack ⟨told.generation, told.epoch, a.lifecycle, a.config.composeLimits⟩ =
      .ok outcome := composed
    have right : RackFabric.compose b.ledger b.config.rack
        ⟨other.generation, other.epoch, b.lifecycle, b.config.composeLimits⟩ = .ok outcome' := composed'
    rw [compose_of_slots slots, rack, limits, lifecycle, generations, epochs, right] at left
    exact (Except.ok.inj left).symm
  rw [published, published', digest, digest', diagnostics, diagnostics', agree]
  exact ⟨rfl, rfl, rfl⟩

/-- A rack is drained, its daemon dies, and the next one takes the order to clear it. -/
def drainedThenCleared : List Event :=
  [.start 0, .call 1 (.submitEvidence [System.drainOrder 1 .drain]), .crash, .start 2,
    .call 3 (.submitEvidence [System.drainOrder 2 .clear])]

/-- The orders arrive the other way round, and the first of them twice. -/
def clearedThenDrained : List Event :=
  [.start 0, .call 1 (.submitEvidence [System.drainOrder 2 .clear]), .crash, .start 2,
    .call 3 (.submitEvidence [System.drainOrder 1 .drain, System.drainOrder 1 .drain])]

theorem same_evidence_same_snapshot_swapped :
    ∃ (a b : DaemonCore) (told other : ComposeResponse) (snapshot : Snapshot),
      System.after loneRack drainedThenCleared = .up a ∧ System.after loneRack clearedThenDrained = .up b ∧
      a.ComposesTo told snapshot ∧ b.ComposesTo other snapshot ∧ told.digest = other.digest := by
  let agree (a b : DaemonCore) : Bool := decide (a.config.rack = b.config.rack ∧
    a.config.composeLimits = b.config.composeLimits ∧ a.lifecycle = b.lifecycle ∧
    evidenceOf a.log = [System.drainOrder 1 .drain, System.drainOrder 2 .clear] ∧
    evidenceOf b.log = [System.drainOrder 2 .clear, System.drainOrder 1 .drain, System.drainOrder 1 .drain])
  let alike (told other : ComposeResponse) : Bool := decide (told.code = .ok ∧ other.code = .ok ∧
    told.generation = other.generation ∧ told.epoch = other.epoch)
  have held : (System.after loneRack drainedThenCleared).passes (fun a =>
      (System.after loneRack clearedThenDrained).passes fun b => agree a b &&
        ((a.enter []).compose 1).2.passes fun told => ((b.enter []).compose 1).2.passes fun other =>
          alike told other) = true := by decide +kernel
  obtain ⟨a, upA, held⟩ := System.exists_of_passes held
  obtain ⟨b, upB, held⟩ := System.exists_of_passes held
  obtain ⟨agrees, held⟩ := Bool.and_eq_true_iff.mp held
  obtain ⟨told, answered, held⟩ := Result.exists_of_passes held
  obtain ⟨other, answered', held⟩ := Result.exists_of_passes held
  obtain ⟨accepted, accepted', generations, epochs⟩ := of_decide_eq_true held
  obtain ⟨rack, limits, lifecycle, logA, logB⟩ := of_decide_eq_true agrees
  have among : ∀ record, record ∈ [System.drainOrder 1 .drain, System.drainOrder 2 .clear] ↔
      record ∈ [System.drainOrder 2 .clear, System.drainOrder 1 .drain, System.drainOrder 1 .drain] := by
    intro record
    simp only [List.mem_cons, List.not_mem_nil, or_false, or_self]
    exact or_comm
  have tame : Tame loneRack.evidenceLimits [System.drainOrder 1 .drain, System.drainOrder 2 .clear] := by
    refine ⟨⟨by decide +kernel, by decide +kernel⟩, ?_⟩
    unfold CollisionFree
    decide +kernel
  have composesA : a.ComposesTo told ((a.enter []).compose 1).1.snapshot :=
    ⟨[], 1, _, Prod.ext rfl answered, accepted, rfl⟩
  have composesB : b.ComposesTo other ((b.enter []).compose 1).1.snapshot :=
    ⟨[], 1, _, Prod.ext rfl answered', accepted', rfl⟩
  obtain ⟨-, -, converge⟩ := same_evidence_same_snapshot loneRack_backed loneRack_backed (by decide) (by decide) upA upB
    (by rw [logA]; exact tame) (by rw [logB]; exact tame.of_subset fun record => (among record).mpr)
    (by rw [logA, logB]; exact among)
  obtain ⟨same, digests, -⟩ := converge told other _ _ composesA composesB rack limits lifecycle generations epochs
  refine ⟨a, b, told, other, _, upA, upB, composesA, ?_, digests⟩
  rw [same]
  exact composesB

end RackFabric
