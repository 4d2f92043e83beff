import RackFabric.Model.Ledger
import RackFabric.Compose.Composer

/-!
Composition and the arrival of evidence: a snapshot depends on which records were offered, not on the order or
the number of times they arrived.
-/

namespace RackFabric

open Foundation

/-- Composition reads nothing of the ledger but its slots. -/
theorem compose_of_slots {first second : EvidenceLedger} (same : first.slots = second.slots) (config : RackConfig)
    (request : ComposeInput) : compose first config request = compose second config request := by
  simp only [compose, gather, EvidenceLedger.digest, EvidenceLedger.records, same]

/-- The winner of a slot: of greatest rank among the offers, of the smallest digest among those of that rank. -/
def SlotWinner (offered : List EvidenceRecord) (slot : EvidenceSlot) (winner : EvidenceRecord) : Prop :=
  winner ∈ offered ∧ slotOf winner = slot ∧ ∀ other ∈ offered, slotOf other = slot →
    rankLess winner other = false ∧
      (rankLess other winner = false → (evidenceDigest other).less (evidenceDigest winner) = false)

namespace EvidenceLedger

theorem Reflects.winner {ledger : EvidenceLedger} {offered : List EvidenceRecord}
    (reflects : Reflects ledger offered) (slot : EvidenceSlot) (winner : EvidenceRecord)
    (stored : ledger.slots[slot]? = some winner) : SlotWinner offered slot winner := by
  have leads := reflects.leads slot
  rw [stored] at leads
  obtain ⟨member, greatest⟩ := leads
  obtain ⟨offer, own⟩ := List.mem_filter.mp member
  refine ⟨offer, by simpa using own, ?_⟩
  intro other among same
  have below := not_lt.mpr (greatest other (List.mem_filter.mpr ⟨among, by simpa using same⟩))
  rw [grade_lt_iff, not_or, not_and, Bool.not_eq_true, Bool.not_eq_true] at below
  exact below

/-- Arrival order and repetition of evidence decide neither what is stored nor what is composed. -/
theorem insertAll_arrival_independent {limits : EvidenceLimits} {records arrival : List EvidenceRecord}
    (valid : ∀ record ∈ records, validateEvidence record = .ok ()) (fits : Fits limits records)
    (free : CollisionFree records) (same : ∀ record, record ∈ arrival ↔ record ∈ records) :
    (insertAll { limits := limits } arrival).slots = (insertAll { limits := limits } records).slots ∧
      (insertAll { limits := limits } arrival).digest = (insertAll { limits := limits } records).digest ∧
      (∀ config request, compose (insertAll { limits := limits } arrival) config request =
        compose (insertAll { limits := limits } records) config request) ∧
      ∀ slot : EvidenceSlot, (slot ∈ (insertAll { limits := limits } arrival).slots ↔ slot ∈ records.map slotOf) ∧
        ∀ winner, (insertAll { limits := limits } arrival).slots[slot]? = some winner →
          SlotWinner records slot winner := by
  have reference : Reflects (insertAll { limits := limits } records) records :=
    (reflects_empty limits).insertAll valid fits free
  have arrived : Reflects (insertAll { limits := limits } arrival) arrival := by
    refine (reflects_empty limits).insertAll ?_ ?_ ?_
    · intro record member
      exact valid record ((same record).mp member)
    · exact fits.of_subset (fun record => (same record).mp)
    · intro a first b second
      exact free a ((same a).mp first) b ((same b).mp second)
  have slots := reference.slots_eq arrived free same
  refine ⟨slots, by simp only [digest, EvidenceLedger.records, slots], compose_of_slots slots, ?_⟩
  intro slot
  rw [slots]
  exact ⟨reference.mem_slots, fun winner => reference.winner slot winner⟩

/-- A device seen up, contradicted at the same rank, and seen again later, beside an observation of another. -/
def sightings : List EvidenceRecord :=
  let seen (device sequence : UInt64) (availability : Availability) : EvidenceRecord :=
    { provenance := { source := 1, sequence := sequence }
      payload := .device { device, role := .switch, capacity := 10, capacityKnown := true, availability } }
  [seen 1 1 .up, seen 1 1 .down, seen 2 1 .up, seen 1 2 .degraded]

theorem sightings_arrival_independent :
    sightings.reverse ++ sightings ≠ sightings ∧
      (insertAll {} (sightings.reverse ++ sightings)).slots = (insertAll {} sightings).slots := by
  refine ⟨by decide, (@insertAll_arrival_independent {} sightings (sightings.reverse ++ sightings) ?_ ?_ ?_ ?_).1⟩
  · decide +kernel
  · exact ⟨by decide +kernel, by decide +kernel⟩
  · unfold CollisionFree
    decide +kernel
  · simp

end EvidenceLedger

end RackFabric
