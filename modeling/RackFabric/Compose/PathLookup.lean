import RackFabric.Compose.Lookup

/-!
Looking a path up by its identity. The search halves a list by identity that is published by endpoints; it finds every
path exactly when the identities happen to grow along the published order.
-/

namespace RackFabric

section Growing

variable {α : Type} {key : α → UInt64} {fuel len : Nat} {first : List α}

/-- When every element of a range is found under its own key, the keys grow along the range. -/
theorem lowerBoundLoop_grows (distinct : (first.map key).Nodup) (long : len ≤ first.length) (enough : len < fuel)
    (finds : ∀ element ∈ first.take len,
      (lowerBoundLoop (fun other => idLess (key other) (key element)) fuel first len).head? = some element) :
    ((first.take len).map key).Pairwise (· < ·) := by
  induction fuel generalizing first len with
  | zero => omega
  | succ fuel ih =>
    by_cases empty : len = 0
    · rw [empty]
      exact List.Pairwise.nil
    have inside : len / 2 < first.length := by omega
    have whole : first = first.take (len / 2) ++ first[len / 2] :: first.drop (len / 2 + 1) := by
      rw [← List.drop_eq_getElem_cons inside, List.take_append_drop]
    have range : first.take len =
        first.take (len / 2) ++ first[len / 2] :: (first.drop (len / 2 + 1)).take (len - len / 2 - 1) := by
      rw [← List.take_append_drop (len / 2) (first.take len), List.take_take, List.drop_take,
        Nat.min_eq_left (by omega), List.drop_eq_getElem_cons inside,
        show len - len / 2 = len - len / 2 - 1 + 1 by omega, List.take_succ_cons]
      simp
    have parts := distinct
    rw [whole, List.map_append, List.map_cons, List.nodup_append, List.nodup_cons] at parts
    obtain ⟨-, ⟨notRight, right⟩, apart⟩ := parts
    have smaller : ∀ element ∈ first.take (len / 2), key element < key first[len / 2] ∧
        (lowerBoundLoop (fun other => idLess (key other) (key element)) fuel first (len / 2)).head? = some element := by
      intro element member
      have found := finds element (by rw [range]; exact List.mem_append_left _ member)
      rw [lowerBoundLoop, if_neg empty, List.drop_eq_getElem_cons inside] at found
      dsimp only at found
      split at found
      · have later : element ∈ first.drop (len / 2 + 1) := mem_of_lowerBoundLoop (List.mem_of_head? found)
        exact absurd rfl (apart _ (List.mem_map_of_mem member) _ (List.mem_cons_of_mem _ (List.mem_map_of_mem later)))
      · rename_i notBelow
        have other := apart _ (List.mem_map_of_mem member) _ List.mem_cons_self
        simp only [idLess, decide_eq_true_eq, UInt64.not_lt] at notBelow
        exact ⟨UInt64.lt_of_le_of_ne notBelow other, found⟩
    have greater : ∀ element ∈ (first.drop (len / 2 + 1)).take (len - len / 2 - 1),
        key first[len / 2] < key element ∧ (lowerBoundLoop (fun other => idLess (key other) (key element)) fuel
          (first.drop (len / 2 + 1)) (len - len / 2 - 1)).head? = some element := by
      intro element member
      have later : element ∈ first.drop (len / 2 + 1) := List.mem_of_mem_take member
      have found := finds element (by rw [range]; exact List.mem_append_right _ (List.mem_cons_of_mem _ member))
      rw [lowerBoundLoop, if_neg empty, List.drop_eq_getElem_cons inside] at found
      dsimp only at found
      split at found
      · rename_i isBelow
        simp only [idLess, decide_eq_true_eq] at isBelow
        exact ⟨isBelow, found⟩
      · -- The search would have settled at the middle or before it.
        obtain ⟨place, within, settled⟩ := @lowerBoundLoop_drop _
          (fun other => idLess (key other) (key element)) fuel (len / 2) first
        rw [settled, List.head?_drop] at found
        by_cases middle : place = len / 2
        · rw [middle, List.getElem?_eq_getElem inside] at found
          cases found
          exact absurd (List.mem_map_of_mem later) notRight
        · have early : element ∈ first.take (len / 2) := by
            rw [← List.getElem?_take_of_lt (show place < len / 2 by omega)] at found
            exact List.mem_of_getElem? found
          exact absurd rfl
            (apart _ (List.mem_map_of_mem early) _ (List.mem_cons_of_mem _ (List.mem_map_of_mem later)))
    have leftGrows := ih distinct (show len / 2 ≤ first.length by omega) (by omega)
      fun element member => (smaller element member).2
    have rightGrows := ih right (show len - len / 2 - 1 ≤ _ by rw [List.length_drop]; omega) (by omega)
      fun element member => (greater element member).2
    rw [range, List.map_append, List.map_cons, List.pairwise_append, List.pairwise_cons]
    refine ⟨leftGrows, ⟨?_, rightGrows⟩, ?_⟩
    · intro own member
      obtain ⟨element, later, rfl⟩ := List.mem_map.mp member
      exact (greater element later).1
    · intro own member other later
      obtain ⟨element, early, rfl⟩ := List.mem_map.mp member
      rcases List.mem_cons.mp later with rfl | later
      · exact (smaller element early).1
      · obtain ⟨behind, last, rfl⟩ := List.mem_map.mp later
        exact UInt64.lt_trans (smaller element early).1 (greater behind last).1

/-- Keys that are distinct are all found exactly when they grow along the container. -/
theorem findSorted_each_iff {container : List α} (distinct : (container.map key).Nodup) :
    (∀ element ∈ container, findSorted idLess key container (key element) = some element) ↔
      (container.map key).Pairwise (· < ·) := by
  constructor
  · intro finds
    have grows := @lowerBoundLoop_grows _ key (container.length + 1) container.length container distinct
      (Nat.le_refl _) (Nat.lt_succ_self _)
    rw [List.take_length] at grows
    apply grows
    intro element member
    have found := finds element member
    rw [findSorted, lowerBound] at found
    split at found
    · cases found
    · rename_i settled rest bound
      split at found
      · cases found
        rw [bound, List.head?_cons]
      · cases found
  · intro grows element member
    have strict : (container.map key).Pairwise (fun a b => idLess a b = true) :=
      List.Pairwise.imp (fun less => decide_eq_true less) grows
    exact (findSorted_eq_some_iff idLess_asymm strict).mpr ⟨member, rfl⟩

end Growing

section Lookup

variable {ledger : EvidenceLedger} {config : RackConfig} {request : ComposeInput} {outcome : ComposeOutcome}

/-- A path that is found under its identity stands for itself and its links. -/
theorem expandScope_path {snapshot : Snapshot} {path : PathRecord} (valid : snapshot.valid = true)
    (found : snapshot.findPath path.id = some path) :
    ∃ scope, expandScope snapshot ⟨.path, path.id⟩ = .ok scope ∧ scope.Nodup ∧
      ∀ ref, ref ∈ scope ↔ ref = ⟨.path, path.id⟩ ∨ ∃ link ∈ path.links, ref = ⟨.link, link⟩ := by
  have members : scopeMembers snapshot ⟨.path, path.id⟩ =
      .ok (⟨.path, path.id⟩ :: path.links.map fun link => ⟨.link, link⟩) := by
    simp only [scopeMembers, found]
  have expands : expandScope snapshot ⟨.path, path.id⟩ = .ok (uniqueBy (· == ·) (sortBy ResourceRef.less
      (⟨.path, path.id⟩ :: path.links.map fun link => ⟨.link, link⟩))) := by
    rw [expandScope, valid, members]
    rfl
  refine ⟨_, expands, expandScope_nodup expands, ?_⟩
  intro ref
  rw [mem_uniqueBy, (sortBy_perm _ _).mem_iff, List.mem_cons, List.mem_map]
  simp only [eq_comm]

/-- Every path of a snapshot has an identity of its own, is found under it, and stands as a scope for itself and its
links. -/
structure Snapshot.PathsUsable (snapshot : Snapshot) : Prop where
  distinct : (snapshot.data.paths.map PathRecord.id).Nodup
  found : ∀ path ∈ snapshot.data.paths, snapshot.findPath path.id = some path
  expanded : ∀ path ∈ snapshot.data.paths, ∃ scope, expandScope snapshot ⟨.path, path.id⟩ = .ok scope ∧ scope.Nodup ∧
    ∀ ref, ref ∈ scope ↔ ref = ⟨.path, path.id⟩ ∨ ∃ link ∈ path.links, ref = ⟨.link, link⟩

/-- The paths of a composition can be used exactly when the identities of its link sequences grow in the order of
their endpoints. -/
theorem composed_paths_usable_iff (composed : compose ledger config request = .ok outcome) :
    outcome.snapshot.PathsUsable ↔ (enumeratedPaths ledger config request).Pairwise (· < ·) := by
  obtain ⟨data, held, -⟩ := compose_header composed
  have published : outcome.snapshot.data = data := by
    rw [Snapshot.data, held, Option.getD_some]
  rw [← compose_paths composed held, ← published]
  constructor
  · intro usable
    exact (findSorted_each_iff usable.distinct).mp usable.found
  · intro grows
    have distinct : (outcome.snapshot.data.paths.map PathRecord.id).Nodup :=
      List.Pairwise.imp UInt64.ne_of_lt grows
    have found := (findSorted_each_iff distinct).mpr grows
    have valid : outcome.snapshot.valid = true := by
      rw [Snapshot.valid, held]
      rfl
    exact ⟨distinct, found, fun path member => expandScope_path valid (found path member)⟩

end Lookup

def forkedEvidence (payload : EvidencePayload) : EvidenceRecord where
  provenance := { source := 1, sequence := 1 }
  payload := payload

/-- The furnished rack with a second uplink, to which a link of the given identity leads. -/
def forkedRack (second : UInt64) : EvidenceLedger :=
  EvidenceLedger.insertAll {} (furnishedRack ++ [
    forkedEvidence (.port ⟨9, 3, 3, .uplink, 10, true, .enabled, .up⟩),
    forkedEvidence (.link ⟨second, 4, 9, .physical, 9, true, .up⟩)])

/-- The forked rack with a host at its first uplink too, whose link to the access port is then a path both ways. -/
def mirroredRack : EvidenceLedger :=
  EvidenceLedger.insertAll {} [
    forkedEvidence (.member { device := 3, rack := 7, incarnation := 1 }),
    forkedEvidence (.device { device := 3, role := .switch, capacity := 10, capacityKnown := true, availability := .up }),
    forkedEvidence (.port ⟨4, 3, 1, .uplink, 10, true, .enabled, .up⟩),
    forkedEvidence (.port ⟨5, 3, 2, .uplink, 10, true, .enabled, .up⟩),
    forkedEvidence (.port ⟨9, 3, 3, .uplink, 10, true, .enabled, .up⟩),
    forkedEvidence (.link ⟨6, 4, 5, .physical, 9, true, .up⟩),
    forkedEvidence (.link ⟨10, 4, 9, .physical, 9, true, .up⟩),
    forkedEvidence (.attachment { attachment := 8, device := 3, port := 4, hostKey := [] }),
    forkedEvidence (.attachment { attachment := 12, device := 3, port := 5, hostKey := [] })]

/-- What a composition of a rack published as its paths. -/
def pathsOf (ledger : EvidenceLedger) : List PathRecord :=
  match compose ledger { rack := 7 } ⟨0, 1, .active, {}⟩ with
  | .error _ => []
  | .ok outcome => outcome.snapshot.data.paths

theorem forked_paths_usable :
    ∃ outcome, compose (forkedRack 9) { rack := 7 } ⟨0, 1, .active, {}⟩ = .ok outcome ∧
      outcome.snapshot.PathsUsable ∧ outcome.snapshot.data.paths.length = 2 := by
  have evaluated : (pathsOf (forkedRack 9)).length = 2 := by rfl
  have grows : (enumeratedPaths (forkedRack 9) { rack := 7 } ⟨0, 1, .active, {}⟩).Pairwise (· < ·) := by
    decide +kernel
  unfold pathsOf at evaluated
  split at evaluated
  · cases evaluated
  · rename_i outcome composed
    exact ⟨outcome, composed, (composed_paths_usable_iff composed).mpr grows, evaluated⟩

/-- Without any collision, the forked rack has paths that are not found, and the mirrored rack one identity for two. -/
theorem published_paths_missed :
    (∃ outcome, compose (forkedRack 10) { rack := 7 } ⟨0, 1, .active, {}⟩ = .ok outcome ∧
      (∀ first ∈ outcome.snapshot.data.paths, ∀ second ∈ outcome.snapshot.data.paths,
        pathIdentity first.links = pathIdentity second.links → first.links = second.links) ∧
      (∃ path ∈ outcome.snapshot.data.paths, outcome.snapshot.findPath path.id = none ∧
        expandScope outcome.snapshot ⟨.path, path.id⟩ =
          refuse .notAMember "scope names a path that is not in the rack") ∧
      ¬ outcome.snapshot.PathsUsable) ∧
    ∃ outcome, compose mirroredRack { rack := 7 } ⟨0, 1, .active, {}⟩ = .ok outcome ∧
      (∀ first ∈ outcome.snapshot.data.paths, ∀ second ∈ outcome.snapshot.data.paths,
        pathIdentity first.links = pathIdentity second.links → first.links = second.links) ∧
      ¬ (outcome.snapshot.data.paths.map PathRecord.id).Nodup := by
  constructor
  · have apart : ∀ first ∈ pathsOf (forkedRack 10), ∀ second ∈ pathsOf (forkedRack 10),
        pathIdentity first.links = pathIdentity second.links → first.links = second.links := by decide +kernel
    have missed : ∃ path ∈ pathsOf (forkedRack 10),
        findSorted idLess PathRecord.id (pathsOf (forkedRack 10)) path.id = none := by decide +kernel
    unfold pathsOf at apart missed
    split at missed
    · simp at missed
    · rename_i outcome composed
      rw [composed] at apart
      obtain ⟨path, member, missed⟩ := missed
      have unknown : outcome.snapshot.findPath path.id = none := missed
      obtain ⟨data, held, -⟩ := compose_header composed
      refine ⟨outcome, composed, apart, ⟨path, member, unknown, ?_⟩, ?_⟩
      · rw [expandScope, Snapshot.valid, held, scopeMembers, unknown]
        rfl
      · intro usable
        rw [usable.found path member] at unknown
        cases unknown
  · have apart : ∀ first ∈ pathsOf mirroredRack, ∀ second ∈ pathsOf mirroredRack,
        pathIdentity first.links = pathIdentity second.links → first.links = second.links := by decide +kernel
    have repeated : ¬ ((pathsOf mirroredRack).map PathRecord.id).Nodup := by decide +kernel
    unfold pathsOf at apart repeated
    split at repeated
    · simp at repeated
    · rename_i outcome composed
      rw [composed] at apart
      exact ⟨outcome, composed, apart, repeated⟩

end RackFabric
