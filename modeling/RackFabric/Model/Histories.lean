import RackFabric.Model.Ledger
import RackFabric.Model.Sorting

/-!
What a slot remembers of its losing records. An insertion looks only at the record that is stored at that moment, so
the history of a slot depends on the order of the offers as soon as two of them differ.
-/

namespace RackFabric

open Foundation

/-- One slot of the ledger on its own: the stored record and the history beside it. -/
structure SlotState where
  held : Option EvidenceRecord := none
  history : SlotHistory := {}
deriving DecidableEq

namespace SlotState

/-- What an insertion does to the slot of its record. -/
def meet (state : SlotState) (record : EvidenceRecord) : SlotState :=
  match state.held with
  | none => { state with held := some record }
  | some existing =>
    if evidenceDigest existing = evidenceDigest record then state
    else if rankLess record existing then
      { state with history := { state.history with
          supersededCount := state.history.supersededCount + 1
          supersededMin := EvidenceLedger.lowerDigest state.history.supersededMin (evidenceDigest record) } }
    else if rankLess existing record then { state with held := some record }
    else
      { held := some (if (evidenceDigest record).less (evidenceDigest existing) then record else existing)
        history := { state.history with
          conflictCount := state.history.conflictCount + 1
          conflictingMin := EvidenceLedger.lowerDigest state.history.conflictingMin (evidenceDigest record) } }

def meetAll (state : SlotState) (records : List EvidenceRecord) : SlotState :=
  records.foldl meet state

theorem meetAll_cons (state : SlotState) (record : EvidenceRecord) (records : List EvidenceRecord) :
    state.meetAll (record :: records) = (state.meet record).meetAll records :=
  List.foldl_cons ..

theorem meetAll_append (state : SlotState) (first second : List EvidenceRecord) :
    state.meetAll (first ++ second) = (state.meetAll first).meetAll second :=
  List.foldl_append ..

/-! ### One slot -/

theorem not_rankLess_of_grade {a b : EvidenceRecord} (atMost : grade a ≤ grade b) : rankLess b a = false := by
  rw [← Bool.not_eq_true]
  intro less
  exact absurd ((grade_lt_iff b a).mpr (.inl less)) (not_lt.mpr atMost)

/-- A meeting keeps the better of the two records. -/
theorem meet_held {state : SlotState} {record : EvidenceRecord} (free : ∀ existing, state.held = some existing →
    evidenceDigest existing = evidenceDigest record → existing = record) :
    (state.meet record).held = some (prefer grade state.held record) := by
  cases held : state.held with
  | none => rw [meet, held, prefer]
  | some existing =>
    rw [meet, held, prefer]
    dsimp only
    by_cases same : evidenceDigest existing = evidenceDigest record
    · obtain rfl := free existing held same
      rw [if_pos rfl, if_neg (lt_irrefl _), held]
    rw [if_neg same]
    by_cases older : rankLess record existing = true
    · have kept : ¬ grade existing < grade record := not_lt.mpr ((grade_lt_iff _ _).mpr (.inl older)).le
      rw [if_pos older, if_neg kept]
    rw [if_neg older]
    by_cases newer : rankLess existing record = true
    · rw [if_pos newer, if_pos ((grade_lt_iff _ _).mpr (.inl newer))]
    rw [if_neg newer]
    by_cases smaller : (evidenceDigest record).less (evidenceDigest existing) = true
    · rw [if_pos smaller, if_pos ((grade_lt_iff _ _).mpr (.inr ⟨by simpa using older, smaller⟩))]
    · have kept : ¬ grade existing < grade record := by
        rw [grade_lt_iff]
        simp [newer, smaller]
      rw [if_neg smaller, if_neg kept]

/-- The slot holds a best one of the records it has met. -/
theorem meetAll_leads {records : List EvidenceRecord} (free : CollisionFree records) :
    Leads grade records (({} : SlotState).meetAll records).held := by
  induction records using List.reverseRecOn with
  | nil => rfl
  | append_singleton records record ih =>
    have leads := ih fun a first b second => free a (by simp [first]) b (by simp [second])
    rw [meetAll_append]
    change Leads grade _ ((({} : SlotState).meetAll records).meet record).held
    rw [meet_held]
    · exact leads.prefer record
    · intro existing held same
      rw [held] at leads
      exact free existing (by simp [leads.1]) record (by simp) same

theorem meetAll_holds {records : List EvidenceRecord} (free : CollisionFree records) (nonempty : records ≠ []) :
    ∃ kept ∈ records, (({} : SlotState).meetAll records).held = some kept ∧
      ∀ record ∈ records, grade record ≤ grade kept := by
  have leads := meetAll_leads free
  cases held : (({} : SlotState).meetAll records).held with
  | none =>
    rw [held] at leads
    exact absurd leads nonempty
  | some kept =>
    rw [held] at leads
    exact ⟨kept, leads.1, rfl, leads.2⟩

theorem meet_supersededCount {state : SlotState} {record : EvidenceRecord}
    (current : ∀ existing, state.held = some existing → rankLess record existing = false) :
    (state.meet record).history.supersededCount = state.history.supersededCount := by
  cases held : state.held with
  | none => rw [meet, held]
  | some existing =>
    have known := current existing held
    rw [meet, held]
    dsimp only
    rw [known]
    split
    · rfl
    split
    · contradiction
    split <;> rfl

/-- Records that arrive in the order of their ranks supersede nothing. -/
theorem meetAll_ascending {records : List EvidenceRecord} (free : CollisionFree records)
    (sorted : InOrder rankLess records) : (({} : SlotState).meetAll records).history.supersededCount = 0 := by
  induction records using List.reverseRecOn with
  | nil => rfl
  | append_singleton records record ih =>
    obtain ⟨earlier, -, between⟩ := List.pairwise_append.mp sorted
    have among := fun a first b second => free a (List.mem_append_left [record] first) b (List.mem_append_left _ second)
    rw [meetAll_append]
    refine Eq.trans (meet_supersededCount ?_) (ih among earlier)
    intro existing held
    have leads := meetAll_leads among
    rw [held] at leads
    exact between existing leads.1 record (by simp)

theorem rankLess_orders : Orders rankLess := by
  constructor
  · exact fun a b => rankLess_asymm
  · intro a b c first second
    rw [← Bool.not_eq_true, rankLess_iff] at first second ⊢
    omega

/-- A slot whose history does not depend on the order of arrival met records of one rank. -/
theorem one_rank {records : List EvidenceRecord} (free : CollisionFree records)
    (settled : ∀ arrival, arrival.Perm records →
      (({} : SlotState).meetAll arrival).history = (({} : SlotState).meetAll records).history) :
    ∀ a ∈ records, ∀ b ∈ records, rankLess a b = false := by
  intro a memberA b memberB
  by_contra less
  rw [Bool.not_eq_false] at less
  have among : ∀ {arrival : List EvidenceRecord}, (∀ record ∈ arrival, record ∈ records) → CollisionFree arrival :=
    fun inside a first b second => free a (inside a first) b (inside b second)
  have ascending : (({} : SlotState).meetAll (sortBy rankLess records)).history.supersededCount = 0 :=
    meetAll_ascending (among fun record => (sortBy_perm _ _).mem_iff.mp) (sortBy_inOrder rankLess_orders _)
  -- The older record arrives last, behind all the others in the order of their ranks.
  have others : ∀ record ∈ sortBy rankLess (records.erase a), record ∈ records :=
    fun record member => List.mem_of_mem_erase ((sortBy_perm _ _).mem_iff.mp member)
  have before : (({} : SlotState).meetAll (sortBy rankLess (records.erase a))).history.supersededCount = 0 :=
    meetAll_ascending (among others) (sortBy_inOrder rankLess_orders _)
  have other : b ∈ sortBy rankLess (records.erase a) := by
    refine (sortBy_perm _ _).mem_iff.mpr ((List.mem_erase_of_ne ?_).mpr memberB)
    rintro rfl
    rw [rankLess_asymm less] at less
    cases less
  obtain ⟨kept, member, held, best⟩ := meetAll_holds (among others) (List.ne_nil_of_mem other)
  have older : rankLess a kept = true := by
    have notNewer := not_rankLess_of_grade (best b other)
    rw [← Bool.not_eq_true, rankLess_iff] at notNewer
    rw [rankLess_iff] at less ⊢
    omega
  have different : evidenceDigest kept ≠ evidenceDigest a := by
    intro same
    obtain rfl := free kept (others kept member) a memberA same
    rw [rankLess_asymm older] at older
    cases older
  have last : (({} : SlotState).meetAll (sortBy rankLess (records.erase a) ++ [a])).history.supersededCount = 1 := by
    rw [meetAll_append]
    change ((({} : SlotState).meetAll (sortBy rankLess (records.erase a))).meet a).history.supersededCount = 1
    rw [meet, held]
    dsimp only
    rw [if_neg different, if_pos older]
    dsimp only
    rw [before]
    rfl
  have perm : (sortBy rankLess (records.erase a) ++ [a]).Perm records :=
    ((sortBy_perm _ _).append_right [a]).trans
      ((List.perm_append_singleton _ _).trans (List.perm_cons_erase memberA).symm)
  rw [settled _ perm, ← settled _ (sortBy_perm _ _), ascending] at last
  exact absurd last (by decide)

theorem meet_same {state : SlotState} {record : EvidenceRecord} (held : state.held = some record) :
    state.meet record = state := by
  rw [meet, held]
  exact if_pos rfl

theorem meetAll_same {state : SlotState} {record : EvidenceRecord} {copies : List EvidenceRecord}
    (held : state.held = some record) (same : ∀ copy ∈ copies, copy = record) : state.meetAll copies = state := by
  induction copies with
  | nil => rfl
  | cons copy copies ih =>
    rw [meetAll_cons, same copy (by simp), meet_same held]
    exact ih fun other member => same other (by simp [member])

/-- Two different records of one rank leave the minimum of their conflict. -/
theorem meet_conflict {state : SlotState} {record existing : EvidenceRecord} (held : state.held = some existing)
    (different : evidenceDigest existing ≠ evidenceDigest record) (older : rankLess record existing = false)
    (newer : rankLess existing record = false) : (state.meet record).history.conflictingMin =
      EvidenceLedger.lowerDigest state.history.conflictingMin (evidenceDigest record) := by
  rw [meet, held]
  dsimp only
  rw [if_neg different, older, newer]
  rfl

theorem lowerDigest_mem (recorded candidate : Digest) :
    EvidenceLedger.lowerDigest recorded candidate = candidate ∨
      EvidenceLedger.lowerDigest recorded candidate = recorded ∧ recorded.isZero = false := by
  unfold EvidenceLedger.lowerDigest
  split
  · exact .inl rfl
  · rename_i kept
    rw [Bool.or_eq_true, not_or, Bool.not_eq_true] at kept
    exact .inr ⟨rfl, kept.1⟩

section OneRank

variable {records : List EvidenceRecord} (free : CollisionFree records)
  (level : ∀ a ∈ records, ∀ b ∈ records, rankLess a b = false)

include free level

/-- The conflict minimum of a slot whose records are of one rank is empty, or the digest of a record it has met. -/
theorem meetAll_conflictingMin : (({} : SlotState).meetAll records).history.conflictingMin = .zero ∨
    ∃ record ∈ records, (({} : SlotState).meetAll records).history.conflictingMin = evidenceDigest record := by
  induction records using List.reverseRecOn with
  | nil => exact .inl rfl
  | append_singleton records record ih =>
    have among := fun a first b second => free a (List.mem_append_left [record] first) b (List.mem_append_left _ second)
    have before := ih among fun a first b second =>
      level a (List.mem_append_left _ first) b (List.mem_append_left _ second)
    have kept : (({} : SlotState).meetAll records).history.conflictingMin = .zero ∨
        ∃ other ∈ records ++ [record],
          (({} : SlotState).meetAll records).history.conflictingMin = evidenceDigest other :=
      before.imp_right fun ⟨other, member, same⟩ => ⟨other, List.mem_append_left _ member, same⟩
    rw [meetAll_append]
    change (({} : SlotState).meetAll records |>.meet record).history.conflictingMin = .zero ∨
      ∃ other ∈ records ++ [record],
        (({} : SlotState).meetAll records |>.meet record).history.conflictingMin = evidenceDigest other
    by_cases empty : records = []
    · subst empty
      exact .inl rfl
    obtain ⟨existing, member, held, -⟩ := meetAll_holds among empty
    by_cases same : existing = record
    · rw [meet_same (same ▸ held)]
      exact kept
    have different : evidenceDigest existing ≠ evidenceDigest record :=
      fun equal => same (free existing (List.mem_append_left _ member) record (by simp) equal)
    rw [meet_conflict held different (level record (by simp) existing (List.mem_append_left _ member))
      (level existing (List.mem_append_left _ member) record (by simp))]
    rcases lowerDigest_mem (({} : SlotState).meetAll records).history.conflictingMin (evidenceDigest record) with
      lowered | ⟨stays, -⟩
    · exact .inr ⟨record, by simp, lowered⟩
    · rw [stays]
      exact kept

theorem smaller_of_best {best record : EvidenceRecord} (ofBest : best ∈ records) (member : record ∈ records)
    (other : record ≠ best) (atMost : grade record ≤ grade best) :
    grade record < grade best ∧ (evidenceDigest best).less (evidenceDigest record) = true := by
  have less : grade record < grade best :=
    lt_of_le_of_ne atMost fun same => other (free.graded record member best ofBest same)
  refine ⟨less, ?_⟩
  rcases (grade_lt_iff record best).mp less with newer | ⟨-, smaller⟩
  · rw [level record member best ofBest] at newer
    cases newer
  · exact smaller

/-- Where the best record comes first, the conflict minimum is the digest of another record. -/
theorem best_first {best : EvidenceRecord} (ofBest : best ∈ records) {others : List EvidenceRecord}
    (inside : ∀ record ∈ others, record ∈ records ∧ record ≠ best ∧ grade record ≤ grade best) {state : SlotState}
    (held : state.held = some best) (clear : state.history.conflictingMin = .zero) :
    (state.meetAll others).held = some best ∧
      (others ≠ [] → ∃ record ∈ others, (state.meetAll others).history.conflictingMin = evidenceDigest record) := by
  induction others using List.reverseRecOn with
  | nil => exact ⟨held, fun nonempty => absurd rfl nonempty⟩
  | append_singleton others record ih =>
    obtain ⟨stays, conflicts⟩ := ih fun other member => inside other (List.mem_append_left _ member)
    obtain ⟨member, apart, atMost⟩ := inside record (by simp)
    have different : evidenceDigest best ≠ evidenceDigest record :=
      fun same => apart (free record member best ofBest same.symm)
    have collides := meet_conflict stays different (level record member best ofBest) (level best ofBest record member)
    rw [meetAll_append]
    constructor
    · change ((state.meetAll others).meet record).held = some best
      have leads := @meet_held (state.meetAll others) record fun existing found same => by
        rw [stays] at found
        cases found
        exact absurd same different
      rw [leads, stays, prefer, if_neg (not_lt.mpr atMost)]
    · intro _
      change ∃ other ∈ others ++ [record],
        ((state.meetAll others).meet record).history.conflictingMin = evidenceDigest other
      rw [collides]
      by_cases empty : others = []
      · subst empty
        refine ⟨record, by simp, ?_⟩
        change EvidenceLedger.lowerDigest state.history.conflictingMin _ = _
        rw [clear]
        rfl
      rcases lowerDigest_mem (state.meetAll others).history.conflictingMin (evidenceDigest record) with
        lowered | ⟨kept, -⟩
      · exact ⟨record, by simp, lowered⟩
      · obtain ⟨other, listed, same⟩ := conflicts empty
        exact ⟨other, List.mem_append_left _ listed, kept.trans same⟩

/-- Where the best record comes last, the conflict minimum is its own digest. -/
theorem best_last {best : EvidenceRecord} (ofBest : best ∈ records) {others : List EvidenceRecord}
    (inside : ∀ record ∈ others, record ∈ records ∧ record ≠ best ∧ grade record ≤ grade best) (nonempty : others ≠ []) :
    ((({} : SlotState).meetAll others).meet best).held = some best ∧
      ((({} : SlotState).meetAll others).meet best).history.conflictingMin = evidenceDigest best := by
  have among : CollisionFree others := fun a first b second => free a (inside a first).1 b (inside b second).1
  have flat : ∀ a ∈ others, ∀ b ∈ others, rankLess a b = false :=
    fun a first b second => level a (inside a first).1 b (inside b second).1
  obtain ⟨kept, listed, held, -⟩ := meetAll_holds among nonempty
  obtain ⟨member, apart, atMost⟩ := inside kept listed
  have different : evidenceDigest kept ≠ evidenceDigest best :=
    fun same => apart (free kept member best ofBest same)
  constructor
  · rw [meet_held, held, prefer, if_pos (smaller_of_best free level ofBest member apart atMost).1]
    intro existing found same
    rw [held] at found
    cases found
    exact absurd same different
  · rw [meet_conflict held different (level best ofBest kept member) (level kept member best ofBest)]
    unfold EvidenceLedger.lowerDigest
    rcases meetAll_conflictingMin among flat with clear | ⟨other, conflicting, same⟩
    · rw [clear]
      rfl
    · obtain ⟨member, apart, atMost⟩ := inside other conflicting
      rw [same, (smaller_of_best free level ofBest member apart atMost).2, Bool.or_true]
      rfl

end OneRank

/-- The history of a slot is settled, whatever the order of arrival, exactly when all its records are one record. -/
theorem settled_iff {records : List EvidenceRecord} (free : CollisionFree records) :
    (∀ arrival, arrival.Perm records →
      (({} : SlotState).meetAll arrival).history = (({} : SlotState).meetAll records).history) ↔
        ∀ a ∈ records, ∀ b ∈ records, a = b := by
  constructor
  · intro settled
    have level := one_rank free settled
    by_contra differs
    have nonempty : records ≠ [] := by
      rintro rfl
      exact differs (by simp)
    obtain ⟨best, ofBest, -, greatest⟩ := meetAll_holds free nonempty
    let own := records.filter (· = best)
    let others := records.filter (fun record => !decide (record = best))
    have inside : ∀ record ∈ others, record ∈ records ∧ record ≠ best ∧ grade record ≤ grade best := by
      intro record member
      obtain ⟨listed, apart⟩ := List.mem_filter.mp member
      exact ⟨listed, by simpa using apart, greatest record listed⟩
    have some : others ≠ [] := by
      intro none
      have sole : ∀ record ∈ records, record = best := by
        intro record member
        by_contra apart
        exact absurd (none ▸ List.mem_filter.mpr ⟨member, by simpa using apart⟩ : record ∈ []) List.not_mem_nil
      exact differs fun a first b second => (sole a first).trans (sole b second).symm
    have bestOwn : best ∈ own := List.mem_filter.mpr ⟨ofBest, by simp⟩
    have ownSame : ∀ record ∈ own, record = best := fun record member => by simpa using (List.mem_filter.mp member).2
    obtain ⟨first, copies, split⟩ := List.exists_cons_of_ne_nil (List.ne_nil_of_mem bestOwn)
    obtain rfl := ownSame first (by rw [split]; simp)
    have copied : ∀ record ∈ copies, record = first := fun record member => ownSame record (by rw [split]; simp [member])
    have parts : (own ++ others).Perm records := List.filter_append_perm _ records
    have leading : ({} : SlotState).meetAll (own ++ others) =
        (({} : SlotState).meet first).meetAll others := by
      rw [meetAll_append, split, meetAll_cons, @meetAll_same (({} : SlotState).meet first) first copies rfl copied]
    obtain ⟨-, conflicts⟩ := @best_first _ free level _ ofBest _ inside (({} : SlotState).meet first) rfl rfl
    obtain ⟨other, listed, fromOther⟩ := conflicts some
    obtain ⟨held, fromBest⟩ := best_last free level ofBest inside some
    have trailing : ({} : SlotState).meetAll (others ++ own) = (({} : SlotState).meetAll others).meet first := by
      rw [meetAll_append, split, meetAll_cons, meetAll_same held copied]
    have histories := (settled _ parts).trans (settled _ (List.perm_append_comm.trans parts)).symm
    rw [leading, trailing] at histories
    rw [histories, fromBest] at fromOther
    obtain ⟨member, apart, -⟩ := inside other listed
    exact apart (free first ofBest other member fromOther).symm
  · intro same arrival perm
    have quiet : ∀ offers : List EvidenceRecord, (∀ a ∈ offers, ∀ b ∈ offers, a = b) →
        (({} : SlotState).meetAll offers).history = {} := by
      intro offers equal
      cases offers with
      | nil => rfl
      | cons record rest =>
        rw [meetAll_cons, @meetAll_same (({} : SlotState).meet record) record rest rfl
          fun copy member => equal copy (by simp [member]) record (by simp)]
        rfl
    have arrived : ∀ a ∈ arrival, ∀ b ∈ arrival, a = b :=
      fun a first b second => same a (perm.mem_iff.mp first) b (perm.mem_iff.mp second)
    rw [quiet records same, quiet arrival arrived]

end SlotState

namespace EvidenceLedger

def slotState (ledger : EvidenceLedger) (slot : EvidenceSlot) : SlotState :=
  ⟨ledger.slots[slot]?, ledger.history.getD slot {}⟩

/-- An insertion that finds room is a meeting in the slot of its record and leaves every other slot alone. -/
theorem insert_slotState {ledger : EvidenceLedger} {record : EvidenceRecord} (filed : ledger.Filed)
    (valid : validateEvidence record = .ok ())
    (room : ledger.slots[slotOf record]? = none → ledger.takes record = true) (slot : EvidenceSlot) :
    (ledger.insert record).1.slotState slot =
      if slotOf record = slot then (ledger.slotState slot).meet record else ledger.slotState slot := by
  cases stored : ledger.slots[slotOf record]? with
  | none =>
    have found := room stored
    simp only [takes, stored, Bool.and_eq_true, decide_eq_true_eq, Bool.or_eq_true] at found
    have placed : ledger.slots.size < ledger.limits.maxSlots := found.1
    have sourced : ¬ (!ledger.sources.contains record.provenance.source &&
        ledger.sources.size ≥ ledger.limits.maxSources) = true := by
      rw [Bool.and_eq_true, Bool.not_eq_true', decide_eq_true_eq]
      rintro ⟨unknown, full⟩
      rcases found.2 with known | short
      · rw [known] at unknown
        cases unknown
      · omega
    simp only [insert, valid, stored, insertNew, if_neg (Nat.not_le.mpr placed), if_neg sourced, slotState]
    by_cases own : slotOf record = slot
    · subst own
      rw [if_pos rfl, SlotState.meet, stored, Std.ExtTreeMap.getElem?_insert_self]
    · rw [if_neg own, Std.ExtTreeMap.getElem?_insert, if_neg (by simpa using own)]
  | some existing =>
    have beside : ledger.digests.getD (slotOf record) .zero = evidenceDigest existing := by
      rw [Std.ExtTreeMap.getD_eq_getD_getElem?, filed.digest _ _ stored, Option.getD_some]
    simp only [insert, valid, stored, beside, slotState]
    by_cases own : slotOf record = slot
    · subst own
      rw [if_pos rfl, SlotState.meet, stored]
      dsimp only
      split
      · rw [stored]
      unfold insertCompeting
      dsimp only
      split
      · simp [stored]
      split
      · simp
      · split
        · simp
        · simp [stored]
    · rw [if_neg own]
      have apart : ¬ compare (slotOf record) slot = .eq := by simpa using own
      split
      · rfl
      unfold insertCompeting
      dsimp only
      split
      · simp [Std.ExtTreeMap.getD_insert, apart]
      split
      · simp [Std.ExtTreeMap.getD_insert, Std.ExtTreeMap.getElem?_insert, apart]
      · split
        · simp [Std.ExtTreeMap.getD_insert, Std.ExtTreeMap.getElem?_insert, apart]
        · simp [Std.ExtTreeMap.getD_insert, apart]

/-- The slots of a ledger go their ways alone: each meets the offers that are its own, in their order. -/
theorem insertAll_slotState {limits : EvidenceLimits} {records : List EvidenceRecord}
    (valid : ∀ record ∈ records, validateEvidence record = .ok ()) (fits : Fits limits records)
    (free : CollisionFree records) (slot : EvidenceSlot) :
    (insertAll { limits := limits } records).slotState slot = ({} : SlotState).meetAll (offersFor records slot) := by
  induction records using List.reverseRecOn with
  | nil => simp [EvidenceLedger.insertAll, slotState, offersFor, SlotState.meetAll]
  | append_singleton records record ih =>
    have among : ∀ other ∈ records, other ∈ records ++ [record] := fun other member => by simp [member]
    have before := ih (fun other member => valid other (among other member)) (fits.of_subset among)
      (fun a first b second => free a (among a first) b (among b second))
    have reflects : Reflects (insertAll { limits := limits } records) ([] ++ records) :=
      (reflects_empty limits).insertAll (fun other member => valid other (among other member))
        (fits.of_subset among) (fun a first b second => free a (among a first) b (among b second))
    rw [List.nil_append] at reflects
    have takes := reflects.takes_iff (by simpa using fits) free
    have room : (insertAll { limits := limits } records).slots[slotOf record]? = none →
        (insertAll { limits := limits } records).takes record = true := by
      intro absent
      refine takes.mpr ?_
      intro existing held
      rw [absent] at held
      cases held
    rw [insertAll_snoc, insert_slotState reflects.filed (valid record (by simp)) room, before, offersFor, offersFor,
      List.filter_append]
    by_cases own : slotOf record = slot
    · simp [own, SlotState.meetAll]
    · simp [own]

/-- Two ledgers remember the same of their losing records, slot by slot and in all. -/
structure SameHistories (first second : EvidenceLedger) : Prop where
  slots : ∀ slot, first.history.getD slot {} = second.history.getD slot {}
  conflicts : first.conflicts = second.conflicts
  superseded : first.superseded = second.superseded

theorem SameHistories.slotState {first second : EvidenceLedger} (same : SameHistories first second)
    (slot : EvidenceSlot) : (first.slotState slot).history = (second.slotState slot).history :=
  same.slots slot

/-- An insertion that meets no other record of its slot counts nothing. -/
theorem insert_counts {ledger : EvidenceLedger} {record : EvidenceRecord} (filed : ledger.Filed)
    (alone : ∀ existing, ledger.slots[slotOf record]? = some existing → existing = record) :
    (ledger.insert record).1.conflicts = ledger.conflicts ∧ (ledger.insert record).1.superseded = ledger.superseded := by
  unfold insert
  dsimp only
  split
  · exact ⟨rfl, rfl⟩
  split
  · unfold insertNew
    split
    · exact ⟨rfl, rfl⟩
    split <;> exact ⟨rfl, rfl⟩
  · rename_i existing stored
    obtain rfl := alone existing stored
    rw [if_pos]
    · exact ⟨rfl, rfl⟩
    · rw [Std.ExtTreeMap.getD_eq_getD_getElem?, filed.digest _ _ stored, Option.getD_some]

theorem insertAll_counts {limits : EvidenceLimits} {records : List EvidenceRecord}
    (valid : ∀ record ∈ records, validateEvidence record = .ok ()) (fits : Fits limits records)
    (free : CollisionFree records) (alone : ∀ a ∈ records, ∀ b ∈ records, slotOf a = slotOf b → a = b) :
    (insertAll { limits := limits } records).conflicts = 0 ∧ (insertAll { limits := limits } records).superseded = 0 := by
  induction records using List.reverseRecOn with
  | nil => exact ⟨rfl, rfl⟩
  | append_singleton records record ih =>
    have among : ∀ other ∈ records, other ∈ records ++ [record] := fun other member => by simp [member]
    have fewer := fun other member => valid other (among other member)
    have apart : CollisionFree records := fun a first b second => free a (among a first) b (among b second)
    have before := ih fewer (fits.of_subset among) apart
      fun a first b second => alone a (among a first) b (among b second)
    have reflects := (reflects_empty limits).insertAll fewer (by simpa using fits.of_subset among) (by simpa using apart)
    rw [List.nil_append] at reflects
    obtain ⟨conflicts, superseded⟩ := @insert_counts _ record reflects.filed (by
      intro existing stored
      have held := reflects.leads (slotOf record)
      rw [stored] at held
      obtain ⟨member, own⟩ := List.mem_filter.mp held.1
      exact alone existing (among existing member) record (by simp) (by simpa using own))
    rw [insertAll_snoc, conflicts, superseded]
    exact before

/-- Histories and counts do not depend on the order of arrival exactly when no slot is offered two different
records. -/
theorem histories_settled_iff {limits : EvidenceLimits} {records : List EvidenceRecord}
    (valid : ∀ record ∈ records, validateEvidence record = .ok ()) (fits : Fits limits records)
    (free : CollisionFree records) :
    (∀ arrival : List EvidenceRecord, arrival.Perm records →
      SameHistories (insertAll { limits := limits } arrival) (insertAll { limits := limits } records)) ↔
        ∀ a ∈ records, ∀ b ∈ records, slotOf a = slotOf b → a = b := by
  have arrives : ∀ {arrival : List EvidenceRecord}, arrival.Perm records →
      (∀ record ∈ arrival, validateEvidence record = .ok ()) ∧ Fits limits arrival ∧ CollisionFree arrival :=
    fun perm => ⟨fun record member => valid record (perm.mem_iff.mp member),
      fits.of_subset fun record => perm.mem_iff.mp,
      fun a first b second => free a (perm.mem_iff.mp first) b (perm.mem_iff.mp second)⟩
  have slotwise : ∀ {arrival : List EvidenceRecord}, arrival.Perm records → ∀ slot,
      (insertAll { limits := limits } arrival).history.getD slot {} =
        (({} : SlotState).meetAll (offersFor arrival slot)).history := by
    intro arrival perm slot
    obtain ⟨valid, fits, free⟩ := arrives perm
    exact congrArg SlotState.history (insertAll_slotState valid fits free slot)
  constructor
  · intro settled a first b second own
    have slotFree : CollisionFree (offersFor records (slotOf b)) := fun x first y second =>
      free x (List.mem_filter.mp first).1 y (List.mem_filter.mp second).1
    refine (SlotState.settled_iff slotFree).mp ?_ a (List.mem_filter.mpr ⟨first, by simpa using own⟩) b
      (List.mem_filter.mpr ⟨second, by simp⟩)
    -- The offers of one slot can be reordered alone, ahead of all the others.
    intro arrival perm
    let others := records.filter fun record => !decide (slotOf record = slotOf b)
    have whole : (arrival ++ others).Perm records := (perm.append_right others).trans (List.filter_append_perm _ records)
    have histories := (settled _ whole).slots (slotOf b)
    rw [slotwise whole, slotwise (List.Perm.refl records)] at histories
    have own : offersFor (arrival ++ others) (slotOf b) = arrival := by
      rw [offersFor, List.filter_append, List.filter_eq_self.mpr, List.filter_eq_nil_iff.mpr, List.append_nil]
      · intro record member
        simpa using (List.mem_filter.mp member).2
      · intro record member
        exact (List.mem_filter.mp (perm.mem_iff.mp member)).2
    rw [own] at histories
    exact histories
  · intro alone arrival perm
    obtain ⟨arrivalValid, arrivalFits, arrivalFree⟩ := arrives perm
    have arrivalAlone : ∀ a ∈ arrival, ∀ b ∈ arrival, slotOf a = slotOf b → a = b :=
      fun a first b second => alone a (perm.mem_iff.mp first) b (perm.mem_iff.mp second)
    obtain ⟨conflicts, superseded⟩ := insertAll_counts valid fits free alone
    obtain ⟨arrivalConflicts, arrivalSuperseded⟩ :=
      insertAll_counts arrivalValid arrivalFits arrivalFree arrivalAlone
    refine ⟨?_, arrivalConflicts.trans conflicts.symm, arrivalSuperseded.trans superseded.symm⟩
    intro slot
    rw [slotwise perm, slotwise (List.Perm.refl records)]
    have slotFree : CollisionFree (offersFor records slot) := fun x first y second =>
      free x (List.mem_filter.mp first).1 y (List.mem_filter.mp second).1
    refine (SlotState.settled_iff slotFree).mpr ?_ _ (perm.filter _)
    intro x first y second
    obtain ⟨listedX, ownX⟩ := List.mem_filter.mp first
    obtain ⟨listedY, ownY⟩ := List.mem_filter.mp second
    have shared : slotOf x = slotOf y := (of_decide_eq_true ownX).trans (of_decide_eq_true ownY).symm
    exact alone x listedX y listedY shared

/-- One sighting of one member, by one source. -/
def sighting (sequence : UInt64) : EvidenceRecord where
  provenance := { source := 1, sequence := sequence }
  payload := .member { device := 3, rack := 7, incarnation := 1 }

private theorem sightings_apart : evidenceDigest (sighting 1) ≠ evidenceDigest (sighting 2) := by
  decide +kernel

private theorem sighting_pair : (∀ record ∈ [sighting 1, sighting 2], validateEvidence record = .ok ()) ∧
    Fits {} [sighting 1, sighting 2] ∧ CollisionFree [sighting 1, sighting 2] := by
  refine ⟨by decide, ⟨by decide, by decide⟩, ?_⟩
  intro a first b second same
  simp only [List.mem_cons, List.not_mem_nil, or_false] at first second
  rcases first with rfl | rfl <;> rcases second with rfl | rfl
  · rfl
  · exact absurd same sightings_apart
  · exact absurd same.symm sightings_apart
  · rfl

/-- Two sightings of one member: the older one is counted as superseded when it arrives last, and not when it arrives
first. -/
theorem older_sighting_counted : (∀ record ∈ [sighting 1, sighting 2], validateEvidence record = .ok ()) ∧
    Fits {} [sighting 1, sighting 2] ∧ CollisionFree [sighting 1, sighting 2] ∧
      [sighting 2, sighting 1].Perm [sighting 1, sighting 2] ∧
      ¬ SameHistories (insertAll {} [sighting 2, sighting 1]) (insertAll {} [sighting 1, sighting 2]) := by
  obtain ⟨valid, fits, free⟩ := sighting_pair
  have swapped : [sighting 2, sighting 1].Perm [sighting 1, sighting 2] := .swap _ _ _
  refine ⟨valid, fits, free, swapped, ?_⟩
  intro same
  have remembered := same.slotState (slotOf (sighting 1))
  have ascending := insertAll_slotState valid fits free (slotOf (sighting 1))
  have descending := insertAll_slotState (fun record member => valid record (swapped.mem_iff.mp member))
    (fits.of_subset fun record => swapped.mem_iff.mp)
    (fun a first b second => free a (swapped.mem_iff.mp first) b (swapped.mem_iff.mp second)) (slotOf (sighting 1))
  have counted : (({} : SlotState).meetAll [sighting 2, sighting 1]).history.supersededCount = 1 := by
    have first : ({} : SlotState).meet (sighting 2) = { held := some (sighting 2) } := by
      rw [SlotState.meet]
    have older : rankLess (sighting 1) (sighting 2) = true := by decide
    rw [SlotState.meetAll_cons, first, SlotState.meetAll_cons, SlotState.meet]
    dsimp only
    rw [if_neg sightings_apart.symm, if_pos older, SlotState.meetAll, List.foldl_nil]
    rfl
  have uncounted : (({} : SlotState).meetAll [sighting 1, sighting 2]).history.supersededCount = 0 :=
    SlotState.meetAll_ascending free (List.pairwise_pair.mpr (by decide))
  have all : offersFor [sighting 1, sighting 2] (slotOf (sighting 1)) = [sighting 1, sighting 2] := by decide
  have reversed : offersFor [sighting 2, sighting 1] (slotOf (sighting 1)) = [sighting 2, sighting 1] := by decide
  rw [all] at ascending
  rw [reversed] at descending
  have counts := congrArg SlotHistory.supersededCount
    ((congrArg SlotState.history descending).symm.trans (remembered.trans (congrArg SlotState.history ascending)))
  rw [counted, uncounted] at counts
  exact absurd counts (by decide)

/-- The same source's sighting of another member. -/
def neighbour : EvidenceRecord where
  provenance := { source := 1, sequence := 1 }
  payload := .member { device := 4, rack := 7, incarnation := 1 }

private theorem neighbour_apart : evidenceDigest neighbour ≠ evidenceDigest (sighting 1) := by
  decide +kernel

/-- A sighting that is only repeated leaves the histories settled, whatever arrives beside it. -/
theorem repeated_sighting_settled :
    SameHistories (insertAll {} [neighbour, sighting 1, sighting 1])
      (insertAll {} [sighting 1, sighting 1, neighbour]) := by
  have either : ∀ record ∈ [sighting 1, sighting 1, neighbour], record = sighting 1 ∨ record = neighbour := by
    simp
  have valid : ∀ record ∈ [sighting 1, sighting 1, neighbour], validateEvidence record = .ok () := by decide
  have free : CollisionFree [sighting 1, sighting 1, neighbour] := by
    intro a first b second same
    rcases either a first with rfl | rfl <;> rcases either b second with rfl | rfl
    · rfl
    · exact absurd same.symm neighbour_apart
    · exact absurd same neighbour_apart
    · rfl
  have alone : ∀ a ∈ [sighting 1, sighting 1, neighbour], ∀ b ∈ [sighting 1, sighting 1, neighbour],
      slotOf a = slotOf b → a = b := by
    intro a first b second same
    rcases either a first with rfl | rfl <;> rcases either b second with rfl | rfl
    · rfl
    · exact absurd same (by decide)
    · exact absurd same (by decide)
    · rfl
  exact (histories_settled_iff valid ⟨by decide, by decide⟩ free).mpr alone [neighbour, sighting 1, sighting 1]
    (by decide)

end EvidenceLedger

end RackFabric
