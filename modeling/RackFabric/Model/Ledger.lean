import RackFabric.Model.Evidence
import RackFabric.Foundation.Best
import RackFabric.Foundation.Replay
import Mathlib.Data.List.Induction

/-!
What the ledger holds as a function of what was offered to it: in every slot the record of the greatest rank,
and of the smallest digest among those, whatever the order and number of the offers.
-/

namespace RackFabric

open Foundation

theorem lexLess_iff (a b : List UInt8) :
    lexLess a b = true ↔ a.map UInt8.toNat < b.map UInt8.toNat := by
  induction a generalizing b with
  | nil => cases b <;> simp [lexLess]
  | cons x xs ih =>
    cases b with
    | nil => simp [lexLess]
    | cons y ys =>
      simp only [lexLess, Bool.or_eq_true, decide_eq_true_eq, Bool.and_eq_true, beq_iff_eq, ih, List.map_cons,
        List.cons_lt_cons_iff, UInt8.lt_iff_toNat_lt, UInt8.toNat_inj]

/-- Where a record stands among the competing records of its slot. -/
def grade (record : EvidenceRecord) : Nat ×ₗ Nat ×ₗ (List Nat)ᵒᵈ :=
  toLex (record.generation.toNat, toLex (record.provenance.sequence.toNat,
    OrderDual.toDual ((evidenceDigest record).bytes.map UInt8.toNat)))

theorem rankLess_iff (a b : EvidenceRecord) :
    rankLess a b = true ↔ a.generation.toNat < b.generation.toNat ∨
      (a.generation.toNat = b.generation.toNat ∧
        a.provenance.sequence.toNat < b.provenance.sequence.toNat) := by
  simp only [rankLess, Bool.or_eq_true, decide_eq_true_eq, Bool.and_eq_true, beq_iff_eq, UInt64.lt_iff_toNat_lt,
    UInt64.toNat_inj]

theorem rankLess_asymm {a b : EvidenceRecord} (less : rankLess a b = true) : rankLess b a = false := by
  rw [rankLess_iff] at less
  rw [← Bool.not_eq_true, rankLess_iff]
  omega

/-- A record outgrades another by a greater rank, or by a smaller digest at the same rank. -/
theorem grade_lt_iff (a b : EvidenceRecord) :
    grade a < grade b ↔ rankLess a b = true ∨
      (rankLess b a = false ∧ (evidenceDigest b).less (evidenceDigest a) = true) := by
  rw [← Bool.not_eq_true, rankLess_iff, rankLess_iff, Digest.less, lexLess_iff]
  simp only [grade, Prod.Lex.toLex_lt_toLex, OrderDual.toDual_lt_toDual]
  constructor
  · rintro (earlier | ⟨same, earlier | ⟨sameSequence, smaller⟩⟩)
    · exact .inl (.inl earlier)
    · exact .inl (.inr ⟨same, earlier⟩)
    · exact .inr ⟨by omega, smaller⟩
  · rintro ((earlier | ⟨same, earlier⟩) | ⟨notAfter, smaller⟩)
    · exact .inl earlier
    · exact .inr ⟨same, .inl earlier⟩
    · by_cases earlier : a.generation.toNat < b.generation.toNat
      · exact .inl earlier
      · by_cases before : a.provenance.sequence.toNat < b.provenance.sequence.toNat
        · exact .inr ⟨by omega, .inl before⟩
        · exact .inr ⟨by omega, .inr ⟨by omega, smaller⟩⟩

theorem digest_of_grade {a b : EvidenceRecord} (same : grade a = grade b) :
    evidenceDigest a = evidenceDigest b := by
  have bytes : (evidenceDigest a).bytes.map UInt8.toNat = (evidenceDigest b).bytes.map UInt8.toNat :=
    congrArg (fun g => OrderDual.ofDual (ofLex (ofLex g).2).2) same
  have injective : Function.Injective UInt8.toNat := fun x y => UInt8.toNat_inj.mp
  have equal := List.map_injective_iff.mpr injective bytes
  cases digestA : evidenceDigest a
  cases digestB : evidenceDigest b
  simp_all

/-- No two of these records share a digest. -/
def CollisionFree (records : List EvidenceRecord) : Prop :=
  ∀ a ∈ records, ∀ b ∈ records, evidenceDigest a = evidenceDigest b → a = b

theorem CollisionFree.graded {records : List EvidenceRecord} (free : CollisionFree records) :
    Graded grade records :=
  fun a first b second same => free a first b second (digest_of_grade same)

@[simp] theorem slotOf_source (record : EvidenceRecord) : (slotOf record).source = record.provenance.source := by
  simp only [slotOf]
  split <;> rfl

namespace EvidenceLedger

/-- A stored record sits in its own slot with its digest beside it, and its source is among the sources. -/
structure Filed (ledger : EvidenceLedger) : Prop where
  slot : ∀ (slot : EvidenceSlot) (record : EvidenceRecord), ledger.slots[slot]? = some record → slotOf record = slot
  digest : ∀ (slot : EvidenceSlot) (record : EvidenceRecord), ledger.slots[slot]? = some record →
    ledger.digests[slot]? = some (evidenceDigest record)
  source : ∀ source : UInt64, source ∈ ledger.sources ↔ ∃ slot, slot ∈ ledger.slots ∧ slot.source = source

/-- Whether an insert of a valid record changes what is stored. -/
def takes (ledger : EvidenceLedger) (record : EvidenceRecord) : Bool :=
  match ledger.slots[slotOf record]? with
  | none => ledger.slots.size < ledger.limits.maxSlots &&
      (ledger.sources.contains record.provenance.source || ledger.sources.size < ledger.limits.maxSources)
  | some existing => evidenceDigest existing ≠ evidenceDigest record && grade existing < grade record

/-- The parts of the ledger that decide what it holds, after a record was placed. -/
structure Places (ledger : EvidenceLedger) (record : EvidenceRecord) (next : EvidenceLedger) : Prop where
  limits : next.limits = ledger.limits
  slots : next.slots = ledger.slots.insert (slotOf record) record
  digests : next.digests = ledger.digests.insert (slotOf record) (evidenceDigest record)
  sources : ∀ source, source ∈ next.sources ↔ source ∈ ledger.sources ∨ source = record.provenance.source

/-- The same parts after an insert that stored nothing. -/
structure Leaves (ledger next : EvidenceLedger) : Prop where
  limits : next.limits = ledger.limits
  slots : next.slots = ledger.slots
  digests : next.digests = ledger.digests
  sources : next.sources = ledger.sources

theorem Leaves.refl (ledger : EvidenceLedger) : Leaves ledger ledger := ⟨rfl, rfl, rfl, rfl⟩

theorem insert_invalid {ledger : EvidenceLedger} {record : EvidenceRecord}
    (invalid : validateEvidence record ≠ .ok ()) : (ledger.insert record).1 = ledger := by
  simp only [insert]
  split
  · rfl
  · rename_i valid
    exact absurd valid invalid

private theorem insertNew_effect {ledger : EvidenceLedger} {record : EvidenceRecord} {report : InsertReport}
    (slot : report.slot = slotOf record) (digest : report.recordDigest = evidenceDigest record)
    (absent : ledger.slots[slotOf record]? = none) :
    (ledger.takes record = true ∧ Places ledger record (ledger.insertNew record report).1) ∨
      (ledger.takes record = false ∧ Leaves ledger (ledger.insertNew record report).1) := by
  simp only [insertNew, takes, absent]
  split
  · rename_i full
    exact .inr ⟨by simp [Nat.not_lt.mpr full], .refl ledger⟩
  · rename_i room
    split
    · rename_i crowded
      refine .inr ⟨?_, .refl ledger⟩
      simp only [Bool.and_eq_true, Bool.not_eq_true', decide_eq_true_eq] at crowded
      simp only [crowded.1, Bool.false_or, Bool.and_eq_false_iff, decide_eq_false_iff_not]
      exact .inr (by omega)
    · rename_i sourced
      refine .inl ⟨?_, ⟨rfl, by rw [slot], by rw [slot, digest], ?_⟩⟩
      · simp only [Bool.and_eq_true, Bool.not_eq_true', decide_eq_true_eq, not_and] at sourced
        simp only [Bool.and_eq_true, Bool.or_eq_true, decide_eq_true_eq]
        refine ⟨by omega, ?_⟩
        cases known : ledger.sources.contains record.provenance.source with
        | true => exact .inl rfl
        | false => exact .inr (by have := sourced known; omega)
      · intro source
        simp only [Std.ExtTreeMap.mem_insert, Std.LawfulEqCmp.compare_eq_iff_eq]
        exact ⟨fun member => member.symm.imp id Eq.symm, fun member => member.symm.imp Eq.symm id⟩

private theorem insertCompeting_effect {ledger : EvidenceLedger} {record existing : EvidenceRecord}
    {report : InsertReport} (filed : ledger.Filed)
    (slot : report.slot = slotOf record) (digest : report.recordDigest = evidenceDigest record)
    (stored : ledger.slots[slotOf record]? = some existing)
    (different : evidenceDigest existing ≠ evidenceDigest record) :
    (ledger.takes record = true ∧
        Places ledger record (ledger.insertCompeting record existing (evidenceDigest existing) report).1) ∨
      (ledger.takes record = false ∧
        Leaves ledger (ledger.insertCompeting record existing (evidenceDigest existing) report).1) := by
  have source : record.provenance.source ∈ ledger.sources :=
    (filed.source _).mpr ⟨slotOf record, Std.ExtTreeMap.mem_iff_isSome_getElem?.mpr (by simp [stored]), by simp⟩
  have known : ∀ source, source ∈ ledger.sources ↔ source ∈ ledger.sources ∨ source = record.provenance.source :=
    fun _ => ⟨.inl, fun member => member.elim id (fun same => same ▸ source)⟩
  simp only [insertCompeting, takes, stored, ne_eq, different, not_false_eq_true, decide_true, Bool.true_and,
    decide_eq_true_eq, decide_eq_false_iff_not, grade_lt_iff, digest]
  by_cases older : rankLess record existing = true
  · rw [if_pos older]
    refine .inr ⟨?_, ⟨rfl, rfl, rfl, rfl⟩⟩
    simp only [older, rankLess_asymm older]
    simp
  · rw [if_neg older]
    by_cases newer : rankLess existing record = true
    · rw [if_pos newer]
      exact .inl ⟨.inl newer, ⟨rfl, by rw [slot], by rw [slot], known⟩⟩
    · rw [if_neg newer]
      by_cases smaller : (evidenceDigest record).less (evidenceDigest existing) = true
      · rw [if_pos smaller]
        exact .inl ⟨.inr ⟨by simpa using older, smaller⟩, ⟨rfl, by rw [slot], by rw [slot], known⟩⟩
      · rw [if_neg smaller]
        exact .inr ⟨by simp [newer, smaller], ⟨rfl, rfl, rfl, rfl⟩⟩

/-- An insert of a valid record places it or leaves what is stored alone. -/
theorem insert_effect {ledger : EvidenceLedger} {record : EvidenceRecord} (filed : ledger.Filed)
    (valid : validateEvidence record = .ok ()) :
    (ledger.takes record = true ∧ Places ledger record (ledger.insert record).1) ∨
      (ledger.takes record = false ∧ Leaves ledger (ledger.insert record).1) := by
  simp only [insert, valid]
  split
  · rename_i absent
    exact insertNew_effect rfl rfl absent
  · rename_i existing stored
    have beside : ledger.digests.getD (slotOf record) .zero = evidenceDigest existing := by
      rw [Std.ExtTreeMap.getD_eq_getD_getElem?, filed.digest _ _ stored, Option.getD_some]
    simp only [beside]
    split
    · rename_i same
      exact .inr ⟨by simp [takes, stored, same], .refl ledger⟩
    · rename_i different
      exact insertCompeting_effect filed rfl rfl stored different

theorem Places.filed {ledger next : EvidenceLedger} {record : EvidenceRecord} (places : Places ledger record next)
    (filed : ledger.Filed) : next.Filed := by
  refine ⟨?_, ?_, ?_⟩
  · intro slot stored found
    rw [places.slots, Std.ExtTreeMap.getElem?_insert] at found
    split at found
    · rename_i same
      rw [← Option.some.inj found]
      exact Std.LawfulEqCmp.eq_of_compare same
    · exact filed.slot slot stored found
  · intro slot stored found
    rw [places.slots, Std.ExtTreeMap.getElem?_insert] at found
    rw [places.digests, Std.ExtTreeMap.getElem?_insert]
    split at found
    · rename_i same
      rw [if_pos same, Option.some.inj found]
    · rename_i other
      rw [if_neg other]
      exact filed.digest slot stored found
  · intro source
    rw [places.sources, filed.source, places.slots]
    simp only [Std.ExtTreeMap.mem_insert, Std.LawfulEqCmp.compare_eq_iff_eq]
    constructor
    · rintro (⟨slot, member, rfl⟩ | rfl)
      · exact ⟨slot, .inr member, rfl⟩
      · exact ⟨slotOf record, .inl rfl, slotOf_source record⟩
    · rintro ⟨slot, rfl | member, rfl⟩
      · exact .inr (slotOf_source record)
      · exact .inl ⟨slot, member, rfl⟩

theorem Leaves.filed {ledger next : EvidenceLedger} (leaves : Leaves ledger next) (filed : ledger.Filed) :
    next.Filed := by
  refine ⟨?_, ?_, ?_⟩
  · rw [leaves.slots]
    exact filed.slot
  · rw [leaves.slots, leaves.digests]
    exact filed.digest
  · rw [leaves.slots, leaves.sources]
    exact filed.source

theorem insert_filed {ledger : EvidenceLedger} (filed : ledger.Filed) (record : EvidenceRecord) :
    (ledger.insert record).1.Filed := by
  by_cases valid : validateEvidence record = .ok ()
  · rcases insert_effect filed valid with ⟨-, places⟩ | ⟨-, leaves⟩
    · exact places.filed filed
    · exact leaves.filed filed
  · rw [insert_invalid valid]
    exact filed

/-- Records offered one after another. -/
def insertAll (ledger : EvidenceLedger) (records : List EvidenceRecord) : EvidenceLedger :=
  records.foldl (fun ledger record => (ledger.insert record).1) ledger

@[simp] theorem insertAll_snoc (ledger : EvidenceLedger) (records : List EvidenceRecord) (record : EvidenceRecord) :
    ledger.insertAll (records ++ [record]) = ((ledger.insertAll records).insert record).1 := by
  simp [insertAll]

theorem insertAll_append (ledger : EvidenceLedger) (first second : List EvidenceRecord) :
    ledger.insertAll (first ++ second) = (ledger.insertAll first).insertAll second := by
  simp [insertAll]

/-- The offers of one slot. -/
def offersFor (offered : List EvidenceRecord) (slot : EvidenceSlot) : List EvidenceRecord :=
  offered.filter (fun record => slotOf record = slot)

/-- The records of a list stay within the ledger's bounds on slots and sources. -/
structure Fits (limits : EvidenceLimits) (records : List EvidenceRecord) : Prop where
  slots : (records.map slotOf).dedup.length ≤ limits.maxSlots
  sources : (records.map (·.provenance.source)).dedup.length ≤ limits.maxSources

theorem Fits.of_subset {limits : EvidenceLimits} {fewer records : List EvidenceRecord} (fits : Fits limits records)
    (among : ∀ record ∈ fewer, record ∈ records) : Fits limits fewer := by
  constructor
  · refine (length_le_dedup (List.nodup_dedup _) ?_).trans fits.slots
    intro slot member
    obtain ⟨record, offered, rfl⟩ := List.mem_map.mp (List.mem_dedup.mp member)
    exact List.mem_map.mpr ⟨record, among record offered, rfl⟩
  · refine (length_le_dedup (List.nodup_dedup _) ?_).trans fits.sources
    intro source member
    obtain ⟨record, offered, rfl⟩ := List.mem_map.mp (List.mem_dedup.mp member)
    exact List.mem_map.mpr ⟨record, among record offered, rfl⟩

/-- The ledger holds, slot by slot, the best of what was offered. -/
structure Reflects (ledger : EvidenceLedger) (offered : List EvidenceRecord) : Prop where
  filed : ledger.Filed
  leads : ∀ slot : EvidenceSlot, Leads grade (offersFor offered slot) ledger.slots[slot]?

theorem Reflects.mem_slots {ledger : EvidenceLedger} {offered : List EvidenceRecord}
    (reflects : Reflects ledger offered) {slot : EvidenceSlot} :
    slot ∈ ledger.slots ↔ slot ∈ offered.map slotOf := by
  have leads := reflects.leads slot
  rw [Std.ExtTreeMap.mem_iff_isSome_getElem?, List.mem_map]
  cases stored : ledger.slots[slot]? with
  | none =>
    rw [stored] at leads
    have none : offersFor offered slot = [] := leads
    simp only [Option.isSome_none, Bool.false_eq_true, false_iff]
    rintro ⟨record, member, same⟩
    exact List.ne_nil_of_mem (List.mem_filter.mpr ⟨member, by simpa using same⟩) none
  | some held =>
    rw [stored] at leads
    obtain ⟨member, same⟩ := List.mem_filter.mp leads.1
    simp only [Option.isSome_some, true_iff]
    exact ⟨held, member, by simpa using same⟩

theorem Reflects.mem_sources {ledger : EvidenceLedger} {offered : List EvidenceRecord}
    (reflects : Reflects ledger offered) {source : UInt64} :
    source ∈ ledger.sources ↔ source ∈ offered.map (·.provenance.source) := by
  rw [reflects.filed.source, List.mem_map]
  constructor
  · rintro ⟨slot, member, rfl⟩
    obtain ⟨record, offer, rfl⟩ := List.mem_map.mp (reflects.mem_slots.mp member)
    exact ⟨record, offer, (slotOf_source record).symm⟩
  · rintro ⟨record, offer, rfl⟩
    exact ⟨slotOf record, reflects.mem_slots.mpr (List.mem_map.mpr ⟨record, offer, rfl⟩), slotOf_source record⟩

/-- Keys held and one key not held are fewer than a bound on the keys of a list that has them all. -/
private theorem size_lt_of_fresh {κ β : Type} [Ord κ] [Std.TransOrd κ] [Std.LawfulEqOrd κ] [DecidableEq κ]
    {table : Std.ExtTreeMap κ β} {offered : List κ} {fresh : κ} {bound : Nat}
    (keys : ∀ key, key ∈ table → key ∈ offered) (absent : fresh ∉ table)
    (bounded : (offered ++ [fresh]).dedup.length ≤ bound) : table.size < bound := by
  have nodup : (fresh :: table.keys).Nodup :=
    List.nodup_cons.mpr ⟨fun member => absent (Std.ExtTreeMap.mem_keys.mp member), Std.ExtTreeMap.nodup_keys⟩
  have among : ∀ key ∈ fresh :: table.keys, key ∈ offered ++ [fresh] := by
    intro key member
    rcases List.mem_cons.mp member with rfl | member
    · simp
    · simp [keys key (Std.ExtTreeMap.mem_keys.mp member)]
  have count := (length_le_dedup nodup among).trans bounded
  rw [List.length_cons, Std.ExtTreeMap.length_keys] at count
  exact count

/-- Within the bounds an insert keeps the better of what is held and what is offered. -/
theorem Reflects.takes_iff {ledger : EvidenceLedger} {offered : List EvidenceRecord} {record : EvidenceRecord}
    (reflects : Reflects ledger offered) (fits : Fits ledger.limits (offered ++ [record]))
    (free : CollisionFree (offered ++ [record])) :
    ledger.takes record = true ↔
      ∀ existing, ledger.slots[slotOf record]? = some existing → grade existing < grade record := by
  simp only [takes]
  split
  · rename_i absent
    have fresh : slotOf record ∉ ledger.slots := by
      rw [Std.ExtTreeMap.mem_iff_isSome_getElem?, absent]
      simp
    have slots : ledger.slots.size < ledger.limits.maxSlots :=
      size_lt_of_fresh (fun key => reflects.mem_slots.mp) fresh (by simpa using fits.slots)
    have sources : record.provenance.source ∈ ledger.sources ∨
        ledger.sources.size < ledger.limits.maxSources := by
      by_cases known : record.provenance.source ∈ ledger.sources
      · exact .inl known
      · exact .inr (size_lt_of_fresh (fun key => reflects.mem_sources.mp) known (by simpa using fits.sources))
    simp only [absent, reduceCtorEq, false_implies, implies_true, iff_true]
    simpa [slots] using sources
  · rename_i existing stored
    have leads := reflects.leads (slotOf record)
    rw [stored] at leads
    have member : existing ∈ offered := (List.mem_filter.mp leads.1).1
    simp only [stored, ne_eq, decide_not, Bool.and_eq_true, Bool.not_eq_true', decide_eq_false_iff_not,
      decide_eq_true_eq, Option.some.injEq, forall_eq']
    refine ⟨And.right, ?_⟩
    intro outgraded
    refine ⟨?_, outgraded⟩
    intro same
    rw [free existing (by simp [member]) record (by simp) same] at outgraded
    exact lt_irrefl _ outgraded

theorem Reflects.insert {ledger : EvidenceLedger} {offered : List EvidenceRecord} {record : EvidenceRecord}
    (reflects : Reflects ledger offered) (valid : validateEvidence record = .ok ())
    (fits : Fits ledger.limits (offered ++ [record])) (free : CollisionFree (offered ++ [record])) :
    Reflects (ledger.insert record).1 (offered ++ [record]) := by
  refine ⟨insert_filed reflects.filed record, ?_⟩
  intro slot
  have takes := reflects.takes_iff fits free
  have before := reflects.leads slot
  simp only [offersFor, List.filter_append] at before ⊢
  by_cases own : slotOf record = slot
  · subst own
    have held : (ledger.insert record).1.slots[slotOf record]? =
        some (prefer grade ledger.slots[slotOf record]? record) := by
      rcases insert_effect reflects.filed valid with ⟨taken, places⟩ | ⟨left, leaves⟩
      · rw [places.slots, Std.ExtTreeMap.getElem?_insert_self]
        cases stored : ledger.slots[slotOf record]? with
        | none => rfl
        | some existing => simp [prefer, takes.mp taken existing stored]
      · rw [← Bool.not_eq_true, takes] at left
        rw [leaves.slots]
        cases stored : ledger.slots[slotOf record]? with
        | none => simp [stored] at left
        | some existing =>
          have kept : ¬ grade existing < grade record := by simpa [stored] using left
          simp [prefer, kept]
    rw [held]
    simpa using before.prefer record
  · have unchanged : (ledger.insert record).1.slots[slot]? = ledger.slots[slot]? := by
      rcases insert_effect reflects.filed valid with ⟨-, places⟩ | ⟨-, leaves⟩
      · rw [places.slots, Std.ExtTreeMap.getElem?_insert, if_neg]
        simpa using own
      · rw [leaves.slots]
    rw [unchanged]
    simpa [own] using before

theorem insert_limits (ledger : EvidenceLedger) (record : EvidenceRecord) :
    (ledger.insert record).1.limits = ledger.limits := by
  simp only [EvidenceLedger.insert]
  split
  · rfl
  · split
    · simp only [insertNew]
      split
      · rfl
      · split <;> rfl
    · split
      · rfl
      · simp only [insertCompeting]
        split
        · rfl
        · split
          · rfl
          · split <;> rfl

@[simp] theorem insertAll_limits (ledger : EvidenceLedger) (records : List EvidenceRecord) :
    (ledger.insertAll records).limits = ledger.limits := by
  induction records using List.reverseRecOn with
  | nil => rfl
  | append_singleton records record ih => rw [insertAll_snoc, insert_limits, ih]

theorem Reflects.insertAll {ledger : EvidenceLedger} {offered records : List EvidenceRecord}
    (reflects : Reflects ledger offered) (valid : ∀ record ∈ records, validateEvidence record = .ok ())
    (fits : Fits ledger.limits (offered ++ records)) (free : CollisionFree (offered ++ records)) :
    Reflects (ledger.insertAll records) (offered ++ records) := by
  induction records using List.reverseRecOn with
  | nil => simpa [EvidenceLedger.insertAll] using reflects
  | append_singleton records record ih =>
    have among : ∀ other ∈ offered ++ records, other ∈ offered ++ (records ++ [record]) := by
      intro other member
      rcases List.mem_append.mp member with member | member <;> simp [member]
    have before := ih (fun other member => valid other (by simp [member])) (fits.of_subset among)
      (fun a first b second => free a (among a first) b (among b second))
    rw [insertAll_snoc, ← List.append_assoc]
    refine before.insert (valid record (by simp)) ?_ ?_
    · rw [insertAll_limits, List.append_assoc]
      exact fits
    · rw [List.append_assoc]
      exact free

theorem reflects_empty (limits : EvidenceLimits) : Reflects { limits := limits } [] := by
  refine ⟨⟨?_, ?_, ?_⟩, ?_⟩
  · intro slot record stored
    simp at stored
  · intro slot record stored
    simp at stored
  · intro source
    simp
  · intro slot
    simp [Leads, offersFor]

/-- What a ledger holds is determined by the set of records offered to it. -/
theorem Reflects.slots_eq {first second : EvidenceLedger} {offered arrival : List EvidenceRecord}
    (reflects : Reflects first offered) (other : Reflects second arrival) (free : CollisionFree offered)
    (same : ∀ record, record ∈ arrival ↔ record ∈ offered) : second.slots = first.slots := by
  apply Std.ExtTreeMap.ext_getElem?
  intro slot
  refine (Leads.unique ?_ ?_ (reflects.leads slot) (other.leads slot)).symm
  · intro a firstMember b secondMember
    exact free.graded a (List.mem_filter.mp firstMember).1 b (List.mem_filter.mp secondMember).1
  · intro record
    simp only [offersFor, List.mem_filter, same]

theorem Reflects.sources_eq {first second : EvidenceLedger} {offered : List EvidenceRecord}
    (reflects : Reflects first offered) (other : Reflects second offered) : second.sources = first.sources := by
  apply Std.ExtTreeMap.ext_mem_unit
  intro source
  rw [other.mem_sources, reflects.mem_sources]

theorem mem_records {ledger : EvidenceLedger} {record : EvidenceRecord} :
    record ∈ ledger.records ↔ ∃ slot : EvidenceSlot, ledger.slots[slot]? = some record := by
  rw [records, List.mem_map]
  constructor
  · rintro ⟨⟨slot, stored⟩, member, rfl⟩
    exact ⟨slot, Std.ExtTreeMap.mem_toList_iff_getElem?_eq_some.mp member⟩
  · rintro ⟨slot, stored⟩
    exact ⟨(slot, record), Std.ExtTreeMap.mem_toList_iff_getElem?_eq_some.mpr stored, rfl⟩

theorem Reflects.mem_offered {ledger : EvidenceLedger} {offered : List EvidenceRecord}
    (reflects : Reflects ledger offered) {record : EvidenceRecord} (stored : record ∈ ledger.records) :
    record ∈ offered := by
  obtain ⟨slot, found⟩ := mem_records.mp stored
  have leads := reflects.leads slot
  rw [found] at leads
  exact (List.mem_filter.mp leads.1).1

/-- A ledger's own records stand for everything that was offered to it, whatever is offered next. -/
theorem Reflects.resume {ledger rebuilt : EvidenceLedger} {offered more : List EvidenceRecord}
    (reflects : Reflects ledger offered) (later : Reflects rebuilt (ledger.records ++ more)) :
    Reflects rebuilt (offered ++ more) := by
  refine ⟨later.filed, ?_⟩
  intro slot
  have summary : Leads grade (ledger.slots[slot]?.toList ++ offersFor more slot) rebuilt.slots[slot]? := by
    refine (later.leads slot).of_mem ?_
    intro record
    simp only [offersFor, List.filter_append, List.mem_append, List.mem_filter, decide_eq_true_eq, mem_records,
      Option.mem_toList]
    constructor
    · rintro (stored | member)
      · exact .inl ⟨⟨slot, stored⟩, reflects.filed.slot slot record stored⟩
      · exact .inr member
    · rintro (⟨⟨other, stored⟩, own⟩ | member)
      · rw [← own, reflects.filed.slot other record stored]
        exact .inl stored
      · exact .inr member
  rw [offersFor, List.filter_append]
  exact (reflects.leads slot).resume summary

/-- Records that a ledger of these limits can hold side by side and tell apart. -/
structure Tame (limits : EvidenceLimits) (records : List EvidenceRecord) : Prop where
  fits : Fits limits records
  free : CollisionFree records

theorem Tame.of_subset {limits : EvidenceLimits} {fewer records : List EvidenceRecord} (tame : Tame limits records)
    (among : ∀ record ∈ fewer, record ∈ records) : Tame limits fewer :=
  ⟨tame.fits.of_subset among, fun a first b second => tame.free a (among a first) b (among b second)⟩

theorem Leaves.trans {first second third : EvidenceLedger} (earlier : Leaves first second)
    (later : Leaves second third) : Leaves first third :=
  ⟨later.limits.trans earlier.limits, later.slots.trans earlier.slots, later.digests.trans earlier.digests,
    later.sources.trans earlier.sources⟩

/-- What an insert stores does not depend on the losers it has counted. -/
theorem Leaves.insert {first second : EvidenceLedger} (leaves : Leaves first second) (record : EvidenceRecord) :
    Leaves (first.insert record).1 (second.insert record).1 := by
  obtain ⟨limits, slots, digests, history, sources, conflicts, superseded⟩ := first
  obtain ⟨limits', slots', digests', history', sources', conflicts', superseded'⟩ := second
  obtain ⟨rfl, rfl, rfl, rfl⟩ := leaves
  simp only [EvidenceLedger.insert]
  split
  · exact ⟨rfl, rfl, rfl, rfl⟩
  · split
    · simp only [insertNew]
      split
      · exact ⟨rfl, rfl, rfl, rfl⟩
      · split <;> exact ⟨rfl, rfl, rfl, rfl⟩
    · split
      · exact ⟨rfl, rfl, rfl, rfl⟩
      · simp only [insertCompeting]
        split
        · exact ⟨rfl, rfl, rfl, rfl⟩
        · split
          · exact ⟨rfl, rfl, rfl, rfl⟩
          · split <;> exact ⟨rfl, rfl, rfl, rfl⟩

theorem Leaves.insertAll {first second : EvidenceLedger} (leaves : Leaves first second)
    (records : List EvidenceRecord) : Leaves (first.insertAll records) (second.insertAll records) := by
  induction records using List.reverseRecOn with
  | nil => exact leaves
  | append_singleton records record ih =>
    rw [insertAll_snoc, insertAll_snoc]
    exact ih.insert record

theorem Leaves.takes {first second : EvidenceLedger} (leaves : Leaves first second) (record : EvidenceRecord) :
    second.takes record = first.takes record := by
  simp only [EvidenceLedger.takes, leaves.slots, leaves.sources, leaves.limits]

/-- A record that an insert would not store. -/
def Absorbs (ledger : EvidenceLedger) (record : EvidenceRecord) : Prop :=
  validateEvidence record = .ok () → ledger.takes record = false

theorem Absorbs.leaves {ledger : EvidenceLedger} {record : EvidenceRecord} (absorbs : Absorbs ledger record)
    (filed : ledger.Filed) : Leaves ledger (ledger.insert record).1 := by
  by_cases valid : validateEvidence record = .ok ()
  · rcases insert_effect filed valid with ⟨taken, -⟩ | ⟨-, leaves⟩
    · rw [absorbs valid] at taken
      cases taken
    · exact leaves
  · rw [insert_invalid valid]
    exact .refl ledger

theorem insert_absorbs {ledger : EvidenceLedger} (filed : ledger.Filed) (record : EvidenceRecord) :
    Absorbs (ledger.insert record).1 record := by
  intro valid
  rcases insert_effect filed valid with ⟨-, places⟩ | ⟨left, leaves⟩
  · simp [takes, places.slots]
  · rw [leaves.takes]
    exact left

/-- The ledger holds nothing but filed records of a list. -/
def HoldsAmong (pool : List EvidenceRecord) (ledger : EvidenceLedger) : Prop :=
  ledger.Filed ∧ ∀ record ∈ ledger.records, record ∈ pool

theorem holdsAmong_empty (pool : List EvidenceRecord) (limits : EvidenceLimits) :
    HoldsAmong pool { limits := limits } := by
  refine ⟨(reflects_empty limits).filed, ?_⟩
  intro record member
  obtain ⟨slot, found⟩ := mem_records.mp member
  simp at found

theorem HoldsAmong.insert {pool : List EvidenceRecord} {ledger : EvidenceLedger} (holds : HoldsAmong pool ledger)
    {record : EvidenceRecord} (member : record ∈ pool) : HoldsAmong pool (ledger.insert record).1 := by
  refine ⟨insert_filed holds.1 record, ?_⟩
  intro stored among
  obtain ⟨slot, found⟩ := mem_records.mp among
  by_cases valid : validateEvidence record = .ok ()
  · rcases insert_effect holds.1 valid with ⟨-, places⟩ | ⟨-, leaves⟩
    · rw [places.slots, Std.ExtTreeMap.getElem?_insert] at found
      split at found
      · rw [← Option.some.inj found]
        exact member
      · exact holds.2 stored (mem_records.mpr ⟨slot, found⟩)
    · rw [leaves.slots] at found
      exact holds.2 stored (mem_records.mpr ⟨slot, found⟩)
  · rw [insert_invalid valid] at found
    exact holds.2 stored (mem_records.mpr ⟨slot, found⟩)

theorem takes_new {ledger : EvidenceLedger} {record : EvidenceRecord} (absent : ledger.slots[slotOf record]? = none) :
    ledger.takes record = true ↔ ledger.slots.size < ledger.limits.maxSlots ∧
      (record.provenance.source ∈ ledger.sources ∨ ledger.sources.size < ledger.limits.maxSources) := by
  simp [takes, absent]

theorem takes_stored {ledger : EvidenceLedger} {record existing : EvidenceRecord}
    (stored : ledger.slots[slotOf record]? = some existing) :
    ledger.takes record = true ↔
      evidenceDigest existing ≠ evidenceDigest record ∧ grade existing < grade record := by
  simp [takes, stored]

/-- The bounds that refuse a new slot refuse it for good. -/
private theorem Places.refuses_new {ledger next : EvidenceLedger} {record other : EvidenceRecord}
    (places : Places ledger other next) (filed : ledger.Filed) (taken : ledger.takes other = true)
    (absent : ledger.slots[slotOf record]? = none) (refused : ledger.takes record = false) :
    next.takes record = false := by
  have apart : slotOf other ≠ slotOf record := by
    intro same
    have sources : other.provenance.source = record.provenance.source := by
      rw [← slotOf_source, ← slotOf_source, same]
    have room := (takes_new (same ▸ absent)).mp taken
    rw [sources] at room
    rw [(takes_new absent).mpr room] at refused
    cases refused
  have still : next.slots[slotOf record]? = none := by
    rw [places.slots, Std.ExtTreeMap.getElem?_insert, if_neg, absent]
    simpa using apart
  have grown : ledger.slots.size ≤ next.slots.size := by
    rw [places.slots]
    exact Std.ExtTreeMap.size_le_size_insert
  rw [← Bool.not_eq_true, takes_new still, places.limits]
  rw [← Bool.not_eq_true, takes_new absent] at refused
  rintro ⟨slots, sources⟩
  by_cases full : ledger.limits.maxSources ≤ ledger.sources.size
  · have known : other.provenance.source ∈ ledger.sources := by
      cases stored : ledger.slots[slotOf other]? with
      | none => exact ((takes_new stored).mp taken).2.resolve_right (by omega)
      | some existing =>
        exact (filed.source _).mpr
          ⟨slotOf other, Std.ExtTreeMap.mem_iff_isSome_getElem?.mpr (by simp [stored]), slotOf_source other⟩
    have same : next.sources = ledger.sources := by
      apply Std.ExtTreeMap.ext_mem_unit
      intro source
      rw [places.sources]
      exact ⟨fun member => member.elim id (fun same => same ▸ known), .inl⟩
    rw [same] at sources
    exact refused ⟨by omega, sources⟩
  · exact refused ⟨by omega, .inr (by omega)⟩

/-- A record that is absorbed stays absorbed. -/
theorem Absorbs.insert {pool : List EvidenceRecord} {ledger : EvidenceLedger} {record other : EvidenceRecord}
    (absorbs : Absorbs ledger record) (holds : HoldsAmong pool ledger) (free : CollisionFree pool)
    (offered : record ∈ pool) : Absorbs (ledger.insert other).1 record := by
  intro valid
  have refused := absorbs valid
  by_cases accepted : validateEvidence other = .ok ()
  · rcases insert_effect holds.1 accepted with ⟨taken, places⟩ | ⟨-, leaves⟩
    · cases stored : ledger.slots[slotOf record]? with
      | none => exact places.refuses_new holds.1 taken stored refused
      | some existing =>
        rw [← Bool.not_eq_true, takes_stored stored] at refused
        rw [← Bool.not_eq_true]
        by_cases own : slotOf other = slotOf record
        · have held : (ledger.insert other).1.slots[slotOf record]? = some other := by
            rw [places.slots, own, Std.ExtTreeMap.getElem?_insert_self]
          have outgrades := ((takes_stored (own ▸ stored)).mp taken).2
          rw [takes_stored held]
          rintro ⟨-, again⟩
          -- the digests tell the stored record and the absorbed one apart, or they are one record
          by_cases same : evidenceDigest existing = evidenceDigest record
          · have equal := free existing (holds.2 existing (mem_records.mpr ⟨_, stored⟩)) record offered same
            rw [equal] at outgrades
            exact lt_asymm outgrades again
          · exact refused ⟨same, outgrades.trans again⟩
        · have kept : (ledger.insert other).1.slots[slotOf record]? = some existing := by
            rw [places.slots, Std.ExtTreeMap.getElem?_insert, if_neg, stored]
            simpa using own
          rw [takes_stored kept]
          exact refused
    · rw [leaves.takes]
      exact refused
  · rw [insert_invalid accepted]
    exact refused

/-- Records that were offered before change nothing that is stored. -/
theorem insertAll_twice {ledger : EvidenceLedger} {records : List EvidenceRecord} (free : CollisionFree records)
    (holds : HoldsAmong records ledger) :
    Leaves (ledger.insertAll records) ((ledger.insertAll records).insertAll records) := by
  obtain ⟨among, absorbed⟩ := @foldl_absorbed _ _ (fun ledger record => (EvidenceLedger.insert ledger record).1)
    (HoldsAmong records) Absorbs records
    (fun _ _ member holds => holds.insert member)
    (fun _ record _ holds => insert_absorbs holds.1 record)
    (fun _ _ offered _ _ holds absorbs => absorbs.insert holds free offered)
    records (fun _ member => member) ledger holds
  have still : ∀ (rest : List EvidenceRecord) (ledger : EvidenceLedger), ledger.Filed →
      (∀ record ∈ rest, Absorbs ledger record) → Leaves ledger (ledger.insertAll rest) := by
    intro rest
    induction rest with
    | nil => exact fun ledger _ _ => .refl ledger
    | cons record rest ih =>
      intro ledger filed all
      have first := (all record (by simp)).leaves filed
      refine first.trans (ih _ (first.filed filed) ?_)
      intro other member valid
      rw [first.takes]
      exact all other (by simp [member]) valid
  exact still records _ among.1 absorbed

end EvidenceLedger

end RackFabric
