import RackFabric.Compose.Horizon
import RackFabric.Foundation.Contest
import RackFabric.Model.Ledger

/-!
What the first pass gathers, as a function of the records that apply. Claims of one subject are offered in the order
of the ledger's slots; what is selected is a newest one, and a conflict is a contest among them.
-/

namespace RackFabric

open Foundation

/-- How new a record is: its generation, then its source's sequence. -/
def newness (record : EvidenceRecord) : Nat ×ₗ Nat :=
  toLex (record.generation.toNat, record.provenance.sequence.toNat)

/-- What tells records of one rank apart: the bytes of the content digest. -/
def contentMark (record : EvidenceRecord) : List Nat :=
  (evidenceDigest record).bytes.map UInt8.toNat

theorem contentMark_inj {a b : EvidenceRecord} : contentMark a = contentMark b ↔ evidenceDigest a = evidenceDigest b := by
  constructor
  · intro same
    have injective : Function.Injective UInt8.toNat := fun x y => UInt8.toNat_inj.mp
    have bytes := List.map_injective_iff.mpr injective same
    cases digestA : evidenceDigest a
    cases digestB : evidenceDigest b
    simp_all
  · intro same
    rw [contentMark, contentMark, same]

section Offers

variable {α : Type}

/-- A claim together with the record that carries it. -/
abbrev Carried (α : Type) := EvidenceRecord × α

def Carried.newness (carried : Carried α) : Nat ×ₗ Nat := RackFabric.newness carried.1

def Carried.contentMark (carried : Carried α) : List Nat := RackFabric.contentMark carried.1

/-- The selection that holds a claim. -/
def selectionOf (held : Carried α × Bool) : Selection α :=
  { candidateOf held.1.1 held.1.2 with conflicted := held.2 }

theorem strictlyNewer_iff (first second : Carried α) (flag : Bool) :
    strictlyNewer (candidateOf first.1 first.2) (selectionOf (second, flag)) = true ↔
      second.newness < first.newness := by
  simp only [strictlyNewer, candidateOf, selectionOf, Carried.newness, newness, Prod.Lex.toLex_lt_toLex]
  by_cases same : first.1.generation = second.1.generation
  · simp [same, UInt64.lt_iff_toNat_lt]
  · have apart : second.1.generation.toNat ≠ first.1.generation.toNat :=
      fun alike => same (UInt64.toNat_inj.mp alike.symm)
    simp [same, apart, UInt64.lt_iff_toNat_lt]

theorem sameRank_iff (first second : Carried α) (flag : Bool) :
    sameRank (candidateOf first.1 first.2) (selectionOf (second, flag)) = true ↔
      first.newness = second.newness := by
  simp only [sameRank, candidateOf, selectionOf, Carried.newness, newness, Bool.and_eq_true, beq_iff_eq,
    EmbeddingLike.apply_eq_iff_eq, Prod.mk.injEq, UInt64.toNat_inj]

/-- An offer is one round of the contest. -/
theorem offer_contend (held : Option (Carried α × Bool)) (record : EvidenceRecord) (claim : α) :
    offer (held.map selectionOf) (candidateOf record claim) =
      selectionOf (contend Carried.newness Carried.contentMark held (record, claim)) := by
  cases held with
  | none => rfl
  | some entry =>
    obtain ⟨incumbent, flag⟩ := entry
    simp only [Option.map_some, offer, contend]
    by_cases newer : incumbent.newness < Carried.newness (record, claim)
    · rw [if_pos ((strictlyNewer_iff (record, claim) incumbent flag).mpr newer), if_pos newer]
      rfl
    rw [if_neg (fun found => newer ((strictlyNewer_iff (record, claim) incumbent flag).mp found)), if_neg newer]
    by_cases level : Carried.newness (record, claim) = incumbent.newness
    · rw [if_pos ((sameRank_iff (record, claim) incumbent flag).mpr level)]
      by_cases alike : evidenceDigest record = evidenceDigest incumbent.1
      · have marks : Carried.contentMark (record, claim) = incumbent.contentMark := contentMark_inj.mpr alike
        have digests : (candidateOf record claim).digest = (selectionOf (incumbent, flag)).digest := alike
        rw [if_pos digests, if_pos (.inr marks)]
      · have marks : Carried.contentMark (record, claim) ≠ incumbent.contentMark :=
          fun same => alike (contentMark_inj.mp same)
        have settled : ¬ (Carried.newness (record, claim) < incumbent.newness ∨
            Carried.contentMark (record, claim) = incumbent.contentMark) := by
          rintro (older | same)
          · exact older.ne level
          · exact marks same
        have digests : ¬ (candidateOf record claim).digest = (selectionOf (incumbent, flag)).digest := alike
        rw [if_neg digests, if_neg settled]
        by_cases smaller : Carried.contentMark (record, claim) < incumbent.contentMark
        · have less : (candidateOf record claim).digest.less (selectionOf (incumbent, flag)).digest = true :=
            (lexLess_iff _ _).mpr smaller
          rw [if_pos less, if_pos smaller]
          rfl
        · have notLess : ¬ (candidateOf record claim).digest.less (selectionOf (incumbent, flag)).digest = true :=
            fun less => smaller ((lexLess_iff _ _).mp less)
          rw [if_neg notLess, if_neg smaller]
          rfl
    · have older : Carried.newness (record, claim) < incumbent.newness :=
        lt_of_le_of_ne (not_lt.mp newer) level
      rw [if_neg (fun same => level ((sameRank_iff (record, claim) incumbent flag).mp same)), if_pos (.inl older)]

/-- The claims about one subject, in the order of the records. -/
def claimsFor (pick : EvidencePayload → Option (UInt64 × α)) (records : List EvidenceRecord) (key : UInt64) :
    List (Carried α) :=
  records.filterMap fun record => (pick record.payload).bind fun (own, claim) =>
    if own = key then some (record, claim) else none

theorem mem_claimsFor {pick : EvidencePayload → Option (UInt64 × α)} {records : List EvidenceRecord} {key : UInt64}
    {carried : Carried α} :
    carried ∈ claimsFor pick records key ↔ carried.1 ∈ records ∧ pick carried.1.payload = some (key, carried.2) := by
  simp only [claimsFor, List.mem_filterMap, Option.bind_eq_some_iff]
  constructor
  · rintro ⟨record, member, ⟨own, claim⟩, picked, chosen⟩
    split at chosen
    · rename_i same
      cases chosen
      exact ⟨member, same ▸ picked⟩
    · cases chosen
  · rintro ⟨member, picked⟩
    exact ⟨carried.1, member, _, picked, if_pos rfl⟩

/-- What a pass over the records selects for a subject. -/
def selected (pick : EvidencePayload → Option (UInt64 × α)) (records : List EvidenceRecord) (key : UInt64) :
    Option (Selection α) :=
  (contest Carried.newness Carried.contentMark (claimsFor pick records key)).map selectionOf

def offerRecord (pick : EvidencePayload → Option (UInt64 × α)) (claims : Std.ExtTreeMap UInt64 (Selection α))
    (record : EvidenceRecord) : Std.ExtTreeMap UInt64 (Selection α) :=
  match pick record.payload with
  | none => claims
  | some (key, claim) => offerClaim claims key record claim

theorem foldl_offerRecord (pick : EvidencePayload → Option (UInt64 × α)) (records : List EvidenceRecord)
    (key : UInt64) : (records.foldl (offerRecord pick) {})[key]? = selected pick records key := by
  induction records using List.reverseRecOn with
  | nil => simp [selected, claimsFor, contest]
  | append_singleton records record ih =>
    rw [List.foldl_append, List.foldl_cons, List.foldl_nil, offerRecord]
    cases picked : pick record.payload with
    | none =>
      have none_more : claimsFor pick (records ++ [record]) key = claimsFor pick records key := by
        simp [claimsFor, picked]
      rw [selected, none_more]
      exact ih
    | some entry =>
      obtain ⟨own, claim⟩ := entry
      dsimp only
      rw [offerClaim, Std.ExtTreeMap.getElem?_insert]
      by_cases same : own = key
      · subst same
        have one_more : claimsFor pick (records ++ [record]) own = claimsFor pick records own ++ [(record, claim)] := by
          simp [claimsFor, picked]
        rw [if_pos (by simp), ih, selected, selected, one_more, contest_snoc, offer_contend]
        rfl
      · have none_more : claimsFor pick (records ++ [record]) key = claimsFor pick records key := by
          simp [claimsFor, picked, same]
        rw [if_neg (by simpa using same), selected, none_more]
        exact ih

/-- What is selected is one of the newest claims, of the smallest digest among those, marked after a contest. -/
theorem selected_tops {pick : EvidencePayload → Option (UInt64 × α)} {records : List EvidenceRecord} {key : UInt64}
    {selection : Selection α} (found : selected pick records key = some selection) :
    ∃ carried, selection = selectionOf (carried, selection.conflicted) ∧
      Tops Carried.newness Carried.contentMark (claimsFor pick records key) carried ∧
      (selection.conflicted = true ↔
        Contested Carried.newness Carried.contentMark (claimsFor pick records key)) := by
  obtain ⟨⟨carried, flag⟩, held, rfl⟩ := Option.map_eq_some_iff.mp found
  exact ⟨carried, rfl, contest_tops held⟩

theorem selected_none {pick : EvidencePayload → Option (UInt64 × α)} {records : List EvidenceRecord} {key : UInt64} :
    selected pick records key = none ↔ claimsFor pick records key = [] := by
  rw [selected, Option.map_eq_none_iff, contest_eq_none]

end Offers

/-! ### The first pass -/

/-- The records that apply at a generation, in slot order. -/
def EvidenceLedger.applied (ledger : EvidenceLedger) (target : UInt64) : List EvidenceRecord :=
  (ledger.applicable target).toList.map Prod.snd

theorem EvidenceLedger.mem_applied {ledger : EvidenceLedger} {target : UInt64} {record : EvidenceRecord} :
    record ∈ ledger.applied target ↔
      ∃ slot : EvidenceSlot, ledger.slots[slot]? = some record ∧ applicabilityOf record target = .apply := by
  simp only [applied, applicable, Std.ExtTreeMap.toList_filter, List.mem_map, List.mem_filter, Prod.exists,
    Std.ExtTreeMap.mem_toList_iff_getElem?_eq_some, decide_eq_true_eq]
  constructor
  · rintro ⟨slot, _, ⟨stored, applies⟩, rfl⟩
    exact ⟨slot, stored, applies⟩
  · rintro ⟨slot, stored, applies⟩
    exact ⟨slot, record, ⟨stored, applies⟩, rfl⟩

section Gather

variable {ledger : EvidenceLedger} {config : RackConfig} {request : ComposeInput}

/-- A part of what is gathered that the diagnostics do not touch is a fold over the records that apply. -/
theorem gather_part {σ : Type} (part : Gathered → σ) (step : σ → EvidenceRecord → σ)
    (blind : ∀ gathered diagnostics stats, part (Gathered.reported gathered diagnostics stats) = part gathered)
    (steps : ∀ gathered record, part (gatherPayload config gathered record) = step (part gathered) record) :
    part (gather ledger config request) = (ledger.applied request.generation).foldl step (part
      { diagnostics := { limit := request.limits.maxDiagnostics } }) := by
  have folds : ∀ (entries : List (EvidenceSlot × EvidenceRecord)) (gathered : Gathered),
      (∀ entry ∈ entries, applicabilityOf entry.2 request.generation = .apply) →
        part (entries.foldl (gatherRecord config request.generation) gathered) =
          (entries.map Prod.snd).foldl step (part gathered) := by
    intro entries
    induction entries with
    | nil => exact fun gathered _ => rfl
    | cons entry rest ih =>
      intro gathered applies
      have first := applies entry List.mem_cons_self
      rw [List.foldl_cons, ih _ fun other member => applies other (List.mem_cons_of_mem _ member), List.map_cons,
        List.foldl_cons]
      congr 1
      simp only [gatherRecord, first]
      rw [steps]
      exact congrArg (step · entry.2) (blind gathered gathered.diagnostics _)
  have same := foldl_gatherRecord_same config request.generation ledger.slots.toList
    (Gathered.Same.refl { diagnostics := { limit := request.limits.maxDiagnostics } })
  have unseen := congrArg part same
  rw [blind] at unseen
  rw [gather, ← unseen, folds]
  · rw [EvidenceLedger.applied, EvidenceLedger.applicable, Std.ExtTreeMap.toList_filter]
  · intro entry member
    simpa using (List.mem_filter.mp member).2

/-- A membership claim touches the members and the reports alone. -/
theorem gatherMember_part {σ : Type} (part : Gathered → σ)
    (blind : ∀ (gathered : Gathered) members diagnostics stats,
      part { gathered with members := members, diagnostics := diagnostics, stats := stats } = part gathered)
    (gathered : Gathered) (record : EvidenceRecord) (claim : MemberClaim) :
    part (gatherMember config gathered record claim) = part gathered := by
  unfold gatherMember
  dsimp only
  split
  · exact blind gathered gathered.members _ _
  · split
    · exact blind gathered _ gathered.diagnostics gathered.stats
    · split
      · exact blind gathered _ _ gathered.stats
      · rfl

end Gather

def EvidencePayload.deviceClaim : EvidencePayload → Option (UInt64 × DeviceClaim)
  | .device claim => some (claim.device, claim)
  | _ => none

def EvidencePayload.portClaim : EvidencePayload → Option (UInt64 × PortClaim)
  | .port claim => some (claim.port, claim)
  | _ => none

def EvidencePayload.linkClaim : EvidencePayload → Option (UInt64 × LinkClaim)
  | .link claim => some (claim.link, claim)
  | _ => none

def EvidencePayload.attachmentClaim : EvidencePayload → Option (UInt64 × AttachmentClaim)
  | .attachment claim => some (claim.attachment, claim)
  | _ => none

def EvidencePayload.obligationClaim : EvidencePayload → Option (UInt64 × ObligationClaim)
  | .obligation claim => some (claim.obligation, claim)
  | _ => none

section Claims

variable (ledger : EvidenceLedger) (config : RackConfig) (request : ComposeInput) (id : UInt64)

theorem gather_deviceClaims : (gather ledger config request).deviceClaims[id]? =
    selected EvidencePayload.deviceClaim (ledger.applied request.generation) id := by
  rw [gather_part Gathered.deviceClaims (offerRecord EvidencePayload.deviceClaim) (fun _ _ _ => rfl)]
  · exact foldl_offerRecord _ _ _
  · intro gathered record
    rw [gatherPayload, offerRecord]
    cases record.payload with
    | member claim =>
      exact gatherMember_part Gathered.deviceClaims (fun _ _ _ _ => rfl) gathered record claim
    | _ => rfl

theorem gather_portClaims : (gather ledger config request).portClaims[id]? =
    selected EvidencePayload.portClaim (ledger.applied request.generation) id := by
  rw [gather_part Gathered.portClaims (offerRecord EvidencePayload.portClaim) (fun _ _ _ => rfl)]
  · exact foldl_offerRecord _ _ _
  · intro gathered record
    rw [gatherPayload, offerRecord]
    cases record.payload with
    | member claim =>
      exact gatherMember_part Gathered.portClaims (fun _ _ _ _ => rfl) gathered record claim
    | _ => rfl

theorem gather_linkClaims : (gather ledger config request).linkClaims[id]? =
    selected EvidencePayload.linkClaim (ledger.applied request.generation) id := by
  rw [gather_part Gathered.linkClaims (offerRecord EvidencePayload.linkClaim) (fun _ _ _ => rfl)]
  · exact foldl_offerRecord _ _ _
  · intro gathered record
    rw [gatherPayload, offerRecord]
    cases record.payload with
    | member claim =>
      exact gatherMember_part Gathered.linkClaims (fun _ _ _ _ => rfl) gathered record claim
    | _ => rfl

theorem gather_attachmentClaims : (gather ledger config request).attachmentClaims[id]? =
    selected EvidencePayload.attachmentClaim (ledger.applied request.generation) id := by
  rw [gather_part Gathered.attachmentClaims (offerRecord EvidencePayload.attachmentClaim) (fun _ _ _ => rfl)]
  · exact foldl_offerRecord _ _ _
  · intro gathered record
    rw [gatherPayload, offerRecord]
    cases record.payload with
    | member claim =>
      exact gatherMember_part Gathered.attachmentClaims (fun _ _ _ _ => rfl) gathered record claim
    | _ => rfl

end Claims

/-! ### Directives and obligations -/

/-- What a directive keeps out of service: its target, unless it is a clear. -/
def EvidencePayload.directed : EvidencePayload → Option ResourceRef
  | .maintenance claim => if claim.action = .clear then none else some ⟨claim.targetKind, claim.targetId⟩
  | _ => none

def ObligationClaim.target (claim : ObligationClaim) : ResourceRef :=
  ⟨claim.targetKind, claim.targetId⟩

private def barsEntry (entry : Option (ResourceRef × MaintenanceEntry)) : Bool :=
  entry.any fun held => held.2.excluded

/-- The directives of one more record, as the first pass enters them. -/
private def directRecord (table : Std.ExtTreeMap UInt64 (ResourceRef × MaintenanceEntry)) (record : EvidenceRecord) :
    Std.ExtTreeMap UInt64 (ResourceRef × MaintenanceEntry) :=
  match record.payload with
  | .maintenance claim => (gatherMaintenance { diagnostics := { limit := 0 }, maintenance := table } record claim).maintenance
  | _ => table

private theorem directRecord_excludes (table : Std.ExtTreeMap UInt64 (ResourceRef × MaintenanceEntry))
    (record : EvidenceRecord) (key : UInt64) :
    barsEntry (directRecord table record)[key]? = true ↔
      barsEntry table[key]? = true ∨
        ∃ ref, record.payload.directed = some ref ∧ packRef ref.kind ref.id = key := by
  unfold directRecord EvidencePayload.directed barsEntry
  cases record.payload with
  | maintenance claim =>
    dsimp only [gatherMaintenance]
    rw [Std.ExtTreeMap.getElem?_insert]
    by_cases same : packRef claim.targetKind claim.targetId = key
    · subst same
      rw [if_pos (by simp), Option.any_some]
      cases held : table[packRef claim.targetKind claim.targetId]? with
      | none =>
        by_cases cleared : claim.action = .clear
        · simp [cleared]
        · simp [cleared]
      | some entry =>
        by_cases cleared : claim.action = .clear
        · simp [cleared]
        · by_cases excluded : entry.2.excluded = true
          · by_cases later : record.provenance.sequence ≥ entry.2.sequence
            · simp [cleared, later]
            · simp [cleared, later, excluded]
          · simp [cleared, excluded]
    · rw [if_neg (by simpa using same)]
      by_cases cleared : claim.action = .clear
      · simp [cleared]
      · simp [cleared, same]
  | _ => simp

/-- A resource is excluded when a standing directive has its packed key. -/
theorem gather_excludedEntry (ledger : EvidenceLedger) (config : RackConfig) (request : ComposeInput)
    (kind : ResourceKind) (id : UInt64) :
    (gather ledger config request).excludedEntry kind id = true ↔
      ∃ record ∈ ledger.applied request.generation, ∃ ref, record.payload.directed = some ref ∧
        packRef ref.kind ref.id = packRef kind id := by
  have entered : ∀ records : List EvidenceRecord,
      barsEntry (records.foldl directRecord {})[packRef kind id]? = true ↔
        ∃ record ∈ records, ∃ ref, record.payload.directed = some ref ∧ packRef ref.kind ref.id = packRef kind id := by
    intro records
    induction records using List.reverseRecOn with
    | nil => simp [barsEntry]
    | append_singleton records record ih =>
      rw [List.foldl_append, List.foldl_cons, List.foldl_nil, directRecord_excludes, ih]
      simp only [List.mem_append, List.mem_singleton, or_and_right, exists_or, exists_eq_left]
  have gathered : (gather ledger config request).maintenance =
      (ledger.applied request.generation).foldl directRecord {} := by
    refine gather_part Gathered.maintenance directRecord (fun _ _ _ => rfl) ?_
    intro gathered record
    rw [gatherPayload, directRecord]
    cases record.payload with
    | member claim =>
      exact gatherMember_part Gathered.maintenance (fun _ _ _ _ => rfl) gathered record claim
    | _ => rfl
  rw [← entered, ← gathered, Gathered.excludedEntry]
  cases (gather ledger config request).maintenance[packRef kind id]? with
  | none => simp [barsEntry]
  | some entry => simp [barsEntry]

private def obligeRecord (table : Std.ExtTreeMap UInt64 (ResourceRef × Selection ObligationClaim))
    (record : EvidenceRecord) : Std.ExtTreeMap UInt64 (ResourceRef × Selection ObligationClaim) :=
  match record.payload with
  | .obligation claim => (gatherObligation { diagnostics := { limit := 0 }, obligations := table } record claim).obligations
  | _ => table

/-- An obligation has the target of the last claim about it, and the rest of the claim that is selected. -/
theorem gather_obligations (ledger : EvidenceLedger) (config : RackConfig) (request : ComposeInput) (id : UInt64) :
    (gather ledger config request).obligations[id]? =
      (claimsFor EvidencePayload.obligationClaim (ledger.applied request.generation) id).getLast?.bind fun last =>
        (selected EvidencePayload.obligationClaim (ledger.applied request.generation) id).map fun selection =>
          (last.2.target, selection) := by
  have entered : ∀ records : List EvidenceRecord, (records.foldl obligeRecord {})[id]? =
      (claimsFor EvidencePayload.obligationClaim records id).getLast?.bind fun last =>
        (selected EvidencePayload.obligationClaim records id).map fun selection => (last.2.target, selection) := by
    intro records
    induction records using List.reverseRecOn with
    | nil => simp [claimsFor]
    | append_singleton records record ih =>
      rw [List.foldl_append, List.foldl_cons, List.foldl_nil]
      have unmoved : record.payload.obligationClaim = none →
          claimsFor EvidencePayload.obligationClaim (records ++ [record]) id =
            claimsFor EvidencePayload.obligationClaim records id := by
        intro unpicked
        simp [claimsFor, unpicked]
      rw [obligeRecord]
      cases payload : record.payload with
      | obligation claim =>
        have picked : record.payload.obligationClaim = some (claim.obligation, claim) := by rw [payload]; rfl
        dsimp only [gatherObligation]
        rw [Std.ExtTreeMap.getElem?_insert]
        by_cases same : claim.obligation = id
        · subst same
          have one_more : claimsFor EvidencePayload.obligationClaim (records ++ [record]) claim.obligation =
              claimsFor EvidencePayload.obligationClaim records claim.obligation ++ [(record, claim)] := by
            simp [claimsFor, picked]
          have held : (records.foldl obligeRecord {})[claim.obligation]?.map Prod.snd =
              selected EvidencePayload.obligationClaim records claim.obligation := by
            rw [ih]
            cases last : (claimsFor EvidencePayload.obligationClaim records claim.obligation).getLast? with
            | none =>
              rw [List.getLast?_eq_none_iff] at last
              rw [selected_none.mpr last]
              rfl
            | some last => simp
          rw [if_pos (by simp), held, one_more, List.getLast?_concat, selected, selected, one_more, contest_snoc,
            offer_contend]
          rfl
        · have none_more : claimsFor EvidencePayload.obligationClaim (records ++ [record]) id =
              claimsFor EvidencePayload.obligationClaim records id := by
            simp [claimsFor, picked, same]
          rw [if_neg (by simpa using same), selected, none_more]
          exact ih
      | _ =>
        dsimp only
        rw [selected, unmoved (by rw [payload]; rfl)]
        exact ih
  have gathered : (gather ledger config request).obligations =
      (ledger.applied request.generation).foldl obligeRecord {} := by
    refine gather_part Gathered.obligations obligeRecord (fun _ _ _ => rfl) ?_
    intro gathered record
    rw [gatherPayload, obligeRecord]
    cases record.payload with
    | member claim =>
      exact gatherMember_part Gathered.obligations (fun _ _ _ _ => rfl) gathered record claim
    | _ => rfl
  rw [gathered]
  exact entered _

end RackFabric
