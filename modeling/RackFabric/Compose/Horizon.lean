import RackFabric.Compose.Composer
import Mathlib.Data.List.Induction

/-!
Evidence beyond the generation being composed. It is reported and not applied, so a composition differs from one
without it in its diagnostics alone, as long as it did not take the slot of a record that does apply.
-/

namespace RackFabric

/-- Two results that fail alike or succeed with related values. -/
inductive Result.Rel {α β : Type} (rel : α → β → Prop) : Result α → Result β → Prop where
  | error (status : Status) : Result.Rel rel (.error status) (.error status)
  | ok {a : α} {b : β} (related : rel a b) : Result.Rel rel (.ok a) (.ok b)

theorem Result.Rel.bind {α β γ δ : Type} {rel : α → β → Prop} {next : γ → δ → Prop} {first : Result α}
    {second : Result β} {f : α → Result γ} {g : β → Result δ} (related : Result.Rel rel first second)
    (continues : ∀ a b, rel a b → Result.Rel next (f a) (g b)) :
    Result.Rel next (first >>= f) (second >>= g) := by
  cases related with
  | error status => exact .error status
  | ok holds => exact continues _ _ holds

theorem Result.Rel.same {α : Type} (result : Result α) : Result.Rel (· = ·) result result := by
  cases result with
  | error status => exact .error status
  | ok value => exact .ok rfl

theorem Result.Rel.foldlM {α β ε : Type} {rel : α → β → Prop} {f : α → ε → Result α} {g : β → ε → Result β}
    (keeps : ∀ a b entry, rel a b → Result.Rel rel (f a entry) (g b entry)) (entries : List ε) {a : α} {b : β}
    (related : rel a b) : Result.Rel rel (entries.foldlM f a) (entries.foldlM g b) := by
  induction entries generalizing a b with
  | nil => exact .ok related
  | cons entry rest ih =>
    simp only [List.foldlM_cons]
    exact (keeps a b entry related).bind (fun _ _ holds => ih holds)

namespace Gathered

/-- The same claims, reported differently. -/
def reported (gathered : Gathered) (diagnostics : Diagnostics) (stats : ComposeStats) : Gathered :=
  { gathered with diagnostics := diagnostics, stats := stats }

/-- The claims of two gatherings agree. -/
def Same (first second : Gathered) : Prop :=
  second = first.reported second.diagnostics second.stats

theorem Same.refl (gathered : Gathered) : Same gathered gathered := rfl

theorem Same.trans {first second third : Gathered} (earlier : Same first second) (later : Same second third) :
    Same first third := by
  unfold Same at earlier later ⊢
  rw [later, earlier]
  rfl

theorem Same.symm {first second : Gathered} (same : Same first second) : Same second first := by
  unfold Same at same ⊢
  rw [same]
  rfl

end Gathered

open Gathered

theorem gatherMember_same (config : RackConfig) (gathered : Gathered) (diagnostics : Diagnostics)
    (stats : ComposeStats) (record : EvidenceRecord) (claim : MemberClaim) :
    Same (gatherMember config gathered record claim)
      (gatherMember config (gathered.reported diagnostics stats) record claim) := by
  simp only [gatherMember]
  split
  · rfl
  · have members : (gathered.reported diagnostics stats).members = gathered.members := rfl
    simp only [members]
    split
    · rfl
    · split <;> rfl

theorem gatherPayload_same (config : RackConfig) (gathered : Gathered) (diagnostics : Diagnostics)
    (stats : ComposeStats) (record : EvidenceRecord) :
    Same (gatherPayload config gathered record) (gatherPayload config (gathered.reported diagnostics stats) record) := by
  simp only [gatherPayload]
  split
  · exact gatherMember_same config gathered diagnostics stats record _
  · rfl
  · rfl
  · rfl
  · rfl
  · rfl
  · rfl

/-- Gathering a record adds the same claims to the same claims. -/
theorem gatherRecord_same (config : RackConfig) (target : UInt64) {first second : Gathered} (same : Same first second)
    (entry : EvidenceSlot × EvidenceRecord) :
    Same (gatherRecord config target first entry) (gatherRecord config target second entry) := by
  unfold Same at same
  rw [same]
  simp only [gatherRecord]
  split
  · rfl
  · rfl
  · exact gatherPayload_same config _ second.diagnostics _ entry.2

/-- A record that does not apply leaves the claims alone. -/
theorem gatherRecord_inapplicable (config : RackConfig) (target : UInt64) (gathered : Gathered)
    (entry : EvidenceSlot × EvidenceRecord) (inapplicable : applicabilityOf entry.2 target ≠ .apply) :
    Same gathered (gatherRecord config target gathered entry) := by
  simp only [gatherRecord]
  split
  · rfl
  · rfl
  · rename_i applies
    exact absurd applies inapplicable

/-- The claims gathered are those of the applicable records. -/
theorem foldl_gatherRecord_same (config : RackConfig) (target : UInt64)
    (entries : List (EvidenceSlot × EvidenceRecord)) {first second : Gathered} (same : Same first second) :
    Same (entries.foldl (gatherRecord config target) first)
      ((entries.filter (fun entry => applicabilityOf entry.2 target = .apply)).foldl
        (gatherRecord config target) second) := by
  induction entries generalizing first second with
  | nil => exact same
  | cons entry rest ih =>
    by_cases applies : applicabilityOf entry.2 target = .apply
    · rw [List.filter_cons_of_pos (by simpa using applies)]
      exact ih (gatherRecord_same config target same entry)
    · rw [List.filter_cons_of_neg (by simpa using applies)]
      exact ih (Same.trans (Same.symm (gatherRecord_inapplicable config target first entry applies)) same)

/-- The part of a ledger that applies at a generation. -/
def EvidenceLedger.applicable (ledger : EvidenceLedger) (target : UInt64) : Std.ExtTreeMap EvidenceSlot EvidenceRecord :=
  ledger.slots.filter fun _ record => applicabilityOf record target = .apply

theorem gather_same {first second : EvidenceLedger} (config : RackConfig) (request : ComposeInput)
    (same : first.applicable request.generation = second.applicable request.generation) :
    Same (gather first config request) (gather second config request) := by
  have entries := congrArg Std.ExtTreeMap.toList same
  simp only [EvidenceLedger.applicable, Std.ExtTreeMap.toList_filter] at entries
  have left := foldl_gatherRecord_same config request.generation first.slots.toList
    (Same.refl { diagnostics := { limit := request.limits.maxDiagnostics } })
  have right := foldl_gatherRecord_same config request.generation second.slots.toList
    (Same.refl { diagnostics := { limit := request.limits.maxDiagnostics } })
  rw [entries] at left
  exact left.trans right.symm

/-- The first part of a fold that only reports through its second. -/
theorem foldl_fst {α β ε : Type} {f : α × β → ε → α × β}
    (independent : ∀ value first second entry, (f (value, first) entry).1 = (f (value, second) entry).1)
    (entries : List ε) {a b : α × β} (same : a.1 = b.1) : (entries.foldl f a).1 = (entries.foldl f b).1 := by
  refine List.foldl_rel (r := fun a b : α × β => a.1 = b.1) same ?_
  rintro entry - ⟨a, first⟩ ⟨b, second⟩ rfl
  exact independent a first second entry

theorem composeDevices_reported (gathered : Gathered) (diagnostics : Diagnostics) (stats : ComposeStats) :
    (composeDevices (gathered.reported diagnostics stats)).1 = (composeDevices gathered).1 := by
  have observed : (gathered.deviceClaims.toList.foldl (composeDevice gathered) ([], diagnostics)).1 =
      (gathered.deviceClaims.toList.foldl (composeDevice gathered) ([], gathered.diagnostics)).1 := by
    refine foldl_fst ?_ _ rfl
    intro devices first second entry
    simp only [composeDevice]
    split <;> rfl
  have completed : (gathered.members.toList.foldl (composeUnobserved gathered)
      (gathered.deviceClaims.toList.foldl (composeDevice gathered) ([], diagnostics))).1 =
      (gathered.members.toList.foldl (composeUnobserved gathered)
        (gathered.deviceClaims.toList.foldl (composeDevice gathered) ([], gathered.diagnostics))).1 := by
    refine foldl_fst ?_ _ observed
    intro devices first second entry
    simp only [composeUnobserved]
    split <;> rfl
  exact congrArg (fun devices => uniqueBy (fun a b : DeviceRecord => a.id == b.id)
    (sortBy (fun a b => idLess a.id b.id) devices)) completed

/-- Two passes over the ports that agree on everything but what they report. -/
def PortPass.Same (first second : PortPass) : Prop :=
  first.ports = second.ports ∧ first.portKeys = second.portKeys

theorem composePorts_reported (gathered : Gathered) (devices : List DeviceRecord) (first second : Diagnostics) :
    (composePorts gathered devices first).1 = (composePorts gathered devices second).1 := by
  have passed : PortPass.Same
      (gathered.portClaims.toList.foldl (composePort gathered devices) { diagnostics := first })
      (gathered.portClaims.toList.foldl (composePort gathered devices) { diagnostics := second }) := by
    refine List.foldl_rel (r := PortPass.Same) ⟨rfl, rfl⟩ ?_
    rintro entry - ⟨ports, keys, first⟩ ⟨_, _, second⟩ ⟨rfl, rfl⟩
    simp only [composePort]
    split <;> exact ⟨rfl, rfl⟩
  exact congrArg (sortBy fun a b : PortRecord => idLess a.id b.id) passed.1

theorem composeLinks_reported (gathered : Gathered) (ports : List PortRecord) (first second : Diagnostics) :
    (composeLinks gathered ports first).1 = (composeLinks gathered ports second).1 := by
  have passed : (gathered.linkClaims.toList.foldl (composeLink gathered ports) ([], first)).1 =
      (gathered.linkClaims.toList.foldl (composeLink gathered ports) ([], second)).1 := by
    refine foldl_fst ?_ _ rfl
    intro links first second entry
    simp only [composeLink]
    split <;> rfl
  exact congrArg (sortBy fun a b : LinkRecord => idLess a.id b.id) passed

theorem composeAttachments_reported (gathered : Gathered) (devices : List DeviceRecord) (ports : List PortRecord)
    (first second : Diagnostics) :
    (composeAttachments gathered devices ports first).1 = (composeAttachments gathered devices ports second).1 := by
  have passed : (gathered.attachmentClaims.toList.foldl (composeAttachment devices ports) ([], first)).1 =
      (gathered.attachmentClaims.toList.foldl (composeAttachment devices ports) ([], second)).1 := by
    refine foldl_fst ?_ _ rfl
    intro attachments first second entry
    simp only [composeAttachment]
    split
    · rfl
    · split
      · rfl
      · split
        · rfl
        · split
          · rfl
          · split <;> rfl
  exact congrArg (sortBy fun a b : AttachmentRecord => idLess a.id b.id) passed

/-- Two passes over the obligations that agree on everything but what they report. -/
def ObligationPass.Same (first second : ObligationPass) : Prop :=
  first.obligations = second.obligations ∧ first.obligatedByTarget = second.obligatedByTarget

theorem composeObligations_reported (gathered : Gathered) (config : RackConfig) (ports : List PortRecord)
    (links : List LinkRecord) (first second : Diagnostics) :
    Result.Rel ObligationPass.Same (composeObligations gathered config ports links first)
      (composeObligations gathered config ports links second) := by
  have start : ObligationPass.Same { diagnostics := first } { diagnostics := second } := ⟨rfl, rfl⟩
  unfold composeObligations
  refine (Result.Rel.foldlM ?_ _ start).bind ?_
  · rintro ⟨obligations, byTarget, first, _⟩ ⟨_, _, second, _⟩ entry ⟨rfl, rfl⟩
    simp only [composeObligation]
    split
    · exact .ok ⟨rfl, rfl⟩
    · split
      · exact .error _
      · exact .ok ⟨rfl, rfl⟩
  · rintro ⟨obligations, byTarget, first, _⟩ ⟨_, _, second, _⟩ ⟨rfl, rfl⟩
    exact .ok ⟨rfl, rfl⟩

theorem composeCapacity_reported (config : RackConfig) (devices : List DeviceRecord)
    (obligated : Std.ExtTreeMap ResourceRef UInt64) (first second : Diagnostics) :
    Result.Rel (fun a b => a.1 = b.1) (composeCapacity config devices obligated first)
      (composeCapacity config devices obligated second) := by
  simp only [composeCapacity]
  refine (Result.Rel.same _).bind ?_
  rintro ⟨total, unavailable⟩ _ rfl
  dsimp only
  split
  · exact .error _
  · refine (Result.Rel.same _).bind ?_
    rintro obligated _ rfl
    split
    · exact .error _
    · split
      · split
        · exact .error _
        · exact .ok rfl
      · split
        · exact .error _
        · exact .ok rfl

theorem composePaths_reported (config : RackConfig) (limits : ComposeLimits) (ports : List PortRecord)
    (links : List LinkRecord) (attachments : List AttachmentRecord) (first second : Diagnostics) :
    Result.Rel (fun a b => a.1 = b.1) (composePaths config limits ports links attachments first)
      (composePaths config limits ports links attachments second) := by
  simp only [composePaths]
  refine (Result.Rel.same _).bind ?_
  rintro search _ rfl
  refine .ok ?_
  refine congrArg (sortBy fun a b : PathRecord =>
    endpointsLess a.startPort a.endPort b.startPort b.endPort a.links b.links) ?_
  refine foldl_fst ?_ _ rfl
  intro paths first second candidate
  rfl

/-- Everything a snapshot says but its evidence digest and its diagnostics. -/
def SnapshotData.settled (data : SnapshotData) : SnapshotData :=
  { data with evidenceDigest := .zero, diagnostics := [] }

/-- What a composition answers, less the evidence digest, the diagnostics and the statistics. -/
def composedState (result : Result ComposeOutcome) : Result (Option SnapshotData) :=
  result.map fun outcome => outcome.snapshot.handle.map SnapshotData.settled

private def SameState (first second : ComposeOutcome) : Prop :=
  first.snapshot.handle.map SnapshotData.settled = second.snapshot.handle.map SnapshotData.settled

private theorem composedState_of_rel {first second : Result ComposeOutcome}
    (related : Result.Rel SameState first second) : composedState first = composedState second := by
  cases related with
  | error status => rfl
  | ok same => exact congrArg Except.ok same

private theorem eq_of_fst {α β : Type} {first second : α × β} (same : first.1 = second.1) :
    ∃ value a b, first = (value, a) ∧ second = (value, b) := by
  obtain ⟨value, a⟩ := first
  obtain ⟨other, b⟩ := second
  cases same
  exact ⟨value, a, b, rfl, rfl⟩

private theorem resources_reported (gathered : Gathered) (diagnostics : Diagnostics) (stats : ComposeStats)
    (config : RackConfig) (obligated : Std.ExtTreeMap ResourceRef UInt64) (total : UInt64)
    (devices : List DeviceRecord) (ports : List PortRecord) (links : List LinkRecord)
    (attachments : List AttachmentRecord) (paths : List PathRecord) :
    ResourceInputs.resources
        ⟨gathered.reported diagnostics stats, config, obligated, total, devices, ports, links, attachments, paths⟩ =
      ResourceInputs.resources
        ⟨gathered, config, obligated, total, devices, ports, links, attachments, paths⟩ := rfl

/-- A composition depends on the applicable part of the ledger, its reports apart. -/
theorem compose_of_applicable {first second : EvidenceLedger} (config : RackConfig) (request : ComposeInput)
    (same : first.applicable request.generation = second.applicable request.generation) :
    composedState (compose first config request) = composedState (compose second config request) := by
  have claims := gather_same config request same
  unfold Same at claims
  apply composedState_of_rel
  unfold compose
  refine (Result.Rel.same _).bind ?_
  rintro _ _ -
  rw [claims]
  generalize gather first config request = gathered
  generalize (gather second config request).diagnostics = diagnostics
  generalize (gather second config request).stats = stats
  dsimp only
  refine (Result.Rel.same _).bind ?_
  rintro _ _ -
  obtain ⟨devices, noted, otherwise, left, right⟩ :=
    eq_of_fst (composeDevices_reported gathered diagnostics stats).symm
  rw [left, right]
  dsimp only
  refine (Result.Rel.same _).bind ?_
  rintro _ _ -
  -- the later passes read nothing of what was reported while gathering
  have portPass : composePorts (gathered.reported diagnostics stats) = composePorts gathered := rfl
  have linkPass : composeLinks (gathered.reported diagnostics stats) = composeLinks gathered := rfl
  have attachmentPass : composeAttachments (gathered.reported diagnostics stats) = composeAttachments gathered := rfl
  have maintenancePass : composeMaintenance (gathered.reported diagnostics stats) = composeMaintenance gathered := rfl
  have obligationPass : composeObligations (gathered.reported diagnostics stats) = composeObligations gathered := rfl
  rw [portPass, linkPass, attachmentPass, maintenancePass, obligationPass]
  obtain ⟨ports, noted, otherwise, left, right⟩ := eq_of_fst (composePorts_reported gathered devices noted otherwise)
  rw [left, right]
  dsimp only
  refine (Result.Rel.same _).bind ?_
  rintro _ _ -
  obtain ⟨links, noted, otherwise, left, right⟩ := eq_of_fst (composeLinks_reported gathered ports noted otherwise)
  rw [left, right]
  dsimp only
  refine (Result.Rel.same _).bind ?_
  rintro _ _ -
  obtain ⟨attachments, noted, otherwise, left, right⟩ :=
    eq_of_fst (composeAttachments_reported gathered devices ports noted otherwise)
  rw [left, right]
  dsimp only
  refine (Result.Rel.same _).bind ?_
  rintro _ _ -
  refine (Result.Rel.same _).bind ?_
  rintro _ _ -
  refine (composeObligations_reported gathered config ports links noted otherwise).bind ?_
  rintro ⟨obligations, byTarget, noted, outOfRack⟩ ⟨_, _, otherwise, _⟩ ⟨rfl, rfl⟩
  refine (Result.Rel.same _).bind ?_
  rintro _ _ -
  refine (composeCapacity_reported config devices byTarget noted otherwise).bind ?_
  rintro ⟨capacity, noted⟩ ⟨_, otherwise⟩ rfl
  refine (composePaths_reported config request.limits ports links attachments noted otherwise).bind ?_
  rintro ⟨paths, noted⟩ ⟨_, otherwise⟩ rfl
  refine .ok ?_
  simp only [SameState, Option.map_some, SnapshotData.settled, resources_reported]

theorem insert_slots (ledger : EvidenceLedger) (record : EvidenceRecord) :
    (ledger.insert record).1.slots = ledger.slots ∨
      (ledger.insert record).1.slots = ledger.slots.insert (slotOf record) record := by
  simp only [EvidenceLedger.insert]
  split
  · exact .inl rfl
  · split
    · simp only [EvidenceLedger.insertNew]
      split
      · exact .inl rfl
      · split
        · exact .inl rfl
        · exact .inr rfl
    · split
      · exact .inl rfl
      · simp only [EvidenceLedger.insertCompeting]
        split
        · exact .inl rfl
        · split
          · exact .inr rfl
          · split
            · exact .inr rfl
            · exact .inl rfl

/-- No record of a slot applies at a generation. -/
def EvidenceLedger.silentAt (ledger : EvidenceLedger) (slot : EvidenceSlot) (target : UInt64) : Bool :=
  ledger.slots[slot]?.all fun record => applicabilityOf record target ≠ .apply

theorem insert_applicable {ledger : EvidenceLedger} {record : EvidenceRecord} {target : UInt64}
    (later : record.generation > target) (silent : ledger.silentAt (slotOf record) target = true) :
    (ledger.insert record).1.applicable target = ledger.applicable target := by
  have future : applicabilityOf record target ≠ .apply := by
    simp [applicabilityOf, later]
  unfold EvidenceLedger.applicable
  rcases insert_slots ledger record with same | placed
  · rw [same]
  · rw [placed]
    apply Std.ExtTreeMap.ext_getElem?
    intro slot
    simp only [Std.ExtTreeMap.getElem?_filter', Std.ExtTreeMap.getElem?_insert]
    split
    · rename_i own
      rw [Std.LawfulEqCmp.compare_eq_iff_eq] at own
      subst own
      have dropped : ∀ other : EvidenceRecord, applicabilityOf other target ≠ .apply →
          (some other).filter (fun record => decide (applicabilityOf record target = .apply)) = none := by
        intro other inapplicable
        simp [Option.filter, inapplicable]
      rw [dropped record future]
      unfold EvidenceLedger.silentAt at silent
      cases stored : ledger.slots[slotOf record]? with
      | none => rfl
      | some existing =>
        rw [stored] at silent
        exact (dropped existing (by simpa using silent)).symm
    · rfl

/-- Evidence for a later generation that takes no applicable record's slot changes nothing but reports. -/
theorem compose_ignores_later_evidence (ledger : EvidenceLedger) (config : RackConfig) (request : ComposeInput)
    (record : EvidenceRecord) (later : record.generation > request.generation)
    (silent : ledger.silentAt (slotOf record) request.generation = true) :
    composedState (compose (ledger.insert record).1 config request) =
      composedState (compose ledger config request) :=
  compose_of_applicable config request (insert_applicable later silent)

/-- An order about the whole rack, from its operator. -/
def rackOrder (generation sequence : UInt64) (action : MaintenanceKind) : EvidenceRecord :=
  { generation := generation
    provenance := { source := 1, sequence := sequence }
    payload := .maintenance ⟨action, .rack, 0, []⟩ }

/-- A ledger that holds a drain of the rack at generation 0. -/
def drainedLedger : EvidenceLedger :=
  (EvidenceLedger.insert {} (rackOrder 0 1 .drain)).1

/-- Another source clears the drain for the next generation. -/
theorem compose_ignores_other_source :
    composedState (compose (drainedLedger.insert { rackOrder 1 1 .clear with provenance := { source := 2 } }).1
        { rack := 7 } ⟨0, 1, .active, {}⟩) =
      composedState (compose drainedLedger { rack := 7 } ⟨0, 1, .active, {}⟩) :=
  compose_ignores_later_evidence drainedLedger { rack := 7 } ⟨0, 1, .active, {}⟩ _ (by decide) rfl

/-- The operator clears the drain for the next generation, and the rack is no longer drained at this one. -/
theorem later_evidence_displaces :
    validateEvidence (rackOrder 1 2 .clear) = .ok () ∧ (rackOrder 1 2 .clear).generation > 0 ∧
      (drainedLedger.insert (rackOrder 1 2 .clear)).2.outcome = .updated ∧
      composedState (compose (drainedLedger.insert (rackOrder 1 2 .clear)).1 { rack := 7 } ⟨0, 1, .active, {}⟩) ≠
        composedState (compose drainedLedger { rack := 7 } ⟨0, 1, .active, {}⟩) := by
  decide +kernel

end RackFabric
