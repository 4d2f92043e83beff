import RackFabric.Compose.Passes
import RackFabric.Model.Sorting

/-!
How much a composition publishes: diagnostics within their limit, paths no longer than the rack has ports, and one
record for each claim that a pass takes up.
-/

namespace RackFabric

/-! ### Diagnostics -/

/-- A collector with a given limit that it has kept. -/
def Diagnostics.Keeps (limit : Nat) (diagnostics : Diagnostics) : Prop :=
  diagnostics.limit = limit ∧ diagnostics.items.length ≤ limit

namespace Diagnostics.Keeps

variable {limit : Nat} {diagnostics : Diagnostics}

theorem note (keeps : Diagnostics.Keeps limit diagnostics) (kind : DiagnosticKind) (subjectKind : EvidenceKind)
    (subjectId source : UInt64) (detail : String) :
    Diagnostics.Keeps limit (diagnostics.note kind subjectKind subjectId source detail) := by
  obtain ⟨same, within⟩ := keeps
  unfold Diagnostics.note
  split
  · exact ⟨same, within⟩
  · rename_i room
    refine ⟨same, ?_⟩
    simp only [List.length_append, List.length_cons, List.length_nil]
    omega

theorem noteIf (keeps : Diagnostics.Keeps limit diagnostics) (condition : Bool) (kind : DiagnosticKind)
    (subjectKind : EvidenceKind) (subjectId source : UInt64) (detail : String) :
    Diagnostics.Keeps limit (diagnostics.noteIf condition kind subjectKind subjectId source detail) := by
  unfold Diagnostics.noteIf
  split
  · exact keeps.note _ _ _ _ _
  · exact keeps

end Diagnostics.Keeps

/-- Removing neighbours makes a list no longer. -/
theorem length_uniqueBy_le {α : Type} (same : α → α → Bool) (values : List α) :
    (uniqueBy same values).length ≤ values.length := by
  have after : ∀ (values : List α) (last : α), (uniqueAfter same last values).length ≤ values.length := by
    intro values
    induction values with
    | nil => exact fun last => Nat.le_refl _
    | cons head tail ih =>
      intro last
      rw [uniqueAfter]
      split
      · exact Nat.le_succ_of_le (ih last)
      · exact Nat.succ_le_succ (ih head)
  cases values with
  | nil => exact Nat.le_refl _
  | cons head tail => exact Nat.succ_le_succ (after tail head)

/-- What is published of a collector is within its limit, the note about what was dropped included. -/
theorem Diagnostics.Keeps.length_finish {limit : Nat} {diagnostics : Diagnostics}
    (keeps : Diagnostics.Keeps limit diagnostics) (positive : 0 < limit) : diagnostics.finish.length ≤ limit := by
  obtain ⟨same, within⟩ := keeps
  have unique := length_uniqueBy_le (· == ·) (sortBy Diagnostic.less diagnostics.items)
  rw [(sortBy_perm _ _).length_eq] at unique
  unfold Diagnostics.finish
  dsimp only
  split
  · rw [(sortBy_perm _ _).length_eq, List.length_append, List.length_singleton]
    split
    · rw [List.length_dropLast]
      omega
    · omega
  · omega

/-- A property of the collector that every step of a pass keeps. -/
theorem foldl_collects {σ ε : Type} (collector : σ → Diagnostics) {limit : Nat} {step : σ → ε → σ}
    (keeps : ∀ state entry, Diagnostics.Keeps limit (collector state) →
      Diagnostics.Keeps limit (collector (step state entry)))
    (entries : List ε) {start : σ} (before : Diagnostics.Keeps limit (collector start)) :
    Diagnostics.Keeps limit (collector (entries.foldl step start)) := by
  induction entries generalizing start with
  | nil => exact before
  | cons entry rest ih => exact ih (keeps start entry before)

section Passes

variable {limit : Nat} {gathered : Gathered}

theorem gatherRecord_keeps (config : RackConfig) (target : UInt64) (entry : EvidenceSlot × EvidenceRecord)
    (keeps : Diagnostics.Keeps limit gathered.diagnostics) :
    Diagnostics.Keeps limit (gatherRecord config target gathered entry).diagnostics := by
  simp only [gatherRecord]
  split
  · exact keeps.note _ _ _ _ _
  · exact keeps.note _ _ _ _ _
  · simp only [gatherPayload]
    split
    · simp only [gatherMember]
      split
      · exact keeps.note _ _ _ _ _
      · split
        · exact keeps
        · split
          · exact keeps.note _ _ _ _ _
          · exact keeps
    · exact keeps
    · exact keeps
    · exact keeps
    · exact keeps
    · exact keeps
    · exact keeps

theorem gather_keeps (ledger : EvidenceLedger) (config : RackConfig) (request : ComposeInput) :
    Diagnostics.Keeps request.limits.maxDiagnostics (gather ledger config request).diagnostics :=
  foldl_collects Gathered.diagnostics (fun _ entry => gatherRecord_keeps config _ entry) _ ⟨rfl, Nat.zero_le _⟩

theorem composeDevices_keeps (keeps : Diagnostics.Keeps limit gathered.diagnostics) :
    Diagnostics.Keeps limit (composeDevices gathered).2 := by
  refine foldl_collects Prod.snd ?_ _ (foldl_collects Prod.snd ?_ _ keeps)
  · rintro ⟨devices, diagnostics⟩ ⟨device, info⟩ before
    simp only [composeUnobserved]
    split
    · exact before
    · exact before.note _ _ _ _ _
  · rintro ⟨devices, diagnostics⟩ ⟨device, selection⟩ before
    simp only [composeDevice]
    split
    · exact before.note _ _ _ _ _
    · exact (((before.noteIf _ _ _ _ _ _).noteIf _ _ _ _ _ _).noteIf _ _ _ _ _ _).noteIf _ _ _ _ _ _

theorem composePorts_keeps (devices : List DeviceRecord) {diagnostics : Diagnostics}
    (keeps : Diagnostics.Keeps limit diagnostics) :
    Diagnostics.Keeps limit (composePorts gathered devices diagnostics).2 := by
  refine foldl_collects PortPass.diagnostics ?_ _ keeps
  rintro pass ⟨port, selection⟩ before
  simp only [composePort]
  split
  · exact before.note _ _ _ _ _
  · exact (((before.noteIf _ _ _ _ _ _).noteIf _ _ _ _ _ _).noteIf _ _ _ _ _ _).noteIf _ _ _ _ _ _

theorem composeLinks_keeps (ports : List PortRecord) {diagnostics : Diagnostics}
    (keeps : Diagnostics.Keeps limit diagnostics) :
    Diagnostics.Keeps limit (composeLinks gathered ports diagnostics).2 := by
  refine foldl_collects Prod.snd ?_ _ keeps
  rintro ⟨links, diagnostics⟩ ⟨link, selection⟩ before
  simp only [composeLink, composeJoinedLink]
  split
  · exact ((before.noteIf _ _ _ _ _ _).noteIf _ _ _ _ _ _).noteIf _ _ _ _ _ _
  · exact before.note _ _ _ _ _

theorem composeAttachments_keeps (devices : List DeviceRecord) (ports : List PortRecord) {diagnostics : Diagnostics}
    (keeps : Diagnostics.Keeps limit diagnostics) :
    Diagnostics.Keeps limit (composeAttachments gathered devices ports diagnostics).2 := by
  refine foldl_collects Prod.snd ?_ _ keeps
  rintro ⟨attachments, diagnostics⟩ ⟨attachment, selection⟩ before
  simp only [composeAttachment]
  split
  · exact before.note _ _ _ _ _
  · split
    · exact before.note _ _ _ _ _
    · split
      · exact before.note _ _ _ _ _
      · split
        · exact before.note _ _ _ _ _
        · split
          · exact before
          · exact before

theorem composeObligations_keeps {config : RackConfig} {ports : List PortRecord} {links : List LinkRecord}
    {diagnostics : Diagnostics} {pass : ObligationPass} (keeps : Diagnostics.Keeps limit diagnostics)
    (composed : composeObligations gathered config ports links diagnostics = .ok pass) :
    Diagnostics.Keeps limit pass.diagnostics := by
  have run : ∀ (entries : List (UInt64 × ResourceRef × Selection ObligationClaim)) (start after : ObligationPass),
      Diagnostics.Keeps limit start.diagnostics →
      entries.foldlM (composeObligation gathered config ports links) start = .ok after →
      Diagnostics.Keeps limit after.diagnostics := by
    intro entries
    induction entries with
    | nil =>
      intro start after before ran
      cases ran
      exact before
    | cons entry rest ih =>
      intro start after before ran
      rw [List.foldlM_cons] at ran
      obtain ⟨next, stepped, ran⟩ := bind_eq_ok.mp ran
      refine ih next after ?_ ran
      simp only [composeObligation] at stepped
      split at stepped
      · cases stepped
        exact before.note _ _ _ _ _
      · split at stepped
        · cases stepped
        · cases stepped
          exact before
  obtain ⟨after, ran, published⟩ := bind_eq_ok.mp composed
  cases published
  exact run _ _ after (by exact keeps) ran

theorem composeCapacity_keeps {config : RackConfig} {devices : List DeviceRecord}
    {obligated : Std.ExtTreeMap ResourceRef UInt64} {diagnostics : Diagnostics}
    {composed : CapacityLedger × Diagnostics} (keeps : Diagnostics.Keeps limit diagnostics)
    (summed : composeCapacity config devices obligated diagnostics = .ok composed) :
    Diagnostics.Keeps limit composed.2 ∧ composed.1.closes = true := by
  rw [composeCapacity] at summed
  obtain ⟨⟨total, unavailable⟩, -, summed⟩ := bind_eq_ok.mp summed
  dsimp only at summed
  split at summed
  · cases summed
  · rename_i usable _
    obtain ⟨owed, -, summed⟩ := bind_eq_ok.mp summed
    split at summed
    · cases summed
    · rename_i claimed _
      by_cases exceeds : claimed > usable
      · simp only [exceeds, decide_true, if_true] at summed
        split at summed
        · cases summed
        · rename_i closes
          cases summed
          exact ⟨keeps.noteIf _ _ _ _ _ _, by simpa using closes⟩
      · simp only [exceeds, decide_false, Bool.false_eq_true, if_false] at summed
        split at summed
        · cases summed
        · rename_i closes
          cases summed
          exact ⟨keeps.noteIf _ _ _ _ _ _, by simpa using closes⟩

theorem foldl_composePath_ids (links : List LinkRecord) (candidates : List PathCandidate)
    (state : List PathRecord × Diagnostics) :
    (candidates.foldl (composePath links) state).1.map PathRecord.id =
      state.1.map PathRecord.id ++ candidates.map (fun candidate => pathIdentity candidate.links) := by
  induction candidates generalizing state with
  | nil => simp
  | cons candidate rest ih =>
    rw [List.foldl_cons, ih]
    simp [composePath]

theorem composePaths_keeps {config : RackConfig} {limits : ComposeLimits} {ports : List PortRecord}
    {links : List LinkRecord} {attachments : List AttachmentRecord} {diagnostics : Diagnostics}
    {composed : List PathRecord × Diagnostics} (keeps : Diagnostics.Keeps limit diagnostics)
    (searched : composePaths config limits ports links attachments diagnostics = .ok composed) :
    Diagnostics.Keeps limit composed.2 ∧ composed.1.length ≤ limits.maxPaths := by
  obtain ⟨search, -, rest⟩ := bind_eq_ok.mp searched
  cases rest
  refine ⟨foldl_collects Prod.snd ?_ _ (keeps.noteIf _ _ _ _ _ _), ?_⟩
  · rintro ⟨paths, diagnostics⟩ candidate before
    exact before.noteIf _ _ _ _ _ _
  · show (sortBy _ _).length ≤ _
    rw [(sortBy_perm _ _).length_eq, ← List.length_map PathRecord.id, foldl_composePath_ids]
    simp only [List.map_nil, List.nil_append, List.length_map, List.length_take]
    exact Nat.min_le_left _ _

end Passes

/-! ### Counts -/

/-- A pass that publishes one record, under the entry's key, for the entries it takes up. -/
theorem foldl_published {σ α κ β : Type} (published : σ → List α) (id : α → κ) {step : σ → κ × β → σ}
    (takes : κ × β → Bool)
    (adds : ∀ state entry, (published (step state entry)).map id =
      (published state).map id ++ if takes entry then [entry.1] else [])
    (entries : List (κ × β)) (start : σ) :
    (published (entries.foldl step start)).map id =
      (published start).map id ++ (entries.filter takes).map Prod.fst := by
  induction entries generalizing start with
  | nil => simp
  | cons entry rest ih =>
    rw [List.foldl_cons, ih, adds, List.append_assoc]
    by_cases taken : takes entry = true
    · simp [taken]
    · simp [taken]

/-- How many records such a pass publishes. -/
private theorem length_published {σ α β : Type} (published : σ → List α) (id : α → UInt64)
    {step : σ → UInt64 × β → σ} {start : σ} (claims : Std.ExtTreeMap UInt64 β) (takes : UInt64 × β → Bool)
    (empty : published start = [])
    (adds : ∀ state entry, (published (step state entry)).map id =
      (published state).map id ++ if takes entry then [entry.1] else []) :
    (published (claims.toList.foldl step start)).length = (claims.toList.filter takes).length := by
  rw [← List.length_map id, foldl_published published id takes adds, empty]
  simp

/-- Every port claim of a member device is published. -/
theorem composePorts_length (gathered : Gathered) (devices : List DeviceRecord) (diagnostics : Diagnostics) :
    (composePorts gathered devices diagnostics).1.length =
      (gathered.portClaims.toList.filter fun entry => gathered.members.contains entry.2.value.device).length := by
  refine (sortBy_perm _ _).length_eq.trans (length_published PortPass.ports PortRecord.id _ _ rfl ?_)
  intro pass entry
  unfold composePort
  dsimp only
  split
  · rename_i outside
    simp only [Bool.not_eq_true'] at outside
    simp [outside]
  · rename_i inside
    simp only [Bool.not_eq_true', Bool.not_eq_false] at inside
    simp [inside]

/-- Every link claim is published. -/
theorem composeLinks_length (gathered : Gathered) (ports : List PortRecord) (diagnostics : Diagnostics) :
    (composeLinks gathered ports diagnostics).1.length = gathered.linkClaims.size := by
  refine (sortBy_perm _ _).length_eq.trans
    ((length_published Prod.fst LinkRecord.id _ (fun _ => true) rfl ?_).trans ?_)
  · intro state entry
    unfold composeLink composeJoinedLink
    dsimp only
    split
    · simp
    · simp
  · simp [Std.ExtTreeMap.length_toList]

/-- Every attachment claim is published. -/
theorem composeAttachments_length (gathered : Gathered) (devices : List DeviceRecord) (ports : List PortRecord)
    (diagnostics : Diagnostics) :
    (composeAttachments gathered devices ports diagnostics).1.length = gathered.attachmentClaims.size := by
  refine (sortBy_perm _ _).length_eq.trans
    ((length_published Prod.fst AttachmentRecord.id _ (fun _ => true) rfl ?_).trans ?_)
  · intro state entry
    unfold composeAttachment
    dsimp only
    split
    · simp
    · split
      · simp
      · split
        · simp
        · split
          · simp
          · split
            · simp
            · simp
  · simp [Std.ExtTreeMap.length_toList]

/-- Every member is published, observed or not, and nothing else. -/
theorem mem_composeDevices_ids (gathered : Gathered) (id : UInt64) :
    id ∈ (composeDevices gathered).1.map DeviceRecord.id ↔ id ∈ gathered.members := by
  let seen := gathered.deviceClaims.toList.foldl (composeDevice gathered) ([], gathered.diagnostics)
  have observed : seen.1.map DeviceRecord.id =
      [] ++ (gathered.deviceClaims.toList.filter fun entry => gathered.members.contains entry.1).map Prod.fst := by
    refine foldl_published Prod.fst DeviceRecord.id _ ?_ _ _
    intro state entry
    unfold composeDevice
    dsimp only
    split
    · rename_i absent
      simp [Std.ExtTreeMap.contains_eq_isSome_getElem?, absent]
    · rename_i info found
      simp [Std.ExtTreeMap.contains_eq_isSome_getElem?, found]
  have unobserved : (gathered.members.toList.foldl (composeUnobserved gathered) seen).1.map DeviceRecord.id =
      seen.1.map DeviceRecord.id ++
        (gathered.members.toList.filter fun entry => !gathered.deviceClaims.contains entry.1).map Prod.fst := by
    refine foldl_published Prod.fst DeviceRecord.id _ ?_ _ _
    intro state entry
    unfold composeUnobserved
    dsimp only
    split
    · rename_i claimed
      simp [claimed]
    · rename_i unclaimed
      simp [unclaimed]
  show id ∈ (uniqueBy _ (sortBy _ (gathered.members.toList.foldl (composeUnobserved gathered) seen).1)).map _ ↔ _
  rw [uniqueBy_map, mem_uniqueBy, ((sortBy_perm _ _).map _).mem_iff, unobserved, observed, List.nil_append,
    List.mem_append]
  simp only [List.mem_map, List.mem_filter, Prod.exists, exists_and_right, exists_eq_right,
    Std.ExtTreeMap.mem_toList_iff_getElem?_eq_some, Bool.not_eq_true', Std.ExtTreeMap.contains_eq_isSome_getElem?,
    Std.ExtTreeMap.mem_iff_isSome_getElem?]
  rw [← Option.isSome_iff_exists (x := gathered.members[id]?)]
  cases claim : gathered.deviceClaims[id]? with
  | none => simp
  | some selection => simp

/-- One device is published for each member. -/
theorem composeDevices_length (gathered : Gathered) :
    (composeDevices gathered).1.length = gathered.members.size := by
  have same : ((composeDevices gathered).1.map DeviceRecord.id).Perm gathered.members.keys := by
    refine (List.perm_ext_iff_of_nodup (composeDevices_ids_nodup gathered) ?_).mpr ?_
    · exact Std.ExtTreeMap.nodup_keys
    · intro id
      rw [mem_composeDevices_ids, Std.ExtTreeMap.mem_keys]
  rw [← List.length_map DeviceRecord.id, same.length_eq, Std.ExtTreeMap.length_keys]

/-! ### The composition as a whole -/

theorem checkBound_ok {size limit : Nat} {detail : String} {done : Unit}
    (checked : checkBound size limit detail = .ok done) : size ≤ limit := by
  unfold checkBound at checked
  split at checked
  · cases checked
  · rename_i within
    exact Nat.le_of_not_lt within

/-- Every section is within the limits of the composition, and the capacity accounts close. -/
structure SnapshotData.Bounded (limits : ComposeLimits) (data : SnapshotData) : Prop where
  devices : data.devices.length ≤ limits.maxDevices
  ports : data.ports.length ≤ limits.maxPorts
  links : data.links.length ≤ limits.maxLinks
  attachments : data.attachments.length ≤ limits.maxAttachments
  paths : data.paths.length ≤ limits.maxPaths
  maintenance : data.maintenance.length ≤ limits.maxMaintenance
  obligations : data.obligations.length ≤ limits.maxObligations
  diagnostics : 0 < limits.maxDiagnostics → data.diagnostics.length ≤ limits.maxDiagnostics
  closes : data.capacity.closes = true

theorem compose_bounded {ledger : EvidenceLedger} {config : RackConfig} {request : ComposeInput}
    {outcome : ComposeOutcome} {data : SnapshotData} (composed : compose ledger config request = .ok outcome)
    (held : outcome.snapshot.handle = some data) : data.Bounded request.limits := by
  simp only [compose, bind_eq_ok] at composed
  obtain ⟨_, _, _, _, _, devices, _, ports, _, links, _, attachments, _, maintenance, pass, obliged, _, obligations,
    rest⟩ := composed
  obtain ⟨capacity, summed, rest⟩ := rest
  obtain ⟨paths, searched, rest⟩ := rest
  cases rest
  cases held
  obtain ⟨accounted, closes⟩ := composeCapacity_keeps (composeObligations_keeps
    (composeAttachments_keeps _ _ (composeLinks_keeps _ (composePorts_keeps _
      (composeDevices_keeps (gather_keeps ledger config request))))) obliged) summed
  obtain ⟨collected, short⟩ := composePaths_keeps accounted searched
  exact {
    devices := checkBound_ok devices
    ports := checkBound_ok ports
    links := checkBound_ok links
    attachments := checkBound_ok attachments
    paths := short
    maintenance := checkBound_ok maintenance
    obligations := checkBound_ok obligations
    diagnostics := collected.length_finish
    closes := closes }

end RackFabric
