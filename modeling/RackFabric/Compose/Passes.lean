import RackFabric.Compose.Composer
import RackFabric.Model.Sorting
import Mathlib.Algebra.Order.Group.Nat
import Mathlib.Data.List.Basic

/-!
What each pass of a composition has checked of a record before it publishes the record as eligible. Later passes
look records up in the lists of earlier ones, so every statement here names the record that was found.
-/

namespace RackFabric

/-- An eligible device is an undisputed member with a known capacity, outside every directive. -/
structure DeviceCleared (gathered : Gathered) (device : DeviceRecord) : Prop where
  known : device.capacityKnown = true
  clear : gathered.deviceExcluded device.id = false
  member : ∃ info : MemberInfo, gathered.members[device.id]? = some info ∧ info.indeterminate = false ∧
    info.incarnation = device.incarnation

/-- An eligible port has a known capacity and stands on an eligible device, outside every directive. -/
structure PortCleared (gathered : Gathered) (devices : List DeviceRecord) (port : PortRecord) : Prop where
  known : port.capacityKnown = true
  clear : gathered.deviceExcluded port.device = false ∧ gathered.exclusionOf .port port.id = false
  owner : ∃ device, deviceRecord devices port.device = some device ∧ device.eligibility = .eligible

/-- An eligible link joins two eligible ports and carries no more than either. -/
structure LinkCleared (gathered : Gathered) (ports : List PortRecord) (link : LinkRecord) : Prop where
  known : link.capacityKnown = true
  clear : gathered.exclusionOf .link link.id = false
  first : ∃ port, portRecord ports link.portA = some port ∧ port.eligibility = .eligible ∧
    link.capacity ≤ port.capacity
  second : ∃ port, portRecord ports link.portB = some port ∧ port.eligibility = .eligible ∧
    link.capacity ≤ port.capacity

/-- An eligible attachment joins an eligible device to an eligible port of that device. -/
structure AttachmentCleared (devices : List DeviceRecord) (ports : List PortRecord)
    (attachment : AttachmentRecord) : Prop where
  device : ∃ device, deviceRecord devices attachment.device = some device ∧ device.eligibility = .eligible
  port : ∃ port, portRecord ports attachment.port = some port ∧ port.eligibility = .eligible ∧
    port.device = attachment.device

/-- An eligible path has links, all of them eligible. -/
structure PathCleared (links : List LinkRecord) (path : PathRecord) : Prop where
  known : path.bottleneckKnown = true
  nonempty : path.links ≠ []
  links : ∀ id ∈ path.links, ∃ link, linkRecord links id = some link ∧ link.eligibility = .eligible

private theorem forall_snoc {α : Type} {property : α → Prop} {values : List α} {value : α}
    (before : ∀ other ∈ values, property other) (own : property value) :
    ∀ other ∈ values ++ [value], property other := by
  intro other member
  rcases List.mem_append.mp member with old | new
  · exact before other old
  · rw [List.mem_singleton.mp new]
    exact own

/-- A property that every step of a pass keeps of the records it publishes. -/
theorem foldl_publishes {σ α ε : Type} (published : σ → List α) {property : α → Prop} {step : σ → ε → σ}
    {entries : List ε} {start : σ} (before : ∀ value ∈ published start, property value)
    (keeps : ∀ state, ∀ entry ∈ entries, (∀ value ∈ published state, property value) →
      ∀ value ∈ published (step state entry), property value) :
    ∀ value ∈ published (entries.foldl step start), property value := by
  induction entries generalizing start with
  | nil => exact before
  | cons entry rest ih =>
    refine ih (keeps start entry List.mem_cons_self before) ?_
    intro state later member
    exact keeps state later (List.mem_cons_of_mem _ member)

theorem composeDevice_cleared {gathered : Gathered} {state : List DeviceRecord × Diagnostics}
    (entry : UInt64 × Selection DeviceClaim)
    (before : ∀ device ∈ state.1, device.eligibility = .eligible → DeviceCleared gathered device) :
    ∀ device ∈ (composeDevice gathered state entry).1,
      device.eligibility = .eligible → DeviceCleared gathered device := by
  unfold composeDevice
  dsimp only
  split
  · exact before
  · rename_i info found
    refine forall_snoc before ?_
    intro eligible
    dsimp only at eligible
    split at eligible
    · split at eligible <;> cases eligible
    · rename_i passed
      simp only [Bool.or_eq_true, not_or, Bool.not_eq_true, Bool.not_eq_false'] at passed
      obtain ⟨⟨⟨⟨-, settled⟩, clear⟩, known⟩, -⟩ := passed
      exact ⟨known, clear, info, found, settled, rfl⟩

theorem composeUnobserved_cleared {gathered : Gathered} {state : List DeviceRecord × Diagnostics}
    (entry : UInt64 × MemberInfo)
    (before : ∀ device ∈ state.1, device.eligibility = .eligible → DeviceCleared gathered device) :
    ∀ device ∈ (composeUnobserved gathered state entry).1,
      device.eligibility = .eligible → DeviceCleared gathered device := by
  unfold composeUnobserved
  dsimp only
  split
  · exact before
  · refine forall_snoc before ?_
    intro eligible
    cases eligible

theorem composeDevices_cleared {gathered : Gathered} {device : DeviceRecord}
    (member : device ∈ (composeDevices gathered).1) (eligible : device.eligibility = .eligible) :
    DeviceCleared gathered device := by
  have gathering : ∀ device ∈ (gathered.members.toList.foldl (composeUnobserved gathered)
      (gathered.deviceClaims.toList.foldl (composeDevice gathered) ([], gathered.diagnostics))).1,
      device.eligibility = .eligible → DeviceCleared gathered device := by
    refine foldl_publishes Prod.fst ?_ (fun state entry _ => composeUnobserved_cleared entry)
    refine foldl_publishes Prod.fst ?_ (fun state entry _ => composeDevice_cleared entry)
    intro device absent
    cases absent
  exact gathering device ((sortBy_perm _ _).mem_iff.mp (mem_of_uniqueBy member)) eligible

theorem composePort_cleared {gathered : Gathered} {devices : List DeviceRecord} {pass : PortPass}
    (entry : UInt64 × Selection PortClaim)
    (before : ∀ port ∈ pass.ports, port.eligibility = .eligible → PortCleared gathered devices port) :
    ∀ port ∈ (composePort gathered devices pass entry).ports,
      port.eligibility = .eligible → PortCleared gathered devices port := by
  unfold composePort
  dsimp only
  split
  · exact before
  · refine forall_snoc before ?_
    intro eligible
    dsimp only at eligible
    split at eligible
    · cases eligible
    · split at eligible
      · cases eligible
      · rename_i passed
        split at eligible
        · cases eligible
        · rename_i measured
          simp only [Bool.or_eq_true, not_or, Bool.not_eq_true, Bool.not_eq_false', Option.any_eq_true,
            beq_iff_eq] at passed measured
          obtain ⟨⟨outside, clear⟩, device, found, usable⟩ := passed
          exact ⟨measured.1.1, ⟨outside, clear⟩, device, found, usable⟩

theorem composePorts_cleared {gathered : Gathered} {devices : List DeviceRecord} {diagnostics : Diagnostics}
    {port : PortRecord} (member : port ∈ (composePorts gathered devices diagnostics).1)
    (eligible : port.eligibility = .eligible) : PortCleared gathered devices port := by
  have gathering : ∀ port ∈ (gathered.portClaims.toList.foldl (composePort gathered devices)
      { diagnostics := diagnostics }).ports, port.eligibility = .eligible → PortCleared gathered devices port := by
    refine foldl_publishes PortPass.ports ?_ (fun pass entry _ => composePort_cleared entry)
    intro port absent
    cases absent
  exact gathering port ((sortBy_perm _ _).mem_iff.mp member) eligible

theorem minCapacity_le_left (a b : UInt64) : minCapacity a b ≤ a := by
  unfold minCapacity
  split
  · exact UInt64.le_refl a
  · rename_i larger
    exact UInt64.le_of_lt (UInt64.not_le.mp larger)

theorem minCapacity_le_right (a b : UInt64) : minCapacity a b ≤ b := by
  unfold minCapacity
  split
  · assumption
  · exact UInt64.le_refl b

theorem composeJoinedLink_cleared {gathered : Gathered} {ports : List PortRecord} {link : UInt64}
    {selection : Selection LinkClaim} {a b : PortRecord} {diagnostics : Diagnostics}
    (first : portRecord ports selection.value.portA = some a)
    (second : portRecord ports selection.value.portB = some b)
    (eligible : (composeJoinedLink gathered link selection a b diagnostics).1.eligibility = .eligible) :
    LinkCleared gathered ports (composeJoinedLink gathered link selection a b diagnostics).1 := by
  unfold composeJoinedLink at eligible ⊢
  dsimp only at eligible ⊢
  split at eligible
  · cases eligible
  · split at eligible
    · cases eligible
    · rename_i outside
      split at eligible
      · cases eligible
      · rename_i measured
        simp only [Bool.or_eq_true, not_or, Bool.not_eq_true, Bool.not_eq_false', Bool.and_eq_true,
          bne_eq_false_iff_eq] at outside measured
        obtain ⟨⟨⟨⟨bothKnown, known⟩, -⟩, firstEligible⟩, secondEligible⟩ := measured
        have both : (a.capacityKnown && b.capacityKnown) = true := by rw [bothKnown.1, bothKnown.2]; rfl
        refine ⟨?_, outside.2, ⟨a, first, firstEligible, ?_⟩, ⟨b, second, secondEligible, ?_⟩⟩
        · simp only [both, known, Bool.and_self]
        · simp only [both, if_true]
          exact UInt64.le_trans (minCapacity_le_left _ _) (minCapacity_le_right _ _)
        · simp only [both, if_true]
          exact minCapacity_le_right _ _

theorem composeLink_cleared {gathered : Gathered} {ports : List PortRecord} {state : List LinkRecord × Diagnostics}
    (entry : UInt64 × Selection LinkClaim)
    (before : ∀ link ∈ state.1, link.eligibility = .eligible → LinkCleared gathered ports link) :
    ∀ link ∈ (composeLink gathered ports state entry).1,
      link.eligibility = .eligible → LinkCleared gathered ports link := by
  unfold composeLink
  dsimp only
  split
  · rename_i a b first second
    exact forall_snoc before (composeJoinedLink_cleared first second)
  · refine forall_snoc before ?_
    intro eligible
    cases eligible

theorem composeLinks_cleared {gathered : Gathered} {ports : List PortRecord} {diagnostics : Diagnostics}
    {link : LinkRecord} (member : link ∈ (composeLinks gathered ports diagnostics).1)
    (eligible : link.eligibility = .eligible) : LinkCleared gathered ports link := by
  have gathering : ∀ link ∈ (gathered.linkClaims.toList.foldl (composeLink gathered ports) ([], diagnostics)).1,
      link.eligibility = .eligible → LinkCleared gathered ports link := by
    refine foldl_publishes Prod.fst ?_ (fun state entry _ => composeLink_cleared entry)
    intro link absent
    cases absent
  exact gathering link ((sortBy_perm _ _).mem_iff.mp member) eligible

theorem composeAttachment_cleared {devices : List DeviceRecord} {ports : List PortRecord}
    {state : List AttachmentRecord × Diagnostics} (entry : UInt64 × Selection AttachmentClaim)
    (before : ∀ attachment ∈ state.1, attachment.eligibility = .eligible →
      AttachmentCleared devices ports attachment) :
    ∀ attachment ∈ (composeAttachment devices ports state entry).1, attachment.eligibility = .eligible →
      AttachmentCleared devices ports attachment := by
  have refused : ∀ record : AttachmentRecord, record.eligibility ≠ .eligible →
      ∀ attachment ∈ state.1 ++ [record], attachment.eligibility = .eligible →
        AttachmentCleared devices ports attachment := by
    intro record ineligible
    refine forall_snoc before ?_
    intro eligible
    exact absurd eligible ineligible
  unfold composeAttachment
  dsimp only
  split
  · exact refused _ nofun
  · rename_i device foundDevice
    split
    · exact refused _ nofun
    · rename_i port foundPort
      split
      · exact refused _ nofun
      · rename_i owns
        split
        · exact refused _ nofun
        · split
          · exact refused _ nofun
          · rename_i usable
            simp only [ne_eq, not_or, Decidable.not_not] at usable owns
            refine forall_snoc before ?_
            intro _
            exact ⟨⟨device, foundDevice, usable.1⟩, ⟨port, foundPort, usable.2, owns⟩⟩

theorem composeAttachments_cleared {gathered : Gathered} {devices : List DeviceRecord} {ports : List PortRecord}
    {diagnostics : Diagnostics} {attachment : AttachmentRecord}
    (member : attachment ∈ (composeAttachments gathered devices ports diagnostics).1)
    (eligible : attachment.eligibility = .eligible) : AttachmentCleared devices ports attachment := by
  have gathering : ∀ attachment ∈ (gathered.attachmentClaims.toList.foldl (composeAttachment devices ports)
      ([], diagnostics)).1, attachment.eligibility = .eligible → AttachmentCleared devices ports attachment := by
    refine foldl_publishes Prod.fst ?_ (fun state entry _ => composeAttachment_cleared entry)
    intro attachment absent
    cases absent
  exact gathering attachment ((sortBy_perm _ _).mem_iff.mp member) eligible

/-- Every candidate a search holds has a link. -/
def PathSearch.Linked (search : PathSearch) : Prop :=
  ∀ candidate ∈ search.candidates, candidate.links ≠ []

theorem visitNeighbour_linked {config : RackConfig} {limits : ComposeLimits} {exits : List UInt64}
    {start linkId nextPort : UInt64} {search next : PathSearch} (linked : search.Linked)
    (visited : visitNeighbour config limits exits start linkId nextPort search = .ok next) : next.Linked := by
  unfold visitNeighbour at visited
  split at visited
  · cases visited
    exact linked
  · split at visited
    · cases visited
      exact linked
    · split at visited
      · by_cases room : search.foundPerEndpoint.getD nextPort 0 < config.maxPathsPerPair
        · simp only [if_pos room] at visited
          split at visited
          · cases visited
          · cases visited
            exact forall_snoc linked (by simp)
        · simp only [if_neg room] at visited
          split at visited
          · cases visited
          · cases visited
            exact linked
      · cases visited
        exact linked

theorem searchLoop_linked {config : RackConfig} {limits : ComposeLimits} {adjacency : Adjacency}
    {exits : List UInt64} {start : UInt64} {fuel : Nat} {search next : PathSearch} (linked : search.Linked)
    (searched : searchLoop config limits adjacency exits start fuel search = .ok next) : next.Linked := by
  induction fuel generalizing search with
  | zero =>
    cases searched
    exact linked
  | succ fuel ih =>
    rw [searchLoop] at searched
    split at searched
    · cases searched
      exact linked
    · dsimp only at searched
      split at searched
      · cases searched
        exact linked
      · split at searched
        · exact ih (by exact linked) searched
        · obtain ⟨after, visited, rest⟩ := bind_eq_ok.mp searched
          exact ih (visitNeighbour_linked (by exact linked) visited) rest

theorem searchFrom_linked {config : RackConfig} {limits : ComposeLimits} {adjacency : Adjacency}
    {exits starts : List UInt64} {search next : PathSearch} (linked : search.Linked)
    (searched : searchFrom config limits adjacency exits starts search = .ok next) : next.Linked := by
  induction starts generalizing search with
  | nil =>
    cases searched
    exact linked
  | cons start rest ih =>
    rw [searchFrom] at searched
    obtain ⟨after, looped, rest⟩ := bind_eq_ok.mp searched
    have kept : after.Linked := searchLoop_linked (by exact linked) looped
    split at rest
    · cases rest
      exact kept
    · exact ih kept rest

theorem pathBottleneck_known {links : List LinkRecord} {ids : List UInt64} {least : Option UInt64}
    (known : (pathBottleneck links ids least).1 = true) :
    ∀ id ∈ ids, ∃ link, linkRecord links id = some link ∧ link.eligibility = .eligible := by
  induction ids generalizing least with
  | nil =>
    intro id absent
    cases absent
  | cons head rest ih =>
    rw [pathBottleneck] at known
    split at known
    · cases known
    · rename_i link found
      split at known
      · cases known
      · rename_i usable
        rw [not_or, ne_eq, Decidable.not_not] at usable
        intro id member
        rcases List.mem_cons.mp member with rfl | later
        · exact ⟨link, found, usable.1⟩
        · exact ih known id later

theorem composePath_cleared {links : List LinkRecord} {state : List PathRecord × Diagnostics}
    {candidate : PathCandidate} (linked : candidate.links ≠ [])
    (before : ∀ path ∈ state.1, path.eligibility = .eligible → PathCleared links path) :
    ∀ path ∈ (composePath links state candidate).1, path.eligibility = .eligible → PathCleared links path := by
  unfold composePath
  dsimp only
  refine forall_snoc before ?_
  intro eligible
  dsimp only at eligible
  split at eligible
  · rename_i known
    exact ⟨known, linked, pathBottleneck_known known⟩
  · cases eligible

theorem composePaths_cleared {config : RackConfig} {limits : ComposeLimits} {ports : List PortRecord}
    {links : List LinkRecord} {attachments : List AttachmentRecord} {diagnostics : Diagnostics}
    {composed : List PathRecord × Diagnostics} {path : PathRecord}
    (searched : composePaths config limits ports links attachments diagnostics = .ok composed)
    (member : path ∈ composed.1) (eligible : path.eligibility = .eligible) : PathCleared links path := by
  obtain ⟨search, found, rest⟩ := bind_eq_ok.mp searched
  have linked : search.Linked := searchFrom_linked (fun candidate absent => by cases absent) found
  cases rest
  refine @foldl_publishes _ _ _ Prod.fst (fun path => path.eligibility = .eligible → PathCleared links path)
    (composePath links) _ _ ?_ ?_ path ((sortBy_perm _ _).mem_iff.mp member) eligible
  · intro path absent
    cases absent
  · intro state candidate chosen
    exact composePath_cleared (linked candidate
      ((sortBy_perm _ _).mem_iff.mp (mem_of_uniqueBy (List.mem_of_mem_take chosen))))

/-! ### Identities -/

/-- A pass that publishes at most one record an entry, under the entry's key, publishes no key twice. -/
theorem foldl_keys_sublist {σ α κ β : Type} (published : σ → List α) (id : α → κ) {step : σ → κ × β → σ}
    (adds : ∀ state entry, (published (step state entry)).map id = (published state).map id ∨
      (published (step state entry)).map id = (published state).map id ++ [entry.1])
    (entries : List (κ × β)) (start : σ) :
    ((published (entries.foldl step start)).map id).Sublist ((published start).map id ++ entries.map Prod.fst) := by
  induction entries generalizing start with
  | nil => simp
  | cons entry rest ih =>
    refine (ih (step start entry)).trans ?_
    rcases adds start entry with same | added
    · rw [same, List.map_cons]
      exact (List.Sublist.refl _).append (List.sublist_cons_self _ _)
    · rw [added, List.map_cons, List.append_assoc]
      exact List.Sublist.refl _

private theorem nodup_published {σ α β : Type} (published : σ → List α) (id : α → UInt64)
    {step : σ → UInt64 × β → σ} (claims : Std.ExtTreeMap UInt64 β) {start : σ} (empty : published start = [])
    (adds : ∀ state entry, (published (step state entry)).map id = (published state).map id ∨
      (published (step state entry)).map id = (published state).map id ++ [entry.1]) :
    ((published (claims.toList.foldl step start)).map id).Nodup := by
  have sublist := foldl_keys_sublist published id adds claims.toList start
  rw [empty, List.map_nil, List.nil_append, Std.ExtTreeMap.map_fst_toList_eq_keys] at sublist
  exact sublist.nodup Std.ExtTreeMap.nodup_keys

theorem composePorts_ids_nodup (gathered : Gathered) (devices : List DeviceRecord) (diagnostics : Diagnostics) :
    ((composePorts gathered devices diagnostics).1.map PortRecord.id).Nodup := by
  refine ((sortBy_perm _ _).map PortRecord.id).nodup_iff.mpr (nodup_published PortPass.ports _ _ rfl ?_)
  intro pass entry
  unfold composePort
  dsimp only
  split
  · exact .inl rfl
  · exact .inr (by simp)

theorem composeLinks_ids_nodup (gathered : Gathered) (ports : List PortRecord) (diagnostics : Diagnostics) :
    ((composeLinks gathered ports diagnostics).1.map LinkRecord.id).Nodup := by
  refine ((sortBy_perm _ _).map LinkRecord.id).nodup_iff.mpr (nodup_published Prod.fst _ _ rfl ?_)
  intro state entry
  unfold composeLink composeJoinedLink
  dsimp only
  split
  · exact .inr (by simp)
  · exact .inr (by simp)

theorem composeAttachments_ids_nodup (gathered : Gathered) (devices : List DeviceRecord) (ports : List PortRecord)
    (diagnostics : Diagnostics) :
    ((composeAttachments gathered devices ports diagnostics).1.map AttachmentRecord.id).Nodup := by
  refine ((sortBy_perm _ _).map AttachmentRecord.id).nodup_iff.mpr (nodup_published Prod.fst _ _ rfl ?_)
  intro state entry
  refine .inr ?_
  unfold composeAttachment
  dsimp only
  split
  · simp
  · split
    · simp
    · split
      · simp
      · split
        · simp
        · split
          · simp
          · simp

theorem uniqueBy_map {α κ : Type} [BEq κ] (id : α → κ) (values : List α) :
    (uniqueBy (fun a b => id a == id b) values).map id = uniqueBy (· == ·) (values.map id) := by
  have after : ∀ (values : List α) (last : α), (uniqueAfter (fun a b => id a == id b) last values).map id =
      uniqueAfter (· == ·) (id last) (values.map id) := by
    intro values
    induction values with
    | nil => exact fun last => rfl
    | cons head tail ih =>
      intro last
      simp only [uniqueAfter, List.map_cons]
      split
      · exact ih last
      · rw [List.map_cons, ih head]
  cases values with
  | nil => rfl
  | cons head tail => exact congrArg (id head :: ·) (after tail head)

theorem idLess_orders {α : Type} (id : α → UInt64) : Orders (fun a b => idLess (id a) (id b)) where
  asymm a b less := by
    simp only [idLess, decide_eq_true_eq, decide_eq_false_iff_not, UInt64.not_lt] at less ⊢
    exact UInt64.le_of_lt less
  trans a b c first second := by
    simp only [idLess, decide_eq_false_iff_not, UInt64.not_lt] at first second ⊢
    exact UInt64.le_trans first second

theorem composeDevices_ids_nodup (gathered : Gathered) : ((composeDevices gathered).1.map DeviceRecord.id).Nodup := by
  refine (uniqueBy_map DeviceRecord.id _).symm ▸ @nodup_uniqueBy _ idLess _ _ ?_ _ ?_
  · intro a b first second
    simp only [idLess, decide_eq_false_iff_not, UInt64.not_lt] at first second
    exact UInt64.le_antisymm second first
  · exact List.pairwise_map.mpr (sortBy_inOrder (idLess_orders DeviceRecord.id) _)

/-! ### The composition as a whole -/

/-- What a successful composition published, pass by pass. -/
structure Composed (ledger : EvidenceLedger) (config : RackConfig) (request : ComposeInput)
    (data : SnapshotData) : Prop where
  devices : data.devices = (composeDevices (gather ledger config request)).1
  ports : ∃ diagnostics, data.ports = (composePorts (gather ledger config request) data.devices diagnostics).1
  links : ∃ diagnostics, data.links = (composeLinks (gather ledger config request) data.ports diagnostics).1
  attachments : ∃ diagnostics, data.attachments =
    (composeAttachments (gather ledger config request) data.devices data.ports diagnostics).1
  paths : ∃ diagnostics composed, composePaths config request.limits data.ports data.links data.attachments
    diagnostics = .ok composed ∧ data.paths = composed.1
  capacity : ∃ obligated diagnostics composed, composeCapacity config data.devices obligated diagnostics =
    .ok composed ∧ data.capacity = composed.1
  resources : ∃ inputs : ResourceInputs, data.resources = inputs.resources ∧
    inputs.gathered = gather ledger config request ∧ inputs.config = config ∧ inputs.devices = data.devices ∧
    inputs.ports = data.ports ∧ inputs.links = data.links ∧ inputs.attachments = data.attachments ∧
    inputs.paths = data.paths

theorem compose_composed {ledger : EvidenceLedger} {config : RackConfig} {request : ComposeInput}
    {outcome : ComposeOutcome} (composed : compose ledger config request = .ok outcome) :
    ∃ data, outcome.snapshot.handle = some data ∧ Composed ledger config request data := by
  simp only [compose, bind_eq_ok] at composed
  obtain ⟨_, _, _, _, _, _, _, _, _, _, _, _, _, _, pass, _, _, _, rest⟩ := composed
  obtain ⟨capacity, summed, rest⟩ := rest
  obtain ⟨paths, searched, rest⟩ := rest
  cases rest
  refine ⟨_, rfl, ?_⟩
  exact {
    devices := rfl
    ports := ⟨_, rfl⟩
    links := ⟨_, rfl⟩
    attachments := ⟨_, rfl⟩
    paths := ⟨_, _, searched, rfl⟩
    capacity := ⟨_, _, _, summed, rfl⟩
    resources := ⟨_, rfl, rfl, rfl, rfl, rfl, rfl, rfl, rfl⟩ }

/-- A composition hands out a snapshot of its own rack, and the passes settled what it holds. -/
theorem compose_stored {ledger : EvidenceLedger} {config : RackConfig} {request : ComposeInput}
    {outcome : ComposeOutcome} (composed : compose ledger config request = .ok outcome) :
    outcome.snapshot.valid = true ∧ outcome.snapshot.data.rack = config.rack ∧
      Composed ledger config request outcome.snapshot.data := by
  obtain ⟨data, held, passes⟩ := compose_composed composed
  obtain ⟨same, first, own, -⟩ := compose_header composed
  rw [held] at first
  cases first
  have stored : outcome.snapshot.data = data := by
    rw [Snapshot.data, held, Option.getD_some]
  have valid : outcome.snapshot.valid = true := by
    rw [Snapshot.valid, held, Option.isSome_some]
  rw [stored]
  exact ⟨valid, own, passes⟩

end RackFabric
