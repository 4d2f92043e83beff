import RackFabric.Compose.Lookup
import RackFabric.Compose.Selecting

/-!
What each pass publishes, record by record. A pass reports to the diagnostics as it goes, but the record it publishes
for an entry depends on the entry alone.
-/

namespace RackFabric

/-- A pass whose every step publishes what its entry alone determines publishes that of every entry. -/
theorem foldl_appends {σ α ε : Type} (published : σ → List α) {step : σ → ε → σ} (record : ε → Option α)
    (adds : ∀ state entry, published (step state entry) = published state ++ (record entry).toList)
    (entries : List ε) (start : σ) :
    published (entries.foldl step start) = published start ++ entries.filterMap record := by
  induction entries generalizing start with
  | nil => simp
  | cons entry rest ih =>
    rw [List.foldl_cons, ih, adds, List.append_assoc, List.filterMap_cons]
    cases record entry with
    | none => rfl
    | some value => rfl

private theorem mem_published {σ α β : Type} (published : σ → List α) {step : σ → UInt64 × β → σ}
    (record : UInt64 × β → Option α) (claims : Std.ExtTreeMap UInt64 β) {start : σ} (empty : published start = [])
    (adds : ∀ state entry, published (step state entry) = published state ++ (record entry).toList) (value : α) :
    value ∈ published (claims.toList.foldl step start) ↔
      ∃ id claim, claims[id]? = some claim ∧ record (id, claim) = some value := by
  rw [foldl_appends published record adds, empty, List.nil_append, List.mem_filterMap]
  simp only [Prod.exists, Std.ExtTreeMap.mem_toList_iff_getElem?_eq_some]

/-! ### Devices -/

/-- The record of a device that was observed, if it is a member. -/
def observedDevice (gathered : Gathered) (entry : UInt64 × Selection DeviceClaim) : Option DeviceRecord :=
  (composeDevice gathered ([], { limit := 0 }) entry).1.head?

/-- The record of a member that nobody observed. -/
def unobservedDevice (gathered : Gathered) (entry : UInt64 × MemberInfo) : Option DeviceRecord :=
  (composeUnobserved gathered ([], { limit := 0 }) entry).1.head?

theorem composeDevice_appends (gathered : Gathered) (state : List DeviceRecord × Diagnostics)
    (entry : UInt64 × Selection DeviceClaim) :
    (composeDevice gathered state entry).1 = state.1 ++ (observedDevice gathered entry).toList := by
  simp only [observedDevice, composeDevice]
  cases gathered.members[entry.1]? with
  | none => simp
  | some info => simp

theorem composeUnobserved_appends (gathered : Gathered) (state : List DeviceRecord × Diagnostics)
    (entry : UInt64 × MemberInfo) :
    (composeUnobserved gathered state entry).1 = state.1 ++ (unobservedDevice gathered entry).toList := by
  simp only [unobservedDevice, composeUnobserved]
  by_cases claimed : gathered.deviceClaims.contains entry.1 = true
  · simp [claimed]
  · simp [claimed]

theorem observedDevice_id {gathered : Gathered} {entry : UInt64 × Selection DeviceClaim} {device : DeviceRecord}
    (published : observedDevice gathered entry = some device) : device.id = entry.1 := by
  simp only [observedDevice, composeDevice] at published
  split at published
  · cases published
  · cases published
    rfl

/-- A published device is a member, either as it was observed or as nobody observed it. -/
theorem composeDevices_published {gathered : Gathered} {device : DeviceRecord}
    (member : device ∈ (composeDevices gathered).1) :
    (∃ claim, gathered.deviceClaims[device.id]? = some claim ∧
      observedDevice gathered (device.id, claim) = some device) ∨
      (gathered.deviceClaims[device.id]? = none ∧ ∃ info, gathered.members[device.id]? = some info ∧
        device = { id := device.id, incarnation := info.incarnation, eligibility := .incomplete }) := by
  have listed := (sortBy_perm _ _).mem_iff.mp (mem_of_uniqueBy member)
  rw [foldl_appends Prod.fst _ (composeUnobserved_appends gathered), List.mem_append] at listed
  rcases listed with seen | unseen
  · obtain ⟨id, claim, found, published⟩ :=
      (mem_published Prod.fst _ _ rfl (composeDevice_appends gathered) device).mp seen
    have own : device.id = id := observedDevice_id published
    exact .inl ⟨claim, own ▸ found, own ▸ published⟩
  · obtain ⟨⟨id, info⟩, entry, published⟩ := List.mem_filterMap.mp unseen
    simp only [unobservedDevice, composeUnobserved] at published
    split at published
    · cases published
    · rename_i unclaimed
      cases published
      simp only [Std.ExtTreeMap.contains_eq_isSome_getElem?, Bool.not_eq_true, Option.isSome_eq_false_iff,
        Option.isNone_iff_eq_none] at unclaimed
      exact .inr ⟨unclaimed, info, Std.ExtTreeMap.mem_toList_iff_getElem?_eq_some.mp entry, rfl⟩

/-! ### Ports -/

/-- The record of a port that was claimed on a member. -/
def publishedPort (gathered : Gathered) (devices : List DeviceRecord) (entry : UInt64 × Selection PortClaim) :
    Option PortRecord :=
  (composePort gathered devices { diagnostics := { limit := 0 } } entry).ports.head?

theorem composePort_appends (gathered : Gathered) (devices : List DeviceRecord) (pass : PortPass)
    (entry : UInt64 × Selection PortClaim) :
    (composePort gathered devices pass entry).ports =
      pass.ports ++ (publishedPort gathered devices entry).toList := by
  simp only [publishedPort, composePort]
  by_cases inside : gathered.members.contains entry.2.value.device = true
  · simp [inside]
  · simp [inside]

theorem publishedPort_id {gathered : Gathered} {devices : List DeviceRecord} {entry : UInt64 × Selection PortClaim}
    {port : PortRecord} (published : publishedPort gathered devices entry = some port) : port.id = entry.1 := by
  simp only [publishedPort, composePort] at published
  split at published
  · cases published
  · cases published
    rfl

theorem mem_composePorts (gathered : Gathered) (devices : List DeviceRecord) (diagnostics : Diagnostics)
    (port : PortRecord) :
    port ∈ (composePorts gathered devices diagnostics).1 ↔
      ∃ claim, gathered.portClaims[port.id]? = some claim ∧
        publishedPort gathered devices (port.id, claim) = some port := by
  refine (sortBy_perm _ _).mem_iff.trans ((mem_published PortPass.ports (publishedPort gathered devices) _ rfl
    (composePort_appends gathered devices) port).trans ?_)
  constructor
  · rintro ⟨id, claim, found, published⟩
    have own : port.id = id := publishedPort_id published
    exact ⟨claim, own ▸ found, own ▸ published⟩
  · rintro ⟨claim, found, published⟩
    exact ⟨port.id, claim, found, published⟩

/-! ### Links -/

/-- The record of a link that was claimed, whether or not its ports are known. -/
def publishedLink (gathered : Gathered) (ports : List PortRecord) (entry : UInt64 × Selection LinkClaim) :
    Option LinkRecord :=
  (composeLink gathered ports ([], { limit := 0 }) entry).1.head?

theorem composeLink_appends (gathered : Gathered) (ports : List PortRecord) (state : List LinkRecord × Diagnostics)
    (entry : UInt64 × Selection LinkClaim) :
    (composeLink gathered ports state entry).1 = state.1 ++ (publishedLink gathered ports entry).toList := by
  simp only [publishedLink, composeLink, composeJoinedLink]
  cases portRecord ports entry.2.value.portA with
  | none => simp
  | some a =>
    cases portRecord ports entry.2.value.portB with
    | none => simp
    | some b => simp

theorem publishedLink_some (gathered : Gathered) (ports : List PortRecord) (entry : UInt64 × Selection LinkClaim) :
    ∃ link, publishedLink gathered ports entry = some link ∧ link.id = entry.1 ∧
      link.portA = entry.2.value.portA ∧ link.portB = entry.2.value.portB := by
  simp only [publishedLink, composeLink, composeJoinedLink]
  cases portRecord ports entry.2.value.portA with
  | none => exact ⟨_, rfl, rfl, rfl, rfl⟩
  | some a =>
    cases portRecord ports entry.2.value.portB with
    | none => exact ⟨_, rfl, rfl, rfl, rfl⟩
    | some b => exact ⟨_, rfl, rfl, rfl, rfl⟩

theorem mem_composeLinks (gathered : Gathered) (ports : List PortRecord) (diagnostics : Diagnostics)
    (link : LinkRecord) :
    link ∈ (composeLinks gathered ports diagnostics).1 ↔
      ∃ claim, gathered.linkClaims[link.id]? = some claim ∧ publishedLink gathered ports (link.id, claim) = some link := by
  refine (sortBy_perm _ _).mem_iff.trans ((mem_published Prod.fst (publishedLink gathered ports) _ rfl
    (composeLink_appends gathered ports) link).trans ?_)
  constructor
  · rintro ⟨id, claim, found, published⟩
    obtain ⟨record, same, own, -⟩ := publishedLink_some gathered ports (id, claim)
    rw [published] at same
    cases same
    exact ⟨claim, own ▸ found, own ▸ published⟩
  · rintro ⟨claim, found, published⟩
    exact ⟨link.id, claim, found, published⟩

/-! ### Attachments -/

/-- The record of an attachment that was claimed, whether or not it binds. -/
def publishedAttachment (devices : List DeviceRecord) (ports : List PortRecord)
    (entry : UInt64 × Selection AttachmentClaim) : Option AttachmentRecord :=
  (composeAttachment devices ports ([], { limit := 0 }) entry).1.head?

theorem composeAttachment_appends (devices : List DeviceRecord) (ports : List PortRecord)
    (state : List AttachmentRecord × Diagnostics) (entry : UInt64 × Selection AttachmentClaim) :
    (composeAttachment devices ports state entry).1 =
      state.1 ++ (publishedAttachment devices ports entry).toList := by
  simp only [publishedAttachment, composeAttachment]
  cases deviceRecord devices entry.2.value.device with
  | none => simp
  | some device =>
    cases portRecord ports entry.2.value.port with
    | none => simp
    | some port =>
      dsimp only
      by_cases strange : port.device ≠ entry.2.value.device
      · simp [strange]
      rw [if_neg strange, if_neg strange]
      by_cases conflicted : entry.2.conflicted = true
      · simp [conflicted]
      rw [if_neg conflicted, if_neg conflicted]
      by_cases unusable : device.eligibility ≠ .eligible ∨ port.eligibility ≠ .eligible
      · simp [unusable]
      · simp [unusable]

theorem publishedAttachment_some (devices : List DeviceRecord) (ports : List PortRecord)
    (entry : UInt64 × Selection AttachmentClaim) :
    ∃ attachment, publishedAttachment devices ports entry = some attachment ∧ attachment.id = entry.1 ∧
      attachment.device = entry.2.value.device ∧ attachment.port = entry.2.value.port := by
  simp only [publishedAttachment, composeAttachment]
  cases deviceRecord devices entry.2.value.device with
  | none => exact ⟨_, rfl, rfl, rfl, rfl⟩
  | some device =>
    cases portRecord ports entry.2.value.port with
    | none => exact ⟨_, rfl, rfl, rfl, rfl⟩
    | some port =>
      dsimp only
      split
      · exact ⟨_, rfl, rfl, rfl, rfl⟩
      · split
        · exact ⟨_, rfl, rfl, rfl, rfl⟩
        · split
          · exact ⟨_, rfl, rfl, rfl, rfl⟩
          · exact ⟨_, rfl, rfl, rfl, rfl⟩

theorem mem_composeAttachments (gathered : Gathered) (devices : List DeviceRecord) (ports : List PortRecord)
    (diagnostics : Diagnostics) (attachment : AttachmentRecord) :
    attachment ∈ (composeAttachments gathered devices ports diagnostics).1 ↔
      ∃ claim, gathered.attachmentClaims[attachment.id]? = some claim ∧
        publishedAttachment devices ports (attachment.id, claim) = some attachment := by
  refine (sortBy_perm _ _).mem_iff.trans ((mem_published Prod.fst (publishedAttachment devices ports) _ rfl
    (composeAttachment_appends devices ports) attachment).trans ?_)
  constructor
  · rintro ⟨id, claim, found, published⟩
    obtain ⟨record, same, own, -⟩ := publishedAttachment_some devices ports (id, claim)
    rw [published] at same
    cases same
    exact ⟨claim, own ▸ found, own ▸ published⟩
  · rintro ⟨claim, found, published⟩
    exact ⟨attachment.id, claim, found, published⟩

/-! ### The passes one after another -/

section Passes

variable (ledger : EvidenceLedger) (config : RackConfig) (request : ComposeInput)

/-- The devices that the evidence gives rise to. -/
def composedDevices : List DeviceRecord :=
  (composeDevices (gather ledger config request)).1

def composedPorts : List PortRecord :=
  (composePorts (gather ledger config request) (composedDevices ledger config request) { limit := 0 }).1

def composedLinks : List LinkRecord :=
  (composeLinks (gather ledger config request) (composedPorts ledger config request) { limit := 0 }).1

def composedAttachments : List AttachmentRecord :=
  (composeAttachments (gather ledger config request) (composedDevices ledger config request)
    (composedPorts ledger config request) { limit := 0 }).1

end Passes

namespace Composed

variable {ledger : EvidenceLedger} {config : RackConfig} {request : ComposeInput} {data : SnapshotData}

theorem devices_eq (composed : Composed ledger config request data) :
    data.devices = composedDevices ledger config request :=
  composed.devices

theorem ports_eq (composed : Composed ledger config request data) :
    data.ports = composedPorts ledger config request := by
  obtain ⟨diagnostics, ports⟩ := composed.ports
  rw [ports, composed.devices_eq]
  exact composePorts_reported _ _ _ _

theorem links_eq (composed : Composed ledger config request data) :
    data.links = composedLinks ledger config request := by
  obtain ⟨diagnostics, links⟩ := composed.links
  rw [links, composed.ports_eq]
  exact composeLinks_reported _ _ _ _

theorem attachments_eq (composed : Composed ledger config request data) :
    data.attachments = composedAttachments ledger config request := by
  obtain ⟨diagnostics, attachments⟩ := composed.attachments
  rw [attachments, composed.devices_eq, composed.ports_eq]
  exact composeAttachments_reported _ _ _ _ _

theorem portRecord_iff (composed : Composed ledger config request data) {id : UInt64} {port : PortRecord} :
    portRecord data.ports id = some port ↔ port ∈ data.ports ∧ port.id = id :=
  findSorted_eq_some_iff idLess_asymm composed.ports_strict

theorem linkRecord_iff (composed : Composed ledger config request data) {id : UInt64} {link : LinkRecord} :
    linkRecord data.links id = some link ↔ link ∈ data.links ∧ link.id = id :=
  findSorted_eq_some_iff idLess_asymm composed.links_strict

theorem device_published (composed : Composed ledger config request data) {device : DeviceRecord}
    (member : device ∈ data.devices) :
    (∃ claim, (gather ledger config request).deviceClaims[device.id]? = some claim ∧
      observedDevice (gather ledger config request) (device.id, claim) = some device) ∨
      ((gather ledger config request).deviceClaims[device.id]? = none ∧
        ∃ info, (gather ledger config request).members[device.id]? = some info ∧
          device = { id := device.id, incarnation := info.incarnation, eligibility := .incomplete }) :=
  composeDevices_published (composed.devices ▸ member)

theorem port_published (composed : Composed ledger config request data) {port : PortRecord}
    (member : port ∈ data.ports) :
    ∃ claim, (gather ledger config request).portClaims[port.id]? = some claim ∧
      publishedPort (gather ledger config request) data.devices (port.id, claim) = some port := by
  obtain ⟨diagnostics, ports⟩ := composed.ports
  rw [ports] at member
  exact (mem_composePorts _ _ _ _).mp member

theorem port_listed (composed : Composed ledger config request data) {port : PortRecord} {claim : Selection PortClaim}
    (chosen : (gather ledger config request).portClaims[port.id]? = some claim)
    (published : publishedPort (gather ledger config request) data.devices (port.id, claim) = some port) :
    port ∈ data.ports := by
  obtain ⟨diagnostics, ports⟩ := composed.ports
  rw [ports]
  exact (mem_composePorts _ _ _ _).mpr ⟨claim, chosen, published⟩

theorem link_published (composed : Composed ledger config request data) {link : LinkRecord} :
    link ∈ data.links ↔ ∃ claim, (gather ledger config request).linkClaims[link.id]? = some claim ∧
      publishedLink (gather ledger config request) data.ports (link.id, claim) = some link := by
  obtain ⟨diagnostics, links⟩ := composed.links
  rw [links]
  exact mem_composeLinks _ _ _ _

theorem attachment_published (composed : Composed ledger config request data) {attachment : AttachmentRecord} :
    attachment ∈ data.attachments ↔
      ∃ claim, (gather ledger config request).attachmentClaims[attachment.id]? = some claim ∧
        publishedAttachment data.devices data.ports (attachment.id, claim) = some attachment := by
  obtain ⟨diagnostics, attachments⟩ := composed.attachments
  rw [attachments]
  exact mem_composeAttachments _ _ _ _ _

end Composed

end RackFabric
