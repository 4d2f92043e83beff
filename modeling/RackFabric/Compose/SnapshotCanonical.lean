import RackFabric.Compose.SnapshotCodec

/-!
The writer's side of the snapshot encoding, and with the reader's side that the encoding is a content address: it is
injective, re-encoding what decodes gives the same bytes, and no encoding begins or continues another.
-/

namespace RackFabric

open Foundation ByteReader ByteWriter

theorem puts_deviceRecord (writer : ByteWriter) (device : DeviceRecord) :
    Puts writer (encodeDeviceRecord writer device) (deviceRecordBytes device) True :=
  Puts.u64 (Puts.u8 (Puts.u64 (Puts.u64 (Puts.boolean (Puts.u8 (puts_raw _ _))))))

theorem puts_portRecord (writer : ByteWriter) (port : PortRecord) :
    Puts writer (encodePortRecord writer port) (portRecordBytes port) True :=
  Puts.u64 (Puts.u64 (Puts.u16 (Puts.u8 (Puts.u64 (Puts.boolean (Puts.u8 (Puts.u8 (puts_raw _ _))))))))

theorem puts_linkRecord (writer : ByteWriter) (link : LinkRecord) :
    Puts writer (encodeLinkRecord writer link) (linkRecordBytes link) True :=
  Puts.u64 (Puts.u64 (Puts.u64 (Puts.u8 (Puts.u64 (Puts.boolean (Puts.u8 (puts_raw _ _)))))))

theorem puts_attachmentRecord (writer : ByteWriter) (attachment : AttachmentRecord) :
    Puts writer (encodeAttachmentRecord writer attachment) (attachmentRecordBytes attachment)
      (ShortText kMaxTextField attachment.hostKey) := by
  refine Puts.congr (Puts.u64 (Puts.u64 (Puts.u64 (Puts.text (by decide) (puts_raw _ _))))) ?_
  simp

theorem puts_pathRecord (writer : ByteWriter) (path : PathRecord) :
    Puts writer (encodePathRecord writer path) (pathRecordBytes path) True := by
  refine Puts.congr (Puts.u64 (Puts.u64 (Puts.u64 (Puts.list (fun writer v => puts_raw writer (Blake2s256.le64 v))
    (Puts.u64 (Puts.boolean (puts_raw _ _))))))) ?_
  simp

theorem puts_maintenanceRecord (writer : ByteWriter) (record : MaintenanceRecord) :
    Puts writer (encodeMaintenanceRecord writer record) (maintenanceRecordBytes record)
      (ShortText kMaxTextField record.reason) :=
  Puts.u8 (Puts.u8 (Puts.u64 (Puts.u64 (Puts.u64 (puts_text _ _ (by decide))))))

theorem puts_obligationRecord (writer : ByteWriter) (record : ObligationRecord) :
    Puts writer (encodeObligationRecord writer record) (obligationRecordBytes record)
      (ShortText kMaxTextField record.authority) :=
  Puts.u64 (Puts.u8 (Puts.u64 (Puts.u64 (Puts.u64 (Puts.u64 (puts_text _ _ (by decide)))))))

theorem puts_diagnostic (writer : ByteWriter) (diagnostic : Diagnostic) :
    Puts writer (encodeDiagnostic writer diagnostic) (diagnosticBytes diagnostic)
      (ShortText kMaxDiagnosticDetail diagnostic.detail) :=
  Puts.u8 (Puts.u8 (Puts.u64 (Puts.u64 (puts_text _ _ (by decide)))))

theorem puts_capacityLedger (writer : ByteWriter) (capacity : CapacityLedger) :
    Puts writer (encodeCapacityLedger writer capacity) (capacityLedgerBytes capacity) True :=
  Puts.u64 (Puts.u64 (Puts.u64 (Puts.u64 (Puts.u64 (Puts.u64 (puts_raw _ _))))))

theorem puts_ownerRef (writer : ByteWriter) (owner : OwnerRef) :
    Puts writer ((writer.u64 owner.device).u64 owner.incarnation) (ownerRefBytes owner) True :=
  Puts.u64 (puts_raw _ _)

theorem puts_resource (writer : ByteWriter) (state : ResourceState) :
    Puts writer (encodeResource writer state) (resourceStateBytes state) True := by
  refine Puts.congr (Puts.u8 (Puts.u64 (Puts.u8 (Puts.u8 (Puts.boolean (Puts.u64 (Puts.u64 (Puts.boolean
    (puts_list puts_ownerRef _ state.owners))))))))) ?_
  simp

/-- The texts of a snapshot, which are all the encoder checks. -/
def SnapshotData.Legible (data : SnapshotData) : Prop :=
  (∀ attachment ∈ data.attachments, ShortText kMaxTextField attachment.hostKey) ∧
  (∀ record ∈ data.maintenance, ShortText kMaxTextField record.reason) ∧
  (∀ record ∈ data.obligations, ShortText kMaxTextField record.authority) ∧
  ∀ diagnostic ∈ data.diagnostics, ShortText kMaxDiagnosticDetail diagnostic.detail

/-- The encoder writes the snapshot's bytes exactly when its texts are legible and they fit. -/
theorem encodeSnapshotData_ok_iff {data : SnapshotData} {limit : Nat} {bytes : List UInt8} :
    (∃ written, encodeSnapshotData data { limit := limit } = .ok written ∧ written.buffer = bytes) ↔
      data.Legible ∧ bytes.length ≤ limit ∧ bytes = snapshotBytes data := by
  obtain ⟨next, step, puts⟩ : ∃ next, encodeSnapshotData data { limit := limit } =
      (if !next.ok then refuse .resourceExhausted "snapshot encoding exceeded its bound" else .ok next) ∧
      Puts { limit := limit } next (snapshotBytes data) data.Legible := by
    refine ⟨_, rfl, ?_⟩
    apply Puts.congr
    · iterate 3 apply Puts.u64
      apply Puts.u8
      iterate 2 apply Puts.digest
      apply (puts_capacityLedger _ _).trans
      apply Puts.list puts_deviceRecord
      apply Puts.list puts_portRecord
      apply Puts.list puts_linkRecord
      apply Puts.list puts_attachmentRecord
      apply Puts.list puts_pathRecord
      apply Puts.list puts_maintenanceRecord
      apply Puts.list puts_obligationRecord
      apply Puts.list puts_resource
      exact puts_list puts_diagnostic _ _
    · simp [SnapshotData.Legible]
  have okIff : next.ok = true ↔ data.Legible ∧ (snapshotBytes data).length ≤ limit := by
    rw [puts.ok]
    simp [size]
  rw [step]
  constructor
  · rintro ⟨written, encoded, rfl⟩
    split at encoded
    · cases encoded
    · rename_i good
      cases encoded
      have ok : next.ok = true := by simpa using good
      have spelled : next.buffer = snapshotBytes data := puts.buffer ok
      rw [spelled]
      exact ⟨(okIff.mp ok).1, (okIff.mp ok).2, rfl⟩
  · rintro ⟨legible, room, rfl⟩
    have ok : next.ok = true := okIff.mpr ⟨legible, room⟩
    refine ⟨next, ?_, puts.buffer ok⟩
    simp [ok]

/-! ### Injectivity -/

private theorem length_le_list {α : Type} (items : α → List UInt8) (positive : ∀ value, 0 < (items value).length)
    (values : List α) : values.length ≤ (listBytes items values).length := by
  have run : values.length ≤ (values.flatMap items).length := by
    induction values with
    | nil => simp
    | cons value rest ih =>
      have one := positive value
      rw [List.flatMap_cons, List.length_append, List.length_cons]
      omega
  rw [listBytes, List.length_append]
  omega

private theorem item_le_list {α : Type} {items : α → List UInt8} {values : List α} {value : α}
    (member : value ∈ values) : (items value).length ≤ (listBytes items values).length := by
  obtain ⟨front, back, rfl⟩ := List.append_of_mem member
  simp only [listBytes, List.flatMap_append, List.flatMap_cons, List.length_append]
  omega

private theorem starts_u64 (value : UInt64) (more : List UInt8) : 0 < (Blake2s256.le64 value ++ more).length := by
  rw [List.length_append, Blake2s256.length_le64]
  omega

private theorem links_le_path (path : PathRecord) : path.links.length ≤ (pathRecordBytes path).length := by
  have links := length_le_list Blake2s256.le64 (fun value => by simp) path.links
  simp only [pathRecordBytes, List.length_append]
  omega

private theorem owners_le_resource (state : ResourceState) : state.owners.length ≤ (resourceStateBytes state).length := by
  have owners := length_le_list ownerRefBytes (fun value => starts_u64 _ _) state.owners
  simp only [resourceStateBytes, List.length_append]
  omega

/-- Bounds as wide as a count can be. -/
def widestBounds : SnapshotBounds :=
  let most := 2 ^ 32 - 1
  ⟨most, most, most, most, most, most, most, most, most, most, most⟩

theorem widestBounds_countable : widestBounds.Countable := by
  constructor <;> decide

theorem SnapshotData.Within.legible {bounds : SnapshotBounds} {data : SnapshotData} (within : data.Within bounds) :
    data.Legible := by
  obtain ⟨-, -, -, ⟨-, hostKeys⟩, -, ⟨-, reasons⟩, ⟨-, authorities⟩, -, ⟨-, details⟩⟩ := within
  exact ⟨hostKeys, reasons, authorities, details⟩

/-- A snapshot whose encoding is shorter than a count can say is within the widest bounds. -/
theorem within_widest {data : SnapshotData} (legible : data.Legible) (short : (snapshotBytes data).length < 2 ^ 32) :
    data.Within widestBounds := by
  obtain ⟨hostKeys, reasons, authorities, details⟩ := legible
  simp only [snapshotBytes, List.length_append] at short
  have devices := length_le_list deviceRecordBytes (fun value => starts_u64 _ _) data.devices
  have ports := length_le_list portRecordBytes (fun value => starts_u64 _ _) data.ports
  have links := length_le_list linkRecordBytes (fun value => starts_u64 _ _) data.links
  have attachments := length_le_list attachmentRecordBytes (fun value => starts_u64 _ _) data.attachments
  have paths := length_le_list pathRecordBytes (fun value => starts_u64 _ _) data.paths
  have maintenance := length_le_list maintenanceRecordBytes (fun value => Nat.succ_pos _) data.maintenance
  have obligations := length_le_list obligationRecordBytes (fun value => starts_u64 _ _) data.obligations
  have resources := length_le_list resourceStateBytes (fun value => Nat.succ_pos _) data.resources
  have diagnostics := length_le_list diagnosticBytes (fun value => Nat.succ_pos _) data.diagnostics
  have pathLinks : ∀ path ∈ data.paths, path.links.length ≤ (listBytes pathRecordBytes data.paths).length :=
    fun path member => Nat.le_trans (links_le_path path) (item_le_list member)
  have owners : ∀ state ∈ data.resources, state.owners.length ≤ (listBytes resourceStateBytes data.resources).length :=
    fun state member => Nat.le_trans (owners_le_resource state) (item_le_list member)
  unfold SnapshotData.Within widestBounds
  refine ⟨?_, ?_, ?_, ⟨?_, hostKeys⟩, ⟨?_, ?_⟩, ⟨?_, reasons⟩, ⟨?_, authorities⟩, ⟨?_, ?_⟩, ⟨?_, details⟩⟩
  all_goals dsimp only
  · omega
  · omega
  · omega
  · omega
  · omega
  · intro path member
    have own := pathLinks path member
    omega
  · omega
  · omega
  · omega
  · intro state member
    have own := owners state member
    omega
  · omega

/-- The snapshot encoding is injective within its limit, re-encoding what decodes gives the same bytes, and what
decodes decodes neither cut short nor continued. -/
theorem snapshot_encoding_canonical :
    (∀ (x y : SnapshotData) (first second : ByteWriter),
      encodeSnapshotData x { limit := defaultComposeLimits.maxEncodedSnapshot } = .ok first →
      encodeSnapshotData y { limit := defaultComposeLimits.maxEncodedSnapshot } = .ok second →
      first.buffer = second.buffer → x = y) ∧
    ∀ (bytes : List UInt8) (data : SnapshotData), decodeSnapshot bytes = .ok data →
      (∀ limit, bytes.length ≤ limit →
        ∃ written, encodeSnapshotData data { limit := limit } = .ok written ∧ written.buffer = bytes) ∧
      (∀ front back, front ++ back = bytes → back ≠ [] → ∃ status, decodeSnapshot front = .error status) ∧
      ∀ more, more ≠ [] → ∃ status, decodeSnapshot (bytes ++ more) = .error status := by
  constructor
  · intro x y first second encodedX encodedY same
    obtain ⟨legibleX, shortX, spelledX⟩ := encodeSnapshotData_ok_iff.mp ⟨first, encodedX, rfl⟩
    obtain ⟨legibleY, shortY, spelledY⟩ := encodeSnapshotData_ok_iff.mp ⟨second, encodedY, rfl⟩
    have limit : defaultComposeLimits.maxEncodedSnapshot < 2 ^ 32 := by decide
    rw [spelledX] at shortX
    rw [spelledY] at shortY
    rw [spelledX, spelledY] at same
    exact (exact_sections widestBounds_countable).injective (within_widest legibleX (by omega))
      (within_widest legibleY (by omega)) same
  · intro bytes data decoded
    obtain ⟨within, closes, rfl⟩ := decodeSnapshot_ok_iff.mp decoded
    have sections := exact_sections decodeBounds_countable
    refine ⟨?_, ?_, ?_⟩
    · intro limit room
      exact encodeSnapshotData_ok_iff.mpr ⟨within.legible, room, rfl⟩
    · intro front back split proper
      cases again : decodeSnapshot front with
      | error status => exact ⟨status, rfl⟩
      | ok other =>
        obtain ⟨otherWithin, -, rfl⟩ := decodeSnapshot_ok_iff.mp again
        exact absurd (sections.prefixFree otherWithin within split) proper
    · intro more proper
      cases again : decodeSnapshot (snapshotBytes data ++ more) with
      | error status => exact ⟨status, rfl⟩
      | ok other =>
        obtain ⟨otherWithin, -, split⟩ := decodeSnapshot_ok_iff.mp again
        exact absurd (sections.prefixFree within otherWithin split) proper

/-- A snapshot with an entry in every section. -/
def stockedSnapshot : SnapshotData where
  rack := 7
  generation := 4
  epoch := 2
  lifecycle := .active
  capacity := { total := 10, unavailable := 2, usable := 8, obligated := 3, headroomFloor := 1, uncommitted := 4 }
  devices := [{ id := 3, role := .switch, incarnation := 1, capacity := 10, capacityKnown := true }]
  ports := [⟨4, 3, 0, .access, 5, true, .up, .enabled, .eligible⟩,
    ⟨5, 3, 1, .uplink, 0, false, .down, .draining, .incomplete⟩]
  links := [⟨6, 4, 5, .physical, 9, true, .degraded, .ineligible⟩]
  attachments := [⟨8, 3, 4, text "host-a", .eligible⟩]
  paths := [⟨9, 4, 5, [6], 9, true, .ineligible⟩]
  maintenance := [⟨.drain, ⟨.port, 5⟩, text "optics", 1, 12⟩]
  obligations := [⟨2, ⟨.device, 3⟩, 3, 1, text "operator", 1⟩]
  resources := [⟨⟨.link, 6⟩, .ineligible, .degraded, true, 9, 3, false, [⟨3, 1⟩]⟩]
  diagnostics := [⟨.maintenanceExclusion, .port, 5, 1, text "port excluded"⟩]

/-- The same snapshot with one flag turned. -/
def stockedTwin : SnapshotData :=
  { stockedSnapshot with links := [⟨6, 4, 5, .physical, 9, false, .degraded, .ineligible⟩] }

theorem stockedSnapshot_decodes : decodeSnapshot (snapshotBytes stockedSnapshot) = .ok stockedSnapshot := by
  refine decodeSnapshot_ok_iff.mpr ⟨?_, by decide, rfl⟩
  simp [SnapshotData.Within, stockedSnapshot]
  decide

/-- The snapshot and its twin encode apart; the snapshot is encoded as what was decoded, within exactly its own length;
and it decodes neither cut short nor with another byte after it. -/
theorem stocked_snapshot_canonical :
    (∃ first second,
      encodeSnapshotData stockedSnapshot { limit := defaultComposeLimits.maxEncodedSnapshot } = .ok first ∧
      encodeSnapshotData stockedTwin { limit := defaultComposeLimits.maxEncodedSnapshot } = .ok second ∧
      first.buffer ≠ second.buffer) ∧
    (∃ written, encodeSnapshotData stockedSnapshot { limit := (snapshotBytes stockedSnapshot).length } = .ok written ∧
      written.buffer = snapshotBytes stockedSnapshot) ∧
    (∃ status, decodeSnapshot ((snapshotBytes stockedSnapshot).take 100) = .error status) ∧
    ∃ status, decodeSnapshot (snapshotBytes stockedSnapshot ++ [0]) = .error status := by
  have legible : stockedSnapshot.Legible ∧ stockedTwin.Legible := by
    simp [SnapshotData.Legible, stockedTwin, stockedSnapshot]
    decide
  have room : (snapshotBytes stockedSnapshot).length ≤ defaultComposeLimits.maxEncodedSnapshot := by decide +kernel
  have room' : (snapshotBytes stockedTwin).length ≤ defaultComposeLimits.maxEncodedSnapshot := by decide +kernel
  obtain ⟨first, encodes, -⟩ := encodeSnapshotData_ok_iff.mpr ⟨legible.1, room, rfl⟩
  obtain ⟨second, encodes', -⟩ := encodeSnapshotData_ok_iff.mpr ⟨legible.2, room', rfl⟩
  obtain ⟨again, short, long⟩ := snapshot_encoding_canonical.2 _ _ stockedSnapshot_decodes
  refine ⟨⟨first, second, encodes, encodes', ?_⟩, again _ (Nat.le_refl _), ?_, long [0] (by simp)⟩
  · intro same
    have equal := snapshot_encoding_canonical.1 _ _ _ _ encodes encodes' same
    exact absurd equal (by decide)
  · exact short _ _ (List.take_append_drop 100 _) (by decide +kernel)

end RackFabric
