import RackFabric.Persist.Refinement

/-!
Calls of an opened store, and deaths inside them, over bytes and over records.
-/

namespace RackFabric.OnDisk

open Foundation

variable {options : Options} {directory : Directory} {disk : Disk} {store : Store} {other : RackFabric.Store}

/-- What the callers of the store keep to: evidence is validated and pools are bounded before they are logged, and a
checkpoint is taken of validated evidence at the end of the log. -/
def Proper (store : Store) : StoreCall → Prop
  | .append record => record.Decodable
  | .writeCheckpoint checkpoint =>
    checkpoint.readable = true ∧ checkpoint.walOffset = store.logBytes ∧ store.logBytes < 2 ^ 64
  | _ => True

instance (store : Store) : DecidablePred (Proper store)
  | .append record => inferInstanceAs (Decidable record.Decodable)
  | .writeCheckpoint checkpoint => inferInstanceAs (Decidable (checkpoint.readable = true ∧
      checkpoint.walOffset = store.logBytes ∧ store.logBytes < 2 ^ 64))
  | .markCleanShutdown _ | .nextIncarnation | .bindRack _ => .isTrue trivial

/-- A frame that was written whole holds its record as well. -/
theorem Directory.Holds.grown (holds : directory.Holds options disk) {frames : Store.Frames options}
    (held : HoldsLog options directory.log disk.log frames []) (frame : Written (readFrame options.maxRecordBytes))
    (size : frameSize options.toStoreOptions frame.value = frame.items.length) :
    ({ directory with wal := some (directory.log ++ frame.items) } : Directory).Holds options
      { disk with wal := some (disk.log ++ [frame.value]) } where
  manifest := holds.manifest
  file := holds.file
  checkpoint := holds.checkpoint
  boundary := by
    intro checkpoint readable
    obtain ⟨short, covered, rest, split, offset⟩ := holds.boundary checkpoint readable
    refine ⟨short, covered, rest ++ [frame.value], ?_, offset⟩
    show disk.log ++ [frame.value] = _
    rw [split, List.append_assoc]
  wal := rfl
  log := by
    refine ⟨frames ++ [frame], [], ?_, ?_, ?_, .cleanEnd, readFrame_nil _⟩
    · intro each member
      rcases List.mem_append.mp member with member | member
      · exact held.sized each member
      · rw [List.mem_singleton.mp member]
        exact size
    · rw [List.map_append, held.values]
      rfl
    · show directory.log ++ frame.items = _
      rw [joined_append, List.append_nil, held.bytes, List.append_nil]
      simp [joined]

/-- A frame that was cut short holds nothing. -/
theorem Directory.Holds.torn (holds : directory.Holds options disk) (begun : disk.wal.isSome = true)
    {frames : Store.Frames options} (held : HoldsLog options directory.log disk.log frames []) {tail : List UInt8}
    (stops : ∃ stop, readFrame options.maxRecordBytes tail = .error stop) :
    ({ directory with wal := some (directory.log ++ tail) } : Directory).Holds options disk where
  manifest := holds.manifest
  file := holds.file
  checkpoint := holds.checkpoint
  boundary := holds.boundary
  wal := begun.symm
  log := by
    refine ⟨frames, tail, held.sized, held.values, ?_, stops⟩
    show directory.log ++ tail = _
    rw [held.bytes, List.append_nil]

/-- The new checkpoint file is in place. -/
theorem Directory.Holds.replaced (holds : directory.Holds options disk) (sized : options.Sized)
    {checkpoint : Checkpoint} {bytes : List UInt8}
    (built : buildCheckpointBytes checkpoint options.maxCheckpointBytes = .ok bytes)
    (readable : checkpoint.readable = true) (short : checkpoint.walOffset < 2 ^ 64)
    (ends : checkpoint.walOffset = logSize options.toStoreOptions disk.log) :
    ({ directory with checkpoint := some bytes } : Directory).Holds options
      { disk with checkpoint := .intact checkpoint } where
  manifest := holds.manifest
  file := ⟨nofun, nofun⟩
  checkpoint := by
    rw [readableCheckpoint_built sized built readable short rfl, Disk.readableCheckpoint]
    simp only [readable, if_true]
  boundary := by
    intro found read
    rw [Disk.readableCheckpoint] at read
    simp only [readable, if_true, Option.some.injEq] at read
    subst read
    exact ⟨short, disk.log, [], (List.append_nil _).symm, ends⟩
  wal := holds.wal
  log := holds.log

namespace Models

theorem fields (models : Models options store other) : store.recovered = other.recovered ∧
    store.logBytes = other.logBytes ∧ store.appends = other.appends ∧
    store.incarnationCounter = other.incarnationCounter ∧
    store.checkpointLength.toNat = other.checkpointLength ∧ store.boundRack = other.boundRack := by
  simpa only [Store.view, RackFabric.Store.view, StoreView.mk.injEq] using models.view

/-- The log of an opened store is whole frames. -/
theorem whole (models : Models options store other) :
    ∃ frames, HoldsLog options store.directory.log other.disk.log frames [] := by
  obtain ⟨frames, tail, held⟩ := models.holds.log
  have size := joined_length held.sized
  have ends := models.ends
  rw [models.counted, held.bytes, List.length_append, size, held.values] at ends
  have none : tail = [] := List.eq_nil_of_length_eq_zero (by omega)
  subst none
  exact ⟨frames, held⟩

theorem manifestOf (models : Models options store other) : store.manifestOf.meaning = other.manifestOf := by
  obtain ⟨recovered, -, -, counter, length, rack⟩ := models.fields
  have offset : (UInt64.ofNat other.recovered.checkpoint.walOffset).toNat = other.recovered.checkpoint.walOffset :=
    UInt64.toNat_ofNat_of_lt' models.offset
  unfold Store.manifestOf RackFabric.Store.manifestOf Manifest.meaning
  simp only [recovered, counter, rack, offset, apply_ite UInt64.toNat, length]
  rfl

/-- A new manifest, with whatever else the calls that write one change. -/
theorem persisted (models : Models options store other) {manifest : Manifest}
    (current : manifest.formatVersion = kStateFormatVersion) {next : Store} {after : RackFabric.Store}
    (under : next.options = store.options) (same : after.options = other.options) (quiet : after.io = other.io)
    (files : next.directory = { store.directory with manifest := some (encodeMeta manifest) })
    (held : after.disk = { other.disk with manifest := .intact manifest.meaning }) (view : next.view = after.view)
    (counted : next.logBytes = store.logBytes)
    (offset : after.recovered.checkpoint.walOffset = other.recovered.checkpoint.walOffset) :
    Models options next after where
  under := under.trans models.under
  same := same.trans models.same
  quiet := quiet.trans models.quiet
  begun := by
    rw [held]
    exact models.begun
  view := view
  offset := by
    rw [offset]
    exact models.offset
  holds := by
    rw [files, held]
    exact models.holds.persistMeta current
  ends := by
    rw [files, counted]
    exact models.ends
  counted := by
    rw [held, counted]
    exact models.counted

theorem append (models : Models options store other) {record : StoreRecord} (decodable : record.Decodable) :
    Models options (store.append record .done).1 (other.append record).1 ∧
      (store.append record .done).2 = (other.append record).2 := by
  have limits : store.options.maxRecordBytes = other.options.maxRecordBytes := by rw [models.under, models.same]
  rcases RackFabric.Store.append_cases models.quiet record with ⟨writer, encoded, appended⟩ | ⟨status, encoded, failed⟩
  · rw [← limits] at encoded
    obtain ⟨bytes, within, legible⟩ := encodeStoreRecord_ok encoded
    rw [models.under] at encoded within
    obtain ⟨frames, held⟩ := models.whole
    obtain ⟨recovered, count, appends, counter, length, rack⟩ := models.fields
    have size : frameSize options.toStoreOptions record = kWalHeaderSize + writer.size := by
      simp only [frameSize, encoded]
    have grown := models.holds.grown held (writtenRecord record decodable legible within)
      (Store.frameSize_encoded encoded)
    rw [appended]
    simp only [Store.append, models.under, encoded, and_true]
    rw [bytes]
    constructor
    · exact models.under
    · exact models.same
    · exact models.quiet
    · rfl
    · simp only [Store.view, RackFabric.Store.view, RackFabric.Store.appended, Store.extend, RackFabric.Store.write,
        models.same, size, recovered, count, appends, counter, length, rack]
    · exact models.offset
    · exact grown
    · show (store.directory.log ++ frameBytes (recordBytes record)).length = _
      rw [List.length_append, models.ends, length_frameBytes, ByteWriter.size, bytes]
    · show store.logBytes + (kWalHeaderSize + writer.size) = logSize _ (other.disk.log ++ [record])
      rw [logSize_append, size, models.counted]
  · rw [← limits] at encoded
    rw [failed]
    simp only [Store.append, encoded]
    exact ⟨models, trivial⟩

theorem markCleanShutdown (models : Models options store other) (atMs : UInt64) :
    Models options (store.markCleanShutdown atMs) (other.markCleanShutdown atMs).1 ∧
      (other.markCleanShutdown atMs).2 = .ok () := by
  obtain ⟨recovered, count, appends, counter, length, rack⟩ := models.fields
  have manifest := models.manifestOf
  unfold RackFabric.Store.markCleanShutdown
  rw [RackFabric.Store.persistMeta_quiet models.quiet]
  refine ⟨models.persisted rfl rfl rfl rfl rfl ?_ ?_ rfl rfl, rfl⟩
  · rw [← manifest, ← length]
    rfl
  · simp only [Store.view, RackFabric.Store.view, Store.markCleanShutdown, Store.persistMeta,
      RackFabric.Store.write, recovered, count, appends, counter, length, rack]

theorem bindRack (models : Models options store other) (rack : UInt64) :
    Models options (store.bindRack rack) (other.bindRack rack).1 ∧ (other.bindRack rack).2 = .ok () := by
  obtain ⟨recovered, count, appends, counter, length, -⟩ := models.fields
  have bound : Models options { store with boundRack := rack } { other with boundRack := rack } :=
    ⟨models.under, models.same, models.quiet, models.begun, by
      simp only [Store.view, RackFabric.Store.view, recovered, count, appends, counter, length], models.offset,
      models.holds, models.ends, models.counted⟩
  have manifest := bound.manifestOf
  unfold RackFabric.Store.bindRack
  rw [RackFabric.Store.persistMeta_quiet bound.quiet]
  refine ⟨bound.persisted rfl rfl rfl rfl rfl ?_ bound.view rfl rfl, rfl⟩
  rw [manifest]
  rfl

theorem nextIncarnation (models : Models options store other) :
    (∃ status, store.nextIncarnation = .error status ∧ other.nextIncarnation = (other, .error status)) ∨
      ∃ next after, store.nextIncarnation = .ok next ∧
        other.nextIncarnation = (after, .ok next.incarnationCounter) ∧ Models options next after := by
  obtain ⟨recovered, count, appends, counter, length, rack⟩ := models.fields
  unfold Store.nextIncarnation RackFabric.Store.nextIncarnation
  rw [counter]
  by_cases spent : other.incarnationCounter = maxU64
  · rw [if_pos spent, if_pos spent]
    exact .inl ⟨_, rfl, rfl⟩
  · rw [if_neg spent, if_neg spent]
    have bumped : Models options { store with incarnationCounter := other.incarnationCounter + 1 }
        { other with incarnationCounter := other.incarnationCounter + 1 } :=
      ⟨models.under, models.same, models.quiet, models.begun, by
        simp only [Store.view, RackFabric.Store.view, recovered, count, appends, length, rack], models.offset,
        models.holds, models.ends, models.counted⟩
    have manifest := bumped.manifestOf
    dsimp only
    rw [RackFabric.Store.persistMeta_quiet bumped.quiet]
    refine .inr ⟨_, _, rfl, rfl, bumped.persisted rfl rfl rfl rfl rfl ?_ bumped.view rfl rfl⟩
    rw [manifest]
    rfl

theorem pointingAt (models : Models options store other) (sized : options.Sized) {checkpoint : Checkpoint}
    {bytes body : List UInt8} (made : checkpoint.body options.maxCheckpointBytes = .ok body)
    (length : bytes.length = kCheckpointHeaderSize + body.length) (short : checkpoint.walOffset < 2 ^ 64) :
    (UInt64.ofNat bytes.length).toNat = kCheckpointHeaderSize + body.length ∧
      (store.pointingAt checkpoint (UInt64.ofNat bytes.length)).meaning =
        other.pointingAt checkpoint (kCheckpointHeaderSize + body.length) := by
  obtain ⟨-, -, -, counter, -, rack⟩ := models.fields
  have bound := (body_bytes made).2.1
  have counted : (UInt64.ofNat bytes.length).toNat = kCheckpointHeaderSize + body.length := by
    rw [length]
    apply UInt64.toNat_ofNat_of_lt'
    unfold Options.Sized at sized
    rw [Nat.add_comm]
    exact Nat.lt_of_le_of_lt (Nat.add_le_add_right bound _) sized
  have offset : (UInt64.ofNat checkpoint.walOffset).toNat = checkpoint.walOffset := UInt64.toNat_ofNat_of_lt' short
  refine ⟨counted, ?_⟩
  simp only [Manifest.meaning, Store.pointingAt, RackFabric.Store.pointingAt, counted, offset, counter, rack]

theorem writeCheckpoint (models : Models options store other) (sized : options.Sized) {checkpoint : Checkpoint}
    (proper : Proper store (.writeCheckpoint checkpoint)) :
    Models options (store.writeCheckpoint checkpoint).1 (other.writeCheckpoint checkpoint).1 ∧
      (store.writeCheckpoint checkpoint).2 = (other.writeCheckpoint checkpoint).2 := by
  obtain ⟨readable, offset, small⟩ := proper
  have bound : other.options.maxCheckpointBytes = options.maxCheckpointBytes := by rw [models.same]
  cases made : checkpoint.body options.maxCheckpointBytes with
  | error status =>
    simp only [Store.writeCheckpoint, RackFabric.Store.writeCheckpoint, models.under, bound, made,
      build_of_error made]
    exact ⟨models, trivial⟩
  | ok body =>
    obtain ⟨bytes, built, length⟩ := build_of_body made
    obtain ⟨recovered, count, appends, counter, -, rack⟩ := models.fields
    have short : checkpoint.walOffset < 2 ^ 64 := by rwa [offset]
    obtain ⟨counted, pointing⟩ := models.pointingAt sized made length short
    have replaced := models.holds.replaced sized built readable short (offset.trans models.counted)
    have pointed := replaced.persistMeta
      (show (store.pointingAt checkpoint (UInt64.ofNat bytes.length)).formatVersion = kStateFormatVersion from rfl)
    rw [pointing] at pointed
    rw [RackFabric.Store.writeCheckpoint_quiet models.quiet (bound.symm ▸ made)]
    simp only [Store.writeCheckpoint, models.under, built, and_true]
    constructor
    · exact models.under
    · exact models.same
    · exact models.quiet
    · exact models.begun
    · simp only [Store.view, RackFabric.Store.view, Store.persistMeta, Store.withCheckpoint, recovered, count, appends,
        counter, counted, rack]
    · exact short
    · exact pointed
    · exact models.ends
    · exact models.counted

/-- Every call is answered the same and leaves related stores. -/
theorem serve (models : Models options store other) (sized : options.Sized) {call : StoreCall}
    (proper : Proper store call) :
    Models options (store.exec call).1 (other.exec call).1 ∧ (store.exec call).2 = (other.exec call).2 := by
  cases call with
  | append record =>
    obtain ⟨next, same⟩ := models.append proper
    simp only [Store.exec, RackFabric.Store.exec, same]
    exact ⟨next, trivial⟩
  | writeCheckpoint checkpoint =>
    obtain ⟨next, same⟩ := models.writeCheckpoint sized proper
    simp only [Store.exec, RackFabric.Store.exec, same]
    exact ⟨next, trivial⟩
  | markCleanShutdown atMs =>
    obtain ⟨next, done⟩ := models.markCleanShutdown atMs
    simp only [Store.exec, RackFabric.Store.exec, done]
    exact ⟨next, rfl⟩
  | nextIncarnation =>
    simp only [Store.exec, RackFabric.Store.exec]
    rcases models.nextIncarnation with ⟨status, failed, failed'⟩ | ⟨next, after, done, done', later⟩
    · rw [failed, failed']
      exact ⟨models, rfl⟩
    · rw [done, done']
      exact ⟨later, rfl⟩
  | bindRack rack =>
    obtain ⟨next, done⟩ := models.bindRack rack
    simp only [Store.exec, RackFabric.Store.exec, done]
    exact ⟨next, rfl⟩

/-- A death after everything a call writes. -/
theorem cutLast (models : Models options store other) (sized : options.Sized) {call : StoreCall}
    (proper : Proper store call) : ∃ far, (store.exec call).1.directory.Holds options (other.cut call far) := by
  obtain ⟨far, last⟩ := RackFabric.Store.cut_last models.quiet call
  have fresh : Models options store { other with trail := [] } :=
    ⟨models.under, models.same, models.quiet, models.begun, models.view, models.offset, models.holds, models.ends,
      models.counted⟩
  refine ⟨far, ?_⟩
  rw [last]
  exact (fresh.serve sized proper).1.holds

/-- Whatever byte of an append's frame a process dies at, the record is there or nothing of it is. -/
theorem cutAppend (models : Models options store other) (sized : options.Sized) {record : StoreRecord}
    (decodable : record.Decodable) (reached : Nat) :
    ∃ far, (store.cut (.append record) reached).Holds options (other.cut (.append record) far) := by
  cases encoded : encodeStoreRecord record { limit := options.maxRecordBytes } with
  | error status =>
    refine ⟨0, ?_⟩
    simp only [Store.cut, models.under, encoded]
    exact models.holds
  | ok writer =>
    obtain ⟨bytes, within, legible⟩ := encodeStoreRecord_ok encoded
    by_cases all : (frameBytes writer.buffer).length ≤ reached
    · obtain ⟨far, whole⟩ := models.cutLast sized (show Proper store (.append record) from decodable)
      refine ⟨far, ?_⟩
      simp only [Store.cut, models.under, encoded, List.take_of_length_le all]
      simp only [Store.exec, Store.append, models.under, encoded] at whole
      exact whole
    · obtain ⟨frames, held⟩ := models.whole
      refine ⟨0, ?_⟩
      simp only [Store.cut, models.under, encoded]
      refine models.holds.torn models.begun held ?_
      rw [bytes] at all ⊢
      exact (writtenRecord record decodable legible within).torn reached (Nat.lt_of_not_le all)

/-- Whatever step of writing a checkpoint a process dies at, the files hold a directory it passes through. -/
theorem cutCheckpoint (models : Models options store other) (sized : options.Sized) {checkpoint : Checkpoint}
    (proper : Proper store (.writeCheckpoint checkpoint)) (reached : Nat) :
    ∃ far, (store.cut (.writeCheckpoint checkpoint) reached).Holds options
      (other.cut (.writeCheckpoint checkpoint) far) := by
  have whole := models.cutLast sized proper
  obtain ⟨readable, offset, small⟩ := proper
  have bound : other.options.maxCheckpointBytes = options.maxCheckpointBytes := by rw [models.same]
  cases made : checkpoint.body options.maxCheckpointBytes with
  | error status =>
    refine ⟨0, ?_⟩
    simp only [Store.cut, models.under, build_of_error made]
    exact models.holds
  | ok body =>
    obtain ⟨bytes, built, -⟩ := build_of_body made
    have fresh : ({ other with trail := [] } : RackFabric.Store).io = [] := models.quiet
    have passed := RackFabric.Store.writeCheckpoint_quiet fresh (bound.symm ▸ made)
    simp only [Store.cut, models.under, built]
    match reached with
    | 0 => exact ⟨0, models.holds⟩
    | 1 =>
      by_cases absent : other.disk.checkpoint = .absent
      · refine ⟨0, ?_⟩
        have rotated := models.holds.rotated
        rw [← absent] at rotated
        exact rotated
      · have there : { other.disk with checkpoint := FileContent.absent } ∈
            (RackFabric.Store.exec { other with trail := [] } (.writeCheckpoint checkpoint)).1.trail := by
          simp only [RackFabric.Store.exec, passed, RackFabric.Store.rotations, if_neg absent]
          exact List.mem_cons_self
        obtain ⟨far, left⟩ := RackFabric.Store.cut_of_mem there
        refine ⟨far, ?_⟩
        rw [left]
        exact models.holds.rotated
    | 2 =>
      have there : { other.disk with checkpoint := FileContent.intact checkpoint } ∈
          (RackFabric.Store.exec { other with trail := [] } (.writeCheckpoint checkpoint)).1.trail := by
        simp only [RackFabric.Store.exec, passed, List.nil_append]
        exact List.mem_append_right _ List.mem_cons_self
      obtain ⟨far, left⟩ := RackFabric.Store.cut_of_mem there
      refine ⟨far, ?_⟩
      rw [left]
      exact models.holds.replaced sized built readable (offset.symm ▸ small) (offset.trans models.counted)
    | _ + 3 => exact whole

theorem cut (models : Models options store other) (sized : options.Sized) {call : StoreCall}
    (proper : Proper store call) (reached : Nat) :
    ∃ far, (store.cut call reached).Holds options (other.cut call far) := by
  have whole := models.cutLast sized proper
  cases call with
  | append record => exact models.cutAppend sized proper reached
  | writeCheckpoint checkpoint => exact models.cutCheckpoint sized proper reached
  | markCleanShutdown atMs | nextIncarnation | bindRack rack =>
    simp only [Store.cut]
    split
    · exact ⟨0, models.holds⟩
    · exact whole

end Models

theorem Directory.Holds.cutOpening (holds : directory.Holds options disk) (reached : Nat) :
    ∃ far, (Store.cutOpening options directory reached).Holds options
      (RackFabric.Store.cutOpening options.toStoreOptions disk far) := by
  refine ⟨reached, ?_⟩
  cases reached with
  | zero => exact holds
  | succ reached =>
    simp only [Store.cutOpening, RackFabric.Store.cutOpening]
    rcases holds.opens with ⟨failure, failed, failed'⟩ | ⟨store, other, opened, opened', models, -⟩
    · rw [failed, failed']
      exact holds
    · rw [opened, opened']
      exact models.holds

/-- The store over bytes refines the store over records. -/
theorem refines (sized : options.Sized) :
    Refines (Store.keeper options) (RackFabric.Store.keeper options.toStoreOptions) (Directory.Holds options)
      (Models options) Proper where
  opened := by
    intro directory disk holds
    rcases holds.opens with failed | ⟨store, other, opened, opened', models, -⟩
    · exact .inl failed
    · exact .inr ⟨store, other, opened, opened', models⟩
  report := Models.view
  cutOpening := Directory.Holds.cutOpening
  serve := by
    intro store other call models proper
    obtain ⟨next, same⟩ := models.serve sized proper
    exact ⟨next, Prod.ext same next.view⟩
  cut := fun models proper => models.cut sized proper
  durable := Models.holds

end RackFabric.OnDisk
