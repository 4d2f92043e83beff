import RackFabric.Persist.Directory

/-!
The end of the log: what replay finds when the file was cut anywhere, and what later appends come to.
-/

namespace RackFabric.OnDisk

open Foundation

/-- The frame a record was appended as. -/
def writtenRecord {maxRecordBytes : Nat} (record : StoreRecord) (decodable : record.Decodable)
    (legible : record.Legible) (within : (recordBytes record).length ≤ maxRecordBytes) :
    Written (readFrame maxRecordBytes) where
  value := record
  items := frameBytes (recordBytes record)
  reads := by
    have small := length_record decodable legible
    have decodes : decodeRecord (recordBytes record) = .ok (record, []) := by
      have read := reads_record decodable legible []
      rwa [List.append_nil] at read
    exact readFrame_frame (by omega) within decodes
  torn := by
    have small := length_record decodable legible
    intro cut short
    exact readFrame_torn (by omega) maxRecordBytes short

namespace Store

/-- Nothing but the log and the counts of appends differs. -/
structure Extends (store next : Store) (bytes : List UInt8) : Prop where
  options : next.options = store.options
  manifest : next.directory.manifest = store.directory.manifest
  checkpoint : next.directory.checkpoint = store.directory.checkpoint
  log : next.directory.log = store.directory.log ++ bytes
  logBytes : next.logBytes = store.logBytes + bytes.length
  recovered : next.recovered = store.recovered
  incarnationCounter : next.incarnationCounter = store.incarnationCounter
  checkpointLength : next.checkpointLength = store.checkpointLength
  boundRack : next.boundRack = store.boundRack

theorem Extends.refl (store : Store) : store.Extends store [] :=
  ⟨rfl, rfl, rfl, by simp, rfl, rfl, rfl, rfl, rfl⟩

theorem Extends.trans {store middle next : Store} {bytes more : List UInt8} (first : store.Extends middle bytes)
    (second : middle.Extends next more) : store.Extends next (bytes ++ more) where
  options := second.options.trans first.options
  manifest := second.manifest.trans first.manifest
  checkpoint := second.checkpoint.trans first.checkpoint
  log := by rw [second.log, first.log, List.append_assoc]
  logBytes := by rw [second.logBytes, first.logBytes, List.length_append, Nat.add_assoc]
  recovered := second.recovered.trans first.recovered
  incarnationCounter := second.incarnationCounter.trans first.incarnationCounter
  checkpointLength := second.checkpointLength.trans first.checkpointLength
  boundRack := second.boundRack.trans first.boundRack

theorem frameSize_encoded {options : StoreOptions} {record : StoreRecord} {writer : ByteWriter}
    (encoded : encodeStoreRecord record { limit := options.maxRecordBytes } = .ok writer) :
    frameSize options record = (frameBytes (recordBytes record)).length := by
  obtain ⟨bytes, -, -⟩ := encodeStoreRecord_ok encoded
  simp only [frameSize, encoded, ByteWriter.size, bytes, length_frameBytes]

/-- An append that succeeds adds the record's frame. -/
theorem append_done {store next : Store} {record : StoreRecord}
    (done : store.append record .done = (next, .ok ())) :
    store.Extends next (frameBytes (recordBytes record)) ∧ record.Legible ∧
      (recordBytes record).length ≤ store.options.maxRecordBytes ∧
      frameSize store.options.toStoreOptions record = (frameBytes (recordBytes record)).length := by
  unfold append at done
  split at done
  · cases done
  · rename_i writer encoded
    cases done
    obtain ⟨bytes, within, legible⟩ := encodeStoreRecord_ok encoded
    refine ⟨?_, legible, within, frameSize_encoded encoded⟩
    rw [← bytes]
    exact ⟨rfl, rfl, rfl, rfl, by rw [length_frameBytes]; rfl, rfl, rfl, rfl, rfl⟩

/-- The frames that appends under these options wrote. -/
abbrev Frames (options : Options) : Type :=
  List (Written (readFrame options.maxRecordBytes))

def Frames.Sized {options : Options} (frames : Frames options) : Prop :=
  ∀ frame ∈ frames, frameSize options.toStoreOptions frame.value = frame.items.length

/-- Appends that succeed add the frames of their records. -/
theorem appendAll_ok {store next : Store} {options : Options} {records : List StoreRecord}
    (under : store.options = options) (decodable : ∀ record ∈ records, record.Decodable)
    (appended : store.appendAll records = .ok next) :
    ∃ frames : Frames options, frames.map Written.value = records ∧ store.Extends next (joined frames) ∧
      frames.Sized := by
  induction records generalizing store with
  | nil =>
    cases appended
    exact ⟨[], rfl, Extends.refl _, by simp [Frames.Sized]⟩
  | cons record rest ih =>
    simp only [appendAll, List.foldlM_cons] at appended
    rw [bind_eq_ok] at appended
    obtain ⟨middle, first, others⟩ := appended
    split at first
    · rename_i done
      cases first
      obtain ⟨extends_, legible, within, size⟩ := append_done done
      rw [under] at within size
      obtain ⟨frames, values, later, sizes⟩ :=
        ih (extends_.options.trans under) (fun other member => decodable other (by simp [member])) others
      let frame : Written (readFrame options.maxRecordBytes) :=
        writtenRecord record (decodable record (by simp)) legible within
      refine ⟨frame :: frames, ?_, extends_.trans later, ?_⟩
      · rw [List.map_cons, values]
        rfl
      · intro other member
        rcases List.mem_cons.mp member with rfl | member
        · exact size
        · exact sizes other member
    · cases first

end Store

/-- The records whose frames lie wholly before a cut of the log. -/
def recordsWithin (options : StoreOptions) (cut : Nat) : List StoreRecord → List StoreRecord
  | [] => []
  | record :: rest =>
    if frameSize options record ≤ cut then record :: recordsWithin options (cut - frameSize options record) rest
    else []

theorem wholly_values {options : Options} {frames : Store.Frames options} (sized : frames.Sized) (cut : Nat) :
    (wholly cut frames).map Written.value =
      recordsWithin options.toStoreOptions cut (frames.map Written.value) := by
  induction frames generalizing cut with
  | nil => rfl
  | cons frame rest ih =>
    have size := sized frame (by simp)
    have later := ih fun other member => sized other (by simp [member])
    simp only [wholly, recordsWithin, List.map_cons, size]
    by_cases whole : frame.items.length ≤ cut
    · rw [if_pos whole, if_pos whole, List.map_cons, later]
    · rw [if_neg whole, if_neg whole]
      rfl

theorem joined_length {options : Options} {frames : Store.Frames options} (sized : frames.Sized) :
    (joined frames).length = logSize options.toStoreOptions (frames.map Written.value) := by
  induction frames with
  | nil => rfl
  | cons frame rest ih =>
    have size := sized frame (by simp)
    have later := ih fun other member => sized other (by simp [member])
    simp only [joined, logSize, List.flatMap_cons, List.length_append, List.map_cons, List.sum_cons, size] at later ⊢
    rw [later]

theorem mem_wholly {options : Options} {frames : Store.Frames options} {cut : Nat}
    {frame : Written (readFrame options.maxRecordBytes)} (member : frame ∈ wholly cut frames) :
    frame ∈ frames := by
  induction frames generalizing cut with
  | nil => cases member
  | cons first rest ih =>
    unfold wholly at member
    split at member
    · rcases List.mem_cons.mp member with rfl | member
      · exact List.mem_cons_self
      · exact List.mem_cons_of_mem _ (ih member)
    · cases member

/-- Opening succeeds and uses no checkpoint. -/
def Directory.OpensPlain (directory : Directory) (options : Options) : Prop :=
  ∃ manifest report, Store.readManifest directory options = .ok (manifest, report) ∧
    (Store.readCheckpoint directory options manifest report).1.present = false

theorem parseCheckpoint_present {bytes : List UInt8} {checkpoint : Checkpoint}
    (parsed : parseCheckpoint bytes = .ok checkpoint) : checkpoint.present = true := by
  unfold parseCheckpoint at parsed
  split at parsed
  · cases parsed
  split at parsed
  · cases parsed
  rw [bind_eq_ok] at parsed
  obtain ⟨_, _, decoded⟩ := parsed
  rw [bind_eq_ok] at decoded
  obtain ⟨⟨found, rest⟩, _, ending⟩ := decoded
  dsimp only at ending
  split at ending
  · cases ending
  · cases ending
    rfl

namespace Store

theorem readableCheckpoint_present {directory : Directory} {options : Options} {checkpoint : Checkpoint}
    (readable : readableCheckpoint directory options = some checkpoint) : checkpoint.present = true := by
  unfold readableCheckpoint at readable
  rw [Option.bind_eq_bind, Option.bind_eq_some_iff] at readable
  obtain ⟨bytes, -, accepted⟩ := readable
  split at accepted
  · cases accepted
  · split at accepted
    · rename_i parsed
      cases accepted
      exact parseCheckpoint_present parsed
    · cases accepted

/-- The three ways the checkpoint can be settled. -/
theorem readCheckpoint_cases (directory : Directory) (options : Options) (manifest : Option Manifest)
    (report : RecoveryReport) :
    ((readCheckpoint directory options manifest report).1 = {} ∧
      (wantsCheckpoint manifest options = false ∨ readableCheckpoint directory options = none ∨
        ∃ checkpoint, wantsCheckpoint manifest options = true ∧
          readableCheckpoint directory options = some checkpoint ∧
          directory.log.length < checkpoint.walOffset)) ∨
    ∃ checkpoint, (readCheckpoint directory options manifest report).1 = checkpoint ∧
      wantsCheckpoint manifest options = true ∧ readableCheckpoint directory options = some checkpoint ∧
      checkpoint.walOffset ≤ directory.log.length := by
  unfold readCheckpoint
  split
  · rename_i unwanted
    exact .inl ⟨rfl, .inl (by simpa using unwanted)⟩
  · rename_i wanted
    have wants : wantsCheckpoint manifest options = true := by simpa using wanted
    split
    · rename_i unreadable
      exact .inl ⟨rfl, .inr (.inl unreadable)⟩
    · rename_i checkpoint readable
      split
      · rename_i past
        exact .inl ⟨rfl, .inr (.inr ⟨checkpoint, wants, readable, past⟩)⟩
      · rename_i within
        exact .inr ⟨checkpoint, rfl, wants, readable, Nat.not_lt.mp within⟩

theorem readCheckpoint_plain {directory : Directory} {options : Options} {manifest : Option Manifest}
    {report : RecoveryReport} (plain : (readCheckpoint directory options manifest report).1.present = false) :
    (readCheckpoint directory options manifest report).1 = {} := by
  rcases readCheckpoint_cases directory options manifest report with ⟨none, -⟩ | ⟨checkpoint, same, -, readable, -⟩
  · exact none
  · rw [same, readableCheckpoint_present readable] at plain
    cases plain

theorem readCheckpoint_within (directory : Directory) (options : Options) (manifest : Option Manifest)
    (report : RecoveryReport) :
    (readCheckpoint directory options manifest report).1.walOffset ≤ directory.log.length := by
  rcases readCheckpoint_cases directory options manifest report with ⟨none, -⟩ | ⟨checkpoint, same, -, -, within⟩
  · rw [none]
    exact Nat.zero_le _
  · rw [same]
    exact within

/-- The cursor an opening stops at is within the log. -/
theorem cursor_le {directory : Directory} {offset : Nat} (options : Options)
    (within : offset ≤ directory.log.length) :
    offset + (replayLog options.maxRecordBytes directory.log offset).taken ≤ directory.log.length := by
  have taken := scan_taken_le (readFrame_delimited options.maxRecordBytes) (directory.log.drop offset)
  rw [List.length_drop] at taken
  unfold replayLog
  omega

theorem restore_options (directory : Directory) (options : Options) (manifest : Option Manifest)
    (report : RecoveryReport) : (restore directory options manifest report).options = options :=
  rfl

theorem restore_checkpoint (directory : Directory) (options : Options) (manifest : Option Manifest)
    (report : RecoveryReport) : (restore directory options manifest report).recovered.checkpoint =
      (readCheckpoint directory options manifest report).1 :=
  rfl

end Store

theorem Directory.OpensPlain.opens {directory : Directory} {options : Options}
    (plain : directory.OpensPlain options) : ∃ store, Store.openDirectory directory options = .ok store ∧
      store.options = options ∧
      store.recovered.records = (scan (readFrame options.maxRecordBytes) directory.log).values ∧
      store.directory.log = directory.log.take (scan (readFrame options.maxRecordBytes) directory.log).taken ∧
      store.logBytes = (scan (readFrame options.maxRecordBytes) directory.log).taken := by
  obtain ⟨manifest, report, accepted, unused⟩ := plain
  have none := Store.readCheckpoint_plain unused
  refine ⟨Store.restore directory options manifest report, ?_, rfl, ?_, ?_, ?_⟩
  · simp only [Store.openDirectory, accepted]
    rfl
  all_goals simp [Store.restore, none, replayLog, Directory.log]

theorem Store.openDirectory_ok {directory : Directory} {options : Options} {store : Store}
    (opened : Store.openDirectory directory options = .ok store) :
    ∃ manifest report, Store.readManifest directory options = .ok (manifest, report) ∧
      store = Store.restore directory options manifest report := by
  unfold Store.openDirectory at opened
  rw [bind_eq_ok] at opened
  obtain ⟨⟨manifest, report⟩, accepted, restored⟩ := opened
  cases restored
  exact ⟨manifest, report, accepted, rfl⟩

/-- A whole log of frames replays to their values. -/
theorem scan_frames {options : Options} (frames : Store.Frames options) :
    (scan (readFrame options.maxRecordBytes) (joined frames)).values = frames.map Written.value ∧
      (scan (readFrame options.maxRecordBytes) (joined frames)).taken = (joined frames).length := by
  have whole := scan_joined (readFrame_delimited options.maxRecordBytes) frames []
  rw [List.append_nil, scan_error (readFrame_nil options.maxRecordBytes)] at whole
  rw [whole]
  simp [Scan.append]

theorem joined_append {options : Options} (first second : Store.Frames options) :
    joined (first ++ second) = joined first ++ joined second :=
  List.flatMap_append

/-- Replay finds exactly the records that lie wholly before a cut of the log, truncates the file to their end,
and finds whatever is appended afterwards after them. -/
theorem cut_log_replays {options : Options} {empty : Directory} {fresh written : Store} {records : List StoreRecord}
    (isFresh : empty.wal = none) (opened : Store.openDirectory empty options = .ok fresh)
    (decodable : ∀ record ∈ records, record.Decodable) (appended : fresh.appendAll records = .ok written)
    (cut : Nat) {directory : Directory} (isCut : directory.wal = some (written.directory.log.take cut))
    (plain : directory.OpensPlain options) :
    ∃ reopened, Store.openDirectory directory options = .ok reopened ∧
      reopened.recovered.records = recordsWithin options.toStoreOptions cut records ∧
      reopened.directory.log = written.directory.log.take
        (logSize options.toStoreOptions (recordsWithin options.toStoreOptions cut records)) ∧
      ∀ later next, (∀ record ∈ later, record.Decodable) → reopened.appendAll later = .ok next →
        ∀ after : Directory, after.wal = some next.directory.log → after.OpensPlain options →
          ∃ last, Store.openDirectory after options = .ok last ∧
            last.recovered.records = recordsWithin options.toStoreOptions cut records ++ later := by
  obtain ⟨manifest, report, -, rfl⟩ := Store.openDirectory_ok opened
  have start : (Store.restore empty options manifest report).directory.log = [] := by
    simp [Store.restore, Directory.log, isFresh]
  have under₀ : (Store.restore empty options manifest report).options = options := rfl
  obtain ⟨frames, rfl, grown, sized⟩ := Store.appendAll_ok under₀ decodable appended
  have whole : written.directory.log = joined frames := by rw [grown.log, start, List.nil_append]
  have cutLog : directory.log = (joined frames).take cut := by rw [Directory.log, isCut, ← whole]; rfl
  obtain ⟨values, taken⟩ := scan_cut (readFrame_delimited options.maxRecordBytes)
    ⟨_, readFrame_nil options.maxRecordBytes⟩ cut frames
  obtain ⟨tail, split, -⟩ := take_joined cut frames
  have kept : Store.Frames.Sized (wholly cut frames) := fun frame member => sized frame (mem_wholly member)
  have size := joined_length kept
  obtain ⟨reopened, succeeds, under, found, log, -⟩ := plain.opens
  rw [cutLog, values, wholly_values sized] at found
  have front : reopened.directory.log = joined (wholly cut frames) := by
    rw [log, cutLog, taken, split]
    exact List.take_left
  refine ⟨reopened, succeeds, found, ?_, ?_⟩
  · have shorter : (joined (wholly cut frames)).length ≤ cut := by
      have bound := congrArg List.length split
      rw [List.length_take, List.length_append] at bound
      omega
    rw [front, whole, ← wholly_values sized, ← size]
    have prefix_ := congrArg (List.take (joined (wholly cut frames)).length) split
    rw [List.take_take, Nat.min_eq_left shorter, List.take_left] at prefix_
    exact prefix_.symm
  · intro later next decodable' appended' after isAfter plain'
    obtain ⟨more, rfl, grown', -⟩ := Store.appendAll_ok under decodable' appended'
    have log' : after.log = joined (wholly cut frames ++ more) := by
      rw [Directory.log, isAfter, joined_append, ← front]
      exact grown'.log
    obtain ⟨last, succeeds', -, found', -⟩ := plain'.opens
    refine ⟨last, succeeds', ?_⟩
    rw [found', log', (scan_frames _).1, List.map_append, wholly_values sized]

/-- A cut inside the second of two records leaves the first, and one appended later follows it. -/
theorem cut_log_replays_first : ∃ fresh written reopened next last, Store.openDirectory {} {} = .ok fresh ∧
    fresh.appendAll [.generation 7, .cleanShutdown 5] = .ok written ∧
    Store.openDirectory { wal := some (written.directory.log.take 20) } {} = .ok reopened ∧
    reopened.recovered.records = [.generation 7] ∧
    reopened.appendAll [.epoch ⟨3, .zero⟩] = .ok next ∧
    Store.openDirectory { wal := some next.directory.log } {} = .ok last ∧
    last.recovered.records = [.generation 7, .epoch ⟨3, .zero⟩] := by
  obtain ⟨fresh, written, again, next, opened, appended, recut, grown⟩ : ∃ fresh written again next,
      Store.openDirectory {} {} = .ok fresh ∧ fresh.appendAll [.generation 7, .cleanShutdown 5] = .ok written ∧
      Store.openDirectory { wal := some (written.directory.log.take 20) } {} = .ok again ∧
      again.appendAll [.epoch ⟨3, .zero⟩] = .ok next := ⟨_, _, _, _, rfl, rfl, rfl, rfl⟩
  have isCut : ({ wal := some (written.directory.log.take 20) } : Directory).wal =
      some (written.directory.log.take 20) := rfl
  have plain : ∀ bytes : List UInt8, Directory.OpensPlain { wal := some bytes } {} :=
    fun _ => ⟨none, { manifestMissing := true }, rfl, rfl⟩
  obtain ⟨reopened, succeeds, found, -, onward⟩ := cut_log_replays rfl opened (by decide) appended 20 isCut (plain _)
  rw [recut, Except.ok.injEq] at succeeds
  subst succeeds
  obtain ⟨last, follows, held⟩ := onward _ next (by decide) grown { wal := some next.directory.log } rfl (plain _)
  refine ⟨fresh, written, again, next, last, opened, appended, recut, found.trans rfl, grown, follows, held.trans rfl⟩

end RackFabric.OnDisk
