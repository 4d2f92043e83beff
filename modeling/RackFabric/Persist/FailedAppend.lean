import RackFabric.Foundation.Machine
import RackFabric.Persist.Tail

/-!
Appends that fail part way. The file position follows every byte that was written while the byte count follows
only appends that were reported as done, so the two agree only as long as no failed append left anything behind.
-/

namespace RackFabric.OnDisk

open Foundation

namespace Store

/-- One call of `append` and what became of its write. -/
abbrev AppendCall := StoreRecord × WriteOutcome

def serveAppend (store : Store) (call : AppendCall) : Store :=
  (store.append call.1 call.2).1

def afterAppends (store : Store) (calls : List AppendCall) : Store :=
  run serveAppend store calls

/-- The records whose append returned OK. -/
def accepted (store : Store) : List AppendCall → List StoreRecord
  | [] => []
  | call :: rest =>
    if (store.append call.1 call.2).2.isOk then call.1 :: accepted (store.serveAppend call) rest
    else accepted (store.serveAppend call) rest

/-- What a sequence of appends must leave: the byte count is the end of the decodable log, and every record
whose append returned OK is found, in order, by the next opening, from the start of the log or from a
checkpoint taken at any point of the sequence. -/
structure AppendsKept (store : Store) (calls : List AppendCall) : Prop where
  boundary : (replayLog store.options.maxRecordBytes (store.afterAppends calls).directory.log 0).taken =
    (store.afterAppends calls).logBytes
  fromStart : ∀ directory opened, directory.log = (store.afterAppends calls).directory.log →
    openDirectory directory store.options = .ok opened → opened.recovered.checkpoint.present = false →
    (store.accepted calls).Sublist opened.recovered.records
  fromCheckpoint : ∀ earlier later, calls = earlier ++ later →
    ∀ directory opened, directory.log = (store.afterAppends calls).directory.log →
      openDirectory directory store.options = .ok opened → opened.recovered.checkpoint.present = true →
      opened.recovered.checkpoint.walOffset = (store.afterAppends earlier).logBytes →
      ((store.afterAppends earlier).accepted later).Sublist opened.recovered.records

/-- The bytes a call adds to the log. -/
def bytesOf (store : Store) (call : AppendCall) : List UInt8 :=
  match encodeStoreRecord call.1 { limit := store.options.maxRecordBytes } with
  | .error _ => []
  | .ok writer =>
    match call.2 with
    | .done => frameBytes writer.buffer
    | .failed reached _ => (frameBytes writer.buffer).take reached

/-- A call that writes anything finds the file ending at the byte count; its record is one the decoder accepts;
and if it fails, it leaves less than its whole frame. -/
def Orderly (store : Store) (call : AppendCall) : Prop :=
  store.bytesOf call = [] ∨
    (store.directory.log.length = store.logBytes ∧ call.1.Decodable ∧
      (call.2 ≠ .done → (store.bytesOf call).length < frameSize store.options.toStoreOptions call.1))

/-- The log is a settled part that the byte count covers, then something that does not read. -/
structure Settled (options : Options) (store : Store) (base : List UInt8) : Prop where
  under : store.options = options
  counted : store.logBytes = base.length
  tail : ∃ tail stop, store.directory.log = base ++ tail ∧ readFrame options.maxRecordBytes tail = .error stop

theorem Settled.whole {options : Options} {store : Store} {base : List UInt8} (settled : Settled options store base)
    (ends : store.directory.log.length = store.logBytes) : store.directory.log = base := by
  obtain ⟨tail, stop, log, -⟩ := settled.tail
  have none : tail = [] := by
    rw [log, settled.counted, List.length_append] at ends
    exact List.eq_nil_of_length_eq_zero (by omega)
  rw [log, none, List.append_nil]

/-- A record appended at the end of a settled log settles with it. -/
theorem Settled.appendDone {options : Options} {store : Store} {base : List UInt8} {record : StoreRecord}
    {writer : ByteWriter} (settled : Settled options store base)
    (encoded : encodeStoreRecord record { limit := options.maxRecordBytes } = .ok writer)
    (ends : store.directory.log.length = store.logBytes) (decodable : record.Decodable) :
    ∃ frame : Written (readFrame options.maxRecordBytes), frame.value = record ∧
      Settled options (store.serveAppend (record, .done)) (base ++ frame.items) := by
  obtain ⟨bytes, within, legible⟩ := encodeStoreRecord_ok encoded
  have log := settled.whole ends
  refine ⟨writtenRecord record decodable legible within, rfl, ?_⟩
  have items : (writtenRecord record decodable legible within).items = frameBytes writer.buffer := by
    rw [bytes]
    rfl
  rw [← settled.under] at encoded
  rw [items]
  refine ⟨?_, ?_, [], .cleanEnd, ?_, readFrame_nil _⟩
  · simp only [Store.serveAppend, append, encoded, extend]
    exact settled.under
  · simp only [Store.serveAppend, append, encoded, extend, List.length_append, length_frameBytes, settled.counted]
    rfl
  · rw [List.append_nil, ← log]
    simp only [Store.serveAppend, append, encoded, extend, Directory.log, Option.getD_some]

/-- A failed append at the end of a settled log leaves a torn frame after it. -/
theorem Settled.appendFailed {options : Options} {store : Store} {base : List UInt8} {record : StoreRecord}
    {writer : ByteWriter} {reached : Nat} {detail : Text} (settled : Settled options store base)
    (encoded : encodeStoreRecord record { limit := options.maxRecordBytes } = .ok writer)
    (orderly : (frameBytes writer.buffer).take reached = [] ∨ (store.directory.log.length = store.logBytes ∧
      record.Decodable ∧ ((frameBytes writer.buffer).take reached).length < (frameBytes writer.buffer).length)) :
    Settled options (store.serveAppend (record, .failed reached detail)) base := by
  obtain ⟨bytes, within, legible⟩ := encodeStoreRecord_ok encoded
  rw [← settled.under] at encoded
  refine ⟨?_, ?_, ?_⟩
  · simp only [Store.serveAppend, append, encoded, extend]
    exact settled.under
  · simp only [Store.serveAppend, append, encoded, extend]
    exact settled.counted
  · have grown : (store.serveAppend (record, .failed reached detail)).directory.log =
        store.directory.log ++ (frameBytes writer.buffer).take reached := by
      simp only [Store.serveAppend, append, encoded, extend, Directory.log, Option.getD_some]
    rw [grown]
    rcases orderly with none | ⟨ends, decodable, part⟩
    · rw [none, List.append_nil]
      exact settled.tail
    · have small : writer.buffer.length < 2 ^ 32 := by
        rw [bytes]
        exact Nat.lt_of_le_of_lt (length_record decodable legible) (by decide)
      rw [List.length_take] at part
      obtain ⟨stop, torn⟩ := @readFrame_torn writer.buffer small options.maxRecordBytes reached (by omega)
      exact ⟨_, stop, by rw [settled.whole ends], torn⟩

/-- An orderly call keeps the log settled, and settles the record it appended. -/
theorem Settled.serveAppend {options : Options} {store : Store} {base : List UInt8} {call : AppendCall}
    (settled : Settled options store base) (orderly : store.Orderly call) :
    ∃ frames : Frames options, store.accepted [call] = frames.map Written.value ∧
      Settled options (store.serveAppend call) (base ++ joined frames) := by
  obtain ⟨record, outcome⟩ := call
  have same : base ++ joined ([] : Frames options) = base := List.append_nil base
  unfold Orderly bytesOf at orderly
  cases encoded : encodeStoreRecord record { limit := options.maxRecordBytes } with
  | error status =>
    have under : encodeStoreRecord record { limit := store.options.maxRecordBytes } = .error status := by
      rw [settled.under]
      exact encoded
    refine ⟨[], by simp [accepted, append, under], ?_⟩
    rw [same]
    simpa only [Store.serveAppend, append, under] using settled
  | ok writer =>
    have under : encodeStoreRecord record { limit := store.options.maxRecordBytes } = .ok writer := by
      rw [settled.under]
      exact encoded
    have bytes := (encodeStoreRecord_ok encoded).1
    have size : frameSize store.options.toStoreOptions record = (frameBytes writer.buffer).length := by
      rw [frameSize_encoded under, bytes]
    simp only [under, size] at orderly
    cases outcome with
    | done =>
      dsimp only at orderly
      rcases orderly with none | ⟨ends, decodable, -⟩
      · have impossible := congrArg List.length none
        simp only [length_frameBytes, List.length_nil, kWalHeaderSize] at impossible
        omega
      · obtain ⟨frame, value, next⟩ := settled.appendDone encoded ends decodable
        refine ⟨[frame], ?_, ?_⟩
        · simp only [accepted, append, under, List.map_cons, List.map_nil, value]
          rfl
        · have framed : joined [frame] = frame.items := List.append_nil _
          rw [framed]
          exact next
    | failed reached detail =>
      dsimp only at orderly
      refine ⟨[], ?_, ?_⟩
      · simp only [accepted, append, under]
        rfl
      · rw [same]
        apply settled.appendFailed encoded
        rcases orderly with none | ⟨ends, decodable, part⟩
        · exact .inl none
        · exact .inr ⟨ends, decodable, part (by simp)⟩

theorem accepted_cons (store : Store) (call : AppendCall) (rest : List AppendCall) :
    store.accepted (call :: rest) = store.accepted [call] ++ (store.serveAppend call).accepted rest := by
  simp only [accepted]
  split <;> rfl

/-- A run of orderly calls keeps the log settled. -/
theorem Settled.afterAppends {options : Options} {store : Store} {base : List UInt8} {calls : List AppendCall}
    (settled : Settled options store base)
    (orderly : Along Store.serveAppend (fun store call _ => store.Orderly call) store calls) :
    ∃ frames : Frames options, store.accepted calls = frames.map Written.value ∧
      Settled options (store.afterAppends calls) (base ++ joined frames) := by
  induction calls generalizing store base with
  | nil => exact ⟨[], rfl, by simpa [Store.afterAppends, joined] using settled⟩
  | cons call rest ih =>
    obtain ⟨first, others⟩ := orderly
    obtain ⟨frames, one, next⟩ := settled.serveAppend first
    obtain ⟨more, rest', final⟩ := ih next others
    refine ⟨frames ++ more, ?_, ?_⟩
    · rw [accepted_cons, one, rest', List.map_append]
    · rw [joined_append, ← List.append_assoc]
      exact final

theorem Settled.replay {options : Options} {store : Store} {base : List UInt8} {frames : Frames options}
    (settled : Settled options store (base ++ joined frames)) :
    (replayLog options.maxRecordBytes store.directory.log base.length).values = frames.map Written.value := by
  obtain ⟨tail, stop, log, failed⟩ := settled.tail
  unfold replayLog
  rw [log, List.append_assoc, List.drop_left, scan_joined (readFrame_delimited _), scan_error failed]
  simp [Scan.append]

theorem Settled.replayAll {options : Options} {store : Store} {base : List UInt8} {frames : Frames options}
    (settled : Settled options store (base ++ joined frames))
    (whole : (replayLog options.maxRecordBytes base 0).taken = base.length) :
    (replayLog options.maxRecordBytes store.directory.log 0).values =
        (replayLog options.maxRecordBytes base 0).values ++ frames.map Written.value ∧
      (replayLog options.maxRecordBytes store.directory.log 0).taken = store.logBytes := by
  obtain ⟨tail, stop, log, failed⟩ := settled.tail
  simp only [replayLog, List.drop_zero] at whole ⊢
  have again := scan_taken_append (readFrame_delimited options.maxRecordBytes) base (joined frames ++ tail)
  rw [whole, List.take_length, scan_joined (readFrame_delimited _), scan_error failed] at again
  rw [log, List.append_assoc, again, settled.counted, List.length_append]
  simp [Scan.append, whole]

/-- What was just opened is settled. -/
theorem settled_of_opened {directory : Directory} {options : Options} {store : Store}
    (opened : openDirectory directory options = .ok store) : Settled options store store.directory.log := by
  obtain ⟨manifest, report, -, rfl⟩ := openDirectory_ok opened
  have within := cursor_le options (readCheckpoint_within directory options manifest report)
  refine ⟨rfl, ?_, [], .cleanEnd, (List.append_nil _).symm, readFrame_nil _⟩
  simp only [restore, Directory.log, Option.getD_some, List.length_take] at within ⊢
  omega

end Store

/-- In a run of orderly appends on a log that decodes to its end, no append loses another, after every call. -/
theorem appends_kept_while_orderly {directory : Directory} {options : Options} {store : Store}
    {calls : List Store.AppendCall} (opened : Store.openDirectory directory options = .ok store)
    (whole : (replayLog options.maxRecordBytes store.directory.log 0).taken = store.logBytes)
    (orderly : Along Store.serveAppend (fun store call _ => store.Orderly call) store calls)
    {done rest : List Store.AppendCall} (reached : calls = done ++ rest) : store.AppendsKept done := by
  have settled := Store.settled_of_opened opened
  have under := settled.under
  rw [settled.counted] at whole
  subst reached
  have before := (along_append.mp orderly).1
  obtain ⟨frames, ok, now⟩ := settled.afterAppends before
  obtain ⟨values, taken⟩ := now.replayAll whole
  refine ⟨?_, ?_, ?_⟩
  · rw [under]
    exact taken
  · intro next reopened log opens plain
    rw [under] at opens
    obtain ⟨manifest, report, -, rfl⟩ := Store.openDirectory_ok opens
    have none := Store.readCheckpoint_plain plain
    have found : (Store.restore next options manifest report).recovered.records =
        (replayLog options.maxRecordBytes next.log 0).values := by
      simp only [Store.restore, none]
    rw [found, log, values, ok]
    exact List.sublist_append_right _ _
  · intro earlier later split next reopened log opens used offset
    rw [under] at opens
    obtain ⟨manifest, report, -, rfl⟩ := Store.openDirectory_ok opens
    rw [Store.restore_checkpoint] at offset
    have found : (Store.restore next options manifest report).recovered.records =
        (replayLog options.maxRecordBytes next.log
          (Store.readCheckpoint next options manifest report).1.walOffset).values := rfl
    rw [found, offset, log]
    rw [split] at before
    obtain ⟨first, second⟩ := along_append.mp before
    obtain ⟨covered, -, middle⟩ := settled.afterAppends first
    obtain ⟨uncovered, ok', last⟩ := middle.afterAppends second
    have rejoined : (store.afterAppends earlier).afterAppends later = store.afterAppends done := by
      rw [split]
      exact (run_append _ _ _ _).symm
    rw [rejoined] at last
    rw [middle.counted, last.replay, ok']

/-- A store opened on an empty directory. -/
def newStore : Store :=
  Store.restore {} {} none { freshStore := true }

/-- One append that succeeds and one that fails after three bytes of its frame. -/
theorem appends_kept_until_torn : Store.openDirectory {} {} = .ok newStore ∧
    newStore.AppendsKept [(.generation 7, .done), (.generation 8, .failed 3 [])] := by
  have opened : Store.openDirectory {} {} = .ok newStore := rfl
  have orderly : Along Store.serveAppend (fun store call _ => store.Orderly call) newStore
      [(.generation 7, .done), (.generation 8, .failed 3 [])] := by
    refine ⟨.inr ⟨by decide, by decide, fun failed => absurd rfl failed⟩, .inr ⟨?_, ?_, ?_⟩, trivial⟩
    · rfl
    · decide
    · intro _
      decide +kernel
  exact ⟨opened, appends_kept_while_orderly opened (by decide) orderly (List.append_nil _).symm⟩

/-- Three bytes of a failed append are left in front of the next record: its append returns OK, and the next
opening does not find it. -/
theorem torn_append_loses_next : Store.openDirectory {} {} = .ok newStore ∧
    newStore.accepted [(.generation 7, .failed 3 []), (.generation 8, .done)] = [.generation 8] ∧
    ¬ newStore.AppendsKept [(.generation 7, .failed 3 []), (.generation 8, .done)] := by
  refine ⟨rfl, by rfl, ?_⟩
  intro kept
  have found := kept.fromStart
    (newStore.afterAppends [(.generation 7, .failed 3 []), (.generation 8, .done)]).directory _ rfl rfl rfl
  revert found
  decide +kernel

end RackFabric.OnDisk
