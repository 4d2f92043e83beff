import RackFabric.Foundation.Framing
import RackFabric.Persist.Wire

/-!
The write-ahead log as bytes: framed, checksummed records, replayed from an offset until one does not read.
-/

namespace RackFabric

open Foundation

/-- Why replay stopped. -/
inductive Stop where
  | cleanEnd
  | truncatedTail
  | corruptRecord (failure : Status)
deriving DecidableEq, Repr

def loadU32 (data : List UInt8) : UInt32 :=
  UInt32.ofNat (leNat data)

/-- The checks of one log record once its header and its payload were read. -/
def readPayload (expectedCrc : UInt32) (payload : List UInt8) (beyond : Nat) : Except Stop StoreRecord :=
  if crc32c payload ≠ expectedCrc then
    -- a damaged record that no other can follow counts as a torn tail
    if beyond < kWalHeaderSize then .error .truncatedTail
    else .error (.corruptRecord ⟨.integrityFailure, text "log record failed its checksum"⟩)
  else
    match decodeRecord payload with
    | .error status => .error (.corruptRecord status)
    | .ok (record, rest) =>
      if !rest.isEmpty then
        .error (.corruptRecord ⟨.malformedEncoding, text "log record has trailing bytes"⟩)
      else .ok record

/-- One turn of the replay loop on what is left of the log: the record and the bytes its frame takes. -/
def readFrame (maxRecordBytes : Nat) (remaining : List UInt8) : Except Stop (StoreRecord × Nat) :=
  let header := remaining.take kWalHeaderSize
  if header.length = 0 then .error .cleanEnd
  else if header.length < kWalHeaderSize then .error .truncatedTail
  else
    let length := (loadU32 (header.take 4)).toNat
    if length > maxRecordBytes then
      .error (.corruptRecord ⟨.oversizeField, text "log record length exceeds the configured bound"⟩)
    else
      let payload := (remaining.drop kWalHeaderSize).take length
      if payload.length ≠ length then .error .truncatedTail
      else
        match readPayload (loadU32 (header.drop 4)) payload (remaining.length - (kWalHeaderSize + length)) with
        | .error stop => .error stop
        | .ok record => .ok (record, kWalHeaderSize + length)

/-- The replay loop over the log from an offset on. -/
def replayLog (maxRecordBytes : Nat) (log : List UInt8) (offset : Nat) : Scan StoreRecord Stop :=
  scan (readFrame maxRecordBytes) (log.drop offset)

/-- The bytes `append` writes for a payload. -/
def frameBytes (payload : List UInt8) : List UInt8 :=
  le32 (UInt32.ofNat payload.length) ++ le32 (crc32c payload) ++ payload

@[simp] theorem length_frameBytes (payload : List UInt8) :
    (frameBytes payload).length = kWalHeaderSize + payload.length := by
  simp only [frameBytes, List.length_append, length_le32]
  rfl

theorem readFrame_nil (maxRecordBytes : Nat) : readFrame maxRecordBytes [] = .error .cleanEnd :=
  rfl

/-- What a frame reads as, from its header, its payload and what follows. -/
theorem readFrame_split {maxRecordBytes : Nat} {header payload rest : List UInt8}
    (sized : header.length = kWalHeaderSize) (length : (loadU32 (header.take 4)).toNat = payload.length)
    (within : payload.length ≤ maxRecordBytes) :
    readFrame maxRecordBytes (header ++ (payload ++ rest)) =
      match readPayload (loadU32 (header.drop 4)) payload rest.length with
      | .error stop => .error stop
      | .ok record => .ok (record, kWalHeaderSize + payload.length) := by
  have front : (header ++ (payload ++ rest)).take kWalHeaderSize = header := List.take_left' sized
  have back : (header ++ (payload ++ rest)).drop kWalHeaderSize = payload ++ rest := List.drop_left' sized
  have nonempty : ¬ header.length = 0 := by
    rw [sized]
    decide
  have whole : ¬ header.length < kWalHeaderSize := by omega
  have beyond : (header ++ (payload ++ rest)).length - (kWalHeaderSize + payload.length) = rest.length := by
    simp only [List.length_append, sized]
    omega
  simp only [readFrame, front, back, length, nonempty, whole, if_false, Nat.not_lt.mpr within, List.take_left,
    ne_eq, not_true, beyond]

/-- The parts of a frame that reads. -/
theorem readFrame_ok {maxRecordBytes size : Nat} {remaining : List UInt8} {record : StoreRecord}
    (read : readFrame maxRecordBytes remaining = .ok (record, size)) :
    ∃ header payload rest, remaining = header ++ (payload ++ rest) ∧ header.length = kWalHeaderSize ∧
      (loadU32 (header.take 4)).toNat = payload.length ∧ payload.length ≤ maxRecordBytes ∧
      size = kWalHeaderSize + payload.length ∧
      readPayload (loadU32 (header.drop 4)) payload rest.length = .ok record := by
  simp only [readFrame] at read
  split at read
  · cases read
  split at read
  · cases read
  split at read
  · cases read
  split at read
  · cases read
  split at read
  · cases read
  rename_i whole within sized result found accepted
  cases read
  have taken : ((remaining.drop kWalHeaderSize).take
      (loadU32 ((remaining.take kWalHeaderSize).take 4)).toNat).length =
      (loadU32 ((remaining.take kWalHeaderSize).take 4)).toNat := by simpa using sized
  have enough : (loadU32 ((remaining.take kWalHeaderSize).take 4)).toNat ≤
      (remaining.drop kWalHeaderSize).length := by
    rw [List.length_take] at taken
    omega
  have header : (remaining.take kWalHeaderSize).length = kWalHeaderSize := by
    rw [List.length_take] at whole ⊢
    omega
  refine ⟨remaining.take kWalHeaderSize, (remaining.drop kWalHeaderSize).take
    (loadU32 ((remaining.take kWalHeaderSize).take 4)).toNat, (remaining.drop kWalHeaderSize).drop
    (loadU32 ((remaining.take kWalHeaderSize).take 4)).toNat, ?_, header, taken.symm, ?_, ?_, ?_⟩
  · rw [List.take_append_drop, List.take_append_drop]
  · rw [taken]
    omega
  · rw [taken]
  · rw [← accepted]
    congr 1
    simp only [List.length_drop]
    omega

/-- Whether a payload is accepted does not depend on what follows it. -/
theorem readPayload_stays {expectedCrc : UInt32} {payload : List UInt8} {beyond : Nat} {record : StoreRecord}
    (accepted : readPayload expectedCrc payload beyond = .ok record) (other : Nat) :
    readPayload expectedCrc payload other = .ok record := by
  unfold readPayload at accepted ⊢
  split at accepted
  · split at accepted <;> cases accepted
  · rename_i good
    rw [if_neg good]
    exact accepted

theorem readFrame_delimited (maxRecordBytes : Nat) : Delimited (readFrame maxRecordBytes) where
  pos := by
    intro remaining record size read
    obtain ⟨header, payload, rest, -, -, -, -, rfl, -⟩ := readFrame_ok read
    exact Nat.lt_of_lt_of_le (by decide) (Nat.le_add_right kWalHeaderSize _)
  within := by
    intro remaining record size read
    obtain ⟨header, payload, rest, rfl, sized, -, -, rfl, -⟩ := readFrame_ok read
    simp only [List.length_append]
    omega
  stays := by
    intro remaining record size read rest'
    obtain ⟨header, payload, rest, rfl, sized, length, within, rfl, accepted⟩ := readFrame_ok read
    have front : (header ++ (payload ++ rest)).take (kWalHeaderSize + payload.length) = header ++ payload := by
      rw [← List.append_assoc]
      exact List.take_left' (by rw [List.length_append, sized])
    rw [front, List.append_assoc, readFrame_split sized length within, readPayload_stays accepted]

theorem loadU32_le32 (value : UInt32) : loadU32 (le32 value) = value := by
  rw [loadU32, leNat_le32, UInt32.ofNat_toNat]

/-- A frame cut short does not read. -/
theorem readFrame_torn {payload : List UInt8} (counted : payload.length < 2 ^ 32) (maxRecordBytes : Nat) {cut : Nat}
    (short : cut < (frameBytes payload).length) :
    ∃ stop, readFrame maxRecordBytes ((frameBytes payload).take cut) = .error stop := by
  cases read : readFrame maxRecordBytes ((frameBytes payload).take cut) with
  | error stop => exact ⟨stop, rfl⟩
  | ok pair =>
    obtain ⟨record, size⟩ := pair
    obtain ⟨header, found, rest, split, sized, length, -⟩ := readFrame_ok read
    exfalso
    rw [length_frameBytes] at short
    have long := congrArg List.length split
    simp only [List.length_take, List.length_append, length_frameBytes, sized] at long
    have begins : (frameBytes payload).take 4 = header.take 4 := by
      have front := congrArg (List.take 4) split
      rw [List.take_take, List.take_append_of_le_length (by rw [sized]; decide)] at front
      rwa [Nat.min_eq_left (by unfold kWalHeaderSize at long; omega)] at front
    have count : loadU32 (header.take 4) = UInt32.ofNat payload.length := by
      rw [← begins]
      simp only [frameBytes, List.append_assoc]
      rw [List.take_left' (length_le32 _), loadU32_le32]
    rw [count, UInt32.toNat_ofNat_of_lt' counted] at length
    omega

/-- A frame reads as its payload decodes, in front of anything. -/
theorem readFrame_frame {record : StoreRecord} {payload : List UInt8} {maxRecordBytes : Nat}
    (counted : payload.length < 2 ^ 32) (within : payload.length ≤ maxRecordBytes)
    (decodes : decodeRecord payload = .ok (record, [])) (rest : List UInt8) :
    readFrame maxRecordBytes (frameBytes payload ++ rest) = .ok (record, (frameBytes payload).length) := by
  have sized : (le32 (UInt32.ofNat payload.length) ++ le32 (crc32c payload)).length = kWalHeaderSize := by
    simp only [List.length_append, length_le32]
    rfl
  have lengthField : (le32 (UInt32.ofNat payload.length) ++ le32 (crc32c payload)).take 4 =
      le32 (UInt32.ofNat payload.length) := List.take_left' (length_le32 _)
  have crcField : (le32 (UInt32.ofNat payload.length) ++ le32 (crc32c payload)).drop 4 =
      le32 (crc32c payload) := List.drop_left' (length_le32 _)
  have accepted : readPayload (crc32c payload) payload rest.length = .ok record := by
    simp [readPayload, decodes]
  have length : (loadU32 ((le32 (UInt32.ofNat payload.length) ++ le32 (crc32c payload)).take 4)).toNat =
      payload.length := by
    rw [lengthField, loadU32_le32, UInt32.toNat_ofNat_of_lt' counted]
  rw [length_frameBytes]
  unfold frameBytes
  rw [List.append_assoc, readFrame_split sized length within, crcField, loadU32_le32, accepted]

end RackFabric
