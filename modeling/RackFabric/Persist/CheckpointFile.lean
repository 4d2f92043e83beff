import RackFabric.Persist.Directory

/-!
A checkpoint that was built is parsed back: the header and the body pass their checksums and every ledger entry
decodes to itself.
-/

namespace RackFabric.OnDisk

open Foundation ByteWriter

/-- The body of a checkpoint file. -/
def bodyBytes (checkpoint : Checkpoint) : List UInt8 :=
  le32 (UInt32.ofNat checkpoint.ledger.length) ++
    (checkpoint.ledger.flatMap (fun record => ByteReader.blobBytes (evidenceBytes record)) ++
      ByteReader.blobBytes checkpoint.snapshotBytes)

theorem encodeEvidence_bytes {record : EvidenceRecord} {limit : Nat} {entry : ByteWriter}
    (encoded : encodeEvidence record { limit := limit } = .ok entry) :
    entry.buffer = evidenceBytes record ∧ (evidenceBytes record).length ≤ limit := by
  have added := encodeEvidence_added encoded
  have ok : entry.ok = true := by
    unfold encodeEvidence at encoded
    rw [bind_eq_ok] at encoded
    obtain ⟨written, -, checked⟩ := encoded
    split at checked
    · cases checked
    · rename_i good
      cases checked
      simpa using good
  have adds := added ok
  have bytes : entry.buffer = evidenceBytes record := adds.buffer
  have within := adds.within (Nat.zero_le _)
  rw [adds.limit] at within
  refine ⟨bytes, ?_⟩
  rw [← bytes]
  exact within

private theorem ledger_added {ledger : List EvidenceRecord} {writer next : ByteWriter}
    (written : ledger.foldlM
      (fun (payload : ByteWriter) record => do
        let entry ← encodeEvidence record { limit := 512 }
        .ok (payload.blob entry.buffer 512)) writer = (.ok next : Result ByteWriter)) :
    Added writer next (ledger.flatMap fun record => ByteReader.blobBytes (evidenceBytes record)) := by
  induction ledger generalizing writer with
  | nil =>
    cases written
    intro ok
    exact ⟨ok, rfl, by simp, id⟩
  | cons record rest ih =>
    rw [List.foldlM_cons, bind_eq_ok] at written
    obtain ⟨middle, first, later⟩ := written
    rw [bind_eq_ok] at first
    obtain ⟨entry, encoded, put⟩ := first
    cases put
    rw [(encodeEvidence_bytes encoded).1] at later
    exact (added_blob writer _ 512).trans (ih later)

/-- A body within its bound was put down byte for byte. -/
theorem body_bytes {checkpoint : Checkpoint} {limit : Nat} {body : List UInt8}
    (built : checkpoint.body limit = .ok body) :
    body = bodyBytes checkpoint ∧ body.length ≤ limit ∧ checkpoint.snapshotBytes.length < 2 ^ 32 := by
  unfold Checkpoint.body at built
  rw [bind_eq_ok] at built
  obtain ⟨payload, written, checked⟩ := built
  dsimp only at checked
  split at checked
  · cases checked
  · rename_i good
    cases checked
    have ok : (payload.blob checkpoint.snapshotBytes limit).ok = true := by simpa using good
    have added : Added ({ limit := limit } : ByteWriter) (payload.blob checkpoint.snapshotBytes limit)
        (bodyBytes checkpoint) :=
      Added.u32 ((ledger_added written).trans (added_blob payload _ limit))
    have adds := added ok
    have within := adds.within (Nat.zero_le _)
    rw [adds.limit] at within
    refine ⟨adds.buffer, within, ?_⟩
    unfold blob at ok
    split at ok
    · cases ok
    · rename_i fits
      simp only [Bool.or_eq_true, decide_eq_true_eq, not_or] at fits
      omega

theorem reads_ledgerEntry {record : EvidenceRecord} (valid : validateEvidence record = .ok ()) :
    Reads decodeLedgerEntry (ByteReader.blobBytes (evidenceBytes record)) record := by
  have short := length_evidence valid
  refine Reads.closed (reads_expect (ByteReader.reads_blob short (by omega)) _ _) ?_
  have decoded : decodeEvidence (evidenceBytes record) = .ok (record, []) := by
    have read := reads_evidence valid []
    rwa [List.append_nil] at read
  intro rest
  simp only [StateT.lift, decoded, bind, StateT.bind, Except.bind]
  rfl

theorem reads_body {checkpoint : Checkpoint} (start : Checkpoint) {fileSize : Nat}
    (slots : checkpoint.ledger.length ≤ defaultEvidenceLimits.maxSlots)
    (valid : ∀ record ∈ checkpoint.ledger, validateEvidence record = .ok ())
    (short : checkpoint.snapshotBytes.length ≤ fileSize) (counted : checkpoint.snapshotBytes.length < 2 ^ 32) :
    Reads (decodeCheckpointBody start fileSize) (bodyBytes checkpoint)
      { start with ledger := checkpoint.ledger, snapshotBytes := checkpoint.snapshotBytes } := by
  have few : checkpoint.ledger.length < 2 ^ 32 := Nat.lt_of_le_of_lt slots (by decide)
  refine (reads_expect (ByteReader.reads_count slots few) _ _).bind ?_
  refine (Reads.many fun record member => reads_ledgerEntry (valid record member)).bind ?_
  exact (reads_expect (ByteReader.reads_blob short counted) _ _).last

private theorem reads_header (checkpoint : Checkpoint) (version bodyCrc headerCrc : UInt32) (bodyLength walOffset : UInt64) :
    Reads checkpointFields (kCheckpointMagic ++ (le32 version ++ (le32 bodyCrc ++
      (Blake2s256.le64 bodyLength ++ (checkpoint.snapshotDigest.bytes ++ (checkpoint.ledgerDigest.bytes ++
        (Blake2s256.le64 walOffset ++ (Blake2s256.le64 checkpoint.generation ++
          (Blake2s256.le64 checkpoint.epoch ++ (Blake2s256.le64 checkpoint.incarnation ++ (le32 headerCrc ++
            ([checkpoint.lifecycle.code] ++ (List.replicate 3 0 ++ checkpoint.memberSetDigest.bytes)))))))))))))
      ({ version, bodyCrc, bodyLength, headerCrc }, { checkpoint with
        walOffset := walOffset.toNat
        lifecycle := .ofCode checkpoint.lifecycle.code
        ledger := []
        snapshotBytes := []
        present := false }) :=
  (ByteReader.reads_rawBytes kCheckpointMagic).bind ((ByteReader.reads_u32 _).bind ((ByteReader.reads_u32 _).bind
    ((ByteReader.reads_u64 _).bind ((ByteReader.reads_digest _).bind ((ByteReader.reads_digest _).bind
      ((ByteReader.reads_u64 _).bind ((ByteReader.reads_u64 _).bind ((ByteReader.reads_u64 _).bind
        ((ByteReader.reads_u64 _).bind ((ByteReader.reads_u32 _).bind ((ByteReader.reads_u8 _).bind
          ((ByteReader.reads_rawBytes (List.replicate 3 0)).bind (ByteReader.reads_digest _).last))))))))))))

theorem length_checkpointFront (checkpoint : Checkpoint) (body : List UInt8) :
    (checkpointFront checkpoint body).length = 120 := by
  simp only [checkpointFront, List.length_append, Blake2s256.length_le64, length_le32,
    checkpoint.snapshotDigest.sized, checkpoint.ledgerDigest.sized]
  decide

theorem length_checkpointBack (checkpoint : Checkpoint) : (checkpointBack checkpoint).length = 68 := by
  simp only [checkpointBack, List.length_append, List.length_replicate, List.length_cons, List.length_nil,
    checkpoint.memberSetDigest.sized]

/-- Where the parts of a checkpoint file lie. -/
structure LaidOut (checkpoint : Checkpoint) (body : List UInt8) (headerCrc : UInt32) (bytes : List UInt8) : Prop where
  size : bytes.length = kCheckpointHeaderSize + body.length
  magic : bytes.take 8 = kCheckpointMagic
  front : bytes.take 120 = checkpointFront checkpoint body
  back : (bytes.take kCheckpointHeaderSize).drop 124 = checkpointBack checkpoint
  rest : bytes.drop kCheckpointHeaderSize = body
  fields : checkpointFields bytes = some ((
    { version := kStateFormatVersion
      bodyCrc := crc32c body
      bodyLength := UInt64.ofNat body.length
      headerCrc := headerCrc },
    { checkpoint with
      walOffset := (UInt64.ofNat checkpoint.walOffset).toNat
      lifecycle := .ofCode checkpoint.lifecycle.code
      ledger := []
      snapshotBytes := []
      present := false }), List.replicate 32 0 ++ body)

theorem laidOut (checkpoint : Checkpoint) (body : List UInt8) (headerCrc : UInt32) :
    LaidOut checkpoint body headerCrc
      (checkpointFront checkpoint body ++ (le32 headerCrc ++ (checkpointBack checkpoint ++ body))) := by
  have front := length_checkpointFront checkpoint body
  have back := length_checkpointBack checkpoint
  have header : (checkpointFront checkpoint body ++ (le32 headerCrc ++ checkpointBack checkpoint)).length =
      kCheckpointHeaderSize := by
    simp only [List.length_append, front, back, length_le32]
    rfl
  have split : checkpointFront checkpoint body ++ (le32 headerCrc ++ (checkpointBack checkpoint ++ body)) =
      (checkpointFront checkpoint body ++ (le32 headerCrc ++ checkpointBack checkpoint)) ++ body := by
    simp only [List.append_assoc]
  refine ⟨?_, ?_, List.take_left' front, ?_, ?_, ?_⟩
  · rw [split, List.length_append, header]
  · simp only [checkpointFront, List.append_assoc]
    exact List.take_left' (by decide)
  · rw [split, List.take_left' header, ← List.append_assoc]
    exact List.drop_left' (by rw [List.length_append, front, length_le32])
  · rw [split]
    exact List.drop_left' header
  · have fields := reads_header checkpoint kStateFormatVersion (crc32c body) headerCrc (UInt64.ofNat body.length)
      (UInt64.ofNat checkpoint.walOffset) (List.replicate 32 0 ++ body)
    simp only [checkpointFront, checkpointBack, List.append_assoc] at fields ⊢
    exact fields

/-- A checkpoint that was built is parsed back. -/
theorem parseCheckpoint_build {checkpoint : Checkpoint} {limit : Nat} {bytes : List UInt8}
    (built : buildCheckpointBytes checkpoint limit = .ok bytes) (sized : limit < 2 ^ 64)
    (offset : checkpoint.walOffset < 2 ^ 64) (slots : checkpoint.ledger.length ≤ defaultEvidenceLimits.maxSlots)
    (valid : ∀ record ∈ checkpoint.ledger, validateEvidence record = .ok ()) :
    parseCheckpoint bytes = .ok { checkpoint with present := true } := by
  unfold buildCheckpointBytes at built
  rw [bind_eq_ok] at built
  obtain ⟨body, made, put⟩ := built
  obtain ⟨whole, within, counted⟩ := body_bytes made
  rw [Except.ok.injEq] at put
  generalize headerCrc : crc32c (checkpointFront checkpoint body ++
    (List.replicate 4 0 ++ checkpointBack checkpoint)) = crc at put
  have parts := laidOut checkpoint body crc
  rw [put] at parts
  have lengthField : (UInt64.ofNat body.length).toNat = body.length :=
    UInt64.toNat_ofNat_of_lt' (Nat.lt_of_le_of_lt within sized)
  have offsetField : (UInt64.ofNat checkpoint.walOffset).toNat = checkpoint.walOffset :=
    UInt64.toNat_ofNat_of_lt' offset
  have passes : checkCheckpoint bytes ⟨kStateFormatVersion, crc32c body, UInt64.ofNat body.length, crc⟩ =
      .ok () := by
    simp only [checkCheckpoint, parts.magic, parts.rest, parts.front, parts.back, headerCrc, lengthField, ne_eq,
      not_true, if_false]
  have fits : checkpoint.snapshotBytes.length ≤ bytes.length := by
    rw [parts.size, whole]
    simp only [bodyBytes, List.length_append, ByteReader.length_blobBytes]
    omega
  have decoded := reads_body { checkpoint with ledger := [], snapshotBytes := [], present := false }
    slots valid fits counted []
  rw [List.append_nil, ← whole] at decoded
  unfold parseCheckpoint
  rw [if_neg (by rw [parts.size]; omega), parts.fields, LifecycleState.ofCode_code, offsetField]
  simp only [passes, parts.rest, bind, Except.bind]
  rw [decoded]
  rfl

end RackFabric.OnDisk
