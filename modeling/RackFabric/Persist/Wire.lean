import RackFabric.Persist.Decoding

/-!
The encoder puts down exactly the bytes the decoder reads back, within the bound it was given.
-/

namespace RackFabric

open Foundation

namespace ByteWriter

/-- Unless a later step failed, the writer had not failed and exactly these bytes were added to it. -/
structure Adds (writer next : ByteWriter) (data : List UInt8) : Prop where
  ok : writer.ok = true
  limit : next.limit = writer.limit
  buffer : next.buffer = writer.buffer ++ data
  within : writer.size ≤ writer.limit → next.size ≤ next.limit

def Added (writer next : ByteWriter) (data : List UInt8) : Prop :=
  next.ok = true → Adds writer next data

theorem Adds.trans {writer middle next : ByteWriter} {data more : List UInt8} (first : Adds writer middle data)
    (second : Adds middle next more) : Adds writer next (data ++ more) where
  ok := first.ok
  limit := second.limit.trans first.limit
  buffer := by rw [second.buffer, first.buffer, List.append_assoc]
  within start := second.within (first.within start)

theorem added_raw (writer : ByteWriter) (data : List UInt8) : Added writer (writer.raw data) data := by
  intro ok
  by_cases blocked : (!writer.ok || data.length > writer.limit - writer.buffer.length) = true
  · rw [ByteWriter.raw, if_pos blocked] at ok
    cases ok
  · rw [ByteWriter.raw, if_neg blocked]
    simp only [Bool.or_eq_true, Bool.not_eq_true', decide_eq_true_eq, not_or, Bool.not_eq_false] at blocked
    refine ⟨blocked.1, rfl, rfl, ?_⟩
    intro start
    unfold size at start ⊢
    show (writer.buffer ++ data).length ≤ writer.limit
    rw [List.length_append]
    omega

theorem Added.trans {writer middle next : ByteWriter} {data more : List UInt8} (first : Added writer middle data)
    (second : Added middle next more) : Added writer next (data ++ more) := by
  intro ok
  have later := second ok
  exact (first later.ok).trans later

theorem Added.u8 {writer next : ByteWriter} {v : UInt8} {data : List UInt8} (then_ : Added (writer.u8 v) next data) :
    Added writer next ([v] ++ data) :=
  (added_raw writer [v]).trans then_

theorem Added.u16 {writer next : ByteWriter} {v : UInt16} {data : List UInt8}
    (then_ : Added (writer.u16 v) next data) : Added writer next (le16 v ++ data) :=
  (added_raw writer (le16 v)).trans then_

theorem Added.u32 {writer next : ByteWriter} {v : UInt32} {data : List UInt8}
    (then_ : Added (writer.u32 v) next data) : Added writer next (le32 v ++ data) :=
  (added_raw writer (le32 v)).trans then_

theorem Added.u64 {writer next : ByteWriter} {v : UInt64} {data : List UInt8}
    (then_ : Added (writer.u64 v) next data) : Added writer next (Blake2s256.le64 v ++ data) :=
  (added_raw writer (Blake2s256.le64 v)).trans then_

theorem Added.boolean {writer next : ByteWriter} {v : Bool} {data : List UInt8}
    (then_ : Added (writer.boolean v) next data) : Added writer next ([if v then 1 else 0] ++ data) :=
  (added_raw writer [if v then 1 else 0]).trans then_

theorem Added.digest {writer next : ByteWriter} {value : Digest} {data : List UInt8}
    (then_ : Added (writer.digest value) next data) : Added writer next (value.bytes ++ data) :=
  (added_raw writer value.bytes).trans then_

theorem added_blob (writer : ByteWriter) (data : List UInt8) (maxLen : Nat) :
    Added writer (writer.blob data maxLen) (ByteReader.blobBytes data) := by
  intro ok
  unfold blob at ok ⊢
  split at ok
  · cases ok
  · rename_i fits
    rw [if_neg fits]
    exact Added.u32 (added_raw _ data) ok

theorem added_text (writer : ByteWriter) (value : Text) (maxLen : Nat) :
    Added writer (writer.text value maxLen) (ByteReader.blobBytes value) := by
  intro ok
  unfold text at ok ⊢
  split at ok
  · cases ok
  · rename_i valid
    rw [if_neg valid]
    exact added_blob writer value maxLen ok

theorem added_ref (writer : ByteWriter) (ref : ResourceRef) : Added writer (encodeRef writer ref) (refBytes ref) :=
  Added.u8 (added_raw _ _)

theorem added_refs (writer : ByteWriter) (refs : List ResourceRef) :
    Added writer (refs.foldl encodeRef writer) (refs.flatMap refBytes) := by
  induction refs generalizing writer with
  | nil =>
    intro ok
    exact ⟨ok, rfl, by simp, id⟩
  | cons ref rest ih => exact (added_ref writer ref).trans (ih (encodeRef writer ref))

end ByteWriter

open ByteWriter

theorem writeGrant_added (grant : Grant) (writer : ByteWriter) :
    Added writer (writeGrant grant writer) (grantBytes grant) := by
  unfold grantBytes
  apply Added.trans
  · iterate 4 apply Added.u64
    apply (added_ref _ grant.scope).trans
    apply Added.u8
    iterate 7 apply Added.u64
    apply Added.u8
    exact added_raw _ _
  · apply Added.u32
    exact (added_refs _ _).trans (added_text _ _ _)

theorem encodeText_ok {writer next : ByteWriter} {value : Text} {bound : Nat}
    (encoded : encodeText writer value bound = .ok next) : next = writer.text value bound := by
  unfold encodeText at encoded
  split at encoded
  · cases encoded
  · split at encoded <;> cases encoded
    rfl

theorem encodePayload_added {payload : EvidencePayload} {writer next : ByteWriter}
    (encoded : encodeEvidencePayload payload writer = .ok next) : Added writer next (payloadBytes payload) := by
  cases payload with
  | member claim =>
    cases encoded
    exact Added.u64 (Added.u64 (added_raw _ _))
  | device claim =>
    cases encoded
    exact Added.u64 (Added.u8 (Added.u64 (Added.boolean (added_raw _ _))))
  | port claim =>
    cases encoded
    exact Added.u64 (Added.u64 (Added.u16 (Added.u8 (Added.u64 (Added.boolean (Added.u8 (added_raw _ _)))))))
  | link claim =>
    cases encoded
    exact Added.u64 (Added.u64 (Added.u64 (Added.u8 (Added.u64 (Added.boolean (added_raw _ _))))))
  | attachment claim =>
    rw [encodeText_ok encoded]
    exact (Added.u64 (Added.u64 (added_raw _ _))).trans (added_text _ _ _)
  | maintenance claim =>
    rw [encodeText_ok encoded]
    exact (Added.u8 (Added.u8 (added_raw _ _))).trans (added_text _ _ _)
  | obligation claim =>
    rw [encodeText_ok encoded]
    exact (Added.u64 (Added.u8 (Added.u64 (Added.u64 (added_raw _ _))))).trans (added_text _ _ _)

theorem encodeEvidence_added {record : EvidenceRecord} {writer next : ByteWriter}
    (encoded : encodeEvidence record writer = .ok next) : Added writer next (evidenceBytes record) := by
  unfold encodeEvidence at encoded
  rw [bind_eq_ok] at encoded
  obtain ⟨written, payload, checked⟩ := encoded
  have same : next = written := by
    split at checked <;> cases checked
    rfl
  subst same
  apply Added.trans _ (encodePayload_added payload)
  exact Added.u8 (Added.u8 (Added.u64 (Added.u64 (Added.u8 (Added.u64 (added_raw _ _))))))

theorem encodePayload_record_added {record : StoreRecord} {writer next : ByteWriter}
    (encoded : encodeStorePayload record (writer.u8 record.code) = .ok next) :
    Added writer next (recordBytes record) := by
  cases record with
  | rackBind body =>
    cases encoded
    exact Added.u8 (Added.u64 (added_text _ _ _))
  | config body =>
    cases encoded
    exact Added.u8 (Added.u64 (Added.u64 (added_raw _ _)))
  | evidence record => exact Added.u8 (encodeEvidence_added encoded)
  | lifecycle body =>
    cases encoded
    exact Added.u8 (Added.u8 (Added.u64 (added_raw _ _)))
  | generation generation =>
    cases encoded
    exact Added.u8 (added_raw _ _)
  | epoch body =>
    cases encoded
    exact Added.u8 (Added.u64 (added_raw _ _))
  | grantCommit grant =>
    apply Added.u8
    simp only [encodeStorePayload, encodeGrant] at encoded
    split at encoded <;> cases encoded
    exact writeGrant_added grant _
  | grantState body =>
    cases encoded
    exact Added.u8 (Added.u64 (Added.u8 (added_text _ _ _)))
  | requestOutcome body =>
    cases encoded
    exact Added.u8 (Added.u64 (Added.u64 (Added.u16 (Added.u64 (Added.u64 (Added.u64 (Added.digest
      (added_text _ _ _))))))))
  | cleanShutdown atMs =>
    cases encoded
    exact Added.u8 (added_raw _ _)

theorem legible_of_encoded {record : StoreRecord} {writer next : ByteWriter}
    (encoded : encodeStorePayload record writer = .ok next) (ok : next.ok = true) : record.Legible := by
  cases record with
  | rackBind body =>
    cases encoded
    exact writable_of_text_ok ok
  | grantCommit grant =>
    simp only [encodeStorePayload, encodeGrant] at encoded
    split at encoded <;> cases encoded
    exact writable_of_text_ok ok
  | grantState body =>
    cases encoded
    exact writable_of_text_ok ok
  | requestOutcome body =>
    cases encoded
    exact writable_of_text_ok ok
  | _ => trivial

/-- A successful encoding put down the record's bytes, within the bound, and its texts are legible. -/
theorem encodeStoreRecord_ok {record : StoreRecord} {limit : Nat} {writer : ByteWriter}
    (encoded : encodeStoreRecord record { limit := limit } = .ok writer) :
    writer.buffer = recordBytes record ∧ (recordBytes record).length ≤ limit ∧ record.Legible := by
  unfold encodeStoreRecord at encoded
  rw [bind_eq_ok] at encoded
  obtain ⟨written, payload, checked⟩ := encoded
  split at checked
  · cases checked
  · rename_i good
    cases checked
    have ok : writer.ok = true := by simpa using good
    have adds := encodePayload_record_added payload ok
    have bytes : writer.buffer = recordBytes record := adds.buffer
    have within : writer.buffer.length ≤ limit := by
      have bounded := adds.within (Nat.zero_le _)
      rw [adds.limit] at bounded
      exact bounded
    rw [bytes] at within
    exact ⟨bytes, within, legible_of_encoded payload ok⟩

@[simp] theorem ByteReader.length_blobBytes (data : List UInt8) :
    (ByteReader.blobBytes data).length = 4 + data.length := by
  simp [ByteReader.blobBytes]

theorem length_refs (refs : List ResourceRef) : (refs.flatMap refBytes).length = 9 * refs.length := by
  induction refs with
  | nil => rfl
  | cons ref rest ih =>
    rw [List.flatMap_cons, List.length_append, ih]
    simp only [refBytes, List.length_append, List.length_cons, List.length_nil, Blake2s256.length_le64]
    omega

theorem length_payload {payload : EvidencePayload} (legible : payload.Legible) :
    (payloadBytes payload).length ≤ 400 := by
  cases payload with
  | attachment claim =>
    have short : claim.hostKey.length ≤ 128 := legible.2
    simp only [payloadBytes, List.length_append, Blake2s256.length_le64, ByteReader.length_blobBytes]
    omega
  | maintenance claim =>
    have short : claim.reason.length ≤ 256 := legible.2
    simp only [payloadBytes, List.length_append, List.length_cons, List.length_nil, Blake2s256.length_le64,
      ByteReader.length_blobBytes]
    omega
  | obligation claim =>
    have short : claim.authority.length ≤ 128 := legible.2
    simp only [payloadBytes, List.length_append, List.length_cons, List.length_nil, Blake2s256.length_le64,
      ByteReader.length_blobBytes]
    omega
  | _ =>
    simp only [payloadBytes, List.length_append, List.length_cons, List.length_nil, Blake2s256.length_le64,
      length_le16]
    omega

theorem length_evidence {record : EvidenceRecord} (valid : validateEvidence record = .ok ()) :
    (evidenceBytes record).length ≤ 512 := by
  have short := length_payload (legible_of_validateEvidence valid)
  simp only [evidenceBytes, List.length_append, List.length_cons, List.length_nil, Blake2s256.length_le64]
  omega

/-- No decodable record comes near what the length field of a frame can hold. -/
theorem length_record {record : StoreRecord} (decodable : record.Decodable) (legible : record.Legible) :
    (recordBytes record).length ≤ 2048 := by
  cases record with
  | rackBind body =>
    have short : body.name.length ≤ 128 := legible.2
    simp only [recordBytes, List.length_append, List.length_cons, List.length_nil, Blake2s256.length_le64,
      ByteReader.length_blobBytes]
    omega
  | evidence record =>
    have short := length_evidence decodable
    simp only [recordBytes, List.length_append, List.length_cons, List.length_nil]
    omega
  | grantCommit grant =>
    have pool : grant.capacityPool.length ≤ 64 := decodable
    have short : grant.reason.length ≤ 128 := legible.2
    simp only [recordBytes, grantBytes, refBytes, List.length_append, List.length_cons, List.length_nil,
      Blake2s256.length_le64, ByteReader.length_blobBytes, grant.authorityBasis.sized, length_le32, length_refs]
    omega
  | grantState body =>
    have short : body.reason.length ≤ 128 := legible.2
    simp only [recordBytes, List.length_append, List.length_cons, List.length_nil, Blake2s256.length_le64,
      ByteReader.length_blobBytes]
    omega
  | requestOutcome body =>
    have short : body.detail.length ≤ 256 := legible.2
    simp only [recordBytes, List.length_append, List.length_cons, List.length_nil, Blake2s256.length_le64,
      ByteReader.length_blobBytes, body.requestDigest.sized, length_le16]
    omega
  | epoch body =>
    simp only [recordBytes, List.length_append, List.length_cons, List.length_nil, Blake2s256.length_le64,
      body.memberSetDigest.sized]
    omega
  | _ =>
    simp only [recordBytes, List.length_append, List.length_cons, List.length_nil, Blake2s256.length_le64]
    omega

end RackFabric
