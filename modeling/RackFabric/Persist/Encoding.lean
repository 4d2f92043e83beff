import RackFabric.Persist.Store

/-!
Records that the encoder accepts. A record of fixed width is always accepted; a grant is when its pools and its
reason are within their bounds.
-/

namespace RackFabric

namespace ByteWriter

/-- A writer that has not failed and still has room. -/
def Fits (writer : ByteWriter) (room : Nat) : Prop :=
  writer.ok = true ∧ writer.size + room ≤ writer.limit

theorem Fits.raw {writer : ByteWriter} {data : List UInt8} {room : Nat}
    (fits : writer.Fits (data.length + room)) : (writer.raw data).Fits room := by
  obtain ⟨ok, space⟩ := fits
  unfold size at space
  have enough : ¬ data.length > writer.limit - writer.buffer.length := by omega
  simp only [ByteWriter.raw, ok, enough, Fits, size]
  simp only [Bool.not_true, decide_false, Bool.or_self, Bool.false_eq_true, if_false, List.length_append]
  exact ⟨trivial, by omega⟩

theorem Fits.mono {writer : ByteWriter} {more fewer : Nat} (fits : writer.Fits more) (less : fewer ≤ more) :
    writer.Fits fewer :=
  ⟨fits.1, by have := fits.2; omega⟩

theorem Fits.u8 {writer : ByteWriter} {room : Nat} (fits : writer.Fits (1 + room)) (v : UInt8) :
    (writer.u8 v).Fits room :=
  Fits.raw fits

theorem Fits.u16 {writer : ByteWriter} {room : Nat} (fits : writer.Fits (2 + room)) (v : UInt16) :
    (writer.u16 v).Fits room :=
  Fits.raw fits

theorem Fits.u32 {writer : ByteWriter} {room : Nat} (fits : writer.Fits (4 + room)) (v : UInt32) :
    (writer.u32 v).Fits room :=
  Fits.raw fits

theorem Fits.u64 {writer : ByteWriter} {room : Nat} (fits : writer.Fits (8 + room)) (v : UInt64) :
    (writer.u64 v).Fits room :=
  Fits.raw fits

theorem Fits.digest {writer : ByteWriter} {room : Nat} (fits : writer.Fits (32 + room)) (value : Digest) :
    (writer.digest value).Fits room := by
  apply Fits.raw
  rw [value.sized]
  exact fits

/-- Text the encoder accepts under a bound. -/
def Writable (value : Text) (bound : Nat) : Prop :=
  isValidUtf8 value = true ∧ value.length ≤ bound

instance (value : Text) (bound : Nat) : Decidable (Writable value bound) :=
  inferInstanceAs (Decidable (_ ∧ _))

theorem Fits.text {writer : ByteWriter} {room bound : Nat} {value : Text} (writable : Writable value bound)
    (small : bound ≤ 256) (fits : writer.Fits (4 + (bound + room))) : (writer.text value bound).Fits room := by
  obtain ⟨valid, short⟩ := writable
  have within : ¬ (value.length > bound ∨ value.length > 0xFFFFFFFF) := by omega
  simp only [ByteWriter.text, blob, valid, Bool.not_true, Bool.false_eq_true, if_false]
  rw [if_neg (by simpa using within)]
  apply Fits.raw
  exact (Fits.u32 fits _).mono (by omega)

theorem Fits.refs {refs : List ResourceRef} {writer : ByteWriter} {room : Nat}
    (fits : writer.Fits (9 * refs.length + room)) : (refs.foldl encodeRef writer).Fits room := by
  induction refs generalizing writer with
  | nil => exact fits.mono (by simp)
  | cons ref rest ih =>
    apply ih
    apply Fits.u64
    apply Fits.u8
    exact fits.mono (by simp only [List.length_cons]; omega)

end ByteWriter

/-- A grant whose record the encoder accepts. -/
def Grant.Encodable (grant : Grant) : Prop :=
  grant.capacityPool.length ≤ kMaxPoolRefs ∧ ByteWriter.Writable grant.reason kMaxReasonText

theorem writeGrant_fits {grant : Grant} (encodable : grant.Encodable) {writer : ByteWriter}
    (fits : writer.Fits 1024) : (writeGrant grant writer).Fits 0 := by
  obtain ⟨pools, reason⟩ := encodable
  unfold kMaxPoolRefs at pools
  have tail : 4 + (9 * grant.capacityPool.length + (4 + (kMaxReasonText + 0))) ≤ 712 := by
    unfold kMaxReasonText
    omega
  apply ByteWriter.Fits.text reason (by decide)
  apply ByteWriter.Fits.refs
  apply ByteWriter.Fits.u32
  refine ByteWriter.Fits.mono ?_ tail
  apply ByteWriter.Fits.digest
  apply ByteWriter.Fits.u8
  iterate 7 apply ByteWriter.Fits.u64
  apply ByteWriter.Fits.u8
  apply ByteWriter.Fits.u64
  apply ByteWriter.Fits.u8
  iterate 4 apply ByteWriter.Fits.u64
  exact fits.mono (by decide)

/-- Text that went through the encoder is valid and within its bound. -/
theorem writable_of_text_ok {writer : ByteWriter} {value : Text} {bound : Nat}
    (ok : (writer.text value bound).ok = true) : ByteWriter.Writable value bound := by
  unfold ByteWriter.text at ok
  split at ok
  · cases ok
  · rename_i valid
    unfold ByteWriter.blob at ok
    split at ok
    · cases ok
    · rename_i short
      simp only [Bool.or_eq_true, decide_eq_true_eq, not_or] at short
      exact ⟨by simpa using valid, by omega⟩

/-- A record that can be logged under the default options. -/
def StoreRecord.Loggable (record : StoreRecord) : Prop :=
  ∃ writer, encodeStoreRecord record { limit := ({} : StoreOptions).maxRecordBytes } = .ok writer

theorem loggable_of_fits {record : StoreRecord} {writer : ByteWriter}
    (encoded : encodeStorePayload record
      (({ limit := ({} : StoreOptions).maxRecordBytes } : ByteWriter).u8 record.code) = .ok writer)
    (ok : writer.ok = true) : record.Loggable := by
  refine ⟨writer, ?_⟩
  unfold encodeStoreRecord
  rw [encoded]
  simp only [bind, Except.bind, ok]
  rfl

private theorem header_fits (code : UInt8) :
    (({ limit := ({} : StoreOptions).maxRecordBytes } : ByteWriter).u8 code).Fits 1024 := by
  apply ByteWriter.Fits.u8
  exact ⟨rfl, by decide⟩

theorem commit_loggable {grant : Grant} (encodable : grant.Encodable) :
    (StoreRecord.grantCommit grant).Loggable := by
  have fits := writeGrant_fits encodable (header_fits (StoreRecord.grantCommit grant).code)
  apply loggable_of_fits _ fits.1
  simp only [encodeStorePayload, encodeGrant, fits.1]
  rfl

theorem state_loggable {body : GrantStateRecord} (reason : ByteWriter.Writable body.reason kMaxReasonText) :
    (StoreRecord.grantState body).Loggable := by
  have fits : ((((({ limit := ({} : StoreOptions).maxRecordBytes } : ByteWriter).u8
      (StoreRecord.grantState body).code).u64 body.id).u8 body.state.code).text body.reason
        kMaxReasonText).Fits 0 := by
    apply ByteWriter.Fits.text reason (by decide)
    apply ByteWriter.Fits.u8
    apply ByteWriter.Fits.u64
    exact (header_fits _).mono (by decide)
  exact loggable_of_fits rfl fits.1

theorem outcome_loggable {body : RequestOutcomeRecord} (detail : ByteWriter.Writable body.detail kMaxDetailText) :
    (StoreRecord.requestOutcome body).Loggable := by
  have fits : (((((((((({ limit := ({} : StoreOptions).maxRecordBytes } : ByteWriter).u8
      (StoreRecord.requestOutcome body).code).u64 body.request.hi).u64 body.request.lo).u16
      body.code.value).u64 body.grant).u64 body.fence).u64 body.incarnation).digest
      body.requestDigest).text body.detail kMaxDetailText).Fits 0 := by
    apply ByteWriter.Fits.text detail (by decide)
    apply ByteWriter.Fits.digest
    iterate 3 apply ByteWriter.Fits.u64
    apply ByteWriter.Fits.u16
    iterate 2 apply ByteWriter.Fits.u64
    exact (header_fits _).mono (by decide)
  exact loggable_of_fits rfl fits.1

end RackFabric
