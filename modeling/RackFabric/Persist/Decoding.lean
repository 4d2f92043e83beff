import RackFabric.Core.Reader
import RackFabric.Persist.Casts
import RackFabric.Persist.Encoding

/-!
Decoding log records, and that decoding reads back exactly what was encoded. A record is decodable when its
evidence passes validation and its capacity pool is within the bound the decoder accepts.
-/

namespace RackFabric

open Foundation

/-- A decode step: bytes that do not read are a status. -/
abbrev Decoding := StateT (List UInt8) (Except Status)

def expect (reading : Reading α) (code : StatusCode) (detail : String) : Decoding α := fun remaining =>
  match reading remaining with
  | some result => .ok result
  | none => refuse code detail

def decodeEvidencePayload (kind : UInt8) : Decoding EvidencePayload :=
  match kind with
  | 1 =>
    expect (do
      let rack ← ByteReader.u64
      let device ← ByteReader.u64
      let incarnation ← ByteReader.u64
      pure (.member { rack, device, incarnation })) .truncated "member claim is truncated"
  | 2 =>
    expect (do
      let device ← ByteReader.u64
      let role ← ByteReader.u8
      let capacity ← ByteReader.u64
      let capacityKnown ← ByteReader.boolean
      let availability ← ByteReader.u8
      pure (.device {
        device, capacity, capacityKnown
        role := .ofCode role
        availability := .ofCode availability })) .truncated "device claim is truncated"
  | 3 =>
    expect (do
      let port ← ByteReader.u64
      let device ← ByteReader.u64
      let index ← ByteReader.u16
      let role ← ByteReader.u8
      let capacity ← ByteReader.u64
      let capacityKnown ← ByteReader.boolean
      let admin ← ByteReader.u8
      let availability ← ByteReader.u8
      pure (.port {
        port, device, index, capacity, capacityKnown
        role := .ofCode role
        admin := .ofCode admin
        availability := .ofCode availability })) .truncated "port claim is truncated"
  | 4 =>
    expect (do
      let link ← ByteReader.u64
      let portA ← ByteReader.u64
      let portB ← ByteReader.u64
      let kind ← ByteReader.u8
      let capacity ← ByteReader.u64
      let capacityKnown ← ByteReader.boolean
      let availability ← ByteReader.u8
      pure (.link {
        link, portA, portB, capacity, capacityKnown
        kind := .ofCode kind
        availability := .ofCode availability })) .truncated "link claim is truncated"
  | 5 => do
    let (attachment, device, port) ← expect (do
      let attachment ← ByteReader.u64
      let device ← ByteReader.u64
      let port ← ByteReader.u64
      pure (attachment, device, port)) .truncated "attachment claim is truncated"
    let hostKey ← expect (ByteReader.text defaultEvidenceLimits.maxHostKey) .malformedEncoding
      "attachment host key is truncated or not UTF-8"
    pure (.attachment { attachment, device, port, hostKey })
  | 6 => do
    let (action, targetKind, targetId) ← expect (do
      let action ← ByteReader.u8
      let targetKind ← ByteReader.u8
      let targetId ← ByteReader.u64
      pure (action, targetKind, targetId)) .truncated "maintenance claim is truncated"
    let reason ← expect (ByteReader.text defaultEvidenceLimits.maxReason) .malformedEncoding
      "maintenance reason is truncated or not UTF-8"
    pure (.maintenance { action := .ofCode action, targetKind := .ofCode targetKind, targetId, reason })
  | 7 => do
    let (obligation, targetKind, targetId, capacity, holder) ← expect (do
      let obligation ← ByteReader.u64
      let targetKind ← ByteReader.u8
      let targetId ← ByteReader.u64
      let capacity ← ByteReader.u64
      let holder ← ByteReader.u64
      pure (obligation, targetKind, targetId, capacity, holder)) .truncated "obligation claim is truncated"
    let authority ← expect (ByteReader.text defaultEvidenceLimits.maxAuthority) .malformedEncoding
      "obligation authority is truncated or not UTF-8"
    pure (.obligation { obligation, targetKind := .ofCode targetKind, targetId, capacity, holder, authority })
  | _ => fun _ => refuse .malformedEncoding "unknown evidence kind"

/-- Decoded evidence is validated before it is used. -/
def decodeEvidence : Decoding EvidenceRecord := do
  let (kind, durability, generation, provenance) ← expect (do
    let kind ← ByteReader.u8
    let durability ← ByteReader.u8
    let generation ← ByteReader.u64
    let source ← ByteReader.u64
    let sourceKind ← ByteReader.u8
    let sequence ← ByteReader.u64
    let observedAtMs ← ByteReader.u64
    pure (kind, Durability.ofCode durability, generation,
      ({ source, kind := .ofCode sourceKind, sequence, observedAtMs } : Provenance)))
    .truncated "evidence record header is truncated"
  let payload ← decodeEvidencePayload kind
  let record : EvidenceRecord := { durability, generation, provenance, payload }
  StateT.lift (validateEvidence record)
  pure record

def decodeRef : Reading ResourceRef := do
  let kind ← ByteReader.u8
  let id ← ByteReader.u64
  pure { kind := .ofCode kind, id }

def decodeGrant : Decoding Grant := do
  let grant ← expect (do
    let id ← ByteReader.u64
    let hi ← ByteReader.u64
    let lo ← ByteReader.u64
    let principal ← ByteReader.u64
    let scope ← decodeRef
    let mode ← ByteReader.u8
    let capacity ← ByteReader.u64
    let generation ← ByteReader.u64
    let epoch ← ByteReader.u64
    let incarnation ← ByteReader.u64
    let fence ← ByteReader.u64
    let issuedAtMs ← ByteReader.u64
    let expiresAtMs ← ByteReader.u64
    let state ← ByteReader.u8
    let authorityBasis ← ByteReader.digest
    pure ({
      id, principal, scope, capacity, generation, epoch, incarnation, fence, issuedAtMs, expiresAtMs
      authorityBasis
      request := { hi, lo }
      mode := .ofCode mode
      state := .ofCode state
      capacityPool := [] } : Grant)) .truncated "grant record is truncated"
  let pool ← expect (ByteReader.count kMaxPoolRefs) .malformedEncoding "grant capacity pool exceeds its bound"
  let capacityPool ← expect (readMany decodeRef pool) .truncated "grant capacity pool is truncated"
  let reason ← expect (ByteReader.text kMaxReasonText) .malformedEncoding
    "grant reason is truncated or not UTF-8"
  pure { grant with capacityPool, reason }

def decodeRecordBody (type : UInt8) : Decoding StoreRecord :=
  match type with
  | 1 =>
    expect (do
      let rack ← ByteReader.u64
      let name ← ByteReader.text kMaxNameText
      pure (.rackBind { rack, name })) .truncated "rack bind record is truncated"
  | 2 =>
    expect (do
      let headroomFloor ← ByteReader.u64
      let maxPathsPerPair ← ByteReader.u64
      let maxPathHops ← ByteReader.u64
      pure (.config { headroomFloor, maxPathsPerPair, maxPathHops })) .truncated "config record is truncated"
  | 3 => do
    let evidence ← decodeEvidence
    pure (.evidence evidence)
  | 4 =>
    expect (do
      let state ← ByteReader.u8
      let generation ← ByteReader.u64
      let epoch ← ByteReader.u64
      pure (.lifecycle { state := .ofCode state, generation, epoch }))
      .truncated "lifecycle record is truncated"
  | 5 =>
    expect (do
      let generation ← ByteReader.u64
      pure (.generation generation)) .truncated "generation record is truncated"
  | 6 =>
    expect (do
      let epoch ← ByteReader.u64
      let memberSetDigest ← ByteReader.digest
      pure (.epoch { epoch, memberSetDigest })) .truncated "epoch record is truncated"
  | 7 => do
    let grant ← decodeGrant
    pure (.grantCommit grant)
  | 8 =>
    expect (do
      let id ← ByteReader.u64
      let state ← ByteReader.u8
      let reason ← ByteReader.text kMaxReasonText
      pure (.grantState { id, state := .ofCode state, reason })) .truncated "grant state record is truncated"
  | 9 =>
    expect (do
      let hi ← ByteReader.u64
      let lo ← ByteReader.u64
      let code ← ByteReader.u16
      let grant ← ByteReader.u64
      let fence ← ByteReader.u64
      let incarnation ← ByteReader.u64
      let requestDigest ← ByteReader.digest
      let detail ← ByteReader.text kMaxDetailText
      pure (.requestOutcome {
        request := { hi, lo }
        code := .ofValue code
        grant, fence, incarnation, requestDigest, detail }))
      .truncated "request outcome record is truncated"
  | 10 =>
    expect (do
      let atMs ← ByteReader.u64
      pure (.cleanShutdown atMs)) .truncated "clean shutdown record is truncated"
  | type => fun _ =>
    .error ⟨.malformedEncoding, text "unknown store record type " ++ decimal type.toUInt64⟩

def decodeRecord : Decoding StoreRecord := do
  let type ← expect ByteReader.u8 .truncated "store record header is truncated"
  decodeRecordBody type

/-- The bytes of a reference. -/
def refBytes (ref : ResourceRef) : List UInt8 :=
  [ref.kind.code] ++ Blake2s256.le64 ref.id

def payloadBytes : EvidencePayload → List UInt8
  | .member claim =>
    Blake2s256.le64 claim.rack ++ (Blake2s256.le64 claim.device ++ Blake2s256.le64 claim.incarnation)
  | .device claim =>
    Blake2s256.le64 claim.device ++ ([claim.role.code] ++ (Blake2s256.le64 claim.capacity ++
      ([if claim.capacityKnown then 1 else 0] ++ [claim.availability.code])))
  | .port claim =>
    Blake2s256.le64 claim.port ++ (Blake2s256.le64 claim.device ++ (le16 claim.index ++ ([claim.role.code] ++
      (Blake2s256.le64 claim.capacity ++ ([if claim.capacityKnown then 1 else 0] ++
        ([claim.admin.code] ++ [claim.availability.code]))))))
  | .link claim =>
    Blake2s256.le64 claim.link ++ (Blake2s256.le64 claim.portA ++ (Blake2s256.le64 claim.portB ++
      ([claim.kind.code] ++ (Blake2s256.le64 claim.capacity ++ ([if claim.capacityKnown then 1 else 0] ++
        [claim.availability.code])))))
  | .attachment claim =>
    (Blake2s256.le64 claim.attachment ++ (Blake2s256.le64 claim.device ++ Blake2s256.le64 claim.port)) ++
      ByteReader.blobBytes claim.hostKey
  | .maintenance claim =>
    ([claim.action.code] ++ ([claim.targetKind.code] ++ Blake2s256.le64 claim.targetId)) ++
      ByteReader.blobBytes claim.reason
  | .obligation claim =>
    (Blake2s256.le64 claim.obligation ++ ([claim.targetKind.code] ++ (Blake2s256.le64 claim.targetId ++
      (Blake2s256.le64 claim.capacity ++ Blake2s256.le64 claim.holder)))) ++
        ByteReader.blobBytes claim.authority

def evidenceBytes (record : EvidenceRecord) : List UInt8 :=
  ([record.kind.code] ++ ([record.durability.code] ++ (Blake2s256.le64 record.generation ++
    (Blake2s256.le64 record.provenance.source ++ ([record.provenance.kind.code] ++
      (Blake2s256.le64 record.provenance.sequence ++ Blake2s256.le64 record.provenance.observedAtMs)))))) ++
    payloadBytes record.payload

def grantBytes (grant : Grant) : List UInt8 :=
  (Blake2s256.le64 grant.id ++ (Blake2s256.le64 grant.request.hi ++ (Blake2s256.le64 grant.request.lo ++
    (Blake2s256.le64 grant.principal ++ (refBytes grant.scope ++ ([grant.mode.code] ++
      (Blake2s256.le64 grant.capacity ++ (Blake2s256.le64 grant.generation ++ (Blake2s256.le64 grant.epoch ++
        (Blake2s256.le64 grant.incarnation ++ (Blake2s256.le64 grant.fence ++
          (Blake2s256.le64 grant.issuedAtMs ++ (Blake2s256.le64 grant.expiresAtMs ++
            ([grant.state.code] ++ grant.authorityBasis.bytes)))))))))))))) ++
    (le32 (UInt32.ofNat grant.capacityPool.length) ++
      (grant.capacityPool.flatMap refBytes ++ ByteReader.blobBytes grant.reason))

/-- The bytes a record is written as. -/
def recordBytes : StoreRecord → List UInt8
  | .rackBind body => [1] ++ (Blake2s256.le64 body.rack ++ ByteReader.blobBytes body.name)
  | .config body =>
    [2] ++ (Blake2s256.le64 body.headroomFloor ++ (Blake2s256.le64 body.maxPathsPerPair ++
      Blake2s256.le64 body.maxPathHops))
  | .evidence record => [3] ++ evidenceBytes record
  | .lifecycle body => [4] ++ ([body.state.code] ++ (Blake2s256.le64 body.generation ++ Blake2s256.le64 body.epoch))
  | .generation generation => [5] ++ Blake2s256.le64 generation
  | .epoch body => [6] ++ (Blake2s256.le64 body.epoch ++ body.memberSetDigest.bytes)
  | .grantCommit grant => [7] ++ grantBytes grant
  | .grantState body =>
    [8] ++ (Blake2s256.le64 body.id ++ ([body.state.code] ++ ByteReader.blobBytes body.reason))
  | .requestOutcome body =>
    [9] ++ (Blake2s256.le64 body.request.hi ++ (Blake2s256.le64 body.request.lo ++ (le16 body.code.value ++
      (Blake2s256.le64 body.grant ++ (Blake2s256.le64 body.fence ++ (Blake2s256.le64 body.incarnation ++
        (body.requestDigest.bytes ++ ByteReader.blobBytes body.detail)))))))
  | .cleanShutdown atMs => [10] ++ Blake2s256.le64 atMs

theorem reads_expect {reading : Reading α} {data : List UInt8} {value : α} (reads : Reads reading data value)
    (code : StatusCode) (detail : String) : Reads (expect reading code detail) data value := by
  intro rest
  simp only [expect, reads rest]
  rfl

theorem reads_ref (ref : ResourceRef) : Reads decodeRef (refBytes ref) ref := by
  have read : Reads decodeRef (refBytes ref) { kind := .ofCode ref.kind.code, id := ref.id } :=
    (ByteReader.reads_u8 _).bind (ByteReader.reads_u64 _).last
  rwa [ResourceKind.ofCode_code] at read

/-- Texts of a claim that the decoder accepts. -/
def EvidencePayload.Legible : EvidencePayload → Prop
  | .attachment claim => ByteWriter.Writable claim.hostKey defaultEvidenceLimits.maxHostKey
  | .maintenance claim => ByteWriter.Writable claim.reason defaultEvidenceLimits.maxReason
  | .obligation claim => ByteWriter.Writable claim.authority defaultEvidenceLimits.maxAuthority
  | _ => True

theorem reads_writable {value : Text} {bound : Nat} (writable : ByteWriter.Writable value bound)
    (small : bound ≤ 256) : Reads (ByteReader.text bound) (ByteReader.blobBytes value) value :=
  ByteReader.reads_text writable.2 (by have := writable.2; omega) writable.1

private theorem reads_device (claim : DeviceClaim) :
    Reads (decodeEvidencePayload 2) (payloadBytes (.device claim)) (.device claim) := by
  have read : Reads (decodeEvidencePayload 2) (payloadBytes (.device claim)) (.device { claim with
      role := .ofCode claim.role.code
      availability := .ofCode claim.availability.code }) := by
    apply reads_expect
    refine (ByteReader.reads_u64 _).bind ?_
    refine (ByteReader.reads_u8 _).bind ?_
    refine (ByteReader.reads_u64 _).bind ?_
    refine (ByteReader.reads_boolean _).bind ?_
    exact (ByteReader.reads_u8 _).last
  rwa [DeviceRole.ofCode_code, Availability.ofCode_code] at read

private theorem reads_port (claim : PortClaim) :
    Reads (decodeEvidencePayload 3) (payloadBytes (.port claim)) (.port claim) := by
  have read : Reads (decodeEvidencePayload 3) (payloadBytes (.port claim)) (.port { claim with
      role := .ofCode claim.role.code
      admin := .ofCode claim.admin.code
      availability := .ofCode claim.availability.code }) := by
    apply reads_expect
    refine (ByteReader.reads_u64 _).bind ?_
    refine (ByteReader.reads_u64 _).bind ?_
    refine (ByteReader.reads_u16 _).bind ?_
    refine (ByteReader.reads_u8 _).bind ?_
    refine (ByteReader.reads_u64 _).bind ?_
    refine (ByteReader.reads_boolean _).bind ?_
    refine (ByteReader.reads_u8 _).bind ?_
    exact (ByteReader.reads_u8 _).last
  rwa [PortRole.ofCode_code, AdminState.ofCode_code, Availability.ofCode_code] at read

private theorem reads_link (claim : LinkClaim) :
    Reads (decodeEvidencePayload 4) (payloadBytes (.link claim)) (.link claim) := by
  have read : Reads (decodeEvidencePayload 4) (payloadBytes (.link claim)) (.link { claim with
      kind := .ofCode claim.kind.code
      availability := .ofCode claim.availability.code }) := by
    apply reads_expect
    refine (ByteReader.reads_u64 _).bind ?_
    refine (ByteReader.reads_u64 _).bind ?_
    refine (ByteReader.reads_u64 _).bind ?_
    refine (ByteReader.reads_u8 _).bind ?_
    refine (ByteReader.reads_u64 _).bind ?_
    refine (ByteReader.reads_boolean _).bind ?_
    exact (ByteReader.reads_u8 _).last
  rwa [LinkKind.ofCode_code, Availability.ofCode_code] at read

private theorem reads_attachment (claim : AttachmentClaim)
    (writable : ByteWriter.Writable claim.hostKey defaultEvidenceLimits.maxHostKey) :
    Reads (decodeEvidencePayload 5) (payloadBytes (.attachment claim)) (.attachment claim) := by
  apply Reads.bind
  · apply reads_expect
    exact (ByteReader.reads_u64 _).bind ((ByteReader.reads_u64 _).bind (ByteReader.reads_u64 _).last)
  · exact (reads_expect (reads_writable writable (by decide)) _ _).last

private theorem reads_maintenance (claim : MaintenanceClaim)
    (writable : ByteWriter.Writable claim.reason defaultEvidenceLimits.maxReason) :
    Reads (decodeEvidencePayload 6) (payloadBytes (.maintenance claim)) (.maintenance claim) := by
  have read : Reads (decodeEvidencePayload 6) (payloadBytes (.maintenance claim)) (.maintenance { claim with
      action := .ofCode claim.action.code
      targetKind := .ofCode claim.targetKind.code }) := by
    apply Reads.bind
    · apply reads_expect
      exact (ByteReader.reads_u8 _).bind ((ByteReader.reads_u8 _).bind (ByteReader.reads_u64 _).last)
    · exact (reads_expect (reads_writable writable (by decide)) _ _).last
  rwa [MaintenanceKind.ofCode_code, ResourceKind.ofCode_code] at read

private theorem reads_obligation (claim : ObligationClaim)
    (writable : ByteWriter.Writable claim.authority defaultEvidenceLimits.maxAuthority) :
    Reads (decodeEvidencePayload 7) (payloadBytes (.obligation claim)) (.obligation claim) := by
  have read : Reads (decodeEvidencePayload 7) (payloadBytes (.obligation claim)) (.obligation { claim with
      targetKind := .ofCode claim.targetKind.code }) := by
    apply Reads.bind
    · apply reads_expect
      exact (ByteReader.reads_u64 _).bind ((ByteReader.reads_u8 _).bind ((ByteReader.reads_u64 _).bind
        ((ByteReader.reads_u64 _).bind (ByteReader.reads_u64 _).last)))
    · exact (reads_expect (reads_writable writable (by decide)) _ _).last
  rwa [ResourceKind.ofCode_code] at read

theorem reads_payload (record : EvidenceRecord) (legible : record.payload.Legible) :
    Reads (decodeEvidencePayload record.kind.code) (payloadBytes record.payload) record.payload := by
  unfold EvidenceRecord.kind
  cases payload : record.payload with
  | member claim =>
    apply reads_expect
    exact (ByteReader.reads_u64 _).bind ((ByteReader.reads_u64 _).bind (ByteReader.reads_u64 _).last)
  | device claim => exact reads_device claim
  | port claim => exact reads_port claim
  | link claim => exact reads_link claim
  | attachment claim => exact reads_attachment claim (by rw [payload] at legible; exact legible)
  | maintenance claim => exact reads_maintenance claim (by rw [payload] at legible; exact legible)
  | obligation claim => exact reads_obligation claim (by rw [payload] at legible; exact legible)

theorem legible_of_validateClaim {payload : EvidencePayload} (valid : validateClaim payload = .ok ()) :
    payload.Legible := by
  cases payload with
  | attachment claim =>
    simp only [validateClaim] at valid
    split at valid <;> try cases valid
    split at valid <;> try cases valid
    split at valid <;> try cases valid
    rename_i short utf8
    exact ⟨by simpa using utf8, by omega⟩
  | maintenance claim =>
    simp only [validateClaim] at valid
    split at valid <;> try cases valid
    split at valid <;> try cases valid
    split at valid <;> try cases valid
    split at valid <;> try cases valid
    rename_i short utf8
    exact ⟨by simpa using utf8, by omega⟩
  | obligation claim =>
    simp only [validateClaim] at valid
    split at valid <;> try cases valid
    split at valid <;> try cases valid
    split at valid <;> try cases valid
    split at valid <;> try cases valid
    split at valid <;> try cases valid
    rename_i short utf8
    exact ⟨by simpa using utf8, by omega⟩
  | _ => trivial

theorem legible_of_validateEvidence {record : EvidenceRecord} (valid : validateEvidence record = .ok ()) :
    record.payload.Legible := by
  unfold validateEvidence at valid
  rw [bind_eq_ok] at valid
  obtain ⟨_, claim, _⟩ := valid
  exact legible_of_validateClaim claim

/-- Evidence that passes validation decodes to itself. -/
theorem reads_evidence {record : EvidenceRecord} (valid : validateEvidence record = .ok ()) :
    Reads decodeEvidence (evidenceBytes record) record := by
  have read : Reads decodeEvidence (evidenceBytes record) { record with
      durability := .ofCode record.durability.code
      provenance := { record.provenance with kind := .ofCode record.provenance.kind.code } } := by
    apply Reads.bind
    · apply reads_expect
      exact (ByteReader.reads_u8 _).bind ((ByteReader.reads_u8 _).bind ((ByteReader.reads_u64 _).bind
        ((ByteReader.reads_u64 _).bind ((ByteReader.reads_u8 _).bind ((ByteReader.reads_u64 _).bind
          (ByteReader.reads_u64 _).last)))))
    · refine Reads.closed (reads_payload record (legible_of_validateEvidence valid)) ?_
      rw [Durability.ofCode_code, SourceKind.ofCode_code]
      intro rest
      show (StateT.lift (validateEvidence record) >>= fun _ => pure record : Decoding EvidenceRecord) rest = _
      simp only [StateT.lift, bind, StateT.bind, valid]
      rfl
  rwa [Durability.ofCode_code, SourceKind.ofCode_code] at read

theorem reads_grant {grant : Grant} (encodable : grant.Encodable) :
    Reads decodeGrant (grantBytes grant) grant := by
  obtain ⟨pool, reason⟩ := encodable
  have counted : grant.capacityPool.length < 2 ^ 32 := by
    unfold kMaxPoolRefs at pool
    omega
  have refs := Reads.many fun ref (_ : ref ∈ grant.capacityPool) => reads_ref ref
  have read : Reads decodeGrant (grantBytes grant) { grant with
      mode := .ofCode grant.mode.code
      state := .ofCode grant.state.code } := by
    apply Reads.bind
    · apply reads_expect
      exact (ByteReader.reads_u64 _).bind ((ByteReader.reads_u64 _).bind ((ByteReader.reads_u64 _).bind
        ((ByteReader.reads_u64 _).bind ((reads_ref _).bind ((ByteReader.reads_u8 _).bind
          ((ByteReader.reads_u64 _).bind ((ByteReader.reads_u64 _).bind ((ByteReader.reads_u64 _).bind
            ((ByteReader.reads_u64 _).bind ((ByteReader.reads_u64 _).bind ((ByteReader.reads_u64 _).bind
              ((ByteReader.reads_u64 _).bind ((ByteReader.reads_u8 _).bind
                (ByteReader.reads_digest _).last)))))))))))))
    · refine (reads_expect (ByteReader.reads_count pool counted) _ _).bind ?_
      refine (reads_expect refs _ _).bind ?_
      exact (reads_expect (reads_writable reason (by decide)) _ _).last
  rwa [GrantMode.ofCode_code, GrantState.ofCode_code] at read

/-- A record that decodes once it was encoded. -/
def StoreRecord.Decodable : StoreRecord → Prop
  | .evidence record => validateEvidence record = .ok ()
  | .grantCommit grant => grant.capacityPool.length ≤ kMaxPoolRefs
  | _ => True

instance : DecidablePred StoreRecord.Decodable
  | .evidence record => inferInstanceAs (Decidable (validateEvidence record = .ok ()))
  | .grantCommit grant => inferInstanceAs (Decidable (grant.capacityPool.length ≤ kMaxPoolRefs))
  | .rackBind _ | .config _ | .lifecycle _ | .generation _ | .epoch _ | .grantState _ | .requestOutcome _
  | .cleanShutdown _ => .isTrue trivial

/-- Texts of a record that the encoder and the decoder accept. -/
def StoreRecord.Legible : StoreRecord → Prop
  | .rackBind body => ByteWriter.Writable body.name kMaxNameText
  | .grantCommit grant => ByteWriter.Writable grant.reason kMaxReasonText
  | .grantState body => ByteWriter.Writable body.reason kMaxReasonText
  | .requestOutcome body => ByteWriter.Writable body.detail kMaxDetailText
  | _ => True

private theorem reads_lifecycle (body : LifecycleRecord) :
    Reads (decodeRecordBody 4) ([body.state.code] ++ (Blake2s256.le64 body.generation ++
      Blake2s256.le64 body.epoch)) (.lifecycle body) := by
  have read : Reads (decodeRecordBody 4) ([body.state.code] ++ (Blake2s256.le64 body.generation ++
      Blake2s256.le64 body.epoch)) (.lifecycle { body with state := .ofCode body.state.code }) := by
    apply reads_expect
    exact (ByteReader.reads_u8 _).bind ((ByteReader.reads_u64 _).bind (ByteReader.reads_u64 _).last)
  rwa [LifecycleState.ofCode_code] at read

private theorem reads_grantState {body : GrantStateRecord}
    (writable : ByteWriter.Writable body.reason kMaxReasonText) :
    Reads (decodeRecordBody 8) (Blake2s256.le64 body.id ++ ([body.state.code] ++
      ByteReader.blobBytes body.reason)) (.grantState body) := by
  have read : Reads (decodeRecordBody 8) (Blake2s256.le64 body.id ++ ([body.state.code] ++
      ByteReader.blobBytes body.reason)) (.grantState { body with state := .ofCode body.state.code }) := by
    apply reads_expect
    exact (ByteReader.reads_u64 _).bind ((ByteReader.reads_u8 _).bind (reads_writable writable (by decide)).last)
  rwa [GrantState.ofCode_code] at read

private theorem reads_requestOutcome {body : RequestOutcomeRecord}
    (writable : ByteWriter.Writable body.detail kMaxDetailText) :
    Reads (decodeRecordBody 9) (Blake2s256.le64 body.request.hi ++ (Blake2s256.le64 body.request.lo ++
      (le16 body.code.value ++ (Blake2s256.le64 body.grant ++ (Blake2s256.le64 body.fence ++
        (Blake2s256.le64 body.incarnation ++ (body.requestDigest.bytes ++
          ByteReader.blobBytes body.detail))))))) (.requestOutcome body) := by
  have read : Reads (decodeRecordBody 9) (Blake2s256.le64 body.request.hi ++ (Blake2s256.le64 body.request.lo ++
      (le16 body.code.value ++ (Blake2s256.le64 body.grant ++ (Blake2s256.le64 body.fence ++
        (Blake2s256.le64 body.incarnation ++ (body.requestDigest.bytes ++
          ByteReader.blobBytes body.detail))))))) (.requestOutcome { body with
            code := .ofValue body.code.value }) := by
    apply reads_expect
    exact (ByteReader.reads_u64 _).bind ((ByteReader.reads_u64 _).bind ((ByteReader.reads_u16 _).bind
      ((ByteReader.reads_u64 _).bind ((ByteReader.reads_u64 _).bind ((ByteReader.reads_u64 _).bind
        ((ByteReader.reads_digest _).bind (reads_writable writable (by decide)).last))))))
  rwa [StatusCode.ofValue_value] at read

/-- What was encoded decodes to itself. -/
theorem reads_record {record : StoreRecord} (decodable : record.Decodable) (legible : record.Legible) :
    Reads decodeRecord (recordBytes record) record := by
  cases record with
  | rackBind body =>
    refine (reads_expect (ByteReader.reads_u8 _) _ _).bind ?_
    apply reads_expect
    exact (ByteReader.reads_u64 _).bind (reads_writable legible (by decide)).last
  | config body =>
    refine (reads_expect (ByteReader.reads_u8 _) _ _).bind ?_
    apply reads_expect
    exact (ByteReader.reads_u64 _).bind ((ByteReader.reads_u64 _).bind (ByteReader.reads_u64 _).last)
  | evidence record =>
    refine (reads_expect (ByteReader.reads_u8 _) _ _).bind ?_
    exact (reads_evidence decodable).last
  | lifecycle body => exact (reads_expect (ByteReader.reads_u8 _) _ _).bind (reads_lifecycle body)
  | generation generation =>
    refine (reads_expect (ByteReader.reads_u8 _) _ _).bind ?_
    apply reads_expect
    exact (ByteReader.reads_u64 _).last
  | epoch body =>
    refine (reads_expect (ByteReader.reads_u8 _) _ _).bind ?_
    apply reads_expect
    exact (ByteReader.reads_u64 _).bind (ByteReader.reads_digest _).last
  | grantCommit grant =>
    refine (reads_expect (ByteReader.reads_u8 _) _ _).bind ?_
    exact (reads_grant ⟨decodable, legible⟩).last
  | grantState body => exact (reads_expect (ByteReader.reads_u8 _) _ _).bind (reads_grantState legible)
  | requestOutcome body => exact (reads_expect (ByteReader.reads_u8 _) _ _).bind (reads_requestOutcome legible)
  | cleanShutdown atMs =>
    refine (reads_expect (ByteReader.reads_u8 _) _ _).bind ?_
    apply reads_expect
    exact (ByteReader.reads_u64 _).last

end RackFabric
