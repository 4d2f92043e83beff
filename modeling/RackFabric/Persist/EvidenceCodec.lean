import RackFabric.Core.Canonical
import RackFabric.Persist.Wire

/-!
The evidence codec is an exact inverse: a valid record has one encoding, the decoder accepts nothing else for it,
and no encoding is the beginning of another.
-/

namespace RackFabric

open Foundation ByteReader

theorem takes_expect {reading : Reading α} {relation : List UInt8 → α → Prop} (takes : Takes reading relation)
    (code : StatusCode) (detail : String) : Takes (expect reading code detail) relation := by
  intro input value rest returned
  unfold expect at returned
  split at returned
  · rename_i result read
    cases returned
    exact takes input value rest read
  · cases returned

theorem exact_expect {reading : Reading α} {items : α → List UInt8} {fits : α → Prop}
    (exact_ : Exact reading items fits) (code : StatusCode) (detail : String) :
    Exact (expect reading code detail) items fits where
  reads value holds := reads_expect (exact_.reads value holds) code detail
  takes := takes_expect exact_.takes code detail

/-- What a claim's decoder took is what its encoder writes, and the claim is of the kind that was asked for. -/
def PayloadTaken (kind : UInt8) (taken : List UInt8) (payload : EvidencePayload) : Prop :=
  taken = payloadBytes payload ∧ ({ payload := payload } : EvidenceRecord).kind.code = kind

private theorem takes_member : Takes (decodeEvidencePayload 1) (PayloadTaken 1) := by
  apply takes_expect
  apply exact_u64.takes.bind
  rintro _ rack ⟨rfl, -⟩
  apply exact_u64.takes.bind
  rintro _ device ⟨rfl, -⟩
  apply exact_u64.takes.bind
  rintro _ incarnation ⟨rfl, -⟩
  apply Takes.done
  exact ⟨by simp [payloadBytes], rfl⟩

private theorem takes_device : Takes (decodeEvidencePayload 2) (PayloadTaken 2) := by
  apply takes_expect
  apply exact_u64.takes.bind
  rintro _ device ⟨rfl, -⟩
  apply exact_u8.takes.bind
  rintro _ role ⟨rfl, -⟩
  apply exact_u64.takes.bind
  rintro _ capacity ⟨rfl, -⟩
  apply exact_boolean.takes.bind
  rintro _ known ⟨rfl, -⟩
  apply exact_u8.takes.bind
  rintro _ availability ⟨rfl, -⟩
  apply Takes.done
  exact ⟨by simp [payloadBytes], rfl⟩

private theorem takes_port : Takes (decodeEvidencePayload 3) (PayloadTaken 3) := by
  apply takes_expect
  apply exact_u64.takes.bind
  rintro _ port ⟨rfl, -⟩
  apply exact_u64.takes.bind
  rintro _ device ⟨rfl, -⟩
  apply exact_u16.takes.bind
  rintro _ index ⟨rfl, -⟩
  apply exact_u8.takes.bind
  rintro _ role ⟨rfl, -⟩
  apply exact_u64.takes.bind
  rintro _ capacity ⟨rfl, -⟩
  apply exact_boolean.takes.bind
  rintro _ known ⟨rfl, -⟩
  apply exact_u8.takes.bind
  rintro _ admin ⟨rfl, -⟩
  apply exact_u8.takes.bind
  rintro _ availability ⟨rfl, -⟩
  apply Takes.done
  exact ⟨by simp [payloadBytes], rfl⟩

private theorem takes_link : Takes (decodeEvidencePayload 4) (PayloadTaken 4) := by
  apply takes_expect
  apply exact_u64.takes.bind
  rintro _ link ⟨rfl, -⟩
  apply exact_u64.takes.bind
  rintro _ portA ⟨rfl, -⟩
  apply exact_u64.takes.bind
  rintro _ portB ⟨rfl, -⟩
  apply exact_u8.takes.bind
  rintro _ kind ⟨rfl, -⟩
  apply exact_u64.takes.bind
  rintro _ capacity ⟨rfl, -⟩
  apply exact_boolean.takes.bind
  rintro _ known ⟨rfl, -⟩
  apply exact_u8.takes.bind
  rintro _ availability ⟨rfl, -⟩
  apply Takes.done
  exact ⟨by simp [payloadBytes], rfl⟩

private theorem takes_attachment : Takes (decodeEvidencePayload 5) (PayloadTaken 5) := by
  have front : Takes (expect (do
      let attachment ← u64
      let device ← u64
      let port ← u64
      pure (attachment, device, port)) .truncated "attachment claim is truncated")
      fun taken (value : UInt64 × UInt64 × UInt64) => taken =
        Blake2s256.le64 value.1 ++ (Blake2s256.le64 value.2.1 ++ Blake2s256.le64 value.2.2) := by
    apply takes_expect
    apply exact_u64.takes.bind
    rintro _ attachment ⟨rfl, -⟩
    apply exact_u64.takes.bind
    rintro _ device ⟨rfl, -⟩
    apply exact_u64.takes.bind
    rintro _ port ⟨rfl, -⟩
    apply Takes.done
    simp
  apply front.bind
  rintro _ ⟨attachment, device, port⟩ rfl
  apply (takes_expect (exact_text (by decide)).takes _ _).bind
  rintro _ hostKey ⟨rfl, -⟩
  apply Takes.done
  exact ⟨by simp [payloadBytes], rfl⟩

private theorem takes_maintenance : Takes (decodeEvidencePayload 6) (PayloadTaken 6) := by
  have front : Takes (expect (do
      let action ← u8
      let targetKind ← u8
      let targetId ← u64
      pure (action, targetKind, targetId)) .truncated "maintenance claim is truncated")
      fun taken (value : UInt8 × UInt8 × UInt64) => taken =
        [value.1] ++ ([value.2.1] ++ Blake2s256.le64 value.2.2) := by
    apply takes_expect
    apply exact_u8.takes.bind
    rintro _ action ⟨rfl, -⟩
    apply exact_u8.takes.bind
    rintro _ targetKind ⟨rfl, -⟩
    apply exact_u64.takes.bind
    rintro _ targetId ⟨rfl, -⟩
    apply Takes.done
    simp
  apply front.bind
  rintro _ ⟨action, targetKind, targetId⟩ rfl
  apply (takes_expect (exact_text (by decide)).takes _ _).bind
  rintro _ reason ⟨rfl, -⟩
  apply Takes.done
  exact ⟨by simp [payloadBytes], rfl⟩

private theorem takes_obligation : Takes (decodeEvidencePayload 7) (PayloadTaken 7) := by
  have front : Takes (expect (do
      let obligation ← u64
      let targetKind ← u8
      let targetId ← u64
      let capacity ← u64
      let holder ← u64
      pure (obligation, targetKind, targetId, capacity, holder)) .truncated "obligation claim is truncated")
      fun taken (value : UInt64 × UInt8 × UInt64 × UInt64 × UInt64) => taken =
        Blake2s256.le64 value.1 ++ ([value.2.1] ++ (Blake2s256.le64 value.2.2.1 ++
          (Blake2s256.le64 value.2.2.2.1 ++ Blake2s256.le64 value.2.2.2.2))) := by
    apply takes_expect
    apply exact_u64.takes.bind
    rintro _ obligation ⟨rfl, -⟩
    apply exact_u8.takes.bind
    rintro _ targetKind ⟨rfl, -⟩
    apply exact_u64.takes.bind
    rintro _ targetId ⟨rfl, -⟩
    apply exact_u64.takes.bind
    rintro _ capacity ⟨rfl, -⟩
    apply exact_u64.takes.bind
    rintro _ holder ⟨rfl, -⟩
    apply Takes.done
    simp
  apply front.bind
  rintro _ ⟨obligation, targetKind, targetId, capacity, holder⟩ rfl
  apply (takes_expect (exact_text (by decide)).takes _ _).bind
  rintro _ authority ⟨rfl, -⟩
  apply Takes.done
  exact ⟨by simp [payloadBytes], rfl⟩

theorem takes_payload (kind : UInt8) : Takes (decodeEvidencePayload kind) (PayloadTaken kind) := by
  by_cases named : kind ∈ [1, 2, 3, 4, 5, 6, 7]
  · simp only [List.mem_cons, List.not_mem_nil, or_false] at named
    rcases named with rfl | rfl | rfl | rfl | rfl | rfl | rfl
    · exact takes_member
    · exact takes_device
    · exact takes_port
    · exact takes_link
    · exact takes_attachment
    · exact takes_maintenance
    · exact takes_obligation
  · intro input value rest returned
    simp only [List.mem_cons, List.not_mem_nil, or_false, not_or] at named
    obtain ⟨one, two, three, four, five, six, seven⟩ := named
    rw [decodeEvidencePayload] at returned
    · cases returned
    · exact one
    · exact two
    · exact three
    · exact four
    · exact five
    · exact six
    · exact seven

/-- What the decoder accepts is the encoding of a valid record. -/
theorem exact_evidence : Exact decodeEvidence evidenceBytes fun record => validateEvidence record = .ok () where
  reads record valid := reads_evidence valid
  takes := by
    have front : Takes (expect (do
        let kind ← u8
        let durability ← u8
        let generation ← u64
        let source ← u64
        let sourceKind ← u8
        let sequence ← u64
        let observedAtMs ← u64
        pure (kind, Durability.ofCode durability, generation,
          ({ source, kind := .ofCode sourceKind, sequence, observedAtMs } : Provenance)))
        .truncated "evidence record header is truncated")
        fun taken (value : UInt8 × Durability × UInt64 × Provenance) => taken =
          [value.1] ++ ([value.2.1.code] ++ (Blake2s256.le64 value.2.2.1 ++
            (Blake2s256.le64 value.2.2.2.source ++ ([value.2.2.2.kind.code] ++
              (Blake2s256.le64 value.2.2.2.sequence ++ Blake2s256.le64 value.2.2.2.observedAtMs))))) := by
      apply takes_expect
      apply exact_u8.takes.bind
      rintro _ kind ⟨rfl, -⟩
      apply exact_u8.takes.bind
      rintro _ durability ⟨rfl, -⟩
      apply exact_u64.takes.bind
      rintro _ generation ⟨rfl, -⟩
      apply exact_u64.takes.bind
      rintro _ source ⟨rfl, -⟩
      apply exact_u8.takes.bind
      rintro _ sourceKind ⟨rfl, -⟩
      apply exact_u64.takes.bind
      rintro _ sequence ⟨rfl, -⟩
      apply exact_u64.takes.bind
      rintro _ observedAtMs ⟨rfl, -⟩
      apply Takes.done
      simp
    apply front.bind
    rintro _ ⟨kind, durability, generation, provenance⟩ rfl
    apply (takes_payload kind).bind
    rintro _ payload ⟨rfl, rfl⟩
    intro input record rest returned
    obtain ⟨⟨_, middle⟩, validated, published⟩ := bind_eq_ok.mp returned
    cases published
    obtain ⟨_, valid, same⟩ := bind_eq_ok.mp validated
    cases same
    refine ⟨[], rfl, ?_, valid⟩
    rw [List.append_nil]
    rfl

private theorem encodes_of_valid {record : EvidenceRecord} (valid : validateEvidence record = .ok ()) :
    ∃ written, encodeEvidence record { limit := defaultEvidenceLimits.maxEncodedRecord } = .ok written := by
  cases encoded : encodeEvidence record { limit := defaultEvidenceLimits.maxEncodedRecord } with
  | ok written => exact ⟨written, rfl⟩
  | error status =>
    exfalso
    obtain ⟨_, -, checks⟩ := bind_eq_ok.mp valid
    simp only [encoded] at checks
    cases durability : record.durability <;> cases kind : record.provenance.kind <;>
      cases source : record.provenance.source == 0 <;>
      simp [durability, kind, source, refuse, bind, Except.bind] at checks

/-- A valid record encodes under the default bound, to its bytes. -/
theorem encodeEvidence_of_valid {record : EvidenceRecord} (valid : validateEvidence record = .ok ()) :
    ∃ written, encodeEvidence record { limit := defaultEvidenceLimits.maxEncodedRecord } = .ok written ∧
      written.buffer = evidenceBytes record := by
  obtain ⟨written, encoded⟩ := encodes_of_valid valid
  refine ⟨written, encoded, ?_⟩
  have ok : written.ok = true := by
    unfold encodeEvidence at encoded
    obtain ⟨middle, -, checked⟩ := bind_eq_ok.mp encoded
    split at checked
    · cases checked
    · rename_i good
      cases checked
      simpa using good
  exact (encodeEvidence_added encoded ok).buffer

/-- The evidence codec is an exact inverse: valid records encode within 512 bytes, decode to themselves in front of
anything and not from less, and whatever decodes is the encoding of what it decodes to. -/
theorem evidence_codec_exact :
    (∀ record, validateEvidence record = .ok () →
      ∃ written, encodeEvidence record { limit := defaultEvidenceLimits.maxEncodedRecord } = .ok written ∧
        written.buffer.length ≤ 512 ∧
        (∀ rest, decodeEvidence (written.buffer ++ rest) = .ok (record, rest)) ∧
        ∀ front back, front ++ back = written.buffer → back ≠ [] → ∃ status, decodeEvidence front = .error status) ∧
    (∀ input record rest, decodeEvidence input = .ok (record, rest) →
      ∃ written, encodeEvidence record { limit := defaultEvidenceLimits.maxEncodedRecord } = .ok written ∧
        input = written.buffer ++ rest) ∧
    ∀ first second written, validateEvidence first = .ok () → validateEvidence second = .ok () →
      encodeEvidence first { limit := defaultEvidenceLimits.maxEncodedRecord } = .ok written →
      encodeEvidence second { limit := defaultEvidenceLimits.maxEncodedRecord } = .ok written → first = second := by
  refine ⟨?_, ?_, ?_⟩
  · intro record valid
    obtain ⟨written, encoded, bytes⟩ := encodeEvidence_of_valid valid
    refine ⟨written, encoded, ?_, ?_, ?_⟩
    · rw [bytes]
      exact length_evidence valid
    · rw [bytes]
      exact exact_evidence.reads record valid
    · intro front back split proper
      rw [bytes] at split
      have refused := exact_evidence.cut valid split proper
      cases decoded : decodeEvidence front with
      | error status => exact ⟨status, rfl⟩
      | ok result => exact absurd decoded (refused result)
  · intro input record rest decoded
    obtain ⟨valid, rfl⟩ := exact_evidence.returns_iff.mp decoded
    obtain ⟨written, encoded, bytes⟩ := encodeEvidence_of_valid valid
    exact ⟨written, encoded, by rw [bytes]⟩
  · intro first second written valid also encoded again
    obtain ⟨one, encodedOne, bytesOne⟩ := encodeEvidence_of_valid valid
    obtain ⟨other, encodedOther, bytesOther⟩ := encodeEvidence_of_valid also
    rw [encoded] at encodedOne
    rw [again] at encodedOther
    cases encodedOne
    cases encodedOther
    exact exact_evidence.injective valid also (bytesOne.symm.trans bytesOther)

/-- A membership claim, as one source files it. -/
def membership : EvidenceRecord :=
  { provenance := { source := 1, sequence := 1 }, payload := .member { rack := 7, device := 3, incarnation := 1 } }

theorem membership_codec_exact :
    ∃ written, encodeEvidence membership { limit := defaultEvidenceLimits.maxEncodedRecord } = .ok written ∧
      decodeEvidence (written.buffer ++ [0]) = .ok (membership, [0]) := by
  obtain ⟨written, encoded, -, reads, -⟩ := evidence_codec_exact.1 membership rfl
  exact ⟨written, encoded, reads [0]⟩

end RackFabric
