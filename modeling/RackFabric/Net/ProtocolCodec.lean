import RackFabric.Net.Sealing

/-!
The layouts of the protocol's messages. For each one the decoder takes back exactly what the encoder writes, and
neither less nor more; the fields follow each other in both in the order of the layout.
-/

namespace RackFabric

open Foundation ByteReader ByteWriter

/-! ### Hello -/

def helloRequestBytes (message : HelloRequest) : List UInt8 :=
  le16 message.protocolVersion ++ le32 message.clientId

theorem opens_helloRequest : Opens HelloRequest.decode helloRequestBytes fun _ => True := by
  refine Opens.whole (exact_expect ?_ _ _)
  apply Exact.start
  refine Exact.field HelloRequest.protocolVersion exact_u16 fun protocolVersion => ?_
  refine Exact.lastField HelloRequest.clientId _ exact_u32 ?_
  rintro clientId ⟨⟩
  simp only [HelloRequest.mk.injEq]
  grind

theorem seals_helloRequest (message : HelloRequest) :
    Seals message.encode (helloRequestBytes message) True := by
  refine Seals.finish fun writer => ?_
  apply Puts.u16
  exact puts_raw _ _

def helloResponseBytes (message : HelloResponse) : List UInt8 :=
  le16 message.protocolVersion ++ ([if message.accepted then 1 else 0] ++ (Blake2s256.le64 message.rack ++
    (Blake2s256.le64 message.epoch ++ (Blake2s256.le64 message.generation ++ (Blake2s256.le64
    message.incarnation ++ ([message.lifecycle.code] ++ (message.snapshotDigest.bytes ++ blobBytes
    message.detail)))))))

theorem opens_helloResponse : Opens HelloResponse.decode helloResponseBytes fun message => Detail message.detail := by
  refine Opens.whole (exact_expect ?_ _ _)
  apply Exact.start
  refine Exact.field HelloResponse.protocolVersion exact_u16 fun protocolVersion => ?_
  refine Exact.field HelloResponse.accepted exact_boolean fun accepted => ?_
  refine Exact.field HelloResponse.rack exact_u64 fun rack => ?_
  refine Exact.field HelloResponse.epoch exact_u64 fun epoch => ?_
  refine Exact.field HelloResponse.generation exact_u64 fun generation => ?_
  refine Exact.field HelloResponse.incarnation exact_u64 fun incarnation => ?_
  refine Exact.field (fun message : HelloResponse => message.lifecycle.code) exact_u8 fun lifecycle => ?_
  refine Exact.field HelloResponse.snapshotDigest exact_digest fun snapshotDigest => ?_
  refine Exact.lastPart HelloResponse.detail _ exact_detail ?_
  rintro detail ⟨⟩
  simp only [HelloResponse.mk.injEq, LifecycleState.code_eq_iff]
  grind

theorem seals_helloResponse (message : HelloResponse) :
    Seals message.encode (helloResponseBytes message) (Detail message.detail) := by
  refine Seals.finish fun writer => ?_
  apply Puts.u16
  apply Puts.boolean
  iterate 4 apply Puts.u64
  apply Puts.u8
  apply Puts.digest
  exact puts_detail _ _

/-! ### Evidence -/

def ackEntryBytes (message : EvidenceAckEntry) : List UInt8 :=
  [message.outcome.code] ++ (le16 message.code.value ++ (message.digest.bytes ++ blobBytes message.detail))

theorem exact_ackEntry : Exact getAckEntry ackEntryBytes fun message => Detail message.detail := by
  apply Exact.start
  refine Exact.field (fun message : EvidenceAckEntry => message.outcome.code) exact_u8 fun outcome => ?_
  refine Exact.field (fun message : EvidenceAckEntry => message.code.value) exact_u16 fun code => ?_
  refine Exact.field EvidenceAckEntry.digest exact_digest fun digest => ?_
  refine Exact.lastPart EvidenceAckEntry.detail _ exact_detail ?_
  rintro detail ⟨⟩
  simp only [EvidenceAckEntry.mk.injEq, InsertOutcome.code_eq_iff, StatusCode.value_eq_iff]
  grind

theorem puts_ackEntry (writer : ByteWriter) (message : EvidenceAckEntry) :
    Puts writer (putAckEntry writer message) (ackEntryBytes message) (Detail message.detail) :=
  Puts.u8 (Puts.u16 (Puts.digest (puts_detail _ _)))

theorem encodes_text (value : Text) {maxLen : Nat} (counted : maxLen < 2 ^ 32) :
    Encodes (fun writer => encodeText writer value maxLen) (blobBytes value) (ByteWriter.Writable value maxLen) := by
  intro writer
  have puts := puts_text writer value counted
  refine ⟨_, puts, ?_⟩
  by_cases fine : isValidUtf8 value = true ∧ value.length ≤ maxLen
  · refine .inl ?_
    simp [encodeText, fine.1, Nat.not_lt.mpr fine.2]
  · refine .inr ⟨?_, ?_⟩
    · by_contra working
      exact fine (puts.ok.mp (by simpa using working)).2.1
    · unfold encodeText
      split
      · exact ⟨_, rfl⟩
      · rename_i valid
        have long : value.length > maxLen := by
          by_contra short
          exact fine ⟨by simpa using valid, Nat.not_lt.mp short⟩
        exact ⟨_, if_pos long⟩

private theorem encodes_payload (payload : EvidencePayload) :
    Encodes (encodeEvidencePayload payload) (payloadBytes payload) payload.Legible := by
  cases payload with
  | member claim => exact Encodes.put fun writer => Puts.u64 (Puts.u64 (puts_raw _ _))
  | device claim => exact Encodes.put fun writer => Puts.u64 (Puts.u8 (Puts.u64 (Puts.boolean (puts_raw _ _))))
  | port claim =>
    refine Encodes.put fun writer => ?_
    iterate 2 apply Puts.u64
    exact Puts.u16 (Puts.u8 (Puts.u64 (Puts.boolean (Puts.u8 (puts_raw _ _)))))
  | link claim =>
    refine Encodes.put fun writer => ?_
    iterate 3 apply Puts.u64
    exact Puts.u8 (Puts.u64 (Puts.boolean (puts_raw _ _)))
  | attachment claim =>
    have front : ∀ writer : ByteWriter, Puts writer
        (((writer.u64 claim.attachment).u64 claim.device).u64 claim.port) _ True :=
      fun writer => Puts.u64 (Puts.u64 (puts_raw _ _))
    have small : defaultEvidenceLimits.maxHostKey < 2 ^ 32 := by decide
    have encodes := Encodes.following front (encodes_text claim.hostKey small)
    exact encodes
  | maintenance claim =>
    have front : ∀ writer : ByteWriter, Puts writer
        (((writer.u8 claim.action.code).u8 claim.targetKind.code).u64 claim.targetId) _ True :=
      fun writer => Puts.u8 (Puts.u8 (puts_raw _ _))
    have small : defaultEvidenceLimits.maxReason < 2 ^ 32 := by decide
    have encodes := Encodes.following front (encodes_text claim.reason small)
    exact encodes
  | obligation claim =>
    have front : ∀ writer : ByteWriter, Puts writer (((((writer.u64 claim.obligation).u8 claim.targetKind.code).u64
        claim.targetId).u64 claim.capacity).u64 claim.holder) _ True :=
      fun writer => Puts.u64 (Puts.u8 (Puts.u64 (Puts.u64 (puts_raw _ _))))
    have small : defaultEvidenceLimits.maxAuthority < 2 ^ 32 := by decide
    have encodes := Encodes.following front (encodes_text claim.authority small)
    exact encodes

/-- The texts of a claim are all its encoder checks. -/
theorem encodes_evidence (record : EvidenceRecord) :
    Encodes (encodeEvidence record) (evidenceBytes record) record.payload.Legible := by
  have header : ∀ writer : ByteWriter, Puts writer (encodeEvidenceHeader record writer)
      ([record.kind.code] ++ ([record.durability.code] ++ (Blake2s256.le64 record.generation ++
        (Blake2s256.le64 record.provenance.source ++ ([record.provenance.kind.code] ++
          (Blake2s256.le64 record.provenance.sequence ++ Blake2s256.le64 record.provenance.observedAtMs))))))
      True := by
    intro writer
    iterate 2 apply Puts.u8
    iterate 2 apply Puts.u64
    exact Puts.u8 (Puts.u64 (puts_raw _ _))
  have encodes := Encodes.following header ((encodes_payload record.payload).bind
    (Encodes.check .oversizeField "evidence record exceeds its encoding bound"))
  rw [List.append_nil] at encodes
  exact encodes.congr (by simp)

def evidenceAckBytes (message : EvidenceAckResponse) : List UInt8 :=
  listBytes ackEntryBytes message.entries

theorem opens_evidenceAck : Opens EvidenceAckResponse.decode evidenceAckBytes fun message =>
    message.entries.length ≤ kLimits.maxEvidenceRecords ∧ ∀ entry ∈ message.entries, Detail entry.detail := by
  refine Opens.whole ?_
  apply Exact.start
  refine Exact.lastPart EvidenceAckResponse.entries _
    (exact_getEach (exact_expect exact_ackEntry _ _) (by decide) _) ?_
  rintro entries ⟨⟩
  simp

theorem seals_evidenceAck (message : EvidenceAckResponse) :
    Seals message.encode (evidenceAckBytes message) (∀ entry ∈ message.entries, Detail entry.detail) :=
  Seals.finish fun writer => puts_list puts_ackEntry writer message.entries

def submitEvidenceBytes (message : SubmitEvidenceRequest) : List UInt8 :=
  listBytes evidenceBytes message.records

theorem opens_submitEvidence : Opens SubmitEvidenceRequest.decode submitEvidenceBytes fun message =>
    message.records.length ≤ kLimits.maxEvidenceRecords ∧
      ∀ record ∈ message.records, validateEvidence record = .ok () := by
  refine Opens.whole ?_
  apply Exact.start
  refine Exact.lastPart SubmitEvidenceRequest.records _ (exact_getEach exact_evidence (by decide) _) ?_
  rintro records ⟨⟩
  simp

theorem seals_submitEvidence (message : SubmitEvidenceRequest) :
    Seals message.encode (submitEvidenceBytes message) (∀ record ∈ message.records, record.payload.Legible) := by
  have ending : Seals finish [] True := Seals.finish fun writer => ⟨rfl, by simp, by simp⟩
  exact (Seals.after (encodes_each encodes_evidence message.records) ending).congr (by simp [submitEvidenceBytes])
    (by simp)

/-! ### Compose -/

def composeCommandBytes (message : ComposeCommand) : List UInt8 :=
  Blake2s256.le64 message.generation

theorem opens_composeCommand : Opens ComposeCommand.decode composeCommandBytes fun _ => True := by
  refine Opens.whole (exact_expect ?_ _ _)
  apply Exact.start
  refine Exact.lastField ComposeCommand.generation _ exact_u64 ?_
  rintro generation ⟨⟩
  simp only [ComposeCommand.mk.injEq]
  grind

theorem seals_composeCommand (message : ComposeCommand) :
    Seals message.encode (composeCommandBytes message) True := by
  refine Seals.finish fun writer => ?_
  exact puts_raw _ _

def composeResponseBytes (message : ComposeResponse) : List UInt8 :=
  le16 message.code.value ++ (Blake2s256.le64 message.generation ++ (Blake2s256.le64 message.epoch ++
    (Blake2s256.le64 message.incarnation ++ (message.digest.bytes ++ (le32 message.diagnostics ++ blobBytes
    message.detail)))))

theorem opens_composeResponse : Opens ComposeResponse.decode composeResponseBytes fun message => Detail message.detail := by
  refine Opens.whole (exact_expect ?_ _ _)
  apply Exact.start
  refine Exact.field (fun message : ComposeResponse => message.code.value) exact_u16 fun code => ?_
  refine Exact.field ComposeResponse.generation exact_u64 fun generation => ?_
  refine Exact.field ComposeResponse.epoch exact_u64 fun epoch => ?_
  refine Exact.field ComposeResponse.incarnation exact_u64 fun incarnation => ?_
  refine Exact.field ComposeResponse.digest exact_digest fun digest => ?_
  refine Exact.field ComposeResponse.diagnostics exact_u32 fun diagnostics => ?_
  refine Exact.lastPart ComposeResponse.detail _ exact_detail ?_
  rintro detail ⟨⟩
  simp only [ComposeResponse.mk.injEq, StatusCode.value_eq_iff]
  grind

theorem seals_composeResponse (message : ComposeResponse) :
    Seals message.encode (composeResponseBytes message) (Detail message.detail) := by
  refine Seals.finish fun writer => ?_
  apply Puts.u16
  iterate 3 apply Puts.u64
  apply Puts.digest
  apply Puts.u32
  exact puts_detail _ _

/-! ### Grants -/

def acquireRequestBytes (message : AcquireRequest) : List UInt8 :=
  Blake2s256.le64 message.request.hi ++ (Blake2s256.le64 message.request.lo ++ (Blake2s256.le64
    message.principal ++ (refBytes message.scope ++ ([message.mode.code] ++ (Blake2s256.le64 message.capacity ++
    Blake2s256.le64 message.ttlMs)))))

theorem opens_acquireRequest : Opens AcquireRequest.decode acquireRequestBytes
    fun message => message.scope.kind.Known ∧ (message.mode = .shared ∨ message.mode = .exclusive) := by
  have body : Exact (expect (do
      let hi ← u64
      let lo ← u64
      let principal ← u64
      let scope ← getRef
      let mode ← u8
      let capacity ← u64
      let ttlMs ← u64
      pure ({ principal, scope, capacity, ttlMs, request := { hi, lo }, mode := .ofCode mode } : AcquireRequest))
      .truncated "acquire request is truncated") acquireRequestBytes fun message => message.scope.kind.Known := by
    refine exact_expect ?_ _ _
    apply Exact.startPart
    refine Exact.field (fun message : AcquireRequest => message.request.hi) exact_u64 fun hi => ?_
    refine Exact.field (fun message : AcquireRequest => message.request.lo) exact_u64 fun lo => ?_
    refine Exact.field AcquireRequest.principal exact_u64 fun principal => ?_
    refine Exact.part AcquireRequest.scope exact_getRef fun scope => ?_
    refine Exact.field (fun message : AcquireRequest => message.mode.code) exact_u8 fun mode => ?_
    refine Exact.field AcquireRequest.capacity exact_u64 fun capacity => ?_
    refine Exact.lastField AcquireRequest.ttlMs _ exact_u64 ?_
    rintro ttlMs ⟨⟨_, _⟩, _, _, _, _, _⟩
    simp only [AcquireRequest.mk.injEq, RequestId.mk.injEq, GrantMode.code_eq_iff]
    grind
  have checked := exact_require body (fun message => decide (message.mode = .shared ∨ message.mode = .exclusive))
    .outOfRange "acquire request has an unknown grant mode" id id fun _ _ => Iff.rfl
  exact Opens.whole (checked.congr fun message => by simp)

theorem seals_acquireRequest (message : AcquireRequest) :
    Seals message.encode (acquireRequestBytes message) True := by
  refine Seals.finish fun writer => ?_
  iterate 3 apply Puts.u64
  apply Puts.ref
  apply Puts.u8
  apply Puts.u64
  exact puts_raw _ _

def grantSummaryBytes (message : GrantSummary) : List UInt8 :=
  Blake2s256.le64 message.id ++ (Blake2s256.le64 message.request.hi ++ (Blake2s256.le64 message.request.lo ++
    (Blake2s256.le64 message.principal ++ (refBytes message.scope ++ ([message.mode.code] ++ (Blake2s256.le64
    message.capacity ++ (Blake2s256.le64 message.generation ++ (Blake2s256.le64 message.epoch ++
    (Blake2s256.le64 message.incarnation ++ (Blake2s256.le64 message.fence ++ (Blake2s256.le64
    message.issuedAtMs ++ (Blake2s256.le64 message.expiresAtMs ++ ([message.state.code] ++ (message.basis.bytes
    ++ blobBytes message.reason))))))))))))))

theorem exact_grantSummary : Exact GrantSummary.decode grantSummaryBytes fun message => message.scope.kind.Known ∧ Detail message.reason := by
  refine exact_expect ?_ _ _
  apply Exact.start
  refine Exact.field GrantSummary.id exact_u64 fun id => ?_
  refine Exact.field (fun message : GrantSummary => message.request.hi) exact_u64 fun hi => ?_
  refine Exact.field (fun message : GrantSummary => message.request.lo) exact_u64 fun lo => ?_
  refine Exact.field GrantSummary.principal exact_u64 fun principal => ?_
  refine Exact.part GrantSummary.scope exact_getRef fun scope => ?_
  refine Exact.field (fun message : GrantSummary => message.mode.code) exact_u8 fun mode => ?_
  refine Exact.field GrantSummary.capacity exact_u64 fun capacity => ?_
  refine Exact.field GrantSummary.generation exact_u64 fun generation => ?_
  refine Exact.field GrantSummary.epoch exact_u64 fun epoch => ?_
  refine Exact.field GrantSummary.incarnation exact_u64 fun incarnation => ?_
  refine Exact.field GrantSummary.fence exact_u64 fun fence => ?_
  refine Exact.field GrantSummary.issuedAtMs exact_u64 fun issuedAtMs => ?_
  refine Exact.field GrantSummary.expiresAtMs exact_u64 fun expiresAtMs => ?_
  refine Exact.field (fun message : GrantSummary => message.state.code) exact_u8 fun state => ?_
  refine Exact.field GrantSummary.basis exact_digest fun basis => ?_
  refine Exact.lastPart GrantSummary.reason _ exact_detail ?_
  rintro reason ⟨_, ⟨_, _⟩, _, _, _, _, _, _, _, _, _, _, _, _, _⟩
  simp only [GrantSummary.mk.injEq, RequestId.mk.injEq, GrantMode.code_eq_iff, GrantState.code_eq_iff]
  grind

theorem seals_grantSummary (message : GrantSummary) :
    Seals message.encode (grantSummaryBytes message) (Detail message.reason) := by
  refine Seals.finish fun writer => ?_
  iterate 4 apply Puts.u64
  apply Puts.ref
  apply Puts.u8
  iterate 7 apply Puts.u64
  apply Puts.u8
  apply Puts.digest
  exact puts_detail _ _

/-- What the wire says of a grant: nothing when it has no identity. -/
def grantPresenceBytes : Option GrantSummary → List UInt8
  | none => [0]
  | some grant => [1] ++ grantSummaryBytes grant

def GrantResponse.presence (message : GrantResponse) : Option GrantSummary :=
  if message.grant.id != 0 then some message.grant else none

def grantResponseBytes (message : GrantResponse) : List UInt8 :=
  le16 message.code.value ++ (grantPresenceBytes message.presence ++ blobBytes message.detail)

/-- The part of a grant response that depends on whether the grant is there. -/
def getPresence : Decoding (Option GrantSummary) := do
  let present ← expect boolean .truncated "grant response is truncated"
  if present then do
    let grant ← GrantSummary.decode
    pure (some grant)
  else pure none

theorem exact_grantPresence : Exact getPresence grantPresenceBytes
    fun presence => ∀ grant ∈ presence, grant.scope.kind.Known ∧ Detail grant.reason where
  reads presence sound := by
    cases presence with
    | none => exact ((exact_expect exact_boolean _ _).reads false trivial).closed (Reads.done none)
    | some grant =>
      exact ((exact_expect exact_boolean _ _).reads true trivial).bind
        ((exact_grantSummary.reads grant (sound grant rfl)).last)
  takes := by
    apply (exact_expect exact_boolean _ _).takes.bind
    rintro _ present ⟨rfl, -⟩
    cases present with
    | false => exact Takes.done ⟨rfl, nofun⟩
    | true =>
      apply exact_grantSummary.takes.bind
      rintro _ grant ⟨rfl, sound⟩
      apply Takes.done
      refine ⟨by simp [grantPresenceBytes], ?_⟩
      rintro other ⟨⟩
      exact sound

/-- A grant without an identity is not on the wire, and is read back as the default one. -/
theorem opens_grantResponse : Opens GrantResponse.decode grantResponseBytes fun message =>
    message.grant.scope.kind.Known ∧ Detail message.grant.reason ∧ Detail message.detail ∧
      (message.grant.id = 0 → message.grant = {}) := by
  have body : Exact (do
      let code ← expect u16 .truncated "grant response is truncated"
      let presence ← getPresence
      let detail ← expect getDetail .truncated "grant response is truncated"
      pure (code, presence, detail))
      (fun wire : UInt16 × Option GrantSummary × Text =>
        le16 wire.1 ++ (grantPresenceBytes wire.2.1 ++ blobBytes wire.2.2))
      fun wire => (∀ grant ∈ wire.2.1, grant.scope.kind.Known ∧ Detail grant.reason) ∧ Detail wire.2.2 := by
    apply Exact.start
    refine Exact.field Prod.fst (exact_expect exact_u16 _ _) fun code => ?_
    refine Exact.part (fun wire : UInt16 × Option GrantSummary × Text => wire.2.1) exact_grantPresence
      fun presence => ?_
    refine Exact.lastPart (fun wire : UInt16 × Option GrantSummary × Text => wire.2.2) _
      (exact_expect exact_detail _ _) ?_
    rintro detail ⟨_, _, _⟩
    simp only [Prod.mk.injEq]
    grind
  let load (wire : UInt16 × Option GrantSummary × Text) : GrantResponse :=
    { code := .ofValue wire.1, grant := wire.2.1.getD {}, detail := wire.2.2 }
  have opens := @Opens.load _ _ _ _ _ grantResponseBytes (fun message =>
    message.grant.scope.kind.Known ∧ Detail message.grant.reason ∧ Detail message.detail ∧
      (message.grant.id = 0 → message.grant = {})) body load ?_
  · refine (congrArg (fun decode => Opens decode _ _) ?_).mpr opens
    refine congrArg whole ?_
    simp only [bind_assoc, pure_bind, getPresence]
    refine bind_congr fun code => bind_congr fun present => ?_
    cases present with
    | false => simp [load]
    | true => simp [load]
  · rintro message ⟨known, reason, detail, unset⟩
    refine ⟨(message.code.value, message.presence, message.detail), ⟨?_, detail⟩, ?_, rfl⟩
    · intro grant present
      unfold GrantResponse.presence at present
      split at present
      · cases present
        exact ⟨known, reason⟩
      · cases present
    · unfold GrantResponse.presence
      split
      · simp [load]
      · rename_i absent
        simp only [bne_iff_ne, ne_eq, Decidable.not_not] at absent
        simp [load, ← unset absent]

theorem seals_grantResponse (message : GrantResponse) :
    Seals message.encode (grantResponseBytes message)
      ((message.grant.id ≠ 0 → Detail message.grant.reason) ∧ Detail message.detail) := by
  have ending : Seals (fun writer => finish (putDetail writer message.detail)) (blobBytes message.detail)
      (Detail message.detail) := Seals.finish fun writer => puts_detail _ _
  have front : ∀ writer : ByteWriter, Puts writer
      ((writer.u16 message.code.value).boolean (message.grant.id != 0))
      (le16 message.code.value ++ [if message.grant.id != 0 then 1 else 0]) True :=
    fun writer => Puts.u16 (puts_raw _ _)
  have grant : Encodes (fun writer => if message.grant.id != 0 then message.grant.encode writer else .ok writer)
      (if message.grant.id != 0 then grantSummaryBytes message.grant else [])
      (message.grant.id ≠ 0 → Detail message.grant.reason) := by
    by_cases unset : message.grant.id = 0
    · simp only [unset, bne_self_eq_false, Bool.false_eq_true, if_false, ne_eq, not_true, false_implies]
      exact Encodes.put fun writer => ⟨rfl, by simp, by simp⟩
    · simp only [bne_iff_ne, ne_eq, unset, not_false_eq_true, if_true, true_implies]
      exact (seals_grantSummary message.grant).encodes
  have spelled : grantResponseBytes message = (le16 message.code.value ++ [if message.grant.id != 0 then 1 else 0]) ++
      (if message.grant.id != 0 then grantSummaryBytes message.grant else []) ++ blobBytes message.detail := by
    unfold grantResponseBytes GrantResponse.presence
    split
    · simp [grantPresenceBytes]
    · simp [grantPresenceBytes]
  have same : message.encode = fun writer =>
      (if message.grant.id != 0 then
        message.grant.encode ((writer.u16 message.code.value).boolean (message.grant.id != 0))
      else .ok ((writer.u16 message.code.value).boolean (message.grant.id != 0))) >>= fun writer =>
        finish (putDetail writer message.detail) := by
    funext writer
    unfold GrantResponse.encode
    split
    · rfl
    · rfl
  rw [spelled, same]
  exact Seals.after (Encodes.following front grant) ending

def tokenBytes (message : TokenMessage) : List UInt8 :=
  Blake2s256.le64 message.token.grant ++ (Blake2s256.le64 message.token.fence ++ (Blake2s256.le64
    message.token.incarnation ++ message.token.scopeBasis.bytes))

theorem exact_tokenBody :
    Exact (expect (do
      let grant ← u64
      let fence ← u64
      let incarnation ← u64
      let scopeBasis ← ByteReader.digest
      pure ({ token := { grant, fence, incarnation, scopeBasis } } : TokenMessage)) .truncated
      "lease token is truncated") tokenBytes fun _ => True := by
  refine exact_expect ?_ _ _
  apply Exact.start
  refine Exact.field (fun message : TokenMessage => message.token.grant) exact_u64 fun grant => ?_
  refine Exact.field (fun message : TokenMessage => message.token.fence) exact_u64 fun fence => ?_
  refine Exact.field (fun message : TokenMessage => message.token.incarnation) exact_u64 fun incarnation => ?_
  refine Exact.lastField (fun message : TokenMessage => message.token.scopeBasis) _ exact_digest ?_
  rintro scopeBasis ⟨⟨_, _, _, _⟩⟩
  simp only [TokenMessage.mk.injEq, LeaseToken.mk.injEq]
  grind

theorem opens_token : Opens (TokenMessage.decode true) tokenBytes fun _ => True :=
  Opens.whole exact_tokenBody

/-- In front of a larger body the token is read without asking for the end. -/
theorem exact_token : Exact (TokenMessage.decode false) tokenBytes fun _ => True := by
  simpa [TokenMessage.decode] using exact_tokenBody

theorem seals_token (message : TokenMessage) :
    Seals message.encode (tokenBytes message) True := by
  refine Seals.finish fun writer => ?_
  iterate 3 apply Puts.u64
  exact puts_raw _ _

def renewRequestBytes (message : RenewRequest) : List UInt8 :=
  tokenBytes { token := message.token } ++ Blake2s256.le64 message.ttlMs

theorem opens_renewRequest : Opens RenewRequest.decode renewRequestBytes fun _ => True := by
  refine Opens.whole ?_
  apply Exact.start
  refine Exact.field (fun message : RenewRequest => TokenMessage.mk message.token) exact_token fun token => ?_
  refine Exact.lastField RenewRequest.ttlMs _ (exact_expect exact_u64 _ _) ?_
  rintro ttlMs ⟨⟩
  obtain ⟨token⟩ := token
  simp only [RenewRequest.mk.injEq, TokenMessage.mk.injEq]
  grind

theorem seals_renewRequest (message : RenewRequest) :
    Seals message.encode (renewRequestBytes message) True := by
  have ending : Seals (fun writer => finish (writer.u64 message.ttlMs)) (Blake2s256.le64 message.ttlMs) True :=
    Seals.finish fun writer => puts_raw _ _
  exact (Seals.after (seals_token { token := message.token }).encodes ending).congr rfl (by simp)

def lookupRequestBytes (message : LookupRequest) : List UInt8 :=
  Blake2s256.le64 message.request.hi ++ Blake2s256.le64 message.request.lo

theorem opens_lookupRequest : Opens LookupRequest.decode lookupRequestBytes fun _ => True := by
  refine Opens.whole (exact_expect ?_ _ _)
  apply Exact.start
  refine Exact.field (fun message : LookupRequest => message.request.hi) exact_u64 fun hi => ?_
  refine Exact.lastField (fun message : LookupRequest => message.request.lo) _ exact_u64 ?_
  rintro lo ⟨⟨_, _⟩⟩
  simp only [LookupRequest.mk.injEq, RequestId.mk.injEq]
  grind

theorem seals_lookupRequest (message : LookupRequest) :
    Seals message.encode (lookupRequestBytes message) True := by
  refine Seals.finish fun writer => ?_
  apply Puts.u64
  exact puts_raw _ _

def lookupResponseBytes (message : LookupResponse) : List UInt8 :=
  le16 message.code.value ++ ([if message.remembered then 1 else 0] ++ (le16 message.outcomeCode.value ++
    (Blake2s256.le64 message.grant ++ (Blake2s256.le64 message.fence ++ (Blake2s256.le64 message.incarnation ++
    blobBytes message.detail)))))

theorem opens_lookupResponse : Opens LookupResponse.decode lookupResponseBytes fun message => Detail message.detail := by
  refine Opens.whole (exact_expect ?_ _ _)
  apply Exact.start
  refine Exact.field (fun message : LookupResponse => message.code.value) exact_u16 fun code => ?_
  refine Exact.field LookupResponse.remembered exact_boolean fun remembered => ?_
  refine Exact.field (fun message : LookupResponse => message.outcomeCode.value) exact_u16 fun outcomeCode => ?_
  refine Exact.field LookupResponse.grant exact_u64 fun grant => ?_
  refine Exact.field LookupResponse.fence exact_u64 fun fence => ?_
  refine Exact.field LookupResponse.incarnation exact_u64 fun incarnation => ?_
  refine Exact.lastPart LookupResponse.detail _ exact_detail ?_
  rintro detail ⟨⟩
  simp only [LookupResponse.mk.injEq, StatusCode.value_eq_iff]
  grind

theorem seals_lookupResponse (message : LookupResponse) :
    Seals message.encode (lookupResponseBytes message) (Detail message.detail) := by
  refine Seals.finish fun writer => ?_
  apply Puts.u16
  apply Puts.boolean
  apply Puts.u16
  iterate 3 apply Puts.u64
  exact puts_detail _ _

/-! ### Inspection -/

def diagnosticEntryBytes (message : DiagnosticEntry) : List UInt8 :=
  [message.kind.code] ++ ([message.subjectKind.code] ++ (Blake2s256.le64 message.subjectId ++ (Blake2s256.le64
    message.source ++ blobBytes message.detail)))

theorem exact_diagnosticEntry : Exact DiagnosticEntry.decode diagnosticEntryBytes fun message => Detail message.detail := by
  refine exact_expect ?_ _ _
  apply Exact.start
  refine Exact.field (fun message : DiagnosticEntry => message.kind.code) exact_u8 fun kind => ?_
  refine Exact.field (fun message : DiagnosticEntry => message.subjectKind.code) exact_u8 fun subjectKind => ?_
  refine Exact.field DiagnosticEntry.subjectId exact_u64 fun subjectId => ?_
  refine Exact.field DiagnosticEntry.source exact_u64 fun source => ?_
  refine Exact.lastPart DiagnosticEntry.detail _ exact_detail ?_
  rintro detail ⟨⟩
  simp only [DiagnosticEntry.mk.injEq, DiagnosticKind.code_eq_iff, EvidenceKind.code_eq_iff]
  grind

theorem seals_diagnosticEntry (message : DiagnosticEntry) :
    Seals message.encode (diagnosticEntryBytes message) (Detail message.detail) := by
  refine Seals.finish fun writer => ?_
  iterate 2 apply Puts.u8
  iterate 2 apply Puts.u64
  exact puts_detail _ _

def capacityMessageBytes (message : CapacityMessage) : List UInt8 :=
  Blake2s256.le64 message.total ++ (Blake2s256.le64 message.unavailable ++ (Blake2s256.le64 message.usable ++
    (Blake2s256.le64 message.obligated ++ (Blake2s256.le64 message.headroomFloor ++ (Blake2s256.le64
    message.uncommitted ++ (Blake2s256.le64 message.deficit ++ Blake2s256.le64 message.committedGrants))))))

theorem exact_capacityMessage : Exact CapacityMessage.decode capacityMessageBytes fun _ => True := by
  refine exact_expect ?_ _ _
  apply Exact.start
  refine Exact.field CapacityMessage.total exact_u64 fun total => ?_
  refine Exact.field CapacityMessage.unavailable exact_u64 fun unavailable => ?_
  refine Exact.field CapacityMessage.usable exact_u64 fun usable => ?_
  refine Exact.field CapacityMessage.obligated exact_u64 fun obligated => ?_
  refine Exact.field CapacityMessage.headroomFloor exact_u64 fun headroomFloor => ?_
  refine Exact.field CapacityMessage.uncommitted exact_u64 fun uncommitted => ?_
  refine Exact.field CapacityMessage.deficit exact_u64 fun deficit => ?_
  refine Exact.lastField CapacityMessage.committedGrants _ exact_u64 ?_
  rintro committedGrants ⟨⟩
  simp only [CapacityMessage.mk.injEq]
  grind

theorem seals_capacityMessage (message : CapacityMessage) :
    Seals message.encode (capacityMessageBytes message) True := by
  refine Seals.finish fun writer => ?_
  iterate 7 apply Puts.u64
  exact puts_raw _ _

def resourceQueryBytes (message : ResourceQuery) : List UInt8 :=
  le32 message.limit ++ [message.kindFilter]

theorem opens_resourceQuery : Opens ResourceQuery.decode resourceQueryBytes fun _ => True := by
  refine Opens.whole (exact_expect ?_ _ _)
  apply Exact.start
  refine Exact.field ResourceQuery.limit exact_u32 fun limit => ?_
  refine Exact.lastField ResourceQuery.kindFilter _ exact_u8 ?_
  rintro kindFilter ⟨⟩
  simp only [ResourceQuery.mk.injEq]
  grind

theorem seals_resourceQuery (message : ResourceQuery) :
    Seals message.encode (resourceQueryBytes message) True := by
  refine Seals.finish fun writer => ?_
  apply Puts.u32
  exact puts_raw _ _

def resourceEntryBytes (message : ResourceEntry) : List UInt8 :=
  refBytes message.ref ++ ([message.eligibility.code] ++ ([message.availability.code] ++ ([if
    message.capacityKnown then 1 else 0] ++ (Blake2s256.le64 message.capacity ++ (Blake2s256.le64
    message.obligated ++ (Blake2s256.le64 message.committed ++ (Blake2s256.le64 message.available ++ ([if
    message.availableKnown then 1 else 0] ++ (le16 message.availableCode.value ++ [if message.maintenance then 1
    else 0])))))))))

theorem exact_resourceEntry : Exact ResourceEntry.decode resourceEntryBytes fun message => message.ref.kind.Known := by
  refine exact_expect ?_ _ _
  apply Exact.startPart
  refine Exact.part ResourceEntry.ref exact_getRef fun ref => ?_
  refine Exact.field (fun message : ResourceEntry => message.eligibility.code) exact_u8 fun eligibility => ?_
  refine Exact.field (fun message : ResourceEntry => message.availability.code) exact_u8 fun availability => ?_
  refine Exact.field ResourceEntry.capacityKnown exact_boolean fun capacityKnown => ?_
  refine Exact.field ResourceEntry.capacity exact_u64 fun capacity => ?_
  refine Exact.field ResourceEntry.obligated exact_u64 fun obligated => ?_
  refine Exact.field ResourceEntry.committed exact_u64 fun committed => ?_
  refine Exact.field ResourceEntry.available exact_u64 fun available => ?_
  refine Exact.field ResourceEntry.availableKnown exact_boolean fun availableKnown => ?_
  refine Exact.field (fun message : ResourceEntry => message.availableCode.value) exact_u16 fun availableCode => ?_
  refine Exact.lastField ResourceEntry.maintenance _ exact_boolean ?_
  rintro maintenance ⟨⟩
  simp only [ResourceEntry.mk.injEq, Eligibility.code_eq_iff, Availability.code_eq_iff, StatusCode.value_eq_iff]
  grind

theorem seals_resourceEntry (message : ResourceEntry) :
    Seals message.encode (resourceEntryBytes message) True := by
  refine Seals.finish fun writer => ?_
  apply Puts.ref
  iterate 2 apply Puts.u8
  apply Puts.boolean
  iterate 4 apply Puts.u64
  apply Puts.boolean
  apply Puts.u16
  exact puts_raw _ _

def pathEntryBytes (message : PathEntry) : List UInt8 :=
  Blake2s256.le64 message.id ++ (Blake2s256.le64 message.startPort ++ (Blake2s256.le64 message.endPort ++ (le32
    message.hops ++ (Blake2s256.le64 message.bottleneck ++ ([if message.bottleneckKnown then 1 else 0] ++
    [message.eligibility.code])))))

theorem exact_pathEntry : Exact PathEntry.decode pathEntryBytes fun _ => True := by
  refine exact_expect ?_ _ _
  apply Exact.start
  refine Exact.field PathEntry.id exact_u64 fun id => ?_
  refine Exact.field PathEntry.startPort exact_u64 fun startPort => ?_
  refine Exact.field PathEntry.endPort exact_u64 fun endPort => ?_
  refine Exact.field PathEntry.hops exact_u32 fun hops => ?_
  refine Exact.field PathEntry.bottleneck exact_u64 fun bottleneck => ?_
  refine Exact.field PathEntry.bottleneckKnown exact_boolean fun bottleneckKnown => ?_
  refine Exact.lastField (fun message : PathEntry => message.eligibility.code) _ exact_u8 ?_
  rintro eligibility ⟨⟩
  simp only [PathEntry.mk.injEq, Eligibility.code_eq_iff]
  grind

theorem seals_pathEntry (message : PathEntry) :
    Seals message.encode (pathEntryBytes message) True := by
  refine Seals.finish fun writer => ?_
  iterate 3 apply Puts.u64
  apply Puts.u32
  apply Puts.u64
  apply Puts.boolean
  exact puts_raw _ _

def listingBytes (items : α → List UInt8) (message : Listing α) : List UInt8 :=
  le16 message.code.value ++ ([if message.truncated then 1 else 0] ++ (listBytes items message.entries ++
    blobBytes message.detail))

private theorem exact_listing {entry : Decoding α} {items : α → List UInt8} {fits : α → Prop} {maxCount : Nat}
    (exact_ : Exact entry items fits) (counted : maxCount < 2 ^ 32) (cut overfull : String) :
    Exact (do
      let code ← expect u16 .truncated cut
      let truncated ← expect boolean .truncated cut
      let entries ← getEach maxCount overfull entry
      let detail ← expect getDetail .truncated cut
      pure { entries, truncated, detail, code := .ofValue code }) (listingBytes items) fun message : Listing α =>
      (message.entries.length ≤ maxCount ∧ ∀ value ∈ message.entries, fits value) ∧ Detail message.detail := by
  apply Exact.start
  refine Exact.field (fun message : Listing α => message.code.value) (exact_expect exact_u16 _ _) fun code => ?_
  refine Exact.field Listing.truncated (exact_expect exact_boolean _ _) fun truncated => ?_
  refine Exact.part Listing.entries (exact_getEach exact_ counted _) fun entries => ?_
  refine Exact.lastPart Listing.detail _ (exact_expect exact_detail _ _) ?_
  rintro detail ⟨⟩
  simp only [Listing.mk.injEq, StatusCode.value_eq_iff]
  grind

theorem opens_listing {entry : Decoding α} {items : α → List UInt8} {fits : α → Prop} {maxCount : Nat}
    (exact_ : Exact entry items fits) (counted : maxCount < 2 ^ 32) (cut overfull : String) :
    Opens (Listing.decode maxCount cut overfull entry) (listingBytes items) fun message =>
      (message.entries.length ≤ maxCount ∧ ∀ value ∈ message.entries, fits value) ∧ Detail message.detail :=
  Opens.whole (exact_listing exact_ counted cut overfull)

/-- What a listing's decoder accepts is the layout of what it returns. -/
theorem listing_accepted {entry : Decoding α} {items : α → List UInt8} {fits : α → Prop} {maxCount : Nat}
    (exact_ : Exact entry items fits) (counted : maxCount < 2 ^ 32) {cut overfull : String} {input rest : List UInt8}
    {message : Listing α} (accepted : Listing.decode maxCount cut overfull entry input = .ok (message, rest)) :
    ((message.entries.length ≤ maxCount ∧ ∀ value ∈ message.entries, fits value) ∧ Detail message.detail) ∧
      input = listingBytes items message := by
  obtain ⟨read, -⟩ := whole_ok_iff.mp accepted
  obtain ⟨holds, same⟩ := (exact_listing exact_ counted cut overfull).returns_iff.mp read
  exact ⟨holds, by rw [same, List.append_nil]⟩

theorem seals_listing {entry : α → ByteWriter → Result ByteWriter} {items : α → List UInt8} {fits : α → Prop}
    (encodes : ∀ value, Encodes (entry value) (items value) (fits value)) (message : Listing α) :
    Seals (Listing.encode entry message) (listingBytes items message)
      ((∀ value ∈ message.entries, fits value) ∧ Detail message.detail) := by
  have front : ∀ writer : ByteWriter, Puts writer ((writer.u16 message.code.value).boolean message.truncated)
      (le16 message.code.value ++ [if message.truncated then 1 else 0]) True :=
    fun writer => Puts.u16 (puts_raw _ _)
  have ending : Seals (fun writer => finish (putDetail writer message.detail)) (blobBytes message.detail)
      (Detail message.detail) := Seals.finish fun writer => puts_detail _ _
  have body := Seals.after (Encodes.following front (encodes_each encodes message.entries)) ending
  exact body.congr (by simp [listingBytes]) Iff.rfl

def stateResponseBytes (message : StateResponse) : List UInt8 :=
  le16 message.code.value ++ (Blake2s256.le64 message.rack ++ (Blake2s256.le64 message.generation ++
    (Blake2s256.le64 message.epoch ++ (Blake2s256.le64 message.incarnation ++ ([message.lifecycle.code] ++
      (message.snapshotDigest.bytes ++ (message.evidenceDigest.bytes ++ (message.memberSetDigest.bytes ++
        (capacityMessageBytes message.capacity ++ (le32 message.devices ++ (le32 message.ports ++
          (le32 message.links ++ (le32 message.attachments ++ (le32 message.paths ++ (le32 message.liveGrants ++
            (le32 message.recoveringGrants ++ ([if message.cleanShutdown then 1 else 0] ++
              ([if message.recoveredFromDirtyShutdown then 1 else 0] ++ (le32 message.totalDiagnostics ++
                (listBytes diagnosticEntryBytes message.diagnostics ++ blobBytes message.detail))))))))))))))))))))

theorem opens_stateResponse : Opens StateResponse.decode stateResponseBytes fun message =>
    (message.diagnostics.length ≤ kLimits.maxDiagnostics ∧ ∀ entry ∈ message.diagnostics, Detail entry.detail) ∧
      Detail message.detail := by
  refine Opens.whole ?_
  apply Exact.start
  refine Exact.field (fun message : StateResponse => message.code.value) (exact_expect exact_u16 _ _) fun code => ?_
  refine Exact.field StateResponse.rack (exact_expect exact_u64 _ _) fun rack => ?_
  refine Exact.field StateResponse.generation (exact_expect exact_u64 _ _) fun generation => ?_
  refine Exact.field StateResponse.epoch (exact_expect exact_u64 _ _) fun epoch => ?_
  refine Exact.field StateResponse.incarnation (exact_expect exact_u64 _ _) fun incarnation => ?_
  refine Exact.field (fun message : StateResponse => message.lifecycle.code) (exact_expect exact_u8 _ _)
    fun lifecycle => ?_
  refine Exact.field StateResponse.snapshotDigest (exact_expect exact_digest _ _) fun snapshotDigest => ?_
  refine Exact.field StateResponse.evidenceDigest (exact_expect exact_digest _ _) fun evidenceDigest => ?_
  refine Exact.field StateResponse.memberSetDigest (exact_expect exact_digest _ _) fun memberSetDigest => ?_
  refine Exact.field StateResponse.capacity exact_capacityMessage fun capacity => ?_
  refine Exact.field StateResponse.devices (exact_expect exact_u32 _ _) fun devices => ?_
  refine Exact.field StateResponse.ports (exact_expect exact_u32 _ _) fun ports => ?_
  refine Exact.field StateResponse.links (exact_expect exact_u32 _ _) fun links => ?_
  refine Exact.field StateResponse.attachments (exact_expect exact_u32 _ _) fun attachments => ?_
  refine Exact.field StateResponse.paths (exact_expect exact_u32 _ _) fun paths => ?_
  refine Exact.field StateResponse.liveGrants (exact_expect exact_u32 _ _) fun liveGrants => ?_
  refine Exact.field StateResponse.recoveringGrants (exact_expect exact_u32 _ _) fun recoveringGrants => ?_
  refine Exact.field StateResponse.cleanShutdown (exact_expect exact_boolean _ _) fun cleanShutdown => ?_
  refine Exact.field StateResponse.recoveredFromDirtyShutdown (exact_expect exact_boolean _ _) fun recovered => ?_
  refine Exact.field StateResponse.totalDiagnostics (exact_expect exact_u32 _ _) fun totalDiagnostics => ?_
  refine Exact.part StateResponse.diagnostics (exact_getEach exact_diagnosticEntry (by decide) _) fun diagnostics => ?_
  refine Exact.lastPart StateResponse.detail _ (exact_expect exact_detail _ _) ?_
  rintro detail ⟨⟩
  simp only [StateResponse.mk.injEq, StatusCode.value_eq_iff, LifecycleState.code_eq_iff]
  grind

theorem seals_stateResponse (message : StateResponse) :
    Seals message.encode (stateResponseBytes message)
      ((∀ entry ∈ message.diagnostics, Detail entry.detail) ∧ Detail message.detail) := by
  have head : ∀ writer : ByteWriter, Puts writer (((((((((writer.u16 message.code.value).u64 message.rack).u64
      message.generation).u64 message.epoch).u64 message.incarnation).u8 message.lifecycle.code).digest
      message.snapshotDigest).digest message.evidenceDigest).digest message.memberSetDigest)
      (le16 message.code.value ++ (Blake2s256.le64 message.rack ++ (Blake2s256.le64 message.generation ++
        (Blake2s256.le64 message.epoch ++ (Blake2s256.le64 message.incarnation ++ ([message.lifecycle.code] ++
          (message.snapshotDigest.bytes ++ (message.evidenceDigest.bytes ++ message.memberSetDigest.bytes))))))))
      True := by
    intro writer
    apply Puts.u16
    iterate 4 apply Puts.u64
    apply Puts.u8
    iterate 2 apply Puts.digest
    exact puts_raw _ _
  have counts : ∀ writer : ByteWriter, Puts writer ((((((((((writer.u32 message.devices).u32 message.ports).u32
      message.links).u32 message.attachments).u32 message.paths).u32 message.liveGrants).u32
      message.recoveringGrants).boolean message.cleanShutdown).boolean message.recoveredFromDirtyShutdown).u32
      message.totalDiagnostics)
      (le32 message.devices ++ (le32 message.ports ++ (le32 message.links ++ (le32 message.attachments ++
        (le32 message.paths ++ (le32 message.liveGrants ++ (le32 message.recoveringGrants ++
          ([if message.cleanShutdown then 1 else 0] ++ ([if message.recoveredFromDirtyShutdown then 1 else 0] ++
            le32 message.totalDiagnostics))))))))) True := by
    intro writer
    iterate 7 apply Puts.u32
    iterate 2 apply Puts.boolean
    exact puts_raw _ _
  have ending : Seals (fun writer => finish (putDetail writer message.detail)) (blobBytes message.detail)
      (Detail message.detail) := Seals.finish fun writer => puts_detail _ _
  have body := Seals.after (Encodes.following head (seals_capacityMessage message.capacity).encodes)
    (Seals.after (Encodes.following counts (encodes_each (fun entry => (seals_diagnosticEntry entry).encodes)
      message.diagnostics)) ending)
  exact body.congr (by simp [stateResponseBytes]) (by simp)

/-! ### Control -/

def lifecycleResponseBytes (message : LifecycleResponse) : List UInt8 :=
  le16 message.code.value ++ ([message.lifecycle.code] ++ blobBytes message.detail)

theorem opens_lifecycleResponse : Opens LifecycleResponse.decode lifecycleResponseBytes fun message => Detail message.detail := by
  refine Opens.whole (exact_expect ?_ _ _)
  apply Exact.start
  refine Exact.field (fun message : LifecycleResponse => message.code.value) exact_u16 fun code => ?_
  refine Exact.field (fun message : LifecycleResponse => message.lifecycle.code) exact_u8 fun lifecycle => ?_
  refine Exact.lastPart LifecycleResponse.detail _ exact_detail ?_
  rintro detail ⟨⟩
  simp only [LifecycleResponse.mk.injEq, StatusCode.value_eq_iff, LifecycleState.code_eq_iff]
  grind

theorem seals_lifecycleResponse (message : LifecycleResponse) :
    Seals message.encode (lifecycleResponseBytes message) (Detail message.detail) := by
  refine Seals.finish fun writer => ?_
  apply Puts.u16
  apply Puts.u8
  exact puts_detail _ _

def statsResponseBytes (message : StatsResponse) : List UInt8 :=
  le16 message.code.value ++ (Blake2s256.le64 message.uptimeMs ++ (Blake2s256.le64 message.evidenceRecords ++
    (Blake2s256.le64 message.evidenceSources ++ (Blake2s256.le64 message.evidenceConflicts ++ (Blake2s256.le64
    message.evidenceSuperseded ++ (Blake2s256.le64 message.logRecords ++ (Blake2s256.le64 message.logBytes ++
    (Blake2s256.le64 message.checkpoints ++ (Blake2s256.le64 message.requestsServed ++ (Blake2s256.le64
    message.connectionsAccepted ++ (Blake2s256.le64 message.connectionsRejected ++ (Blake2s256.le64
    message.framesRejected ++ (Blake2s256.le64 message.bytesSent ++ (Blake2s256.le64 message.bytesReceived ++
    (Blake2s256.le64 message.composes ++ (Blake2s256.le64 message.grantsIssued ++ (Blake2s256.le64
    message.grantsRefused ++ (Blake2s256.le64 message.grantsFenced ++ blobBytes message.detail))))))))))))))))))

theorem opens_statsResponse : Opens StatsResponse.decode statsResponseBytes fun message => Detail message.detail := by
  refine Opens.whole (exact_expect ?_ _ _)
  apply Exact.start
  refine Exact.field (fun message : StatsResponse => message.code.value) exact_u16 fun code => ?_
  refine Exact.field StatsResponse.uptimeMs exact_u64 fun uptimeMs => ?_
  refine Exact.field StatsResponse.evidenceRecords exact_u64 fun evidenceRecords => ?_
  refine Exact.field StatsResponse.evidenceSources exact_u64 fun evidenceSources => ?_
  refine Exact.field StatsResponse.evidenceConflicts exact_u64 fun evidenceConflicts => ?_
  refine Exact.field StatsResponse.evidenceSuperseded exact_u64 fun evidenceSuperseded => ?_
  refine Exact.field StatsResponse.logRecords exact_u64 fun logRecords => ?_
  refine Exact.field StatsResponse.logBytes exact_u64 fun logBytes => ?_
  refine Exact.field StatsResponse.checkpoints exact_u64 fun checkpoints => ?_
  refine Exact.field StatsResponse.requestsServed exact_u64 fun requestsServed => ?_
  refine Exact.field StatsResponse.connectionsAccepted exact_u64 fun connectionsAccepted => ?_
  refine Exact.field StatsResponse.connectionsRejected exact_u64 fun connectionsRejected => ?_
  refine Exact.field StatsResponse.framesRejected exact_u64 fun framesRejected => ?_
  refine Exact.field StatsResponse.bytesSent exact_u64 fun bytesSent => ?_
  refine Exact.field StatsResponse.bytesReceived exact_u64 fun bytesReceived => ?_
  refine Exact.field StatsResponse.composes exact_u64 fun composes => ?_
  refine Exact.field StatsResponse.grantsIssued exact_u64 fun grantsIssued => ?_
  refine Exact.field StatsResponse.grantsRefused exact_u64 fun grantsRefused => ?_
  refine Exact.field StatsResponse.grantsFenced exact_u64 fun grantsFenced => ?_
  refine Exact.lastPart StatsResponse.detail _ exact_detail ?_
  rintro detail ⟨⟩
  simp only [StatsResponse.mk.injEq, StatusCode.value_eq_iff]
  grind

theorem seals_statsResponse (message : StatsResponse) :
    Seals message.encode (statsResponseBytes message) (Detail message.detail) := by
  refine Seals.finish fun writer => ?_
  apply Puts.u16
  iterate 18 apply Puts.u64
  exact puts_detail _ _

def ackResponseBytes (message : AckResponse) : List UInt8 :=
  le16 message.code.value ++ blobBytes message.detail

theorem opens_ackResponse : Opens AckResponse.decode ackResponseBytes fun message => Detail message.detail := by
  refine Opens.whole (exact_expect ?_ _ _)
  apply Exact.start
  refine Exact.field (fun message : AckResponse => message.code.value) exact_u16 fun code => ?_
  refine Exact.lastPart AckResponse.detail _ exact_detail ?_
  rintro detail ⟨⟩
  simp only [AckResponse.mk.injEq, StatusCode.value_eq_iff]
  grind

theorem seals_ackResponse (message : AckResponse) :
    Seals message.encode (ackResponseBytes message) (Detail message.detail) := by
  refine Seals.finish fun writer => ?_
  apply Puts.u16
  exact puts_detail _ _

def lifecycleRequestBytes (message : LifecycleRequest) : List UInt8 :=
  [message.target.code]

theorem opens_lifecycleRequest : Opens LifecycleRequest.decode lifecycleRequestBytes fun message =>
    1 ≤ message.target.code ∧ message.target.code ≤ 7 := by
  have checked := exact_require (exact_expect exact_u8 .truncated "lifecycle request is truncated")
    (fun target => decide (1 ≤ target ∧ target ≤ 7)) .outOfRange "lifecycle request names an unknown state"
    (fun target => ({ target := .ofCode target } : LifecycleRequest)) (fun message => message.target.code)
    fun target message => by
      rw [LifecycleState.code_eq_iff]
      exact ⟨fun same => congrArg LifecycleRequest.mk same, congrArg LifecycleRequest.target⟩
  exact Opens.whole (checked.congr fun message => by simp)

theorem seals_lifecycleRequest (message : LifecycleRequest) :
    Seals message.encode (lifecycleRequestBytes message) True :=
  Seals.finish fun _ => puts_raw _ _

end RackFabric
