import RackFabric.Net.ProtocolCodec

/-!
Every message of the protocol decodes to itself. A form names the structure of a body; several message types may
carry one form.
-/

namespace RackFabric

open ByteWriter

inductive MessageForm where
  | helloRequest | helloResponse | submitEvidenceRequest | evidenceAckResponse | composeCommand | composeResponse
  | acquireRequest | grantResponse | tokenMessage | renewRequest | lookupRequest | lookupResponse | stateResponse
  | resourceQuery | resourcesResponse | pathsResponse | grantsResponse | lifecycleRequest | lifecycleResponse
  | statsResponse | ackResponse
deriving DecidableEq, Repr

namespace MessageForm

def Body : MessageForm → Type
  | helloRequest => HelloRequest
  | helloResponse => HelloResponse
  | submitEvidenceRequest => SubmitEvidenceRequest
  | evidenceAckResponse => EvidenceAckResponse
  | composeCommand => ComposeCommand
  | composeResponse => ComposeResponse
  | acquireRequest => AcquireRequest
  | grantResponse => GrantResponse
  | tokenMessage => TokenMessage
  | renewRequest => RenewRequest
  | lookupRequest => LookupRequest
  | lookupResponse => LookupResponse
  | stateResponse => StateResponse
  | resourceQuery => ResourceQuery
  | resourcesResponse => ResourcesResponse
  | pathsResponse => PathsResponse
  | grantsResponse => GrantsResponse
  | lifecycleRequest => LifecycleRequest
  | lifecycleResponse => LifecycleResponse
  | statsResponse => StatsResponse
  | ackResponse => AckResponse

def encode : (form : MessageForm) → form.Body → ByteWriter → Result ByteWriter
  | helloRequest => HelloRequest.encode
  | helloResponse => HelloResponse.encode
  | submitEvidenceRequest => SubmitEvidenceRequest.encode
  | evidenceAckResponse => EvidenceAckResponse.encode
  | composeCommand => ComposeCommand.encode
  | composeResponse => ComposeResponse.encode
  | acquireRequest => AcquireRequest.encode
  | grantResponse => GrantResponse.encode
  | tokenMessage => TokenMessage.encode
  | renewRequest => RenewRequest.encode
  | lookupRequest => LookupRequest.encode
  | lookupResponse => LookupResponse.encode
  | stateResponse => StateResponse.encode
  | resourceQuery => ResourceQuery.encode
  | resourcesResponse => ResourcesResponse.encode
  | pathsResponse => PathsResponse.encode
  | grantsResponse => GrantsResponse.encode
  | lifecycleRequest => LifecycleRequest.encode
  | lifecycleResponse => LifecycleResponse.encode
  | statsResponse => StatsResponse.encode
  | ackResponse => AckResponse.encode

def decoder : (form : MessageForm) → Decoding form.Body
  | helloRequest => HelloRequest.decode
  | helloResponse => HelloResponse.decode
  | submitEvidenceRequest => SubmitEvidenceRequest.decode
  | evidenceAckResponse => EvidenceAckResponse.decode
  | composeCommand => ComposeCommand.decode
  | composeResponse => ComposeResponse.decode
  | acquireRequest => AcquireRequest.decode
  | grantResponse => GrantResponse.decode
  | tokenMessage => TokenMessage.decode true
  | renewRequest => RenewRequest.decode
  | lookupRequest => LookupRequest.decode
  | lookupResponse => LookupResponse.decode
  | stateResponse => StateResponse.decode
  | resourceQuery => ResourceQuery.decode
  | resourcesResponse => ResourcesResponse.decode
  | pathsResponse => PathsResponse.decode
  | grantsResponse => GrantsResponse.decode
  | lifecycleRequest => LifecycleRequest.decode
  | lifecycleResponse => LifecycleResponse.decode
  | statsResponse => StatsResponse.decode
  | ackResponse => AckResponse.decode

/-- What a decoder makes of a whole body. -/
def decode (form : MessageForm) (bytes : List UInt8) : Result form.Body :=
  (form.decoder bytes).map Prod.fst

/-- Lists within their limits, texts within theirs, known kinds, modes and lifecycle targets, valid evidence, and no
grant left half filled. -/
def Sound : (form : MessageForm) → form.Body → Prop
  | helloResponse, (message : HelloResponse) => Detail message.detail
  | submitEvidenceRequest, (message : SubmitEvidenceRequest) =>
    message.records.length ≤ kLimits.maxEvidenceRecords ∧
      ∀ record ∈ message.records, validateEvidence record = .ok ()
  | evidenceAckResponse, (message : EvidenceAckResponse) =>
    message.entries.length ≤ kLimits.maxEvidenceRecords ∧ ∀ entry ∈ message.entries, Detail entry.detail
  | composeResponse, (message : ComposeResponse) => Detail message.detail
  | acquireRequest, (message : AcquireRequest) =>
    message.scope.kind.Known ∧ (message.mode = .shared ∨ message.mode = .exclusive)
  | grantResponse, (message : GrantResponse) =>
    message.grant.scope.kind.Known ∧ Detail message.grant.reason ∧ Detail message.detail ∧
      (message.grant.id = 0 → message.grant = {})
  | lookupResponse, (message : LookupResponse) => Detail message.detail
  | stateResponse, (message : StateResponse) =>
    (message.diagnostics.length ≤ kLimits.maxDiagnostics ∧ ∀ entry ∈ message.diagnostics, Detail entry.detail) ∧
      Detail message.detail
  | resourcesResponse, (message : ResourcesResponse) =>
    (message.entries.length ≤ kLimits.maxResources ∧ ∀ entry ∈ message.entries, entry.ref.kind.Known) ∧
      Detail message.detail
  | pathsResponse, (message : PathsResponse) =>
    message.entries.length ≤ kLimits.maxPaths ∧ Detail message.detail
  | grantsResponse, (message : GrantsResponse) =>
    (message.entries.length ≤ kLimits.maxGrants ∧
      ∀ entry ∈ message.entries, entry.scope.kind.Known ∧ Detail entry.reason) ∧ Detail message.detail
  | lifecycleRequest, (message : LifecycleRequest) => 1 ≤ message.target.code ∧ message.target.code ≤ 7
  | lifecycleResponse, (message : LifecycleResponse) => Detail message.detail
  | statsResponse, (message : StatsResponse) => Detail message.detail
  | ackResponse, (message : AckResponse) => Detail message.detail
  | helloRequest, _ | composeCommand, _ | tokenMessage, _ | renewRequest, _ | lookupRequest, _
  | resourceQuery, _ => True

/-- A form's encoder and decoder agree on one layout. -/
def Agrees (form : MessageForm) : Prop :=
  ∃ items : form.Body → List UInt8, Opens form.decoder items form.Sound ∧
    ∀ message, ∃ acceptable, Seals (form.encode message) (items message) acceptable

theorem agrees (form : MessageForm) : form.Agrees := by
  cases form with
  | helloRequest => exact ⟨_, opens_helloRequest, fun message => ⟨_, seals_helloRequest message⟩⟩
  | helloResponse => exact ⟨_, opens_helloResponse, fun message => ⟨_, seals_helloResponse message⟩⟩
  | submitEvidenceRequest => exact ⟨_, opens_submitEvidence, fun message => ⟨_, seals_submitEvidence message⟩⟩
  | evidenceAckResponse => exact ⟨_, opens_evidenceAck, fun message => ⟨_, seals_evidenceAck message⟩⟩
  | composeCommand => exact ⟨_, opens_composeCommand, fun message => ⟨_, seals_composeCommand message⟩⟩
  | composeResponse => exact ⟨_, opens_composeResponse, fun message => ⟨_, seals_composeResponse message⟩⟩
  | acquireRequest => exact ⟨_, opens_acquireRequest, fun message => ⟨_, seals_acquireRequest message⟩⟩
  | grantResponse => exact ⟨_, opens_grantResponse, fun message => ⟨_, seals_grantResponse message⟩⟩
  | tokenMessage => exact ⟨_, opens_token, fun message => ⟨_, seals_token message⟩⟩
  | renewRequest => exact ⟨_, opens_renewRequest, fun message => ⟨_, seals_renewRequest message⟩⟩
  | lookupRequest => exact ⟨_, opens_lookupRequest, fun message => ⟨_, seals_lookupRequest message⟩⟩
  | lookupResponse => exact ⟨_, opens_lookupResponse, fun message => ⟨_, seals_lookupResponse message⟩⟩
  | stateResponse => exact ⟨_, opens_stateResponse, fun message => ⟨_, seals_stateResponse message⟩⟩
  | resourceQuery => exact ⟨_, opens_resourceQuery, fun message => ⟨_, seals_resourceQuery message⟩⟩
  | resourcesResponse =>
    exact ⟨_, opens_listing exact_resourceEntry (by decide) _ _,
      fun message => ⟨_, seals_listing (fun entry => (seals_resourceEntry entry).encodes) message⟩⟩
  | pathsResponse =>
    refine ⟨_, (opens_listing exact_pathEntry (by decide) _ _).weaken ?_,
      fun message => ⟨_, seals_listing (fun entry => (seals_pathEntry entry).encodes) message⟩⟩
    rintro message ⟨short, detail⟩
    exact ⟨⟨short, fun _ _ => trivial⟩, detail⟩
  | grantsResponse =>
    exact ⟨_, opens_listing exact_grantSummary (by decide) _ _,
      fun message => ⟨_, seals_listing (fun entry => (seals_grantSummary entry).encodes) message⟩⟩
  | lifecycleRequest => exact ⟨_, opens_lifecycleRequest, fun message => ⟨_, seals_lifecycleRequest message⟩⟩
  | lifecycleResponse => exact ⟨_, opens_lifecycleResponse, fun message => ⟨_, seals_lifecycleResponse message⟩⟩
  | statsResponse => exact ⟨_, opens_statsResponse, fun message => ⟨_, seals_statsResponse message⟩⟩
  | ackResponse => exact ⟨_, opens_ackResponse, fun message => ⟨_, seals_ackResponse message⟩⟩

end MessageForm

/-- A sound message that encodes decodes to itself, and neither from its bytes cut short nor from more. -/
theorem messages_decode_to_themselves (form : MessageForm) (message : form.Body) (sound : form.Sound message)
    {limit : Nat} {written : ByteWriter} (encoded : form.encode message { limit := limit } = .ok written) :
    form.decode written.buffer = .ok message ∧
      (∀ front back, front ++ back = written.buffer → back ≠ [] → ∃ status, form.decode front = .error status) ∧
      ∀ more, more ≠ [] → ∃ status, form.decode (written.buffer ++ more) = .error status := by
  obtain ⟨items, opens, seals⟩ := form.agrees
  obtain ⟨acceptable, sealing⟩ := seals message
  rw [sealing.written encoded]
  refine ⟨?_, ?_, ?_⟩
  · rw [MessageForm.decode, opens.reads message sound]
    rfl
  · intro front back split proper
    obtain ⟨status, refused⟩ := opens.short message sound front back split proper
    exact ⟨status, by rw [MessageForm.decode, refused]; rfl⟩
  · intro more proper
    obtain ⟨status, refused⟩ := opens.long message sound more proper
    exact ⟨status, by rw [MessageForm.decode, refused]; rfl⟩

/-- A grant response with a grant in it. -/
def filledResponse : GrantResponse :=
  { code := .ok, grant := { id := 3, fence := 7, reason := text "held" }, detail := text "granted" }

theorem filledResponse_decodes :
    ∃ written, GrantResponse.encode filledResponse { limit := 4096 } = .ok written ∧
      MessageForm.decode .grantResponse written.buffer = .ok filledResponse := by
  have reason : Detail filledResponse.grant.reason := by
    unfold Detail ShortText
    decide +kernel
  have detail : Detail filledResponse.detail := by
    unfold Detail ShortText
    decide +kernel
  have room : (grantResponseBytes filledResponse).length ≤ 4096 := by decide +kernel
  obtain ⟨written, encoded, -⟩ := (seals_grantResponse filledResponse).encodes.succeeds ⟨fun _ => reason, detail⟩ room
  have sound : MessageForm.Sound .grantResponse filledResponse := by
    refine ⟨?_, reason, detail, nofun⟩
    unfold ResourceKind.Known
    decide
  exact ⟨written, encoded, (messages_decode_to_themselves .grantResponse filledResponse sound encoded).1⟩

end RackFabric
