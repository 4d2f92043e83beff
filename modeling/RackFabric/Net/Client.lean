import RackFabric.Net.Dispatch

/-!
The blocking client. One call is in flight at a time: it is encoded and sent under the next correlation, and the next
frame that arrives has to be its answer.
-/

namespace RackFabric

def MessageType.name : MessageType → String
  | hello => "hello"
  | helloAck => "hello_ack"
  | submitEvidence => "submit_evidence"
  | evidenceAck => "evidence_ack"
  | compose => "compose"
  | composeAck => "compose_ack"
  | acquire => "acquire"
  | acquireAck => "acquire_ack"
  | renew => "renew"
  | renewAck => "renew_ack"
  | release => "release"
  | releaseAck => "release_ack"
  | validate => "validate"
  | validateAck => "validate_ack"
  | lookup => "lookup"
  | lookupAck => "lookup_ack"
  | queryState => "query_state"
  | stateAck => "state_ack"
  | queryResources => "query_resources"
  | resourcesAck => "resources_ack"
  | queryPaths => "query_paths"
  | pathsAck => "paths_ack"
  | queryGrants => "query_grants"
  | grantsAck => "grants_ack"
  | lifecycle => "lifecycle"
  | lifecycleAck => "lifecycle_ack"
  | checkpoint => "checkpoint"
  | checkpointAck => "checkpoint_ack"
  | stats => "stats"
  | statsAck => "stats_ack"
  | shutdown => "shutdown"
  | shutdownAck => "shutdown_ack"
  | error => "error"

/-- The body of a message with its form. -/
structure Content where
  form : MessageForm
  body : form.Body

/-- The calls of the client, each with its arguments. -/
inductive ClientCall where
  | hello (clientId : UInt32)
  | submitEvidence (records : List EvidenceRecord)
  | compose (generation : UInt64)
  | acquire (request : AcquireRequest)
  | renew (token : LeaseToken) (ttlMs : UInt64)
  | release (token : LeaseToken)
  | validate (token : LeaseToken)
  | lookup (request : RequestId)
  | queryState
  | queryResources (query : ResourceQuery)
  | queryPaths
  | queryGrants
  | setLifecycle (target : LifecycleState)
  | checkpoint
  | stats
  | shutdown
deriving DecidableEq, Repr

namespace ClientCall

/-- The type a call is sent under. -/
def type : ClientCall → MessageType
  | hello _ => .hello
  | submitEvidence _ => .submitEvidence
  | compose _ => .compose
  | acquire _ => .acquire
  | renew _ _ => .renew
  | release _ => .release
  | validate _ => .validate
  | lookup _ => .lookup
  | queryState => .queryState
  | queryResources _ => .queryResources
  | queryPaths => .queryPaths
  | queryGrants => .queryGrants
  | setLifecycle _ => .lifecycle
  | checkpoint => .checkpoint
  | stats => .stats
  | shutdown => .shutdown

/-- The type its answer has to have. -/
def expected : ClientCall → MessageType
  | hello _ => .helloAck
  | submitEvidence _ => .evidenceAck
  | compose _ => .composeAck
  | acquire _ => .acquireAck
  | renew _ _ => .renewAck
  | release _ => .releaseAck
  | validate _ => .validateAck
  | lookup _ => .lookupAck
  | queryState => .stateAck
  | queryResources _ => .resourcesAck
  | queryPaths => .pathsAck
  | queryGrants => .grantsAck
  | setLifecycle _ => .lifecycleAck
  | checkpoint => .checkpointAck
  | stats => .statsAck
  | shutdown => .shutdownAck

/-- The form its answer is decoded as. -/
def answerForm : ClientCall → MessageForm
  | hello _ => .helloResponse
  | submitEvidence _ => .evidenceAckResponse
  | compose _ => .composeResponse
  | acquire _ | renew _ _ | validate _ => .grantResponse
  | lookup _ => .lookupResponse
  | queryState => .stateResponse
  | queryResources _ => .resourcesResponse
  | queryPaths => .pathsResponse
  | queryGrants => .grantsResponse
  | setLifecycle _ => .lifecycleResponse
  | stats => .statsResponse
  | release _ | checkpoint | shutdown => .ackResponse

/-- What a call carries; some carry nothing. -/
def content : ClientCall → Option Content
  | hello clientId => some ⟨.helloRequest, (⟨kProtocolVersion, clientId⟩ : HelloRequest)⟩
  | submitEvidence records => some ⟨.submitEvidenceRequest, (⟨records⟩ : SubmitEvidenceRequest)⟩
  | compose generation => some ⟨.composeCommand, (⟨generation⟩ : ComposeCommand)⟩
  | acquire request => some ⟨.acquireRequest, request⟩
  | renew token ttlMs => some ⟨.renewRequest, (⟨token, ttlMs⟩ : RenewRequest)⟩
  | release token | validate token => some ⟨.tokenMessage, (⟨token⟩ : TokenMessage)⟩
  | lookup request => some ⟨.lookupRequest, (⟨request⟩ : LookupRequest)⟩
  | queryResources query => some ⟨.resourceQuery, query⟩
  | setLifecycle target => some ⟨.lifecycleRequest, (⟨target⟩ : LifecycleRequest)⟩
  | queryState | queryPaths | queryGrants | checkpoint | stats | shutdown => none

def encode (call : ClientCall) (writer : ByteWriter) : Result ByteWriter :=
  match call.content with
  | none => .ok writer
  | some content => content.form.encode content.body writer

end ClientCall

/-- A client, and what arrives on its connection and was not read yet, the answers to come included. -/
structure Client where
  maxFramePayload : UInt32 := kDefaultMaxFramePayload
  nextCorrelation : UInt64 := 1
  lastCorrelation : UInt64 := 0
  incoming : List UInt8 := []
deriving DecidableEq, Repr

/-- The next frame that arrives, and what is left after it. A connection that ends before it is whole is closed. -/
def readExactPayload (maxPayload : UInt32) (incoming : List UInt8) : Result Frame × List UInt8 :=
  match takeFrame maxPayload incoming with
  | .ok (frame, size) => (.ok frame, incoming.drop size)
  | .error .waits => (refuse .truncated "peer closed the connection in the middle of a frame", [])
  | .error (.refused _ failure) => (.error failure, incoming.drop kFrameHeaderSize)
  | .error (.damaged _) =>
    let header := (decodeFrameHeader (incoming.take kFrameHeaderSize) maxPayload kProtocolVersion).1
    (refuse .integrityFailure "response frame failed its checksum",
      incoming.drop (kFrameHeaderSize + header.length.toNat))

namespace Client

/-- Frames a body under the next correlation. -/
def sendRaw (client : Client) (type : MessageType) (payload : List UInt8) : Client × Result (List UInt8) :=
  ({ client with nextCorrelation := client.nextCorrelation + 1, lastCorrelation := client.nextCorrelation },
    sealFrame client.maxFramePayload ⟨type, client.nextCorrelation, payload⟩)

def checkAnswer (client : Client) (expected : MessageType) (frame : Frame) : Result (List UInt8) :=
  if frame.correlation ≠ client.lastCorrelation then
    refuse .malformedEncoding "response correlation does not match the request"
  else if frame.type = .error then
    match AckResponse.decode frame.payload with
    | .error failure => .error failure
    | .ok (ack, _) => .error ⟨ack.code, ack.detail⟩
  else if frame.type ≠ expected then
    .error ⟨.unsupported, text "expected " ++ text expected.name ++ text " but received " ++ text frame.type.name⟩
  else .ok frame.payload

/-- The payload of the answer to the last call, unless an error or something else came instead. -/
def receiveRaw (client : Client) (expected : MessageType) : Client × Result (List UInt8) :=
  match readExactPayload client.maxFramePayload client.incoming with
  | (.error failure, rest) => ({ client with incoming := rest }, .error failure)
  | (.ok frame, rest) => ({ client with incoming := rest }, client.checkAnswer expected frame)

/-- One call: the client after it, the bytes that were sent for it, and what it returns. -/
def call (client : Client) (call : ClientCall) : Client × List UInt8 × Result Content :=
  match call.encode { limit := client.maxFramePayload.toNat } with
  | .error failure => (client, [], .error failure)
  | .ok writer =>
    match client.sendRaw call.type writer.buffer with
    | (client, .error failure) => (client, [], .error failure)
    | (client, .ok data) =>
      match client.receiveRaw call.expected with
      | (client, .error failure) => (client, data, .error failure)
      | (client, .ok payload) => (client, data, (call.answerForm.decode payload).map (⟨call.answerForm, ·⟩))

/-- Calls one after another: all that is sent for them, and what each returns. -/
def session (client : Client) : List ClientCall → List UInt8 × List (Result Content)
  | [] => ([], [])
  | call :: rest =>
    let (next, data, result) := client.call call
    let (later, results) := next.session rest
    (data ++ later, result :: results)

end Client

end RackFabric
