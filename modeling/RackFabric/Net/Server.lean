import RackFabric.Net.Dispatch

/-!
The front end of the daemon: connections that peers open and send bytes on, each read frame by frame by its own
worker, and the ticker that sweeps expired leases. Every call into the core is atomic; everything else of the workers
interleaves. A write to a peer may fail part way.
-/

namespace RackFabric

structure ServerConfig where
  maxFramePayload : UInt32 := kDefaultMaxFramePayload
  maxConnections : Nat := 32
deriving DecidableEq, Repr

/-- One connection: all that has arrived on it, how much of that was read, and all that was written. -/
structure Connection where
  stream : List UInt8 := []
  position : Nat := 0
  written : List UInt8 := []
  serving : Bool := true
deriving DecidableEq, Repr

/-- Why a peer's bytes are not taken as a frame, as it is told; nothing while there is more to come. -/
def Halt.report : Halt → Option (UInt64 × Status)
  | .waits => none
  | .refused correlation failure => some (correlation, failure)
  | .damaged correlation => some (correlation, ⟨.integrityFailure, text "frame payload failed its checksum"⟩)

namespace Connection

/-- What has arrived and was not read yet. -/
def inbox (connection : Connection) : List UInt8 :=
  connection.stream.drop connection.position

/-- Writes a message out and says whether all of it went. Of a write that fails some bytes may have gone. -/
def send (connection : Connection) (maxPayload : UInt32) (correlation : UInt64) (message : Message)
    (sent : Option Nat) : Connection × Bool :=
  match writeMessage maxPayload correlation message with
  | .error _ => (connection, false)
  | .ok data =>
    match sent with
    | none => ({ connection with written := connection.written ++ data }, true)
    | some count => ({ connection with written := connection.written ++ data.take count }, false)

end Connection

/-- The server with all its threads. The acceptor is polling while it waits for a peer, after it has found no stop. -/
structure DaemonServer where
  core : DaemonCore
  config : ServerConfig
  connections : List Connection := []
  activeConnections : Nat := 0
  polling : Bool := false
  stop : Bool := false

/-- One step of the server: the acceptor looks for a stop before it waits for a peer; the peer it waits for connects;
bytes arrive; a worker's receive fails, since its peer is gone, was idle for too long or the server stops; a worker
takes a turn of its loop; the ticker ticks; the server is asked to stop. -/
inductive ServerEvent where
  | poll
  | accept
  | arrive (connection : Nat) (data : List UInt8)
  | abandon (connection : Nat)
  | turn (connection : Nat) (env : Env) (counters : StatsResponse) (sent : Option Nat)
  | tick (env : Env)
  | requestStop

namespace DaemonServer

/-- Puts a connection back. A worker that is done with its connection gives its slot back. -/
def put (server : DaemonServer) (index : Nat) (connection : Connection) : DaemonServer :=
  { server with
    connections := server.connections.set index connection
    activeConnections := if connection.serving then server.activeConnections else server.activeConnections - 1 }

/-- The connection of an index, as long as it is served. -/
def served (server : DaemonServer) (index : Nat) : Option Connection :=
  server.connections[index]?.filter Connection.serving

/-- The acceptor takes the peer it waited for. It does not look for a stop again before it reserves the slot. -/
def acceptConnection (server : DaemonServer) : DaemonServer :=
  if !server.polling then server
  else if server.activeConnections < server.config.maxConnections then
    { server with
      connections := server.connections ++ [{}]
      activeConnections := server.activeConnections + 1
      polling := false }
  else { server with polling := false }

/-- One turn of the loop of `handle_connection`. -/
def turn (server : DaemonServer) (index : Nat) (env : Env) (counters : StatsResponse) (sent : Option Nat) :
    DaemonServer :=
  match server.served index with
  | none => server
  | some connection =>
    match takeFrame server.config.maxFramePayload connection.inbox with
    | .error halt =>
      match halt.report with
      | none => server
      | some (correlation, failure) =>
        let told := (connection.send server.config.maxFramePayload correlation (errorMessage failure) sent).1
        server.put index { told with serving := false }
    | .ok (frame, size) =>
      let dispatched := server.core.dispatch env counters frame
      let read := { connection with position := connection.position + size }
      let (answered, done) := read.send server.config.maxFramePayload frame.correlation dispatched.reply sent
      let stop := server.stop || (done && dispatched.stops)
      { server with core := dispatched.core, stop := stop }.put index
        { answered with serving := done && dispatched.goesOn && !stop }

def step (server : DaemonServer) : ServerEvent → DaemonServer
  | .poll => { server with polling := !server.stop }
  | .accept => server.acceptConnection
  | .arrive index data =>
    match server.served index with
    | none => server
    | some connection => server.put index { connection with stream := connection.stream ++ data }
  | .abandon index =>
    match server.served index with
    | none => server
    | some connection => server.put index { connection with serving := false }
  | .turn index env counters sent => server.turn index env counters sent
  | .tick env => { server with core := (server.core.enter env.io).expireDueLocked env.now }
  | .requestStop => { server with stop := true }

end DaemonServer

/-- A frame that was taken and dispatched, with what its dispatch met and what it was answered. -/
structure Exchange where
  connection : Nat
  frame : Frame
  env : Env
  counters : StatsResponse
  reply : Message

/-- What the core is called for. -/
inductive CoreCall where
  | dispatch (made : Exchange)
  | tick (env : Env)

/-- What a request does to the core, as a command. What only reads does as a lookup does. -/
def Request.effect : Request → Command
  | .command _ asked => asked
  | .hello _ | .query _ | .shutdown => .lookup {}

namespace CoreCall

/-- The call as an event of the process; a frame that is refused on its body does not reach the core. -/
def event : CoreCall → Option Event
  | .tick env => some { action := .command .expireDue, env := env }
  | .dispatch made =>
    match Request.decode made.frame.type made.frame.payload with
    | some (.ok request) => some { action := .command request.effect, env := made.env }
    | _ => none

/-- The exchange, if it is one of this connection. -/
def on (index : Nat) : CoreCall → Option Exchange
  | .dispatch made => if made.connection = index then some made else none
  | .tick _ => none

end CoreCall

namespace DaemonServer

/-- The call into the core that a step makes. -/
def call (server : DaemonServer) : ServerEvent → Option CoreCall
  | .turn index env counters _ =>
    match server.served index with
    | none => none
    | some connection =>
      match takeFrame server.config.maxFramePayload connection.inbox with
      | .error _ => none
      | .ok (frame, _) =>
        some (.dispatch ⟨index, frame, env, counters, (server.core.dispatch env counters frame).reply⟩)
  | .tick env => some (.tick env)
  | _ => none

end DaemonServer

end RackFabric
