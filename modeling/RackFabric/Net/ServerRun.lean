import RackFabric.Foundation.Simulation
import RackFabric.Net.GrantListing
import RackFabric.Net.Server
import RackFabric.Runtime.QuietRun

/-!
Runs of the front end. Whatever peers send and however workers, ticker and network interleave, the core goes through
one sequence of commands, every peer is answered what the core answered in that sequence, and each connection's own
exchanges are in the order of its bytes.
-/

namespace RackFabric

open Foundation

namespace CoreCall

/-- What the core does when it is called. -/
def follow (config : DaemonConfig) (system : System) (call : CoreCall) : System :=
  run (System.step config) system call.event.toList

theorem run_follow (config : DaemonConfig) (system : System) (calls : List CoreCall) :
    run (follow config) system calls = run (System.step config) system (calls.filterMap event) := by
  induction calls generalizing system with
  | nil => rfl
  | cons call rest ih =>
    rw [run_cons, ih, List.filterMap_cons, follow]
    cases call.event with
    | none => rfl
    | some made => rfl

end CoreCall

namespace DaemonCore

theorem ask_core {core : DaemonCore} (valid : core.snapshot.valid = true) (counters : StatsResponse) (query : Query) :
    (core.ask counters query).1 = core := by
  have ensured := ensureSnapshotLocked_valid valid
  cases query with
  | state | resources request | paths => simp only [ask, querySnapshot, ensured]
  | grants | stats => rfl

/-- A request does to the core what its command does. -/
theorem serve_core {core : DaemonCore} (valid : core.snapshot.valid = true) (now : UInt64) (counters : StatsResponse)
    (request : Request) : (core.serve now counters request).core = (core.exec now request.effect).1 := by
  cases request with
  | hello request => rfl
  | shutdown => rfl
  | command ack asked =>
    simp only [serve, Request.effect]
    split <;> rename_i done <;> rw [done]
  | query query =>
    have same := ask_core valid counters query
    simp only [serve, Request.effect, exec]
    split <;> rename_i done <;> rw [done] at same <;> exact same

/-- Dispatching a frame is an event of the process, or does not reach the core. -/
theorem dispatch_follow (config : DaemonConfig) {core : DaemonCore} (valid : core.snapshot.valid = true)
    (made : Exchange) : CoreCall.follow config (.up core) (.dispatch made) =
      .up (core.dispatch made.env made.counters made.frame).core := by
  simp only [CoreCall.follow, CoreCall.event, dispatch]
  cases Request.decode made.frame.type made.frame.payload with
  | none => rfl
  | some decoded =>
    cases decoded with
    | error failure => rfl
    | ok request =>
      have entered : (core.enter made.env.io).snapshot.valid = true := valid
      rw [Option.toList_some, run_cons, run_nil]
      simp only [System.step, System.serve, serve_core entered]

end DaemonCore

/-- The bytes a message goes out as; a message that cannot be encoded does not go out. -/
def messageBytes (maxPayload : UInt32) (correlation : UInt64) (message : Message) : List UInt8 :=
  match writeMessage maxPayload correlation message with
  | .ok data => data
  | .error _ => []

def Exchange.answer (maxPayload : UInt32) (made : Exchange) : List UInt8 :=
  messageBytes maxPayload made.frame.correlation made.reply

/-- What a peer is told about bytes that are not taken as a frame. -/
def Connection.farewell (maxPayload : UInt32) (connection : Connection) : List UInt8 :=
  match takeFrame maxPayload connection.inbox with
  | .ok _ => []
  | .error halt =>
    match halt.report with
    | none => []
    | some (correlation, failure) => messageBytes maxPayload correlation (errorMessage failure)

/-- What passed over a connection: the bytes read are the frames of its exchanges, and the bytes written their answers,
one for each and in that order. A session that has ended may have been cut off in its last answer, or have been told
why it ended. -/
structure Transcript (maxPayload : UInt32) (connection : Connection) (made : List Exchange) : Prop where
  read : connection.stream.take connection.position = made.flatMap fun exchange => exchange.frame.bytes
  within : connection.position ≤ connection.stream.length
  fits : ∀ exchange ∈ made, exchange.frame.Fits maxPayload
  answered : connection.serving = true → connection.written = made.flatMap (Exchange.answer maxPayload) ∧
    ∀ exchange ∈ made, ∃ reply : Frame, exchange.answer maxPayload = reply.bytes ∧ reply.Fits maxPayload ∧
      reply.type = exchange.reply.type ∧ reply.correlation = exchange.frame.correlation
  written : connection.written <+: made.flatMap (Exchange.answer maxPayload) ++ connection.farewell maxPayload
  whole : made.dropLast.flatMap (Exchange.answer maxPayload) <+: connection.written

theorem writeMessage_ok {maxPayload : UInt32} {correlation : UInt64} {message : Message} {data : List UInt8}
    (done : writeMessage maxPayload correlation message = .ok data) :
    messageBytes maxPayload correlation message = data ∧ ∃ reply : Frame, data = reply.bytes ∧ reply.Fits maxPayload ∧
      reply.type = message.type ∧ reply.correlation = correlation := by
  refine ⟨by rw [messageBytes, done], ?_⟩
  obtain ⟨writer, -, sealed⟩ := bind_eq_ok.mp done
  obtain ⟨fits, rfl⟩ := sealFrame_eq_ok.mp sealed
  exact ⟨_, rfl, fits, rfl, rfl⟩

/-- What a write leaves of a connection, whether it goes through, fails part way or has nothing to send. -/
theorem Connection.send_cases (connection : Connection) (maxPayload : UInt32) (correlation : UInt64) (message : Message)
    (sent : Option Nat) :
    (∃ more, (connection.send maxPayload correlation message sent).1 =
        { connection with written := connection.written ++ more } ∧
      more <+: messageBytes maxPayload correlation message) ∧
    ((connection.send maxPayload correlation message sent).2 = true →
      (connection.send maxPayload correlation message sent).1 =
        { connection with written := connection.written ++ messageBytes maxPayload correlation message } ∧
      ∃ reply : Frame, messageBytes maxPayload correlation message = reply.bytes ∧ reply.Fits maxPayload ∧
        reply.type = message.type ∧ reply.correlation = correlation) := by
  unfold send
  cases done : writeMessage maxPayload correlation message with
  | error failure =>
    refine ⟨⟨[], ?_, List.nil_prefix⟩, ?_⟩
    · rw [List.append_nil]
    · intro sentAll
      cases sentAll
  | ok data =>
    obtain ⟨bytes, reply⟩ := writeMessage_ok done
    rw [bytes]
    cases sent with
    | none => exact ⟨⟨data, rfl, List.prefix_rfl⟩, fun _ => ⟨rfl, reply⟩⟩
    | some count =>
      refine ⟨⟨data.take count, rfl, List.take_prefix count data⟩, ?_⟩
      intro sentAll
      cases sentAll

namespace Transcript

variable {maxPayload : UInt32} {connection : Connection} {made : List Exchange}

theorem fresh : Transcript maxPayload {} [] where
  read := rfl
  within := Nat.le_refl _
  fits _ member := absurd member List.not_mem_nil
  answered _ := ⟨rfl, fun _ member => absurd member List.not_mem_nil⟩
  written := ⟨_, rfl⟩
  whole := List.nil_prefix

theorem arrive (transcript : Transcript maxPayload connection made) (serving : connection.serving = true)
    (data : List UInt8) : Transcript maxPayload { connection with stream := connection.stream ++ data } made where
  read := by
    rw [List.take_append_of_le_length transcript.within]
    exact transcript.read
  within := by
    rw [List.length_append]
    exact Nat.le_add_right_of_le transcript.within
  fits := transcript.fits
  answered := transcript.answered
  written := by
    rw [(transcript.answered serving).1]
    exact List.prefix_append _ _
  whole := transcript.whole

theorem abandon (transcript : Transcript maxPayload connection made) :
    Transcript maxPayload { connection with serving := false } made where
  read := transcript.read
  within := transcript.within
  fits := transcript.fits
  answered := nofun
  written := transcript.written
  whole := transcript.whole

/-- The session ends on bytes that are not taken as a frame. -/
theorem refuse (transcript : Transcript maxPayload connection made) (serving : connection.serving = true) {halt : Halt}
    (halted : takeFrame maxPayload connection.inbox = .error halt) {correlation : UInt64} {failure : Status}
    (reported : halt.report = some (correlation, failure)) (sent : Option Nat) :
    Transcript maxPayload
      { (connection.send maxPayload correlation (errorMessage failure) sent).1 with serving := false } made := by
  obtain ⟨⟨more, told, part⟩, -⟩ := connection.send_cases maxPayload correlation (errorMessage failure) sent
  rw [told]
  refine ⟨transcript.read, transcript.within, transcript.fits, nofun, ?_, transcript.whole.trans (List.prefix_append _ _)⟩
  have farewell : connection.farewell maxPayload = messageBytes maxPayload correlation (errorMessage failure) := by
    rw [Connection.farewell, halted]
    simp only [reported]
  show connection.written ++ more <+: made.flatMap (Exchange.answer maxPayload) ++ connection.farewell maxPayload
  rw [(transcript.answered serving).1, farewell]
  exact (List.prefix_append_right_inj _).mpr part

/-- A frame is taken and answered. -/
theorem exchange (transcript : Transcript maxPayload connection made) (serving : connection.serving = true)
    {exchange : Exchange} {size : Nat} (taken : takeFrame maxPayload connection.inbox = .ok (exchange.frame, size))
    (sent : Option Nat) (goesOn : Bool) {answered : Connection} {done : Bool}
    (sending : ({ connection with position := connection.position + size } : Connection).send maxPayload
      exchange.frame.correlation exchange.reply sent = (answered, done)) :
    Transcript maxPayload { answered with serving := done && goesOn } (made ++ [exchange]) := by
  obtain ⟨fits, rfl, rest, split⟩ := takeFrame_eq_ok.mp taken
  obtain ⟨⟨more, told, part⟩, whole⟩ := Connection.send_cases
    { connection with position := connection.position + exchange.frame.bytes.length } maxPayload
    exchange.frame.correlation exchange.reply sent
  rw [sending] at told whole
  simp only at told whole
  have stream : connection.stream = connection.stream.take connection.position ++ (exchange.frame.bytes ++ rest) := by
    rw [← split, Connection.inbox, List.take_append_drop]
  have position : (connection.stream.take connection.position).length = connection.position := by
    rw [List.length_take]
    exact Nat.min_eq_left transcript.within
  subst told
  refine ⟨?_, ?_, ?_, ?_, ?_, ?_⟩
  · show connection.stream.take (connection.position + exchange.frame.bytes.length) = _
    have front : connection.stream.take (connection.position + exchange.frame.bytes.length) =
        connection.stream.take connection.position ++ exchange.frame.bytes := by
      rw [List.take_add]
      congr 1
      show connection.inbox.take exchange.frame.bytes.length = exchange.frame.bytes
      rw [split]
      exact List.take_left' rfl
    rw [front, transcript.read, List.flatMap_append, List.flatMap_singleton]
  · show connection.position + exchange.frame.bytes.length ≤ connection.stream.length
    have lengths := congrArg List.length stream
    rw [List.length_append, position, List.length_append] at lengths
    omega
  · intro other member
    rcases List.mem_append.mp member with earlier | last
    · exact transcript.fits other earlier
    · rw [List.mem_singleton.mp last]
      exact fits
  · intro still
    have sentAll : done = true := (Bool.and_eq_true_iff.mp still).1
    obtain ⟨same, reply⟩ := whole sentAll
    have moreSame := congrArg Connection.written same
    simp only at moreSame
    obtain ⟨before, replies⟩ := transcript.answered serving
    constructor
    · show connection.written ++ more = _
      rw [moreSame, before, List.flatMap_append, List.flatMap_singleton]
      rfl
    · intro other member
      rcases List.mem_append.mp member with earlier | last
      · exact replies other earlier
      · rw [List.mem_singleton.mp last]
        exact reply
  · show connection.written ++ more <+: _
    rw [(transcript.answered serving).1, List.flatMap_append, List.flatMap_singleton, List.append_assoc]
    apply (List.prefix_append_right_inj _).mpr
    exact part.trans (List.prefix_append _ _)
  · rw [List.dropLast_concat]
    show _ <+: connection.written ++ more
    rw [(transcript.answered serving).1]
    exact List.prefix_append _ _

end Transcript

namespace DaemonServer

theorem served_some {server : DaemonServer} {index : Nat} {connection : Connection}
    (served : server.served index = some connection) :
    server.connections[index]? = some connection ∧ connection.serving = true :=
  Option.filter_eq_some_iff.mp served

/-- What a turn can do: nothing, while a frame is still to come; end the session over bytes that are no frame; or take
a frame, dispatch it and answer it. -/
theorem turn_cases (server : DaemonServer) (index : Nat) (env : Env) (counters : StatsResponse) (sent : Option Nat) :
    (server.step (.turn index env counters sent) = server ∧ server.call (.turn index env counters sent) = none) ∨
    (∃ connection halt correlation failure, server.served index = some connection ∧
      takeFrame server.config.maxFramePayload connection.inbox = .error halt ∧
      halt.report = some (correlation, failure) ∧ server.call (.turn index env counters sent) = none ∧
      server.step (.turn index env counters sent) = server.put index
        { (connection.send server.config.maxFramePayload correlation (errorMessage failure) sent).1 with
          serving := false }) ∨
    ∃ connection frame size answered done, server.served index = some connection ∧
      takeFrame server.config.maxFramePayload connection.inbox = .ok (frame, size) ∧
      server.call (.turn index env counters sent) =
        some (.dispatch ⟨index, frame, env, counters, (server.core.dispatch env counters frame).reply⟩) ∧
      ({ connection with position := connection.position + size } : Connection).send server.config.maxFramePayload
        frame.correlation (server.core.dispatch env counters frame).reply sent = (answered, done) ∧
      server.step (.turn index env counters sent) =
        { server with
          core := (server.core.dispatch env counters frame).core
          stop := server.stop || (done && (server.core.dispatch env counters frame).stops) }.put index
          { answered with
            serving := done && ((server.core.dispatch env counters frame).goesOn &&
              !(server.stop || (done && (server.core.dispatch env counters frame).stops))) } := by
  cases served : server.served index with
  | none =>
    left
    simp only [step, turn, call, served, and_self]
  | some connection =>
    cases taken : takeFrame server.config.maxFramePayload connection.inbox with
    | error halt =>
      cases reported : halt.report with
      | none =>
        left
        simp only [step, turn, call, served, taken, reported, and_self]
      | some report =>
        obtain ⟨correlation, failure⟩ := report
        right; left
        refine ⟨connection, halt, correlation, failure, rfl, taken, reported, ?_, ?_⟩
        · simp only [call, served, taken]
        · simp only [step, turn, served, taken, reported]
    | ok pair =>
      obtain ⟨frame, size⟩ := pair
      cases sending : ({ connection with position := connection.position + size } : Connection).send
          server.config.maxFramePayload frame.correlation (server.core.dispatch env counters frame).reply sent with
      | mk answered done =>
        right; right
        refine ⟨connection, frame, size, answered, done, rfl, taken, ?_, sending, ?_⟩
        · simp only [call, served, taken]
        · simp only [step, turn, served, taken, sending, Bool.and_assoc]

/-- Every connection has a transcript of its own exchanges, and none was made on one that is still to be opened. -/
structure Accounts (maxPayload : UInt32) (server : DaemonServer) (past : List CoreCall) : Prop where
  bound : server.config.maxFramePayload = maxPayload
  transcripts : ∀ (index : Nat) (connection : Connection), server.connections[index]? = some connection →
    Transcript maxPayload connection (past.filterMap (CoreCall.on index))
  unopened : ∀ index, server.connections.length ≤ index → past.filterMap (CoreCall.on index) = []

namespace Accounts

variable {maxPayload : UInt32} {server next : DaemonServer} {past more : List CoreCall}

/-- A step that rewrites one connection and adds only exchanges of it. -/
theorem move (accounts : server.Accounts maxPayload past) {index : Nat} {before after : Connection}
    (here : server.connections[index]? = some before) (config : next.config = server.config)
    (connections : next.connections = server.connections.set index after)
    (elsewhere : ∀ other, other ≠ index → more.filterMap (CoreCall.on other) = [])
    (kept : Transcript maxPayload after (past.filterMap (CoreCall.on index) ++ more.filterMap (CoreCall.on index))) :
    next.Accounts maxPayload (past ++ more) where
  bound := by rw [config, accounts.bound]
  transcripts other connection found := by
    rw [connections] at found
    rw [List.filterMap_append]
    by_cases same : other = index
    · subst same
      rw [List.getElem?_set_self (List.getElem?_eq_some_iff.mp here).1, Option.some.injEq] at found
      subst found
      exact kept
    · rw [List.getElem?_set_ne (Ne.symm same)] at found
      rw [elsewhere other same, List.append_nil]
      exact accounts.transcripts other connection found
  unopened other beyond := by
    rw [connections, List.length_set] at beyond
    have inside := (List.getElem?_eq_some_iff.mp here).1
    rw [List.filterMap_append, elsewhere other (by omega), List.append_nil]
    exact accounts.unopened other beyond

/-- A step that leaves the connections alone and adds no exchange. -/
theorem rest (accounts : server.Accounts maxPayload past) (config : next.config = server.config)
    (connections : next.connections = server.connections) (none_ : ∀ index, more.filterMap (CoreCall.on index) = []) :
    next.Accounts maxPayload (past ++ more) where
  bound := by rw [config, accounts.bound]
  transcripts index connection found := by
    rw [connections] at found
    rw [List.filterMap_append, none_, List.append_nil]
    exact accounts.transcripts index connection found
  unopened index beyond := by
    rw [connections] at beyond
    rw [List.filterMap_append, none_, List.append_nil]
    exact accounts.unopened index beyond

theorem accept (accounts : server.Accounts maxPayload past) : server.acceptConnection.Accounts maxPayload past := by
  unfold acceptConnection
  split
  · exact accounts
  · split
    · refine ⟨accounts.bound, ?_, ?_⟩
      · intro index connection found
        by_cases old : index < server.connections.length
        · rw [List.getElem?_append_left old] at found
          exact accounts.transcripts index connection found
        · rw [List.getElem?_append_right (by omega)] at found
          have new := List.mem_singleton.mp (List.mem_of_getElem? found)
          rw [new, accounts.unopened index (by omega)]
          exact Transcript.fresh
      · intro index beyond
        apply accounts.unopened
        rw [List.length_append] at beyond
        omega
    · exact ⟨accounts.bound, accounts.transcripts, accounts.unopened⟩

theorem step (accounts : server.Accounts maxPayload past) (event : ServerEvent) :
    (server.step event).Accounts maxPayload (past ++ (server.call event).toList) := by
  have still : ∀ next : DaemonServer, next.Accounts maxPayload past → next.Accounts maxPayload (past ++ []) := by
    intro next holds
    rwa [List.append_nil]
  have moved : ∀ {index : Nat} {before after : Connection}, server.connections[index]? = some before →
      Transcript maxPayload after (past.filterMap (CoreCall.on index)) →
      (server.put index after).Accounts maxPayload (past ++ []) := by
    intro index before after here kept
    refine accounts.move here rfl rfl (fun _ _ => rfl) ?_
    rwa [List.filterMap_nil, List.append_nil]
  cases event with
  | accept => exact still _ accounts.accept
  | poll | requestStop => exact accounts.rest rfl rfl fun _ => rfl
  | tick env => exact accounts.rest rfl rfl fun _ => rfl
  | arrive index data =>
    simp only [DaemonServer.step, call]
    cases served : server.served index with
    | none => exact still _ accounts
    | some connection =>
      obtain ⟨here, serving⟩ := served_some served
      exact moved here ((accounts.transcripts index connection here).arrive serving data)
  | abandon index =>
    simp only [DaemonServer.step, call]
    cases served : server.served index with
    | none => exact still _ accounts
    | some connection =>
      obtain ⟨here, -⟩ := served_some served
      exact moved here (accounts.transcripts index connection here).abandon
  | turn index env counters sent =>
    rcases server.turn_cases index env counters sent with ⟨same, quiet⟩ |
      ⟨connection, halt, correlation, failure, served, taken, reported, quiet, next⟩ |
      ⟨connection, frame, size, answered, done, served, taken, called, sending, next⟩
    · rw [same, quiet]
      exact still _ accounts
    · obtain ⟨here, serving⟩ := served_some served
      rw [next, quiet]
      rw [accounts.bound] at taken ⊢
      exact moved here ((accounts.transcripts index connection here).refuse serving taken reported sent)
    · obtain ⟨here, serving⟩ := served_some served
      rw [next, called]
      rw [accounts.bound] at taken sending
      refine accounts.move here rfl rfl ?_ ?_
      · intro other apart
        simp only [Option.toList_some, List.filterMap_cons, List.filterMap_nil, CoreCall.on, Ne.symm apart, if_false]
      · simp only [Option.toList_some, List.filterMap_cons, List.filterMap_nil, CoreCall.on, if_true]
        exact (accounts.transcripts index connection here).exchange serving taken sent _ sending

end Accounts

/-- What a step of the front end does to the core is what the call it makes does. -/
theorem step_core (config : DaemonConfig) {server : DaemonServer} (valid : server.core.snapshot.valid = true)
    (event : ServerEvent) :
    .up (server.step event).core = run (CoreCall.follow config) (.up server.core) (server.call event).toList := by
  cases event with
  | accept =>
    simp only [step, acceptConnection, call, Option.toList_none, run_nil]
    split
    · rfl
    · split <;> rfl
  | poll | requestStop => rfl
  | tick env => rfl
  | arrive index data | abandon index =>
    simp only [step, call, Option.toList_none, run_nil]
    cases server.served index with
    | none => rfl
    | some connection => rfl
  | turn index env counters sent =>
    rcases server.turn_cases index env counters sent with ⟨same, quiet⟩ |
      ⟨connection, halt, correlation, failure, served, taken, reported, quiet, next⟩ |
      ⟨connection, frame, size, answered, done, served, taken, called, sending, next⟩
    · rw [same, quiet]
      rfl
    · rw [next, quiet]
      rfl
    · rw [next, called, Option.toList_some, run_cons, run_nil, DaemonCore.dispatch_follow config valid]
      rfl

/-- The calls into the core that a run makes, in order. -/
abbrev calls (server : DaemonServer) (actions : List ServerEvent) : List CoreCall :=
  outputs step call server actions

/-- The front end's core is a process that serves the calls as commands, one after another. -/
theorem run_core {config : DaemonConfig} {events : List Event} {server : DaemonServer}
    (up : System.after config events = .up server.core) (actions : List ServerEvent) :
    System.after config (events ++ (server.calls actions).filterMap CoreCall.event) =
      .up (run step server actions).core := by
  let related : DaemonServer → System → Prop := fun server system =>
    system = .up server.core ∧ ∃ past, System.after config past = system
  have kept : ∀ state event other, related state other →
      related (state.step event) (run (CoreCall.follow config) other (state.call event).toList) := by
    rintro state event system ⟨rfl, past, reached⟩
    have valid := System.after_valid config past reached
    refine ⟨(step_core config valid event).symm, past ++ (state.call event).toList.filterMap CoreCall.event, ?_⟩
    rw [CoreCall.run_follow, ← reached]
    exact run_append _ _ _ _
  have start : related server (.up server.core) := ⟨rfl, events, up⟩
  have simulated : related (run step server actions) (run (CoreCall.follow config) _ (server.calls actions)) :=
    run_simulates kept start actions
  have appended : System.after config (events ++ (server.calls actions).filterMap CoreCall.event) =
      run (System.step config) (System.after config events) ((server.calls actions).filterMap CoreCall.event) :=
    run_append _ _ _ _
  rw [appended, up, ← CoreCall.run_follow]
  exact simulated.1

/-- Each frame that a run dispatches is answered by the core that the calls before it lead to. -/
theorem dispatched_at {config : DaemonConfig} {events : List Event} {server : DaemonServer}
    (up : System.after config events = .up server.core) {actions : List ServerEvent} {earlier later : List CoreCall}
    {made : Exchange} (split : server.calls actions = earlier ++ .dispatch made :: later) :
    ∃ core, System.after config (events ++ earlier.filterMap CoreCall.event) = .up core ∧
      made.reply = (core.dispatch made.env made.counters made.frame).reply := by
  obtain ⟨before, event, after, rfl, rfl, called⟩ := outputs_split split
  refine ⟨(run step server before).core, run_core up before, ?_⟩
  cases event with
  | poll | accept | arrive index data | abandon index | tick env | requestStop => cases called
  | turn index env counters sent =>
    rcases turn_cases _ index env counters sent with ⟨-, quiet⟩ | ⟨_, _, _, _, -, -, -, quiet, -⟩ |
      ⟨connection, frame, size, answered, done, -, -, same, -, -⟩
    · rw [quiet] at called
      cases called
    · rw [quiet] at called
      cases called
    · rw [same] at called
      cases called
      rfl

theorem run_transcripts {server : DaemonServer} (unused : server.connections = []) (actions : List ServerEvent) :
    (run step server actions).Accounts server.config.maxFramePayload (server.calls actions) := by
  have start : server.Accounts server.config.maxFramePayload [] := by
    refine ⟨rfl, ?_, fun _ _ => rfl⟩
    intro index connection found
    rw [unused] at found
    cases found
  have kept : ∀ state event past, Accounts server.config.maxFramePayload state past →
      (state.step event).Accounts server.config.maxFramePayload (past ++ (state.call event).toList) :=
    fun _ event _ holds => holds.step event
  have accounts : Accounts server.config.maxFramePayload (run step server actions) ([] ++ server.calls actions) :=
    run_accounts kept start actions
  exact accounts

end DaemonServer

/-- The front end is one process serving one command after another. Its core is in the state that the commands of the
frames it dispatched, and the ticks, lead to; each of these frames is answered with what the core answers at its place
among them; and what was read from and written to each connection are its own of these frames, in that order, and
their answers. -/
theorem server_linearizes {config : DaemonConfig} {events : List Event} {server : DaemonServer}
    (up : System.after config events = .up server.core) (unused : server.connections = [])
    (actions : List ServerEvent) :
    System.after config (events ++ (server.calls actions).filterMap CoreCall.event) =
        .up (Foundation.run DaemonServer.step server actions).core ∧
      (∀ earlier made later, server.calls actions = earlier ++ .dispatch made :: later →
        ∃ core, System.after config (events ++ earlier.filterMap CoreCall.event) = .up core ∧
          made.reply = (core.dispatch made.env made.counters made.frame).reply) ∧
      ∀ (index : Nat) (connection : Connection),
        (Foundation.run DaemonServer.step server actions).connections[index]? = some connection →
        Transcript server.config.maxFramePayload connection
          ((server.calls actions).filterMap (CoreCall.on index)) := by
  refine ⟨DaemonServer.run_core up actions, ?_, (DaemonServer.run_transcripts unused actions).transcripts⟩
  intro earlier made later split
  exact DaemonServer.dispatched_at up split

/-- A front end that nobody has connected to. -/
def DaemonServer.idle (core : DaemonCore) : DaemonServer :=
  { core := core, config := {} }

theorem DaemonServer.idle_core (core : DaemonCore) : (idle core).core = core :=
  rfl

theorem DaemonServer.idle_connections (core : DaemonCore) : (idle core).connections = [] :=
  rfl

/-- Two peers ask for checkpoints. The later one is served first, its second frame arrives in two pieces, and the write
of its second answer fails after three bytes. -/
def interleavedRun : List ServerEvent :=
  let frame (correlation : UInt64) : List UInt8 := Frame.bytes ⟨.checkpoint, correlation, []⟩
  [.poll, .accept, .poll, .accept, .arrive 0 (frame 1), .arrive 1 (frame 2 ++ (frame 3).take 9), .turn 1 ⟨5, []⟩ {} none,
    .turn 1 ⟨6, []⟩ {} none, .turn 0 ⟨6, []⟩ {} none, .tick ⟨7, []⟩, .arrive 1 ((frame 3).drop 9),
    .turn 1 ⟨8, []⟩ {} (some 3)]

/-- The exchanges of a connection in the interleaved run, by their correlations. -/
def interleavedOn (index : Nat) : List UInt64 :=
  (((DaemonServer.idle bareCore).calls interleavedRun).filterMap (CoreCall.on index)).map (·.frame.correlation)

theorem server_linearizes_interleaved :
    interleavedOn 0 = [1] ∧ interleavedOn 1 = [2, 3] ∧
      System.after bareRack (openedRun ++ ((DaemonServer.idle bareCore).calls interleavedRun).filterMap CoreCall.event) =
        .up (Foundation.run DaemonServer.step (.idle bareCore) interleavedRun).core ∧
      (∀ earlier made later, (DaemonServer.idle bareCore).calls interleavedRun = earlier ++ .dispatch made :: later →
        ∃ core, System.after bareRack (openedRun ++ earlier.filterMap CoreCall.event) = .up core ∧
          made.reply = (core.dispatch made.env made.counters made.frame).reply) ∧
      ∀ (index : Nat) (connection : Connection),
        (Foundation.run DaemonServer.step (.idle bareCore) interleavedRun).connections[index]? = some connection →
        Transcript (DaemonServer.idle bareCore).config.maxFramePayload connection
          (((DaemonServer.idle bareCore).calls interleavedRun).filterMap (CoreCall.on index)) := by
  have up : System.after bareRack openedRun = .up (DaemonServer.idle bareCore).core := by
    rw [DaemonServer.idle_core]
    exact after_openedRun
  exact ⟨by decide +kernel, by decide +kernel,
    server_linearizes up (DaemonServer.idle_connections _) interleavedRun⟩

end RackFabric
