import RackFabric.Net.ServerRun

/-!
What bounds the front end: the slots of its connections while it serves, and the frames it still takes once it is
asked to stop.
-/

namespace RackFabric

open Foundation

namespace DaemonServer

/-- The peers that may still be let in without another look for a stop. -/
def pending (server : DaemonServer) : Nat :=
  if server.polling then 1 else 0

/-- The connections a worker is on. -/
def load (server : DaemonServer) : Nat :=
  server.connections.countP Connection.serving

/-- The slots in use are those of the connections that are served, and there are no more of them than allowed. -/
structure Slotted (maxConnections : Nat) (server : DaemonServer) : Prop where
  bound : server.config.maxConnections = maxConnections
  counted : server.activeConnections = server.load
  within : server.load ≤ maxConnections

/-- A connection that is served counts until it is put back as one that is not. -/
theorem load_put {server : DaemonServer} {index : Nat} {before : Connection}
    (served : server.served index = some before) (after : Connection) :
    0 < server.load ∧ (server.put index after).load = if after.serving then server.load else server.load - 1 := by
  obtain ⟨here, serving⟩ := served_some served
  obtain ⟨inside, found⟩ := List.getElem?_eq_some_iff.mp here
  have positive : 0 < server.load := List.countP_pos_iff.mpr ⟨before, List.mem_of_getElem? here, serving⟩
  refine ⟨positive, ?_⟩
  show (server.connections.set index after).countP Connection.serving = _
  rw [List.countP_set inside, found, if_pos serving]
  simp only [load] at positive ⊢
  by_cases still : after.serving = true
  · rw [if_pos still, if_pos still]
    omega
  · rw [if_neg still, if_neg still]
    omega

theorem Slotted.put {maxConnections : Nat} {server : DaemonServer} (slotted : server.Slotted maxConnections)
    {index : Nat} {before : Connection} (served : server.served index = some before) (after : Connection) :
    (server.put index after).Slotted maxConnections := by
  obtain ⟨-, load⟩ := load_put served after
  have counted := slotted.counted
  have within := slotted.within
  refine ⟨slotted.bound, ?_, ?_⟩
  · rw [load]
    show (if after.serving then server.activeConnections else server.activeConnections - 1) = _
    rw [counted]
  · rw [load]
    split <;> omega

theorem Slotted.step {maxConnections : Nat} {server : DaemonServer} (slotted : server.Slotted maxConnections)
    (event : ServerEvent) : (server.step event).Slotted maxConnections := by
  cases event with
  | accept =>
    simp only [DaemonServer.step, acceptConnection]
    split
    · exact slotted
    · split
      · rename_i room
        have counted := slotted.counted
        have more : (server.connections ++ [({} : Connection)]).countP Connection.serving = server.load + 1 := by
          rw [List.countP_append]
          rfl
        rw [slotted.bound] at room
        refine ⟨slotted.bound, ?_, ?_⟩
        · show server.activeConnections + 1 = (server.connections ++ [({} : Connection)]).countP Connection.serving
          omega
        · show (server.connections ++ [({} : Connection)]).countP Connection.serving ≤ maxConnections
          omega
      · exact ⟨slotted.bound, slotted.counted, slotted.within⟩
  | poll | requestStop => exact ⟨slotted.bound, slotted.counted, slotted.within⟩
  | tick env => exact ⟨slotted.bound, slotted.counted, slotted.within⟩
  | arrive index data | abandon index =>
    simp only [DaemonServer.step]
    cases served : server.served index with
    | none => exact slotted
    | some connection => exact slotted.put served _
  | turn index env counters sent =>
    rcases server.turn_cases index env counters sent with ⟨same, -⟩ |
      ⟨connection, halt, correlation, failure, served, -, -, -, next⟩ |
      ⟨connection, frame, size, answered, done, served, -, -, -, next⟩
    · rw [same]
      exact slotted
    · rw [next]
      exact slotted.put served _
    · rw [next]
      have after := slotted.put served { answered with
        serving := done && ((server.core.dispatch env counters frame).goesOn &&
          !(server.stop || (done && (server.core.dispatch env counters frame).stops))) }
      exact ⟨after.bound, after.counted, after.within⟩

/-- What a stopping server has left: a step of it gains neither a connection nor a frame to dispatch, apart from the
one peer that the acceptor was already waiting for. -/
structure Drains (server next : DaemonServer) (dispatched : Nat) : Prop where
  stop : next.stop = true
  frames : dispatched + next.load + next.pending ≤ server.load + server.pending
  opened : next.connections.length + next.pending ≤ server.connections.length + server.pending

theorem Drains.refl {server : DaemonServer} (stopping : server.stop = true) : server.Drains server 0 :=
  ⟨stopping, by omega, Nat.le_refl _⟩

theorem Drains.trans {first second third : DaemonServer} {some more : Nat} (earlier : first.Drains second some)
    (later : second.Drains third more) : first.Drains third (some + more) where
  stop := later.stop
  frames := by
    have before := earlier.frames
    have after := later.frames
    omega
  opened := later.opened.trans earlier.opened

end DaemonServer

end RackFabric
