import RackFabric.Net.ServerRun
import RackFabric.Runtime.Lending

/-!
The leases that a front end accepts. Whoever asks for them, over however many connections, two leases that are
accepted in the same state hold nothing in common if either is exclusive.
-/

namespace RackFabric

open Foundation GrantRegistry

/-- A usable lease has, under a known snapshot, the footprint it was issued with. -/
theorem GrantRegistry.Exclusive.accepted {snapshots : List Snapshot} {scopes : List ResourceRef}
    {registry : GrantRegistry} (exclusive : Exclusive snapshots scopes registry) {snapshot : Snapshot}
    (current : snapshot ∈ snapshots) (sized : ∀ known ∈ snapshots, known.Sized)
    (collisionFree : ∀ a ∈ basisInputs snapshots scopes, ∀ b ∈ basisInputs snapshots scopes,
      Blake2s256.hash a = Blake2s256.hash b → a = b)
    {token : LeaseToken} {nowMs : UInt64} {grant : Grant}
    (usable : registry.validate snapshot token nowMs = .ok grant) :
    registry.grants[grant.id]? = some grant ∧ grant.isLive = true ∧
      ∃ scope, expandScope snapshot grant.scope = .ok scope ∧ registry.footprints.getD grant.id [] = scope := by
  obtain ⟨found, -, state, checked⟩ := checkLease_ok usable
  obtain own : grant.id = token.grant := exclusive.indexed.keyed _ _ found
  rw [← own] at found
  have live := live_of_checkState (exclusive.settled _ _ found) state
  obtain ⟨scope, expands, basis⟩ := checkCurrent_basis checked
  obtain ⟨issuer, known, asked, footprint, issued, indexed, signed⟩ := exclusive.anchored _ _ found live
  refine ⟨found, live, scope, expands, ?_⟩
  have inputs : basisInput snapshot scope = basisInput issuer footprint := by
    apply collisionFree _ (mem_basisInputs current asked expands) _ (mem_basisInputs known asked issued)
    rw [← authorityBasisDigest_eq, ← authorityBasisDigest_eq, basis, signed]
  have same := scope_of_basisInput (sized snapshot current) (sized issuer known) inputs
  rw [Std.ExtTreeMap.getD_eq_getD_getElem?, indexed, Option.getD_some, same]

/-- The scope that a call asks authority for, if it does. -/
def CoreCall.scope : CoreCall → Option ResourceRef
  | .tick _ => none
  | .dispatch made =>
    match Request.decode made.frame.type made.frame.payload with
    | some (.ok (.command _ (.acquire request))) => some request.scope
    | _ => none

namespace DaemonServer

variable {server : DaemonServer}

/-- The snapshots that are published in the course of a run. -/
def published (server : DaemonServer) (actions : List ServerEvent) : List Snapshot :=
  (visited step server actions).map fun server => server.core.snapshot

/-- The scopes that are asked for in the course of a run. -/
def asked (server : DaemonServer) (actions : List ServerEvent) : List ResourceRef :=
  (server.calls actions).filterMap CoreCall.scope

/-- A step on which the fence counter does not run over. -/
def FenceGrows (before : DaemonServer) (_ : ServerEvent) (after : DaemonServer) : Prop :=
  before.core.grants.nextFence ≤ after.core.grants.nextFence

/-- A step leaves the core alone or has it execute one command. -/
theorem step_exec (valid : server.core.snapshot.valid = true) (event : ServerEvent) :
    (server.step event).core = server.core ∨ ∃ io now command,
      (server.step event).core = ((server.core.enter io).exec now command).1 ∧
        ∀ request, command = .acquire request →
          ∃ call, server.call event = some call ∧ call.scope = some request.scope := by
  have core := step_core server.core.config valid event
  cases called : server.call event with
  | none =>
    rw [called] at core
    exact .inl (System.up.inj core)
  | some call =>
    rw [called, Option.toList_some, run_cons, run_nil] at core
    cases call with
    | tick env =>
      refine .inr ⟨env.io, env.now, .expireDue, System.up.inj core, ?_⟩
      intro request same
      cases same
    | dispatch made =>
      simp only [CoreCall.follow, CoreCall.event] at core
      cases decoded : Request.decode made.frame.type made.frame.payload with
      | none =>
        rw [decoded] at core
        exact .inl (System.up.inj core)
      | some result =>
        rw [decoded] at core
        cases result with
        | error failure => exact .inl (System.up.inj core)
        | ok request =>
          refine .inr ⟨made.env.io, made.env.now, request.effect, System.up.inj core, ?_⟩
          intro acquired same
          refine ⟨_, rfl, ?_⟩
          simp only [CoreCall.scope, decoded]
          cases request with
          | command ack command =>
            obtain rfl : command = .acquire acquired := same
            rfl
          | hello request | query query | shutdown => cases same

/-- What a run keeps: a published snapshot, and no conflict between the leases that are live. -/
theorem run_exclusive {actions : List ServerEvent} (valid : server.core.snapshot.valid = true)
    (exclusive : Exclusive (server.published actions) (server.asked actions) server.core.grants)
    (grows : Along step FenceGrows server actions) :
    Exclusive (server.published actions) (server.asked actions) (run step server actions).core.grants := by
  let holds : DaemonServer → Prop := fun state => state.core.snapshot.valid = true ∧
    Exclusive (server.published actions) (server.asked actions) state.core.grants
  have kept : ∀ state event, holds state → state ∈ visited step server actions →
      (∀ made, state.call event = some made → made ∈ server.calls actions) →
      FenceGrows state event (state.step event) → holds (state.step event) := by
    rintro state event ⟨valid, exclusive⟩ member made grows
    rw [FenceGrows] at grows
    rcases step_exec valid event with same | ⟨io, now, command, same, requests⟩
    · simp only [holds, same]
      exact ⟨valid, exclusive⟩
    · rw [same] at grows
      simp only [holds, same]
      have entered : (state.core.enter io).snapshot.valid = true := valid
      have known : (state.core.enter io).snapshot ∈ server.published actions := List.mem_map.mpr ⟨state, member, rfl⟩
      refine ⟨DaemonCore.exec_valid entered now command, DaemonCore.exec_exclusive entered exclusive known ?_ grows⟩
      intro request is
      obtain ⟨call, called, scope⟩ := requests request is
      exact List.mem_filterMap.mpr ⟨call, made call called, scope⟩
  have start : holds server := ⟨valid, exclusive⟩
  have final : holds (run step server actions) :=
    run_keeps kept start (fun _ member => member) (fun _ member => member) grows
  exact final.2

end DaemonServer

/-- A lease that the daemon accepts passes the registry under the published snapshot. -/
theorem DaemonCore.validate_accepts {core : DaemonCore} (valid : core.snapshot.valid = true) {now : UInt64}
    {token : LeaseToken} {response : GrantResponse} (answered : (core.validate now token).2 = .ok response)
    (accepted : response.code = .ok) :
    ∃ grant, core.grants.validate core.snapshot token now = .ok grant ∧ response.grant = .ofGrant grant := by
  simp only [validate, ensureSnapshotLocked_valid valid] at answered
  cases checked : core.grants.validate core.snapshot token now with
  | error status =>
    rw [checked] at answered
    cases answered
    exact absurd accepted (checkLease_error checked).1
  | ok grant =>
    rw [checked] at answered
    cases answered
    exact ⟨grant, rfl, rfl⟩

/-- Peers whose leases are accepted at the same time are apart. Over every run of a front end from a state in which
nothing was leased yet, two leases that the daemon then accepts, of which one is exclusive, have scopes on the current
snapshot that share no resource; whatever was submitted, composed, suspended or swept since they were handed out. -/
theorem accepted_leases_apart {config : DaemonConfig} {events : List Event} {server : DaemonServer}
    (up : System.after config events = .up server.core) (unused : server.core.grants.Unused)
    {actions : List ServerEvent} (grows : Along DaemonServer.step DaemonServer.FenceGrows server actions)
    (sized : ∀ snapshot ∈ server.published actions, snapshot.Sized)
    (collisionFree : ∀ a ∈ basisInputs (server.published actions) (server.asked actions),
      ∀ b ∈ basisInputs (server.published actions) (server.asked actions),
        Blake2s256.hash a = Blake2s256.hash b → a = b)
    {first second : LeaseToken} {nowFirst nowSecond : UInt64} {a b : GrantResponse}
    (answeredA : ((Foundation.run DaemonServer.step server actions).core.validate nowFirst first).2 = .ok a)
    (answeredB : ((Foundation.run DaemonServer.step server actions).core.validate nowSecond second).2 = .ok b)
    (acceptedA : a.code = .ok) (acceptedB : b.code = .ok) (distinct : a.grant.id ≠ b.grant.id)
    (exclusive : a.grant.mode = .exclusive ∨ b.grant.mode = .exclusive) :
    ∃ scopeA scopeB,
      expandScope (Foundation.run DaemonServer.step server actions).core.snapshot a.grant.scope = .ok scopeA ∧
      expandScope (Foundation.run DaemonServer.step server actions).core.snapshot b.grant.scope = .ok scopeB ∧
      ∀ ref ∈ scopeA, ref ∉ scopeB := by
  have valid := System.after_valid config events up
  have indexed := (System.after_unused config events up unused).indexed (indexed_empty config.authorityLimits 0)
  have start := unused.exclusive indexed (server.published actions) (server.asked actions)
  have held := DaemonServer.run_exclusive valid start grows
  have running := System.after_valid config _ (DaemonServer.run_core up actions)
  have current : (Foundation.run DaemonServer.step server actions).core.snapshot ∈ server.published actions :=
    List.mem_map.mpr ⟨_, mem_visited_run server actions, rfl⟩
  obtain ⟨grantA, usableA, sameA⟩ := DaemonCore.validate_accepts running answeredA acceptedA
  obtain ⟨grantB, usableB, sameB⟩ := DaemonCore.validate_accepts running answeredB acceptedB
  rw [sameA, sameB] at distinct exclusive
  rw [sameA, sameB]
  obtain ⟨foundA, liveA, scopeA, expandsA, footprintA⟩ := held.accepted current sized collisionFree usableA
  obtain ⟨foundB, liveB, scopeB, expandsB, footprintB⟩ := held.accepted current sized collisionFree usableB
  have conflict : occupantConflicts grantA.mode grantB.mode = true := by
    unfold occupantConflicts
    rcases exclusive with mode | mode
    · rw [show grantA.mode = .exclusive from mode]
      rfl
    · rw [show grantB.mode = .exclusive from mode]
      exact Bool.or_true _
  have different : grantA.id ≠ grantB.id := distinct
  have apart := held.apart _ _ grantA grantB different foundA liveA foundB liveB conflict
  rw [footprintA, footprintB] at apart
  exact ⟨scopeA, scopeB, expandsA, expandsB, apart⟩

/-- Two devices of ten units each. -/
def twinEvidence : List EvidenceRecord :=
  [3, 4].flatMap fun device =>
    let seen (payload : EvidencePayload) : EvidenceRecord :=
      { provenance := { source := 1, sequence := 1 }, payload := payload }
    [seen (.member { device := device, rack := 7, incarnation := 1 }),
      seen (.device { device := device, role := .switch, capacity := 10, capacityKnown := true, availability := .up })]

def twinRun : List Event :=
  [.start 0, .call 0 (.submitEvidence twinEvidence), .call 0 (.setLifecycle .active)]

/-- A daemon that serves the two devices. -/
def twinCore : DaemonCore :=
  match System.after bareRack twinRun with
  | .up core => core
  | .down _ => .create bareRack

theorem after_twinRun : System.after bareRack twinRun = .up twinCore := by
  have running : (System.after bareRack twinRun).lifecycle.isSome = true := by decide +kernel
  unfold twinCore
  cases reached : System.after bareRack twinRun with
  | up core => rfl
  | down disk =>
    rw [reached] at running
    cases running

/-- A request for one of the devices. -/
def deviceRequest (number device : UInt64) : AcquireRequest :=
  { request := ⟨0, number⟩, principal := number, scope := ⟨.device, device⟩, mode := .exclusive, capacity := 1, ttlMs := 9 }

def leaseFrame (number device : UInt64) : Frame :=
  match MessageForm.acquireRequest.encode (deviceRequest number device) { limit := 4096 } with
  | .ok writer => ⟨.acquire, number, writer.buffer⟩
  | .error _ => ⟨.acquire, number, []⟩

/-- Two peers send a frame each, and the one that connected later is served first. -/
def pairRun (first second : Frame) : List ServerEvent :=
  [.poll, .accept, .poll, .accept, .arrive 0 first.bytes, .arrive 1 second.bytes, .turn 1 ⟨1, []⟩ {} none,
    .turn 0 ⟨2, []⟩ {} none]

def afterSecond (core : DaemonCore) (second : Frame) : DaemonCore :=
  (core.dispatch ⟨1, []⟩ {} second).core

def afterBoth (core : DaemonCore) (first second : Frame) : DaemonCore :=
  ((afterSecond core second).dispatch ⟨2, []⟩ {} first).core

/-- A frame that has arrived whole is taken and dispatched. -/
theorem DaemonServer.turn_whole {server : DaemonServer} {index : Nat} {connection : Connection} {frame : Frame}
    (served : server.served index = some connection) (inbox : connection.inbox = frame.bytes)
    (fits : frame.Fits server.config.maxFramePayload) (env : Env) (counters : StatsResponse) (sent : Option Nat) :
    server.call (.turn index env counters sent) =
        some (.dispatch ⟨index, frame, env, counters, (server.core.dispatch env counters frame).reply⟩) ∧
      ∃ after stop, server.step (.turn index env counters sent) =
        { server with core := (server.core.dispatch env counters frame).core, stop := stop }.put index after := by
  have taken := takeFrame_bytes fits []
  rw [List.append_nil, ← inbox] at taken
  have called : server.call (.turn index env counters sent) =
      some (.dispatch ⟨index, frame, env, counters, (server.core.dispatch env counters frame).reply⟩) := by
    simp only [call, served, taken]
  rcases server.turn_cases index env counters sent with ⟨-, quiet⟩ | ⟨_, _, _, _, -, -, -, quiet, -⟩ |
    ⟨_, _, _, _, _, seen, takes, -, -, next⟩
  · rw [called] at quiet
    cases quiet
  · rw [called] at quiet
    cases quiet
  · rw [served, Option.some.injEq] at seen
    rw [← seen, taken] at takes
    cases takes
    exact ⟨called, _, _, next⟩

theorem pairRun_cores (core : DaemonCore) {first second : Frame} (fitsFirst : first.Fits kDefaultMaxFramePayload)
    (fitsSecond : second.Fits kDefaultMaxFramePayload) :
    (visited DaemonServer.step (.idle core) (pairRun first second)).map DaemonServer.core =
        List.replicate 7 core ++ [afterSecond core second, afterBoth core first second] ∧
      (DaemonServer.idle core).calls (pairRun first second) =
        [.dispatch ⟨1, second, ⟨1, []⟩, {}, (core.dispatch ⟨1, []⟩ {} second).reply⟩,
          .dispatch ⟨0, first, ⟨2, []⟩, {}, ((afterSecond core second).dispatch ⟨2, []⟩ {} first).reply⟩] ∧
      (Foundation.run DaemonServer.step (.idle core) (pairRun first second)).core = afterBoth core first second := by
  let one : DaemonServer := { core := core, config := {}, connections := [{}], activeConnections := 1 }
  let two : DaemonServer := { core := core, config := {}, connections := [{}, {}], activeConnections := 2 }
  let sent : DaemonServer := { two with connections := [{ stream := first.bytes }, {}] }
  let both : DaemonServer := { two with connections := [{ stream := first.bytes }, { stream := second.bytes }] }
  have polled : (DaemonServer.idle core).step .poll = { DaemonServer.idle core with polling := true } := rfl
  have opened : ({ DaemonServer.idle core with polling := true } : DaemonServer).step .accept = one := rfl
  have polled' : one.step .poll = { one with polling := true } := rfl
  have again : ({ one with polling := true } : DaemonServer).step .accept = two := rfl
  have arrived : two.step (.arrive 0 first.bytes) = sent := rfl
  have waiting : sent.step (.arrive 1 second.bytes) = both := rfl
  have servedSecond : both.served 1 = some { stream := second.bytes } := rfl
  obtain ⟨calledSecond, after, stop, stepSecond⟩ :=
    DaemonServer.turn_whole servedSecond rfl fitsSecond ⟨1, []⟩ {} none
  let next : DaemonServer := { both with core := afterSecond core second, stop := stop }.put 1 after
  have served : both.step (.turn 1 ⟨1, []⟩ {} none) = next := stepSecond
  have servedFirst : next.served 0 = some { stream := first.bytes } := rfl
  obtain ⟨calledFirst, last, halt, stepFirst⟩ := DaemonServer.turn_whole servedFirst rfl fitsFirst ⟨2, []⟩ {} none
  have final : (next.step (.turn 0 ⟨2, []⟩ {} none)).core = afterBoth core first second := by
    rw [stepFirst]
    rfl
  refine ⟨?_, ?_, ?_⟩
  · simp only [pairRun, visited, polled, opened, polled', again, arrived, waiting, served, List.map_cons, List.map_nil,
      final]
    rfl
  · simp only [pairRun, DaemonServer.calls, outputs, polled, opened, polled', again, arrived, waiting, served,
      calledSecond, calledFirst]
    rfl
  · simp only [pairRun, run_cons, run_nil, polled, opened, polled', again, arrived, waiting, served, final]

/-- The daemon with both devices leased. -/
def twinLent : DaemonCore :=
  afterBoth twinCore (leaseFrame 1 3) (leaseFrame 2 4)

/-- The token of a grant it holds. -/
def twinToken (id : UInt64) : LeaseToken :=
  ((twinLent.grants.grants[id]?).map Grant.token).getD ⟨0, 0, 0, .zero⟩

private theorem twin_fits : (leaseFrame 1 3).Fits kDefaultMaxFramePayload ∧
    (leaseFrame 2 4).Fits kDefaultMaxFramePayload := by
  unfold Frame.Fits
  decide +kernel

/-- The daemon over the run of the two peers. -/
def twinCores : List DaemonCore :=
  List.replicate 7 twinCore ++ [afterSecond twinCore (leaseFrame 2 4), twinLent]

private theorem twin_published : (DaemonServer.idle twinCore).published (pairRun (leaseFrame 1 3) (leaseFrame 2 4)) =
    twinCores.map DaemonCore.snapshot := by
  have cores := (pairRun_cores twinCore twin_fits.1 twin_fits.2).1
  rw [twinCores, twinLent, ← cores, List.map_map]
  rfl

private theorem twin_asked : (DaemonServer.idle twinCore).asked (pairRun (leaseFrame 1 3) (leaseFrame 2 4)) =
    [⟨.device, 4⟩, ⟨.device, 3⟩] := by
  rw [DaemonServer.asked, (pairRun_cores twinCore twin_fits.1 twin_fits.2).2.1]
  rfl

private theorem twin_accepted : ∃ a b, (twinLent.validate 3 (twinToken 1)).2 = .ok a ∧
    (twinLent.validate 3 (twinToken 2)).2 = .ok b ∧ a.code = .ok ∧ b.code = .ok ∧ a.grant.id ≠ b.grant.id ∧
      a.grant.mode = .exclusive ∧ a.grant.scope = ⟨.device, 4⟩ ∧ b.grant.scope = ⟨.device, 3⟩ := by
  let accepted (number device : UInt64) (response : GrantResponse) : Bool := decide (response.code = .ok ∧
    response.grant.id = number ∧ response.grant.mode = .exclusive ∧ response.grant.scope = ⟨.device, device⟩)
  have first : (twinLent.validate 3 (twinToken 1)).2.passes (accepted 1 4) = true := by decide +kernel
  have second : (twinLent.validate 3 (twinToken 2)).2.passes (accepted 2 3) = true := by decide +kernel
  obtain ⟨a, answeredA, passesA⟩ := Result.exists_of_passes first
  obtain ⟨b, answeredB, passesB⟩ := Result.exists_of_passes second
  obtain ⟨codeA, idA, modeA, scopeA⟩ := of_decide_eq_true passesA
  obtain ⟨codeB, idB, -, scopeB⟩ := of_decide_eq_true passesB
  refine ⟨a, b, answeredA, answeredB, codeA, codeB, ?_, modeA, scopeA, scopeB⟩
  rw [idA, idB]
  decide

private theorem twin_collisionFree : ∀ snapshots : List Snapshot,
    snapshots = twinCores.map DaemonCore.snapshot →
    ∀ a ∈ basisInputs snapshots [⟨.device, 4⟩, ⟨.device, 3⟩], ∀ b ∈ basisInputs snapshots [⟨.device, 4⟩, ⟨.device, 3⟩],
      Blake2s256.hash a = Blake2s256.hash b → a = b := by
  rintro _ rfl
  have inputs : ∀ input ∈ basisInputs (twinCores.map DaemonCore.snapshot) [⟨.device, 4⟩, ⟨.device, 3⟩],
      input = basisInput twinCore.snapshot [⟨.device, 3⟩] ∨ input = basisInput twinCore.snapshot [⟨.device, 4⟩] := by
    decide +kernel
  have apart : Blake2s256.hash (basisInput twinCore.snapshot [⟨.device, 3⟩]) ≠
      Blake2s256.hash (basisInput twinCore.snapshot [⟨.device, 4⟩]) := by decide +kernel
  intro a first b second same
  rcases inputs a first with rfl | rfl
  · rcases inputs b second with rfl | rfl
    · rfl
    · exact absurd same apart
  · rcases inputs b second with rfl | rfl
    · exact absurd same.symm apart
    · rfl

theorem accepted_leases_apart_twin :
    ∃ scopeA scopeB, expandScope twinLent.snapshot ⟨.device, 4⟩ = .ok scopeA ∧
      expandScope twinLent.snapshot ⟨.device, 3⟩ = .ok scopeB ∧ ∀ ref ∈ scopeA, ref ∉ scopeB := by
  have up : System.after bareRack twinRun = .up (DaemonServer.idle twinCore).core := by
    rw [DaemonServer.idle_core]
    exact after_twinRun
  have unused : (DaemonServer.idle twinCore).core.grants.Unused := by
    rw [DaemonServer.idle_core]
    have empty : twinCore.grants.grants.isEmpty = true := by decide +kernel
    intro id member
    rw [Std.ExtTreeMap.isEmpty_iff.mp empty] at member
    exact Std.ExtTreeMap.not_mem_empty member
  have grows : Along DaemonServer.step DaemonServer.FenceGrows (.idle twinCore)
      (pairRun (leaseFrame 1 3) (leaseFrame 2 4)) := by
    let grows (before after : DaemonCore) : Prop := before.grants.nextFence ≤ after.grants.nextFence
    have chain : ((visited DaemonServer.step (.idle twinCore)
        (pairRun (leaseFrame 1 3) (leaseFrame 2 4))).map DaemonServer.core).IsChain grows := by
      rw [(pairRun_cores twinCore twin_fits.1 twin_fits.2).1]
      simp only [List.replicate, List.cons_append, List.nil_append, List.isChain_cons_cons, List.isChain_singleton,
        and_true, grows]
      decide +kernel
    have along : Along DaemonServer.step (fun before _ after => grows before.core after.core) (.idle twinCore)
        (pairRun (leaseFrame 1 3) (leaseFrame 2 4)) := along_of_visited chain
    exact along
  have sized : ∀ snapshot ∈ (DaemonServer.idle twinCore).published (pairRun (leaseFrame 1 3) (leaseFrame 2 4)),
      snapshot.Sized := by
    rw [twin_published]
    unfold Snapshot.Sized
    decide +kernel
  have collisionFree := twin_collisionFree _ twin_published
  rw [← twin_asked] at collisionFree
  have lent : (Foundation.run DaemonServer.step (.idle twinCore) (pairRun (leaseFrame 1 3) (leaseFrame 2 4))).core =
      twinLent :=
    (pairRun_cores twinCore twin_fits.1 twin_fits.2).2.2
  obtain ⟨a, b, answeredA, answeredB, acceptedA, acceptedB, distinct, mode, scopeA, scopeB⟩ := twin_accepted
  rw [← scopeA, ← scopeB, ← lent]
  rw [← lent] at answeredA answeredB
  exact accepted_leases_apart up unused grows sized collisionFree answeredA answeredB acceptedA acceptedB distinct
    (.inl mode)

end RackFabric
