import RackFabric.Authority.Recalls
import RackFabric.Net.Leases
import RackFabric.Runtime.RecoveryGate

/-!
A request that is sent again. Once a peer was told that its request is granted, whoever repeats the request over
whatever connection is told of that grant and of no other, and a lookup of the request finds it.
-/

namespace RackFabric

open Foundation GrantRegistry

namespace DaemonCore

variable {core : DaemonCore}

/-- A grant that is answered for a request is recalled from then on. -/
theorem acquire_granted (valid : core.snapshot.valid = true) (keyed : core.grants.Keyed) {now : UInt64}
    {request : AcquireRequest} {response : GrantResponse} (answered : (core.acquire now request).2 = .ok response)
    (accepted : response.code = .ok) :
    (core.acquire now request).1.grants.Recalls request.request response.grant.id := by
  have swept := (expireDue_swept keyed now).keyed
  cases acquired : (core.grants.expireDue now).1.acquire core.snapshot (core.grantRequestOf request) core.incarnation
      now (lifecycleAcceptsNewAuthority core.lifecycle) with
  | mk next granted =>
    obtain ⟨store, settled⟩ := acquire_settles valid now request acquired
    rw [settled] at answered ⊢
    cases granted with
    | error status =>
      cases answered
      exact absurd accepted (acquire_decides acquired).error_code
    | ok grant =>
      have recalls : next.Recalls request.request grant.id := acquire_recalls swept acquired
      rw [settleAcquire] at answered ⊢
      rcases concludeAcquire_cases { core with grants := next, store := store } request.request grant with
        ⟨told, same⟩ | ⟨⟨status, failed⟩, -⟩
      · rw [told] at answered
        cases answered
        rw [same]
        exact recalls
      · rw [failed] at answered
        cases answered

/-- Asking again for a recalled request issues nothing, and is answered with its grant unless the answer cannot be
logged. -/
theorem acquire_recalled (valid : core.snapshot.valid = true) (keyed : core.grants.Keyed) {now : UInt64}
    {request : AcquireRequest} {id : UInt64} (recalls : core.grants.Recalls request.request id) :
    (core.acquire now request).1.grants.nextFence = core.grants.nextFence ∧
      (∀ other, (core.acquire now request).1.grants.grants.contains other = true →
        core.grants.grants.contains other = true) ∧
      ∀ response, (core.acquire now request).2 = .ok response → response.code = .ok ∧ response.grant.id = id := by
  have swept := expireDue_swept keyed now
  obtain ⟨grant, own, acquired⟩ := (recalls.swept swept).acquire swept.keyed valid
    (show (core.grantRequestOf request).request = request.request from rfl) core.incarnation now
    (lifecycleAcceptsNewAuthority core.lifecycle)
  obtain ⟨store, settled⟩ := acquire_settles valid now request acquired
  rw [settled, settleAcquire]
  rcases concludeAcquire_cases { core with grants := (core.grants.expireDue now).1, store := store } request.request
    grant with ⟨told, same⟩ | ⟨⟨status, failed⟩, undone⟩
  · rw [told, same]
    refine ⟨swept.around.nextFence, ?_, ?_⟩
    · intro other found
      rwa [expireDue_contains keyed] at found
    · intro response answered
      cases answered
      exact ⟨rfl, own⟩
  · rw [failed, undone]
    refine ⟨(release_nextFence _ _).trans swept.around.nextFence, ?_, ?_⟩
    · intro other found
      have held := release_contains swept.keyed _ found
      rwa [expireDue_contains keyed] at held
    · intro response answered
      cases answered

theorem lookup_recalled {request : RequestId} {id : UInt64} (recalls : core.grants.Recalls request id) :
    (core.lookup request).code = .ok ∧ (core.lookup request).remembered = true ∧
      (core.lookup request).outcomeCode = .ok ∧ (core.lookup request).grant = id := by
  obtain ⟨outcome, known, accepted, own⟩ := recalls.remembered
  simp only [lookup, lookupRequest, known, accepted, own, and_self]

end DaemonCore

/-- A frame that asks the core for a command. -/
def Exchange.Asks (made : Exchange) (ack : MessageType) (command : Command) : Prop :=
  Request.decode made.frame.type made.frame.payload = some (.ok (.command ack command))

namespace CoreCall

/-- A call leaves a process up, with its core as it was or after one command. -/
theorem follow_up (config : DaemonConfig) (core : DaemonCore) (call : CoreCall) :
    ∃ next, follow config (.up core) call = .up next ∧ (next = core ∨ ∃ (env : Env) (command : Command),
      next = ((core.enter env.io).exec env.now command).1) := by
  cases call with
  | tick env => exact ⟨_, rfl, .inr ⟨env, .expireDue, rfl⟩⟩
  | dispatch made =>
    simp only [follow, event]
    split
    · rename_i request decoded
      exact ⟨_, rfl, .inr ⟨made.env, request.effect, rfl⟩⟩
    · exact ⟨core, rfl, .inl rfl⟩

/-- What is recalled is still recalled after any calls. -/
theorem run_recalls {config : DaemonConfig} {core final : DaemonCore} {request : RequestId} {id : UInt64}
    (calls : List CoreCall) (keyed : core.grants.Keyed) (recalls : core.grants.Recalls request id)
    (reached : run (follow config) (.up core) calls = .up final) : final.grants.Recalls request id := by
  induction calls generalizing core with
  | nil =>
    cases reached
    exact recalls
  | cons call rest ih =>
    obtain ⟨next, followed, moved⟩ := follow_up config core call
    rw [run_cons, followed] at reached
    rcases moved with rfl | ⟨env, command, rfl⟩
    · exact ih keyed recalls reached
    · have called := (core.enter env.io).exec_calls env.now command
      exact ih (called.keyed keyed) (called.recalls keyed recalls) reached

end CoreCall

/-- What is answered to a request that is sent again: the grant it has, unless the call fails. Nothing is issued. -/
structure Dispatched.Repeats (dispatched : Dispatched) (core : DaemonCore) (id : UInt64) : Prop where
  reply : (∃ failure, dispatched.reply = errorMessage failure) ∨
    ∃ response : GrantResponse, dispatched.reply = ⟨.acquireAck, .grantResponse, response⟩ ∧
      response.code = .ok ∧ response.grant.id = id
  spent : dispatched.core.grants.nextFence = core.grants.nextFence
  issued : ∀ other, dispatched.core.grants.grants.contains other = true → core.grants.grants.contains other = true

namespace DaemonCore

variable {core : DaemonCore} {made : Exchange}

/-- A dispatched request for authority that is answered with a grant is recalled from then on. -/
theorem dispatch_granted (valid : core.snapshot.valid = true) (keyed : core.grants.Keyed) {request : AcquireRequest}
    (asked : made.Asks .acquireAck (.acquire request)) {response : GrantResponse}
    (answered : (core.dispatch made.env made.counters made.frame).reply = ⟨.acquireAck, .grantResponse, response⟩)
    (accepted : response.code = .ok) :
    (core.dispatch made.env made.counters made.frame).core.grants.Recalls request.request response.grant.id ∧
      (core.dispatch made.env made.counters made.frame).core.grants.Keyed := by
  have granted : ∀ {told : GrantResponse},
      ((core.enter made.env.io).acquire made.env.now request).2 = .ok told → told.code = .ok → _ :=
    @acquire_granted (core.enter made.env.io) valid keyed made.env.now request
  have called := ((core.enter made.env.io).exec_calls made.env.now (.acquire request)).keyed keyed
  rw [Exchange.Asks] at asked
  simp only [dispatch, asked, serve, exec] at answered called ⊢
  cases served : (core.enter made.env.io).acquire made.env.now request with
  | mk next result =>
    rw [served] at answered called granted
    cases result with
    | error failure => cases answered
    | ok told =>
      cases answered
      exact ⟨granted rfl accepted, called⟩

theorem dispatch_recalled (valid : core.snapshot.valid = true) (keyed : core.grants.Keyed) {request : AcquireRequest}
    (asked : made.Asks .acquireAck (.acquire request)) {id : UInt64}
    (recalls : core.grants.Recalls request.request id) :
    (core.dispatch made.env made.counters made.frame).Repeats core id := by
  obtain ⟨spent, issued, told⟩ := @acquire_recalled (core.enter made.env.io) valid keyed made.env.now _ _ recalls
  rw [Exchange.Asks] at asked
  simp only [dispatch, asked, serve, exec]
  cases served : (core.enter made.env.io).acquire made.env.now request with
  | mk next result =>
    rw [served] at spent issued told
    cases result with
    | error failure => exact ⟨.inl ⟨failure, rfl⟩, spent, issued⟩
    | ok response => exact ⟨.inr ⟨response, rfl, told response rfl⟩, spent, issued⟩

end DaemonCore

/-- A request is granted at most once. Over every run of a front end, after a peer was answered that its request is
granted, a later request of the same identity, on whatever connection and whatever else it asks for, is answered with
that grant or with the failure to log it, and issues nothing; and a lookup of the request reports that grant. -/
theorem requests_granted_once {config : DaemonConfig} {events : List Event} {server : DaemonServer}
    (up : System.after config events = .up server.core) {actions : List ServerEvent}
    {earlier middle later : List CoreCall} {made again : Exchange}
    (split : server.calls actions = earlier ++ .dispatch made :: (middle ++ .dispatch again :: later))
    {request : AcquireRequest} (asked : made.Asks .acquireAck (.acquire request))
    {response : GrantResponse} (answered : made.reply = ⟨.acquireAck, .grantResponse, response⟩)
    (accepted : response.code = .ok) :
    ∃ core, System.after config (events ++ (earlier ++ .dispatch made :: middle).filterMap CoreCall.event) = .up core ∧
      again.reply = (core.dispatch again.env again.counters again.frame).reply ∧
      (∀ repeated, again.Asks .acquireAck (.acquire repeated) → repeated.request = request.request →
        (core.dispatch again.env again.counters again.frame).Repeats core response.grant.id) ∧
      (again.Asks .lookupAck (.lookup request.request) →
        ∃ found : LookupResponse, again.reply = ⟨.lookupAck, .lookupResponse, found⟩ ∧ found.code = .ok ∧
          found.remembered = true ∧ found.outcomeCode = .ok ∧ found.grant = response.grant.id) := by
  obtain ⟨first, before, replied⟩ := DaemonServer.dispatched_at up split
  have regrouped : server.calls actions = (earlier ++ .dispatch made :: middle) ++ .dispatch again :: later := by
    rw [split, List.append_assoc, List.cons_append]
  obtain ⟨core, reached, repliedAgain⟩ := DaemonServer.dispatched_at up regrouped
  have recalls : core.grants.Recalls request.request response.grant.id := by
    have valid := System.after_valid config _ before
    have keyed := (System.after_stands config _ before).1
    obtain ⟨stored, stands⟩ := DaemonCore.dispatch_granted valid keyed asked (replied.symm.trans answered) accepted
    have passed := reached
    rw [List.filterMap_append, ← List.append_assoc, System.after, Foundation.run_append, ← System.after, before,
      ← CoreCall.run_follow, run_cons, DaemonCore.dispatch_follow config valid made] at passed
    exact CoreCall.run_recalls middle stands stored passed
  refine ⟨core, reached, repliedAgain, ?_, ?_⟩
  · intro repeated asks same
    rw [← same] at recalls
    exact DaemonCore.dispatch_recalled (System.after_valid config _ reached) (System.after_stands config _ reached).1
      asks recalls
  · intro asks
    have found := @DaemonCore.lookup_recalled (core.enter again.env.io) _ _ recalls
    rw [Exchange.Asks] at asks
    refine ⟨(core.enter again.env.io).lookup request.request, ?_, found⟩
    rw [repliedAgain]
    simp only [DaemonCore.dispatch, asks, DaemonCore.serve, DaemonCore.exec, Response.message]

/-- A peer asks for a device, -/
def twinAsked : Exchange :=
  ⟨1, leaseFrame 2 4, ⟨1, []⟩, {}, (twinCore.dispatch ⟨1, []⟩ {} (leaseFrame 2 4)).reply⟩

/-- and another one then for a different device under the same request. -/
def twinRepeated : Exchange :=
  ⟨0, leaseFrame 2 3, ⟨2, []⟩, {}, ((afterSecond twinCore (leaseFrame 2 4)).dispatch ⟨2, []⟩ {} (leaseFrame 2 3)).reply⟩

private theorem twin_answered :
    ∃ response : GrantResponse, twinAsked.reply = ⟨.acquireAck, .grantResponse, response⟩ ∧ response.code = .ok := by
  have held : (match twinAsked.reply with
    | ⟨.acquireAck, .grantResponse, response⟩ => decide ((show GrantResponse from response).code = .ok)
    | _ => false) = true := by decide +kernel
  split at held
  · rename_i response answered
    exact ⟨response, answered, of_decide_eq_true held⟩
  · cases held

theorem requests_granted_once_twin :
    ∃ (response : GrantResponse) (core : DaemonCore), twinAsked.reply = ⟨.acquireAck, .grantResponse, response⟩ ∧
      System.after bareRack (twinRun ++ [CoreCall.dispatch twinAsked].filterMap CoreCall.event) = .up core ∧
      (core.dispatch ⟨2, []⟩ {} (leaseFrame 2 3)).Repeats core response.grant.id := by
  have up : System.after bareRack twinRun = .up (DaemonServer.idle twinCore).core := by
    rw [DaemonServer.idle_core]
    exact after_twinRun
  have fits : (leaseFrame 2 3).Fits kDefaultMaxFramePayload ∧ (leaseFrame 2 4).Fits kDefaultMaxFramePayload := by
    unfold Frame.Fits
    decide +kernel
  have calls : (DaemonServer.idle twinCore).calls (pairRun (leaseFrame 2 3) (leaseFrame 2 4)) =
      [] ++ .dispatch twinAsked :: ([] ++ .dispatch twinRepeated :: []) :=
    (pairRun_cores twinCore fits.1 fits.2).2.1
  have asked : twinAsked.Asks .acquireAck (.acquire (deviceRequest 2 4)) := rfl
  have again : twinRepeated.Asks .acquireAck (.acquire (deviceRequest 2 3)) := rfl
  obtain ⟨response, answered, accepted⟩ := twin_answered
  obtain ⟨core, reached, -, repeats, -⟩ := requests_granted_once up calls asked answered accepted
  exact ⟨response, core, answered, reached, repeats _ again rfl⟩

end RackFabric
