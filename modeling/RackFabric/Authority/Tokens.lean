import RackFabric.Authority.Reconcile

/-!
Where a token that is accepted comes from, and that a grant that has ended stays ended. The table is followed one
grant at a time: a call keeps a grant's token, ends the grant, or re-arms it after a recovery.
-/

namespace RackFabric

open Foundation

/-- In a state that only a grant handed out by this process reaches. -/
def Grant.Armed (grant : Grant) : Prop :=
  grant.state = .active ∨ grant.state = .suspended

/-- How a call that brings no grant moves one that is there. -/
inductive Advances (rearms : Prop) (grant next : Grant) : Prop where
  | kept (state : next.state = grant.state) (token : next.token = grant.token)
  | moved (before : grant.Armed) (after : next.Armed) (token : next.token = grant.token)
  | ended (terminal : isTerminalState next.state = true)
  | rearmed (allowed : rearms) (recovering : grant.state = .recovering) (active : next.state = .active)

theorem Advances.refl {rearms : Prop} (grant : Grant) : Advances rearms grant grant :=
  .kept rfl rfl

theorem not_armed_of_terminal {grant : Grant} (terminal : isTerminalState grant.state = true) : ¬ grant.Armed := by
  rintro (active | suspended)
  · rw [active] at terminal
    cases terminal
  · rw [suspended] at terminal
    cases terminal

theorem not_armed_of_recovering {grant : Grant} (recovering : grant.state = .recovering) : ¬ grant.Armed := by
  rintro (active | suspended)
  · rw [active] at recovering
    cases recovering
  · rw [suspended] at recovering
    cases recovering

theorem Grant.Armed.live {grant : Grant} (armed : grant.Armed) : grant.isLive = true := by
  rcases armed with active | suspended
  · rw [Grant.isLive, active]
    rfl
  · rw [Grant.isLive, suspended]
    rfl

/-- No advance leaves a terminal state. -/
theorem Advances.terminal {rearms : Prop} {grant next : Grant} (advances : Advances rearms grant next)
    (ended : isTerminalState grant.state = true) : isTerminalState next.state = true := by
  cases advances with
  | kept state token =>
    rw [state]
    exact ended
  | moved before after token => exact absurd before (not_armed_of_terminal ended)
  | ended terminal => exact terminal
  | rearmed allowed recovering active =>
    rw [recovering] at ended
    cases ended

/-- The call that may re-arm. -/
def RegistryCall.Rearms (call : RegistryCall) : Prop :=
  ∃ snapshot incarnation nowMs, call = .revalidate snapshot incarnation nowMs

namespace GrantRegistry

theorem carries_of_grants {rearms : Prop} {before after : GrantRegistry} (same : after.grants = before.grants) :
    Carries (Advances rearms) before after := by
  intro id
  rw [same]
  cases before.grants[id]? with
  | none => exact .none
  | some grant => exact .some (.refl grant)

theorem Rewrites.advances {rearms : Prop} {before after : GrantRegistry} {id : UInt64} {grant next : Grant}
    (rewrites : Rewrites before after id next) (held : before.grants[id]? = some grant)
    (advances : Advances rearms grant next) : Carries (Advances rearms) before after := by
  intro other
  rw [rewrites other]
  by_cases own : other = id
  · rw [if_pos own, own, held]
    exact .some advances
  · rw [if_neg own]
    cases before.grants[other]? with
    | none => exact .none
    | some grant => exact .some (.refl grant)

theorem sweep_advances {rearms : Prop} {visit : GrantRegistry → Grant → GrantRegistry}
    (visits : ∀ registry grant, registry.grants[grant.id]? = some grant →
      ∃ next, Rewrites registry (visit registry grant) grant.id next ∧ next.id = grant.id ∧
        Advances rearms grant next) {registry : GrantRegistry} (keyed : registry.Keyed) :
    Carries (Advances rearms) registry (registry.sweep visit) := by
  have swept := @sweep_carries visit (Advances rearms) Keyed (fun _ keyed => keyed) ?_ registry keyed
  · exact swept.2
  · intro state grant keyed found
    obtain ⟨next, rewrites, same, advances⟩ := visits state grant found
    exact ⟨rewrites.keyed same keyed, next, rewrites, advances⟩

theorem sweepEnds_advances {rearms : Prop} (selected : Grant → Bool) {state : GrantState}
    (ends : isTerminalState state = true) (reason : Text) {registry : GrantRegistry} (keyed : registry.Keyed) :
    Carries (Advances rearms) registry (registry.sweep fun registry grant =>
      if selected grant then registry.endGrant grant state reason else registry) := by
  refine sweep_advances ?_ keyed
  intro registry grant found
  split
  · exact ⟨_, endGrant_rewrites registry grant state reason, rfl, .ended ends⟩
  · exact ⟨grant, rewrites_self found, rfl, .refl grant⟩

theorem renew_advances {rearms : Prop} (registry : GrantRegistry) (snapshot : Snapshot) (token : LeaseToken)
    (ttlMs nowMs : UInt64) : Carries (Advances rearms) registry (registry.renew snapshot token ttlMs nowMs).1 := by
  cases renewing : registry.renew snapshot token ttlMs nowMs with
  | mk next result =>
    cases result with
    | error status => exact carries_of_grants (congrArg GrantRegistry.grants (renew_error renewing).1)
    | ok renewed =>
      obtain ⟨grant, deadline, checked, -, rfl, rfl⟩ := renew_ok renewing
      refine Rewrites.advances (rewrites_of_insert rfl) (checkLease_ok checked).1 ?_
      exact .kept rfl rfl

theorem release_advances {rearms : Prop} {registry : GrantRegistry} (keyed : registry.Keyed) (token : LeaseToken) :
    Carries (Advances rearms) registry (registry.release token).1 := by
  rcases release_cases registry token with same | ⟨grant, found, -, released⟩
  · exact carries_of_grants (congrArg GrantRegistry.grants same)
  · obtain own : grant.id = token.grant := keyed _ _ found
    rw [← own] at found
    rw [released]
    exact (endGrant_rewrites registry grant _ _).advances found (.ended rfl)

theorem applyState_advances {rearms : Prop} {registry : GrantRegistry} (keyed : registry.Keyed) (id : UInt64)
    (state : GrantState) (reason : Text) :
    Carries (Advances rearms) registry (registry.applyState id state reason).1 := by
  unfold applyState
  split
  · exact carries_of_grants rfl
  · rename_i grant found
    obtain rfl : grant.id = id := keyed _ _ found
    split
    · rename_i terminal
      split
      · exact (endGrant_rewrites registry grant state reason).advances found (.ended terminal)
      · exact (rewrites_of_insert rfl).advances found (.ended terminal)
    · exact carries_of_grants rfl

/-- The calls that bring no new grant move every grant on its own. -/
theorem perform_advances {registry : GrantRegistry} (indexed : registry.Indexed) {call : RegistryCall}
    (acquires : ∀ snapshot request incarnation nowMs allowNew,
      call ≠ .acquire snapshot request incarnation nowMs allowNew)
    (installs : ∀ snapshot grant, call ≠ .installRecovered snapshot grant) :
    Carries (Advances call.Rearms) registry (registry.perform call) := by
  have keyed := indexed.keyed
  cases call with
  | acquire snapshot request incarnation nowMs allowNew => exact absurd rfl (acquires _ _ _ _ _)
  | installRecovered snapshot grant => exact absurd rfl (installs _ _)
  | renew snapshot token ttlMs nowMs => exact renew_advances registry snapshot token ttlMs nowMs
  | release token => exact release_advances keyed token
  | fenceAll reason => exact sweepEnds_advances Grant.isLive rfl reason keyed
  | fenceDevice snapshot device reason =>
    exact sweepEnds_advances (fun grant => grant.isLive && touchesDevice snapshot device grant) rfl reason keyed
  | expireDue nowMs => exact sweepEnds_advances (isDue nowMs) rfl _ keyed
  | suspendAll reason =>
    refine sweep_advances ?_ keyed
    intro state grant found
    split
    · rename_i active
      exact ⟨_, rewrites_of_insert rfl, rfl, .moved (.inl active) (.inr rfl) rfl⟩
    · exact ⟨grant, rewrites_self found, rfl, .refl grant⟩
  | resumeAll snapshot nowMs =>
    refine sweep_advances ?_ keyed
    intro state grant found
    split
    · rename_i suspended
      split
      · exact ⟨_, rewrites_of_insert rfl, rfl, .moved (.inr suspended) (.inl rfl) rfl⟩
      · exact ⟨_, endGrant_rewrites state grant _ _, rfl, .ended rfl⟩
    · exact ⟨grant, rewrites_self found, rfl, .refl grant⟩
  | installOutcome request outcome =>
    apply carries_of_grants
    simp only [perform, installOutcome]
    split
    · rfl
    · split <;> rfl
  | applyState id state reason => exact applyState_advances keyed id state reason
  | revalidate snapshot incarnation nowMs =>
    refine (revalidate_carries keyed snapshot incarnation nowMs).2.mono ?_
    intro grant next moved
    cases moved with
    | idle => exact .refl grant
    | rearmed fence recovering => exact .rearmed ⟨snapshot, incarnation, nowMs, rfl⟩ recovering rfl
    | fenced failure => exact .ended rfl
  | setIncarnation incarnation => exact carries_of_grants rfl
  | prune =>
    apply carries_of_grants
    rw [perform, indexed.prune_eq]
    rfl

/-- A call that hands out a token: an acquire that answers with its grant, or a revalidation that re-arms it. -/
inductive HandsOut (before : GrantRegistry) (token : LeaseToken) : RegistryCall → Prop where
  | acquired {snapshot : Snapshot} {request : GrantRequest} {incarnation nowMs : UInt64} {allowNew : Bool}
      (grant : Grant) (granted : (before.acquire snapshot request incarnation nowMs allowNew).2 = .ok grant)
      (own : grant.token = token) : HandsOut before token (.acquire snapshot request incarnation nowMs allowNew)
  | rearmed {snapshot : Snapshot} {incarnation nowMs : UInt64} (recovered grant : Grant)
      (held : before.grants[token.grant]? = some recovered) (recovering : recovered.state = .recovering)
      (found : (before.revalidate snapshot incarnation nowMs).grants[token.grant]? = some grant)
      (active : grant.state = .active) (own : grant.token = token) :
      HandsOut before token (.revalidate snapshot incarnation nowMs)

/-- The table holds an armed grant with the token. -/
def HoldsArmed (registry : GrantRegistry) (token : LeaseToken) : Prop :=
  ∃ grant, registry.grants[token.grant]? = some grant ∧ grant.Armed ∧ grant.token = token

/-- A token is armed after a call only if it was armed before, or the call hands it out. -/
theorem HoldsArmed.before {registry : GrantRegistry} (indexed : registry.Indexed) {call : RegistryCall}
    {token : LeaseToken} (armed : (registry.perform call).HoldsArmed token) :
    registry.HoldsArmed token ∨ HandsOut registry token call := by
  obtain ⟨next, found, stands, own⟩ := armed
  have inherited : registry.grants[token.grant]? = some next → registry.HoldsArmed token :=
    fun held => ⟨next, held, stands, own⟩
  have advanced : Carries (Advances call.Rearms) registry (registry.perform call) →
      registry.HoldsArmed token ∨ HandsOut registry token call := by
    intro carries
    obtain ⟨grant, held, advances⟩ := carries.source found
    cases advances with
    | kept state same =>
      refine .inl ⟨grant, held, ?_, same ▸ own⟩
      rw [Grant.Armed, ← state]
      exact stands
    | moved before after same => exact .inl ⟨grant, held, before, same ▸ own⟩
    | ended terminal => exact absurd stands (not_armed_of_terminal terminal)
    | rearmed allowed recovering active =>
      obtain ⟨snapshot, incarnation, nowMs, rfl⟩ := allowed
      exact .inr (.rearmed grant next held recovering found active own)
  cases call with
  | acquire snapshot request incarnation nowMs allowNew =>
    rw [perform] at found
    cases acquired : registry.acquire snapshot request incarnation nowMs allowNew with
    | mk after result =>
      rw [acquired] at found
      cases acquire_decides acquired with
      | refused => exact .inl (inherited found)
      | replayed => exact .inl (inherited found)
      | turnedDown refusal =>
        refine .inl (inherited ?_)
        unfold turnedDown at found
        split at found <;> exact found
      | burned => exact .inl (inherited found)
      | issued deadline expanded pool =>
        rw [enlist_rewrites _ snapshot request _ token.grant] at found
        split at found
        · cases found
          exact .inr (.acquired _ (congrArg Prod.snd acquired) own)
        · exact .inl (inherited found)
  | installRecovered snapshot grant =>
    rw [perform] at found
    cases installRecovered_installs registry snapshot grant with
    | refused same =>
      rw [same] at found
      exact .inl (inherited found)
    | lost dead fresh number ended same =>
      rw [rewrites_of_insert same.grants token.grant] at found
      split at found
      · cases found
        rw [stands.live] at ended
        cases ended
      · exact .inl (inherited found)
    | enrolled kept fresh number live same fence recovering =>
      rw [rewrites_of_insert same.grants token.grant] at found
      split at found
      · cases found
        exact absurd stands (not_armed_of_recovering recovering)
      · exact .inl (inherited found)
  | renew | release | fenceAll | fenceDevice | expireDue | suspendAll | resumeAll | installOutcome | applyState
  | revalidate | setIncarnation | prune => exact advanced (perform_advances indexed (by simp) (by simp))

/-- A grant under its own identity is named whole by a token that matches it. -/
theorem checkToken_token {grant : Grant} {token : LeaseToken} (passed : checkToken grant token = .ok ())
    (own : grant.id = token.grant) : grant.token = token := by
  obtain ⟨fence, incarnation, basis⟩ := checkToken_ok passed
  cases token
  simp only [Grant.token, LeaseToken.mk.injEq]
  exact ⟨own, fence, incarnation, basis⟩

theorem checkCurrent_incarnation {snapshot : Snapshot} {incarnation nowMs : UInt64} {grant : Grant}
    (passed : checkCurrent snapshot incarnation nowMs grant = .ok ()) : grant.incarnation = incarnation := by
  unfold checkCurrent refuse at passed
  split at passed
  · cases passed
  rename_i same
  exact not_not.mp same

/-- A token that is accepted is that of an active grant of this incarnation. -/
theorem validate_token {registry : GrantRegistry} (keyed : registry.Keyed) (settled : registry.Settled)
    {snapshot : Snapshot} {token : LeaseToken} {nowMs : UInt64} {grant : Grant}
    (accepted : registry.validate snapshot token nowMs = .ok grant) :
    registry.grants[token.grant]? = some grant ∧ grant.state = .active ∧ grant.token = token ∧
      token.incarnation = registry.incarnation := by
  obtain ⟨found, matches_, state, current⟩ := checkLease_ok accepted
  have own := checkToken_token matches_ (keyed _ _ found)
  obtain ⟨stands, active⟩ := checkState_ok state
  have live : grant.isLive = true := by
    rcases settled _ _ found with live | ended
    · exact live
    · rw [stands] at ended
      cases ended
  refine ⟨found, active live, own, ?_⟩
  rw [← own]
  exact checkCurrent_incarnation current

theorem Settled.perform {registry : GrantRegistry} (settled : registry.Settled) (indexed : registry.Indexed)
    (call : RegistryCall) : (registry.perform call).Settled := by
  cases call with
  | acquire snapshot request incarnation nowMs allowNew =>
    rw [GrantRegistry.perform]
    cases acquire_enrolls registry snapshot request incarnation nowMs allowNew with
    | kept same _ =>
      rw [Settled, same.grants]
      exact settled
    | enrolled grant expanded pool admitted id scope mode live basis same taken =>
      exact (rewrites_of_insert same.grants).settled (.inl live) settled
  | installRecovered snapshot grant => exact installRecovered_settled settled snapshot grant
  | renew | release | fenceAll | fenceDevice | expireDue | suspendAll | resumeAll | installOutcome | applyState
  | revalidate | setIncarnation | prune => exact (perform_trims indexed (by simp) (by simp)).settled settled

/-- A grant has ended under an identity. -/
def EndedAt (registry : GrantRegistry) (id : UInt64) : Prop :=
  ∃ grant, registry.grants[id]? = some grant ∧ isTerminalState grant.state = true

theorem EndedAt.perform {registry : GrantRegistry} {id : UInt64} (ended : registry.EndedAt id) (tidy : registry.Tidy)
    {call : RegistryCall} (numbers : Numbers registry call (registry.perform call)) :
    (registry.perform call).EndedAt id := by
  obtain ⟨grant, held, terminal⟩ := ended
  have known : id ∈ registry.grants := Std.ExtTreeMap.mem_iff_isSome_getElem?.mpr (by rw [held]; rfl)
  have beside : ∀ {next : GrantRegistry} {other : Grant}, next.grants = registry.grants.insert other.id other →
      other.id ∉ registry.grants → next.EndedAt id := by
    intro next other inserted fresh
    refine ⟨grant, ?_, terminal⟩
    rw [rewrites_of_insert inserted id, if_neg]
    · exact held
    · rintro rfl
      exact fresh known
  have advanced : Carries (Advances call.Rearms) registry (registry.perform call) →
      (registry.perform call).EndedAt id := by
    intro carries
    have entry := carries id
    rw [held] at entry
    generalize after : (registry.perform call).grants[id]? = found at entry
    cases entry with
    | some advances => exact ⟨_, after, advances.terminal terminal⟩
  cases call with
  | acquire snapshot request incarnation nowMs allowNew =>
    have unused := tidy.fresh numbers
    rw [GrantRegistry.perform]
    cases acquire_enrolls registry snapshot request incarnation nowMs allowNew with
    | kept same _ => exact ⟨grant, by rw [same.grants, held], terminal⟩
    | enrolled other expanded pool admitted number scope mode live basis same taken =>
      refine beside same.grants ?_
      rw [number]
      exact unused taken
  | installRecovered snapshot recovered =>
    rw [GrantRegistry.perform]
    cases installRecovered_installs registry snapshot recovered with
    | refused same => exact ⟨grant, by rw [same, held], terminal⟩
    | lost dead fresh number cleared same => exact beside same.grants fresh
    | enrolled kept fresh number live same => exact beside same.grants fresh
  | renew | release | fenceAll | fenceDevice | expireDue | suspendAll | resumeAll | installOutcome | applyState
  | revalidate | setIncarnation | prune => exact advanced (perform_advances tidy.indexed (by simp) (by simp))

/-- What has ended is accepted by neither validate nor renew. -/
theorem EndedAt.refused {registry : GrantRegistry} {id : UInt64} (ended : registry.EndedAt id)
    {token : LeaseToken} (names : token.grant = id) (snapshot : Snapshot) (nowMs : UInt64) :
    (registry.validate snapshot token nowMs).isOk = false ∧
      ∀ ttlMs, (registry.renew snapshot token ttlMs nowMs).2.isOk = false := by
  obtain ⟨grant, held, terminal⟩ := ended
  have unusable : ∀ accepted, registry.checkLease snapshot token nowMs ≠ .ok accepted := by
    intro accepted checked
    obtain ⟨found, -, state, -⟩ := checkLease_ok checked
    rw [names, held] at found
    cases found
    rw [(checkState_ok state).1] at terminal
    cases terminal
  constructor
  · unfold validate
    cases checked : registry.checkLease snapshot token nowMs with
    | error status => rfl
    | ok accepted => exact absurd checked (unusable accepted)
  · intro ttlMs
    cases renewing : registry.renew snapshot token ttlMs nowMs with
    | mk next result =>
      cases result with
      | error status => rfl
      | ok renewed =>
        obtain ⟨accepted, -, checked, -⟩ := renew_ok renewing
        exact absurd checked (unusable accepted)

/-- A token that some call of a run has handed out. -/
def HandedOut (limits : AuthorityLimits) (process : UInt64) (calls : List RegistryCall) (token : LeaseToken) : Prop :=
  ∃ earlier call later, calls = earlier ++ call :: later ∧ HandsOut (afterCalls limits process earlier) token call

theorem armed_run {registry : GrantRegistry} {calls : List RegistryCall} {token : LeaseToken} (tidy : registry.Tidy)
    (numbers : Along perform Numbers registry calls) (armed : (run perform registry calls).HoldsArmed token) :
    registry.HoldsArmed token ∨ ∃ earlier call later, calls = earlier ++ call :: later ∧
      HandsOut (run perform registry earlier) token call := by
  induction calls generalizing registry with
  | nil => exact .inl armed
  | cons call rest ih =>
    rcases ih (tidy.perform numbers.1) numbers.2 armed with before | ⟨earlier, other, later, split, hands⟩
    · rcases before.before tidy.indexed with held | hands
      · exact .inl held
      · exact .inr ⟨[], call, rest, rfl, hands⟩
    · exact .inr ⟨call :: earlier, other, later, by rw [split, List.cons_append], hands⟩

/-- Every token that is accepted was handed out by this registry and names its incarnation, and a grant that has
ended stays ended and is accepted under no token. -/
theorem tokens_authentic_and_ends_final {limits : AuthorityLimits} {process : UInt64} {calls : List RegistryCall}
    (numbers : Along perform Numbers { limits := limits, incarnation := process } calls) :
    (∀ snapshot token nowMs grant, (afterCalls limits process calls).validate snapshot token nowMs = .ok grant →
      HandedOut limits process calls token ∧ token.incarnation = (afterCalls limits process calls).incarnation) ∧
      ∀ earlier later id, calls = earlier ++ later → (afterCalls limits process earlier).EndedAt id →
        (afterCalls limits process calls).EndedAt id ∧
          ∀ snapshot token nowMs, token.grant = id →
            ((afterCalls limits process calls).validate snapshot token nowMs).isOk = false ∧
              ∀ ttlMs, ((afterCalls limits process calls).renew snapshot token ttlMs nowMs).2.isOk = false := by
  have empty : ({ limits := limits, incarnation := process } : GrantRegistry).Tidy := by
    refine ⟨indexed_empty limits process, ?_⟩
    intro id member
    simp at member
  constructor
  · intro snapshot token nowMs grant accepted
    have standing := @Along.invariant _ _ _ _ (fun registry => registry.Tidy ∧ registry.Settled) _ _ numbers
      ⟨empty, fun id grant found => by simp at found⟩
      (fun _ call kept numbers => ⟨kept.1.perform numbers, kept.2.perform kept.1.indexed call⟩)
    obtain ⟨found, active, own, process⟩ := validate_token standing.1.indexed.keyed standing.2 accepted
    refine ⟨?_, process⟩
    rcases armed_run empty numbers ⟨grant, found, .inl active, own⟩ with ⟨held, stored, -⟩ | handed
    · simp at stored
    · exact handed
  · intro earlier later id split ended
    subst split
    obtain ⟨before, after⟩ := along_append.mp numbers
    have kept := @Along.invariant _ _ _ _ (fun registry => registry.Tidy ∧ registry.EndedAt id) _ _ after
      ⟨tidy_afterCalls before, ended⟩
      (fun _ call kept numbers => ⟨kept.1.perform numbers, kept.2.perform kept.1 numbers⟩)
    have same : afterCalls limits process (earlier ++ later) =
        run perform (afterCalls limits process earlier) later := run_append _ _ _ _
    rw [same]
    exact ⟨kept.2, fun snapshot token nowMs names => kept.2.refused names snapshot nowMs⟩

/-- The second lease of the small run, as it is issued. -/
private def secondLease : Grant :=
  issuedGrant smallRack (deviceLease 2 6 50) 1 2 52 2 [⟨.device, 3⟩] [⟨.rack, 7⟩, ⟨.device, 3⟩]

/-- The small run up to the sweep at its end. -/
private theorem secondLease_issued : (afterCalls {} 1 (smallRun.take 2)).grants[secondLease.id]? = some secondLease := by
  have admitted : (afterCalls {} 1 (smallRun.take 1)).admission smallRack (deviceLease 2 6 50) true =
      .ok ([⟨.device, 3⟩], [⟨.rack, 7⟩, ⟨.device, 3⟩]) := by rfl
  have issued : (afterCalls {} 1 (smallRun.take 1)).acquire smallRack (deviceLease 2 6 50) 1 2 true =
      ((afterCalls {} 1 (smallRun.take 1)).takeFence.enlist smallRack (deviceLease 2 6 50) secondLease,
        .ok secondLease) :=
    acquire_issues rfl rfl rfl admitted rfl
  have taken : afterCalls {} 1 (smallRun.take 2) =
      (afterCalls {} 1 (smallRun.take 1)).takeFence.enlist smallRack (deviceLease 2 6 50) secondLease :=
    congrArg Prod.fst issued
  rw [taken]
  exact enlist_own _ _ _ _

/-- The sweep at the end of the small run leaves the second lease as it is. -/
private theorem secondLease_held (keyed : (afterCalls {} 1 (smallRun.take 2)).Keyed) :
    (afterCalls {} 1 smallRun).grants[secondLease.id]? = some secondLease := by
  have swept := (expireDue_swept keyed 20).entries secondLease.id
  rw [secondLease_issued] at swept
  exact swept

/-- The second lease of the small run is accepted under the token it was handed out with; the first has expired. -/
theorem small_tokens_authentic :
    ∃ grant, (afterCalls {} 1 smallRun).validate smallRack ⟨2, 2, 1, grant.authorityBasis⟩ 21 = .ok grant ∧
      HandedOut {} 1 smallRun grant.token ∧ (afterCalls {} 1 smallRun).EndedAt 1 := by
  have numbers : Along perform Numbers { incarnation := 1 } smallRun :=
    smallRun_counts.mono (fun _ _ counts => counts.numbers)
  have split : Along perform Numbers { incarnation := 1 } (smallRun.take 2 ++ smallRun.drop 2) := numbers
  have begun := (along_append.mp split).1
  have incarnation : (afterCalls {} 1 smallRun).incarnation = 1 := by rfl
  have honoured : Honoured smallRack (afterCalls {} 1 smallRun).incarnation 21 secondLease [⟨.device, 3⟩] := by
    rw [incarnation]
    exact ⟨rfl, by decide, rfl, by decide, rfl, by rfl, rfl, by rfl⟩
  have accepted : (afterCalls {} 1 smallRun).validate smallRack secondLease.token 21 = .ok secondLease :=
    honoured.checkLease rfl rfl (secondLease_held (tidy_afterCalls begun).indexed.keyed)
  have ended : ((afterCalls {} 1 smallRun).grants[(1 : UInt64)]?).any (fun grant => isTerminalState grant.state) =
      true := by
    rfl
  have final := tokens_authentic_and_ends_final numbers
  refine ⟨_, accepted, (final.1 _ _ _ _ accepted).1, ?_⟩
  refine (final.2 smallRun [] 1 (List.append_nil _).symm ?_).1
  simpa [EndedAt, Option.any_eq_true] using ended

end GrantRegistry

end RackFabric
