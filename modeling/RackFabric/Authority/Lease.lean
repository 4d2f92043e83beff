import RackFabric.Authority.Registry

/-!
What a lease check establishes, and which of its refusals names the lifecycle.
-/

namespace RackFabric

/-- The refusal of a lease check that reads the lifecycle of the snapshot. -/
def lifecycleRefusal : Status :=
  ⟨.lifecycleRefused, text "the rack lifecycle does not honour leases"⟩

namespace GrantRegistry

theorem checkToken_error {grant : Grant} {token : LeaseToken} {status : Status}
    (failed : checkToken grant token = .error status) : status.code = .fencedIncarnation := by
  unfold checkToken at failed
  split at failed
  · cases failed
    rfl
  · split at failed
    · cases failed
      rfl
    · cases failed

theorem checkToken_ok {grant : Grant} {token : LeaseToken} (passed : checkToken grant token = .ok ()) :
    grant.fence = token.fence ∧ grant.incarnation = token.incarnation ∧ grant.authorityBasis = token.scopeBasis := by
  unfold checkToken at passed
  split at passed
  · cases passed
  rename_i same
  split at passed
  · cases passed
  rename_i process
  obtain ⟨fence, basis⟩ := not_or.mp same
  exact ⟨not_not.mp fence, not_not.mp process, not_not.mp basis⟩

/-- Only an active grant, or one in a state no enumerator names, passes the state check. -/
theorem checkState_ok {grant : Grant} (passed : checkState grant = .ok ()) :
    isTerminalState grant.state = false ∧ (grant.isLive = true → grant.state = .active) := by
  cases state : grant.state <;> simp_all [checkState, refuse, isTerminalState, Grant.isLive, isLiveState]

private theorem suspended_detail (reason : Text) :
    text "grant is suspended: " ++ reason ≠ lifecycleRefusal.detail := by
  intro same
  have first : (text "grant is suspended: ").head? = some 103 := by decide
  have heads := congrArg List.head? same
  rw [List.head?_append, first, Option.some_or] at heads
  exact absurd heads (by decide)

theorem checkState_error {grant : Grant} {status : Status} (failed : checkState grant = .error status) :
    status.code ≠ .ok ∧ status ≠ lifecycleRefusal := by
  cases state : grant.state with
  | suspended =>
    simp only [checkState, state] at failed
    cases failed
    refine ⟨by simp, ?_⟩
    intro same
    exact suspended_detail grant.reason (congrArg Status.detail same)
  | active | unnamed =>
    simp only [checkState, state] at failed
    cases failed
  | released | expired | fenced | recovering | pending =>
    simp only [checkState, state, refuse] at failed
    cases failed
    simp [lifecycleRefusal]

theorem checkScope_error {snapshot : Snapshot} {scope : List ResourceRef} {status : Status}
    (failed : checkScope snapshot scope = .error status) :
    status.code = .fencedIncarnation ∨ status.code = .scopeNotEligible := by
  induction scope with
  | nil => cases failed
  | cons ref rest ih =>
    unfold checkScope at failed
    split at failed
    · cases failed
      exact .inl rfl
    · split at failed
      · cases failed
        exact .inr rfl
      · split at failed
        · cases failed
          exact .inr rfl
        · exact ih failed

/-- The checks against the snapshot refuse for the lifecycle exactly when it does not honour leases. -/
theorem checkCurrent_ok {snapshot : Snapshot} {incarnation nowMs : UInt64} {grant : Grant}
    (passed : checkCurrent snapshot incarnation nowMs grant = .ok ()) :
    lifecycleHonoursExistingAuthority snapshot.lifecycle = true := by
  cases honours : lifecycleHonoursExistingAuthority snapshot.lifecycle with
  | true => rfl
  | false =>
    simp only [checkCurrent, honours, refuse] at passed
    repeat' split at passed
    all_goals simp_all

theorem checkCurrent_error {snapshot : Snapshot} {incarnation nowMs : UInt64} {grant : Grant} {status : Status}
    (failed : checkCurrent snapshot incarnation nowMs grant = .error status) :
    status.code ≠ .ok ∧
      (status = lifecycleRefusal → lifecycleHonoursExistingAuthority snapshot.lifecycle = false) := by
  unfold checkCurrent refuse at failed
  split at failed
  · cases failed
    simp [lifecycleRefusal]
  split at failed
  · cases failed
    simp [lifecycleRefusal]
  split at failed
  · cases failed
    simp [lifecycleRefusal]
  split at failed
  · cases failed
    simp [lifecycleRefusal]
  split at failed
  · rename_i dishonoured
    cases failed
    exact ⟨by simp, fun _ => by simpa using dishonoured⟩
  split at failed
  · cases failed
    simp [lifecycleRefusal]
  split at failed
  · cases failed
    simp [lifecycleRefusal]
  · have code := checkScope_error failed
    refine ⟨?_, ?_⟩
    · rcases code with code | code <;> simp [code]
    · rintro rfl
      simp [lifecycleRefusal] at code

/-- What a lease that may be used shows: its grant, under a lifecycle that honours it. -/
theorem checkLease_ok {registry : GrantRegistry} {snapshot : Snapshot} {token : LeaseToken} {nowMs : UInt64}
    {grant : Grant} (passed : registry.checkLease snapshot token nowMs = .ok grant) :
    registry.grants[token.grant]? = some grant ∧ checkToken grant token = .ok () ∧
      checkState grant = .ok () ∧ checkCurrent snapshot registry.incarnation nowMs grant = .ok () := by
  unfold checkLease at passed
  split at passed
  · cases passed
  · split at passed
    · cases passed
    · rename_i held found
      simp only [bind_eq_ok] at passed
      obtain ⟨_, token, _, state, _, current, same⟩ := passed
      cases same
      exact ⟨found, token, state, current⟩

theorem checkToken_own (grant : Grant) : checkToken grant grant.token = .ok () := by
  simp [checkToken, Grant.token]

/-- A grant that the rack as it stands still honours. -/
structure Honoured (snapshot : Snapshot) (incarnation nowMs : UInt64) (grant : Grant) (scope : List ResourceRef) :
    Prop where
  incarnation : grant.incarnation = incarnation
  pending : nowMs < grant.expiresAtMs
  epoch : grant.epoch = snapshot.epoch
  generation : grant.generation ≤ snapshot.generation
  honours : lifecycleHonoursExistingAuthority snapshot.lifecycle = true
  expands : expandScope snapshot grant.scope = .ok scope
  basis : authorityBasisDigest snapshot scope = grant.authorityBasis
  eligible : checkScope snapshot scope = .ok ()

theorem Honoured.checkCurrent {snapshot : Snapshot} {incarnation nowMs : UInt64} {grant : Grant}
    {scope : List ResourceRef} (honoured : Honoured snapshot incarnation nowMs grant scope) :
    checkCurrent snapshot incarnation nowMs grant = .ok () := by
  have pending := UInt64.not_le.mpr honoured.pending
  have known := UInt64.not_lt.mpr honoured.generation
  simp only [GrantRegistry.checkCurrent, honoured.incarnation, honoured.epoch, honoured.honours, honoured.expands,
    honoured.basis, honoured.eligible, ne_eq, not_true_eq_false, if_false, pending, known, Bool.not_true,
    Bool.false_eq_true]

/-- An active grant that the rack honours may be used under the token it was handed out with. -/
theorem Honoured.checkLease {registry : GrantRegistry} {snapshot : Snapshot} {nowMs : UInt64} {grant : Grant}
    {scope : List ResourceRef} (honoured : Honoured snapshot registry.incarnation nowMs grant scope)
    (valid : snapshot.valid = true) (active : grant.state = .active) (held : registry.grants[grant.id]? = some grant) :
    registry.checkLease snapshot grant.token nowMs = .ok grant := by
  have named : registry.grants[grant.token.grant]? = some grant := held
  have state : checkState grant = .ok () := by
    rw [checkState, active]
  simp only [GrantRegistry.checkLease, valid, named, Bool.not_true, Bool.false_eq_true, if_false, checkToken_own, state,
    honoured.checkCurrent]
  rfl

theorem checkLease_error {registry : GrantRegistry} {snapshot : Snapshot} {token : LeaseToken} {nowMs : UInt64}
    {status : Status} (failed : registry.checkLease snapshot token nowMs = .error status) :
    status.code ≠ .ok ∧
      (status = lifecycleRefusal → lifecycleHonoursExistingAuthority snapshot.lifecycle = false) := by
  unfold checkLease at failed
  split at failed
  · cases failed
    simp [lifecycleRefusal]
  · split at failed
    · cases failed
      simp [lifecycleRefusal]
    · rename_i grant _
      cases token : checkToken grant token with
      | error refused =>
        have code := checkToken_error token
        simp only [token, bind, Except.bind] at failed
        cases failed
        refine ⟨by simp [code], ?_⟩
        rintro rfl
        simp [lifecycleRefusal] at code
      | ok _ =>
        cases state : checkState grant with
        | error refused =>
          have facts := checkState_error state
          simp only [token, state, bind, Except.bind] at failed
          cases failed
          exact ⟨facts.1, fun same => absurd same facts.2⟩
        | ok _ =>
          cases current : checkCurrent snapshot registry.incarnation nowMs grant with
          | error refused =>
            simp only [token, state, current, bind, Except.bind] at failed
            cases failed
            exact checkCurrent_error current
          | ok _ => simp [token, state, current, bind, Except.bind] at failed

/-- A lease that nothing but the clock, the lifecycle and its resources can refuse. -/
def isCurrent (snapshot : Snapshot) (incarnation : UInt64) (grant : Grant) : Bool :=
  (checkState grant).isOk && grant.incarnation == incarnation && grant.expiresAtMs != 0 &&
    grant.epoch == snapshot.epoch && decide (grant.generation ≤ snapshot.generation)

/-- Whether there is a lease whose check comes as far as the lifecycle of the snapshot. -/
def readsLifecycle (registry : GrantRegistry) (snapshot : Snapshot) : Bool :=
  registry.grants.toList.any fun entry => isCurrent snapshot registry.incarnation entry.2

theorem readsLifecycle_iff {registry : GrantRegistry} {snapshot : Snapshot} :
    registry.readsLifecycle snapshot = true ↔
      ∃ (id : UInt64) (grant : Grant), registry.grants[id]? = some grant ∧
        isCurrent snapshot registry.incarnation grant = true := by
  rw [readsLifecycle, List.any_eq_true]
  constructor
  · rintro ⟨⟨id, grant⟩, member, current⟩
    exact ⟨id, grant, Std.ExtTreeMap.mem_toList_iff_getElem?_eq_some.mp member, current⟩
  · rintro ⟨id, grant, found, current⟩
    exact ⟨(id, grant), Std.ExtTreeMap.mem_toList_iff_getElem?_eq_some.mpr found, current⟩

/-- What is checked before the lifecycle. -/
theorem checkCurrent_reads {snapshot : Snapshot} {incarnation nowMs : UInt64} {grant : Grant} {answer : Result Unit}
    (checked : checkCurrent snapshot incarnation nowMs grant = answer)
    (reads : answer = .ok () ∨ answer = .error lifecycleRefusal) :
    grant.incarnation = incarnation ∧ nowMs < grant.expiresAtMs ∧ grant.epoch = snapshot.epoch ∧
      grant.generation ≤ snapshot.generation := by
  have other : ∀ {refusal : Status}, refusal.code ≠ .lifecycleRefused → answer = .error refusal → False := by
    rintro refusal different rfl
    rcases reads with passed | refused
    · cases passed
    · exact different (congrArg Status.code (Except.error.inj refused))
  unfold checkCurrent refuse at checked
  split at checked
  · exact (other (by simp) checked.symm).elim
  rename_i process
  split at checked
  · exact (other (by simp) checked.symm).elim
  rename_i pending
  split at checked
  · exact (other (by simp) checked.symm).elim
  rename_i epoch
  split at checked
  · exact (other (by simp) checked.symm).elim
  rename_i known
  exact ⟨not_not.mp process, UInt64.not_le.mp pending, not_not.mp epoch, UInt64.not_lt.mp known⟩

/-- A check that passes, or that blames the lifecycle, has come as far as the lifecycle. -/
theorem checkLease_reads {registry : GrantRegistry} {snapshot : Snapshot} {token : LeaseToken} {nowMs : UInt64}
    (reads : (∃ grant, registry.checkLease snapshot token nowMs = .ok grant) ∨
      registry.checkLease snapshot token nowMs = .error lifecycleRefusal) : registry.readsLifecycle snapshot = true := by
  have current : ∀ (grant : Grant), registry.grants[token.grant]? = some grant → checkState grant = .ok () →
      (checkCurrent snapshot registry.incarnation nowMs grant = .ok () ∨
        checkCurrent snapshot registry.incarnation nowMs grant = .error lifecycleRefusal) →
      registry.readsLifecycle snapshot = true := by
    intro grant found state checked
    obtain ⟨process, pending, epoch, known⟩ := checkCurrent_reads rfl checked
    have due : grant.expiresAtMs ≠ 0 := by
      intro never
      rw [never] at pending
      exact absurd pending UInt64.not_lt_zero
    refine readsLifecycle_iff.mpr ⟨token.grant, grant, found, ?_⟩
    simp only [isCurrent, state, Result.isOk, process, beq_self_eq_true, bne_iff_ne.mpr due, epoch, known,
      decide_true, Bool.and_true]
  rcases reads with ⟨grant, passed⟩ | blamed
  · obtain ⟨found, -, state, checked⟩ := checkLease_ok passed
    exact current grant found state (.inl checked)
  · unfold checkLease at blamed
    split at blamed
    · simp [refuse, lifecycleRefusal] at blamed
    · split at blamed
      · simp [refuse, lifecycleRefusal] at blamed
      · rename_i grant found
        cases token_ : checkToken grant token with
        | error refused =>
          simp only [token_, bind, Except.bind, Except.error.injEq] at blamed
          have code := checkToken_error token_
          rw [blamed] at code
          cases code
        | ok _ =>
          cases state : checkState grant with
          | error refused =>
            simp only [token_, state, bind, Except.bind, Except.error.injEq] at blamed
            exact absurd blamed (checkState_error state).2
          | ok _ =>
            cases checked : checkCurrent snapshot registry.incarnation nowMs grant with
            | error refused =>
              simp only [token_, state, checked, bind, Except.bind, Except.error.injEq] at blamed
              exact current grant found state (.inr (by rw [checked, blamed]))
            | ok _ => simp [token_, state, checked, bind, Except.bind] at blamed

/-- A refused renewal changes nothing. -/
theorem renew_error {registry next : GrantRegistry} {snapshot : Snapshot} {token : LeaseToken}
    {ttlMs nowMs : UInt64} {status : Status}
    (refused : registry.renew snapshot token ttlMs nowMs = (next, .error status)) :
    next = registry ∧ status.code ≠ .ok ∧
      (status = lifecycleRefusal → registry.checkLease snapshot token nowMs = .error lifecycleRefusal) := by
  unfold renew at refused
  split at refused
  · cases refused
    exact ⟨rfl, by simp, by simp [lifecycleRefusal]⟩
  · split at refused
    · rename_i failed
      cases refused
      exact ⟨rfl, (checkLease_error failed).1, fun blamed => by rw [failed, blamed]⟩
    · split at refused
      · cases refused
        exact ⟨rfl, by simp, by simp [lifecycleRefusal]⟩
      · split at refused
        · cases refused
          exact ⟨rfl, by simp, by simp [lifecycleRefusal]⟩
        · cases refused

/-- A renewal moves the deadline of a lease that passes its check. -/
theorem renew_ok {registry next : GrantRegistry} {snapshot : Snapshot} {token : LeaseToken}
    {ttlMs nowMs : UInt64} {renewed : Grant}
    (done : registry.renew snapshot token ttlMs nowMs = (next, .ok renewed)) :
    ∃ grant deadline, registry.checkLease snapshot token nowMs = .ok grant ∧
      checkedAddU64 nowMs ttlMs = some deadline ∧ renewed = { grant with expiresAtMs := deadline } ∧
      next = { registry with grants := registry.grants.insert token.grant renewed } := by
  unfold renew at done
  split at done
  · cases done
  · split at done
    · cases done
    · rename_i grant checked
      split at done
      · cases done
      · rename_i held found
        split at done
        · cases done
        · rename_i deadline added
          have same := (checkLease_ok checked).1
          rw [found] at same
          cases same
          cases done
          exact ⟨grant, deadline, checked, added, rfl, rfl⟩

end GrantRegistry

end RackFabric
