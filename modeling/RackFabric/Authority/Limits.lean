import RackFabric.Authority.PairwiseScan

/-!
The bounds of the registry. Two entrances are open: an acquire turned down by the lifecycle is remembered before the
bound on remembered requests is looked at, and a recovered grant is indexed without a look at the index bound.
-/

namespace RackFabric

open Foundation

namespace GrantRegistry

/-- Every table is within its bound. -/
structure Bounded (registry : GrantRegistry) : Prop where
  remembered : registry.outcomes.size ≤ registry.limits.maxRememberedRequests
  live : registry.live ≤ registry.limits.maxLiveGrants
  entries : registry.occupancyEntries ≤ registry.limits.maxOccupancyEntries

/-- Nothing is remembered or indexed that was not before, under the same limits. -/
structure Slims (before after : GrantRegistry) : Prop where
  limits : after.limits = before.limits
  outcomes : after.outcomes = before.outcomes
  live : after.live ≤ before.live
  entries : after.occupancyEntries ≤ before.occupancyEntries

theorem Slims.refl (registry : GrantRegistry) : Slims registry registry :=
  ⟨rfl, rfl, Nat.le_refl _, Nat.le_refl _⟩

theorem Slims.trans {first second third : GrantRegistry} (earlier : Slims first second) (later : Slims second third) :
    Slims first third :=
  ⟨later.limits.trans earlier.limits, later.outcomes.trans earlier.outcomes, Nat.le_trans later.live earlier.live,
    Nat.le_trans later.entries earlier.entries⟩

theorem Bounded.slims {before after : GrantRegistry} (bounded : before.Bounded) (slims : Slims before after) :
    after.Bounded := by
  constructor
  · rw [slims.outcomes, slims.limits]
    exact bounded.remembered
  · rw [slims.limits]
    exact Nat.le_trans slims.live bounded.live
  · rw [slims.limits]
    exact Nat.le_trans slims.entries bounded.entries

theorem foldl_slims {α : Type} {move : GrantRegistry → α → GrantRegistry}
    (slims : ∀ registry value, Slims registry (move registry value)) (values : List α) (registry : GrantRegistry) :
    Slims registry (values.foldl move registry) := by
  induction values generalizing registry with
  | nil => exact .refl registry
  | cons value rest ih => exact (slims registry value).trans (ih (move registry value))

theorem vacate_slims (id : UInt64) (registry : GrantRegistry) (ref : ResourceRef) :
    Slims registry (vacate id registry ref) := by
  unfold vacate
  split
  · exact .refl registry
  · exact ⟨rfl, rfl, Nat.le_refl _, Nat.sub_le _ _⟩

theorem uncommit_slims (grant : Grant) (registry : GrantRegistry) (ref : ResourceRef) :
    Slims registry (uncommit grant registry ref) := by
  unfold uncommit
  split
  · exact .refl registry
  · split
    · exact ⟨rfl, rfl, Nat.le_refl _, Nat.le_refl _⟩
    · split <;> exact ⟨rfl, rfl, Nat.le_refl _, Nat.le_refl _⟩

theorem detach_slims (registry : GrantRegistry) (grant : Grant) : Slims registry (registry.detach grant) := by
  unfold detach
  extract_lets vacated uncommitted
  have index : Slims registry vacated := by
    unfold vacated
    split
    · exact .refl registry
    · rename_i scope _
      exact (foldl_slims (vacate_slims grant.id) scope registry).trans ⟨rfl, rfl, Nat.le_refl _, Nat.le_refl _⟩
  have commit : Slims vacated uncommitted := foldl_slims (uncommit_slims grant) grant.capacityPool vacated
  exact (index.trans commit).trans ⟨rfl, rfl, Nat.le_refl _, Nat.le_refl _⟩

theorem endGrant_slims (registry : GrantRegistry) (grant : Grant) (state : GrantState) (reason : Text) :
    Slims registry (registry.endGrant grant state reason) :=
  (detach_slims registry grant).trans ⟨rfl, rfl, Nat.sub_le _ _, Nat.le_refl _⟩

theorem sweep_slims {visit : GrantRegistry → Grant → GrantRegistry}
    (slims : ∀ registry grant, Slims registry (visit registry grant)) (registry : GrantRegistry) :
    Slims registry (registry.sweep visit) := by
  refine foldl_slims ?_ _ registry
  intro state id
  unfold visitAt
  split
  · exact .refl state
  · exact slims state _

theorem prune_slims (registry : GrantRegistry) : Slims registry ((registry.prune.map Prod.fst).getD registry) := by
  have steps : ∀ (ids : List UInt64) (state pruned : GrantRegistry),
      ids.foldlM (fun (pruned : GrantRegistry) id => (pruned.grants[id]?).map fun grant => pruned.detach grant) state =
        some pruned → Slims state pruned := by
    intro ids
    induction ids with
    | nil =>
      intro state pruned folded
      cases folded
      exact .refl state
    | cons id rest ih =>
      intro state pruned folded
      rw [List.foldlM_cons] at folded
      cases found : state.grants[id]? with
      | none =>
        rw [found] at folded
        cases folded
      | some grant =>
        rw [found] at folded
        exact (detach_slims state grant).trans (ih _ _ folded)
  unfold prune
  cases folded : registry.staleFootprints.foldlM
    (fun (pruned : GrantRegistry) id => (pruned.grants[id]?).map fun grant => pruned.detach grant) registry with
  | none => exact .refl registry
  | some pruned => exact steps _ _ _ folded

/-- The calls that neither remember nor index anything. -/
theorem perform_slims (registry : GrantRegistry) {call : RegistryCall}
    (acquires : ∀ snapshot request incarnation nowMs allowNew,
      call ≠ .acquire snapshot request incarnation nowMs allowNew)
    (installs : ∀ snapshot grant, call ≠ .installRecovered snapshot grant)
    (recalls : ∀ request outcome, call ≠ .installOutcome request outcome) : Slims registry (registry.perform call) := by
  have level : ∀ {before after : GrantRegistry}, after.limits = before.limits → after.outcomes = before.outcomes →
      after.live = before.live → after.occupancyEntries = before.occupancyEntries → Slims before after :=
    fun limits outcomes live entries => ⟨limits, outcomes, Nat.le_of_eq live, Nat.le_of_eq entries⟩
  cases call with
  | acquire snapshot request incarnation nowMs allowNew => exact absurd rfl (acquires _ _ _ _ _)
  | installRecovered snapshot grant => exact absurd rfl (installs _ _)
  | installOutcome request outcome => exact absurd rfl (recalls _ _)
  | renew snapshot token ttlMs nowMs =>
    rw [perform]
    cases renewing : registry.renew snapshot token ttlMs nowMs with
    | mk next result =>
      cases result with
      | error status =>
        rw [(renew_error renewing).1]
        exact .refl registry
      | ok renewed =>
        obtain ⟨grant, deadline, -, -, -, rfl⟩ := renew_ok renewing
        exact level rfl rfl rfl rfl
  | release token =>
    rw [perform]
    rcases release_cases registry token with same | ⟨grant, -, -, released⟩
    · rw [same]
      exact .refl registry
    · rw [released]
      exact endGrant_slims registry grant _ _
  | fenceAll reason =>
    refine sweep_slims ?_ registry
    intro state grant
    split
    · exact endGrant_slims state grant _ _
    · exact .refl state
  | fenceDevice snapshot device reason =>
    refine sweep_slims ?_ registry
    intro state grant
    split
    · exact endGrant_slims state grant _ _
    · exact .refl state
  | expireDue nowMs =>
    refine sweep_slims ?_ registry
    intro state grant
    split
    · exact endGrant_slims state grant _ _
    · exact .refl state
  | suspendAll reason =>
    refine sweep_slims ?_ registry
    intro state grant
    split
    · exact level rfl rfl rfl rfl
    · exact .refl state
  | resumeAll snapshot nowMs =>
    refine sweep_slims ?_ registry
    intro state grant
    split
    · split
      · exact level rfl rfl rfl rfl
      · exact endGrant_slims state grant _ _
    · exact .refl state
  | applyState id state reason =>
    simp only [perform, applyState]
    split
    · exact .refl registry
    · rename_i grant _
      split
      · split
        · exact endGrant_slims registry grant _ _
        · exact level rfl rfl rfl rfl
      · exact .refl registry
  | revalidate snapshot incarnation nowMs =>
    have entered : Slims registry { registry with incarnation := incarnation } := level rfl rfl rfl rfl
    refine entered.trans (sweep_slims ?_ _)
    intro state grant
    split
    · split
      · exact level rfl rfl rfl rfl
      · exact endGrant_slims state grant _ _
    · exact .refl state
  | setIncarnation incarnation => exact level rfl rfl rfl rfl
  | prune => exact prune_slims registry

theorem Bounded.remember {registry : GrantRegistry} (bounded : registry.Bounded)
    (room : registry.outcomes.size < registry.limits.maxRememberedRequests) (request : GrantRequest)
    (outcome : RequestOutcome) : (registry.remember request outcome).Bounded := by
  refine ⟨?_, bounded.live, bounded.entries⟩
  refine Nat.le_trans Std.ExtTreeMap.size_insert_le ?_
  exact room

/-- An open acquire that remembers its refusal has looked at the bound. -/
theorem admission_remembered {registry : GrantRegistry} {snapshot : Snapshot} {request : GrantRequest}
    {refusal : Refusal} (failed : registry.admission snapshot request true = .error refusal)
    (remembered : refusal.remembered = true) : registry.outcomes.size < registry.limits.maxRememberedRequests := by
  unfold admission turnDown at failed
  dsimp only at failed
  split at failed
  · cases failed
    cases remembered
  split at failed
  · cases failed
    cases remembered
  split at failed
  · cases failed
    cases remembered
  split at failed
  · rename_i closed
    cases closed
  split at failed
  · cases failed
    cases remembered
  split at failed
  · cases failed
    cases remembered
  rename_i room
  simpa using room

/-- What is remembered of a request that the lifecycle turns down. -/
def closedOutcome : RequestOutcome where
  code := .lifecycleRefused
  detail := text "the rack lifecycle does not accept new authority"

theorem acquire_closed_remembers {registry : GrantRegistry} {snapshot : Snapshot} {request : GrantRequest}
    (presentable : registry.Presentable snapshot request) (incarnation nowMs : UInt64) :
    (registry.acquire snapshot request incarnation nowMs false).1 = registry.remember request closedOutcome := by
  obtain ⟨principal, named, lifetime⟩ := presentable.form
  have refused : registry.admission snapshot request false = turnDown .lifecycleRefused
      (text "the rack lifecycle does not accept new authority") true := by
    unfold admission
    simp only [principal, named, lifetime, Bool.false_eq_true, if_false, Bool.not_false, if_true]
  simp only [acquire, presentable.valid, presentable.identified, presentable.unused, refused, turnDown, Bool.not_true,
    Bool.false_eq_true, if_false, turnedDown, if_true, closedOutcome]

theorem acquire_closed_unchanged {registry : GrantRegistry} {snapshot : Snapshot} {request : GrantRequest}
    (unpresentable : ¬ registry.Presentable snapshot request) (incarnation nowMs : UInt64) :
    (registry.acquire snapshot request incarnation nowMs false).1 = registry := by
  unfold acquire
  split
  · rfl
  rename_i valid
  split
  · rfl
  rename_i identified
  split
  · rfl
  rename_i unused
  have refused : ∃ refusal, registry.admission snapshot request false = .error refusal ∧ refusal.remembered = false := by
    unfold admission turnDown
    dsimp only
    split
    · exact ⟨_, rfl, rfl⟩
    rename_i principal
    split
    · exact ⟨_, rfl, rfl⟩
    rename_i named
    split
    · exact ⟨_, rfl, rfl⟩
    rename_i lifetime
    have inRange : registry.limits.minTtlMs ≤ request.ttlMs ∧ request.ttlMs ≤ registry.limits.maxTtlMs := by
      simpa using lifetime
    refine absurd ?_ unpresentable
    exact ⟨by simpa using valid, by simpa using identified, unused, by simpa using principal, by simpa using named,
      inRange.1, inRange.2⟩
  obtain ⟨refusal, failed, forgotten⟩ := refused
  rw [failed]
  simp only [turnedDown, forgotten, Bool.false_eq_true, if_false]

theorem attach_occupancyEntries (registry : GrantRegistry) (snapshot : Snapshot) (grant : Grant) :
    (registry.attach snapshot grant).occupancyEntries =
      registry.occupancyEntries + (scopeUnder snapshot grant.scope).length := by
  rw [attach_eq, scopeUnder]
  cases expandScope snapshot grant.scope <;> rfl

/-- A grant taken up where there is room for one more and for its footprint. -/
theorem Bounded.attach {registry : GrantRegistry} (bounded : registry.Bounded) {snapshot : Snapshot} {grant : Grant}
    (room : registry.live < registry.limits.maxLiveGrants)
    (indexable : registry.occupancyEntries + (scopeUnder snapshot grant.scope).length ≤
      registry.limits.maxOccupancyEntries) (grants : Std.ExtTreeMap UInt64 Grant) (recovering : Nat) :
    ({ registry.attach snapshot grant with
      grants := grants
      live := (registry.attach snapshot grant).live + 1
      recovering := recovering } : GrantRegistry).Bounded := by
  have books := attach_sameBooks registry snapshot grant
  refine ⟨?_, ?_, ?_⟩
  · dsimp only
    rw [books.outcomes, books.limits]
    exact bounded.remembered
  · dsimp only
    rw [books.live, books.limits]
    exact room
  · dsimp only
    rw [attach_occupancyEntries, books.limits]
    exact indexable

/-- An open acquire looks at every bound before it takes anything up. -/
theorem Bounded.acquire {registry : GrantRegistry} (bounded : registry.Bounded) (snapshot : Snapshot)
    (request : GrantRequest) (incarnation nowMs : UInt64) :
    (registry.acquire snapshot request incarnation nowMs true).1.Bounded := by
  cases acquired : registry.acquire snapshot request incarnation nowMs true with
  | mk next result =>
    dsimp only
    cases acquire_decides acquired with
    | refused => exact bounded
    | replayed => exact bounded
    | turnedDown refusal identified unused failed =>
      unfold turnedDown
      split
      · rename_i remembered
        exact bounded.remember (admission_remembered failed remembered) request _
      · exact bounded
    | burned => exact ⟨bounded.remembered, bounded.live, bounded.entries⟩
    | issued deadline expanded pool identified unused checked =>
      have admitted := admission_ok checked
      have fenced : registry.takeFence.Bounded := ⟨bounded.remembered, bounded.live, bounded.entries⟩
      have expands : scopeUnder snapshot request.scope = expanded := by
        rw [scopeUnder, admitted.expands]
      refine Bounded.remember (fenced.attach admitted.room ?_ _ _) ?_ request _
      · exact Nat.le_trans (Nat.le_of_eq (congrArg (fun scope => registry.occupancyEntries + scope.length) expands))
          admitted.indexable
      · have books := attach_sameBooks registry.takeFence snapshot (issuedGrant snapshot request incarnation nowMs
          deadline registry.takeFence.nextFence expanded pool)
        dsimp only
        rw [books.outcomes, books.limits]
        exact admitted.memory

/-- A recovered grant that is taken up as a live one. -/
structure TakesBack (registry : GrantRegistry) (snapshot : Snapshot) (grant : Grant) : Prop where
  valid : snapshot.valid = true
  identified : grant.id ≠ 0
  unknown : grant.id ∉ registry.grants
  room : registry.live < registry.limits.maxLiveGrants
  pooled : ∃ pool, recoveredPool snapshot grant = .ok pool

/-- A call that fits in where the registry does not look: a request that the lifecycle turns down, among the
remembered ones, and the footprint of a grant that is taken back, in the index. -/
def FitsUnchecked (before : GrantRegistry) : RegistryCall → GrantRegistry → Prop
  | .acquire snapshot request _ _ false, _ =>
    before.Presentable snapshot request → before.outcomes.size < before.limits.maxRememberedRequests
  | .installRecovered snapshot grant, _ =>
    before.TakesBack snapshot grant →
      before.occupancyEntries + (scopeUnder snapshot grant.scope).length ≤ before.limits.maxOccupancyEntries
  | _, _ => True

theorem installRecovered_bounded_iff {registry : GrantRegistry} (bounded : registry.Bounded) (snapshot : Snapshot)
    (grant : Grant) :
    (registry.installRecovered snapshot grant).1.Bounded ↔
      (registry.TakesBack snapshot grant →
        registry.occupancyEntries + (scopeUnder snapshot grant.scope).length ≤
          registry.limits.maxOccupancyEntries) := by
  have raised : (registry.raiseFence grant.fence).Bounded := ⟨bounded.remembered, bounded.live, bounded.entries⟩
  unfold installRecovered
  split
  · rename_i invalid
    refine ⟨fun _ takes => ?_, fun _ => bounded⟩
    simp [takes.valid] at invalid
  rename_i valid
  split
  · rename_i unidentified
    refine ⟨fun _ takes => ?_, fun _ => bounded⟩
    exact absurd (beq_iff_eq.mp unidentified) takes.identified
  rename_i identified
  split
  · rename_i known
    refine ⟨fun _ takes => ?_, fun _ => bounded⟩
    exact absurd (Std.ExtTreeMap.contains_iff_mem.mp known) takes.unknown
  rename_i unknown
  split
  · rename_i full
    refine ⟨fun _ takes => ?_, fun _ => bounded⟩
    exact absurd takes.room (Nat.not_lt.mpr full)
  rename_i room
  split
  · rename_i failed
    refine ⟨fun _ takes => ?_, fun _ => ⟨raised.remembered, raised.live, raised.entries⟩⟩
    obtain ⟨pool, pooled⟩ := takes.pooled
    rw [failed] at pooled
    cases pooled
  · rename_i pool pooled
    constructor
    · intro after _
      have entries := after.entries
      have books := attach_sameBooks (registry.raiseFence grant.fence) snapshot (recoveredGrant grant pool)
      unfold reinstate at entries
      dsimp only at entries
      rw [attach_occupancyEntries, books.limits] at entries
      exact entries
    · intro fits
      have takes : registry.TakesBack snapshot grant :=
        ⟨by simpa using valid, by simpa using identified, by simpa using unknown, by simpa using room, pool, pooled⟩
      exact @Bounded.attach _ raised snapshot (recoveredGrant grant pool) takes.room (fits takes) _ _

/-- A call on a registry within its bounds keeps it there exactly when it fits in where the registry does not look. -/
theorem Bounded.perform_iff {registry : GrantRegistry} (bounded : registry.Bounded) (call : RegistryCall) :
    (registry.perform call).Bounded ↔ FitsUnchecked registry call (registry.perform call) := by
  cases call with
  | acquire snapshot request incarnation nowMs allowNew =>
    cases allowNew with
    | true => exact ⟨fun _ => trivial, fun _ => bounded.acquire snapshot request incarnation nowMs⟩
    | false =>
      rw [perform, FitsUnchecked]
      by_cases presentable : registry.Presentable snapshot request
      · rw [acquire_closed_remembers presentable]
        constructor
        · intro after _
          have size : (registry.outcomes.insert request.request
              { closedOutcome with requestDigest := requestDigestOf request }).size ≤
                registry.limits.maxRememberedRequests := after.remembered
          have absent : request.request ∉ registry.outcomes := by
            intro member
            rw [Std.ExtTreeMap.mem_iff_isSome_getElem?, presentable.unused] at member
            cases member
          have grown : registry.outcomes.size + 1 ≤ registry.limits.maxRememberedRequests := by
            simpa [Std.ExtTreeMap.size_insert, absent] using size
          exact grown
        · intro room
          exact bounded.remember (room presentable) request _
      · rw [acquire_closed_unchanged presentable]
        exact ⟨fun _ fits => absurd fits presentable, fun _ => bounded⟩
  | installRecovered snapshot grant => exact installRecovered_bounded_iff bounded snapshot grant
  | installOutcome request outcome =>
    refine ⟨fun _ => trivial, fun _ => ?_⟩
    simp only [perform, installOutcome]
    split
    · exact bounded
    split
    · exact bounded
    rename_i room
    refine ⟨?_, bounded.live, bounded.entries⟩
    dsimp only
    rw [Std.ExtTreeMap.size_insert]
    split
    · exact bounded.remembered
    · rename_i absent
      simp only [ge_iff_le, Bool.and_eq_true, decide_eq_true_eq, Bool.not_eq_true', not_and] at room
      by_contra exceeds
      have contained := room (by omega)
      simp [absent] at contained
  | renew | release | fenceAll | fenceDevice | expireDue | suspendAll | resumeAll | applyState | revalidate
  | setIncarnation | prune =>
    exact ⟨fun _ => trivial, fun _ => bounded.slims (perform_slims registry (by simp) (by simp) (by simp))⟩

/-- The bounds hold in every state of a run exactly when every call fits in where the registry does not look. -/
theorem bounds_hold_iff (limits : AuthorityLimits) (incarnation : UInt64) (calls : List RegistryCall) :
    (∀ earlier later, calls = earlier ++ later → (afterCalls limits incarnation earlier).Bounded) ↔
      Along perform FitsUnchecked { limits := limits, incarnation := incarnation } calls := by
  have empty : ({ limits := limits, incarnation := incarnation } : GrantRegistry).Bounded :=
    ⟨by simp, by simp, by simp⟩
  exact along_iff empty (fun _ call bounded => bounded.perform_iff call)

/-- The record of a lease of the switch. -/
def switchGrant : Grant :=
  issuedGrant afterAttachment (soleLease 1 ⟨.device, 3⟩) 1 0 50 1 (scopeUnder afterAttachment ⟨.device, 3⟩)
    [⟨.rack, 7⟩, ⟨.device, 3⟩]

/-- Two requests to a rack that takes on no authority, and a switch lease taken back after a restart. -/
theorem bounds_broken :
    ¬ (afterCalls { maxRememberedRequests := 1 } 1
        [.acquire afterAttachment (soleLease 1 ⟨.device, 3⟩) 1 0 false,
          .acquire afterAttachment (soleLease 2 ⟨.device, 3⟩) 1 1 false]).Bounded ∧
      ¬ (afterCalls { maxOccupancyEntries := 2 } 1
        [.installRecovered afterAttachment switchGrant]).Bounded := by
  have remembered : (afterCalls { maxRememberedRequests := 1 } 1
      [.acquire afterAttachment (soleLease 1 ⟨.device, 3⟩) 1 0 false,
        .acquire afterAttachment (soleLease 2 ⟨.device, 3⟩) 1 1 false]).outcomes.size = 2 := by rfl
  have entries : (afterCalls { maxOccupancyEntries := 2 } 1
      [.installRecovered afterAttachment switchGrant]).occupancyEntries = 5 := by
    rfl
  constructor
  · intro bounded
    have size := bounded.remembered
    rw [remembered] at size
    exact absurd size (by decide +kernel)
  · intro bounded
    have size := bounded.entries
    rw [entries] at size
    exact absurd size (by decide +kernel)

end GrantRegistry

end RackFabric
