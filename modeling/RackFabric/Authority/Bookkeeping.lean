import RackFabric.Authority.Trims
import RackFabric.Foundation.Machine

/-!
The registry under any sequence of calls: its books stay balanced as long as no counter runs over.
-/

namespace RackFabric

open Foundation

/-- A call on the registry. -/
inductive RegistryCall where
  | acquire (snapshot : Snapshot) (request : GrantRequest) (incarnation nowMs : UInt64) (allowNew : Bool)
  | renew (snapshot : Snapshot) (token : LeaseToken) (ttlMs nowMs : UInt64)
  | release (token : LeaseToken)
  | fenceAll (reason : Text)
  | fenceDevice (snapshot : Snapshot) (device : UInt64) (reason : Text)
  | expireDue (nowMs : UInt64)
  | suspendAll (reason : Text)
  | resumeAll (snapshot : Snapshot) (nowMs : UInt64)
  | installRecovered (snapshot : Snapshot) (grant : Grant)
  | installOutcome (request : RequestId) (outcome : RequestOutcome)
  | applyState (id : UInt64) (state : GrantState) (reason : Text)
  | revalidate (snapshot : Snapshot) (incarnation nowMs : UInt64)
  | setIncarnation (incarnation : UInt64)
  | prune

namespace GrantRegistry

/-- What a call leaves. A footprint never names an unknown grant, on which `prune` would throw. -/
def perform (registry : GrantRegistry) : RegistryCall → GrantRegistry
  | .acquire snapshot request incarnation nowMs allowNew =>
    (registry.acquire snapshot request incarnation nowMs allowNew).1
  | .renew snapshot token ttlMs nowMs => (registry.renew snapshot token ttlMs nowMs).1
  | .release token => (registry.release token).1
  | .fenceAll reason => registry.fenceAll reason
  | .fenceDevice snapshot device reason => registry.fenceDevice snapshot device reason
  | .expireDue nowMs => (registry.expireDue nowMs).1
  | .suspendAll reason => registry.suspendAll reason
  | .resumeAll snapshot nowMs => registry.resumeAll snapshot nowMs
  | .installRecovered snapshot grant => (registry.installRecovered snapshot grant).1
  | .installOutcome request outcome => registry.installOutcome request outcome
  | .applyState id state reason => (registry.applyState id state reason).1
  | .revalidate snapshot incarnation nowMs => registry.revalidate snapshot incarnation nowMs
  | .setIncarnation incarnation => registry.setIncarnation incarnation
  | .prune => (registry.prune.map Prod.fst).getD registry

/-- The registry after a sequence of calls on an empty one. -/
def afterCalls (limits : AuthorityLimits) (incarnation : UInt64) (calls : List RegistryCall) : GrantRegistry :=
  run perform { limits := limits, incarnation := incarnation } calls

/-- A recovering grant that revalidation would re-arm. -/
def rearms (snapshot : Snapshot) (nowMs : UInt64) (grant : Grant) : Bool :=
  grant.state == .recovering && (revalidationFailure snapshot nowMs grant).isNone

/-- How often a call counts the fence up. -/
def fencesTaken (registry : GrantRegistry) : RegistryCall → Nat
  | .acquire snapshot request incarnation nowMs allowNew =>
    if (registry.acquire snapshot request incarnation nowMs allowNew).1.nextFence = registry.nextFence then 0 else 1
  | .revalidate snapshot _ nowMs =>
    registry.grants.keys.countP fun id => (registry.grants[id]?).any (rearms snapshot nowMs)
  | _ => 0

/-- A call under which no counter runs over, and which installs no grant whose identity its fence has not reached. -/
structure Counts (before : GrantRegistry) (call : RegistryCall) (after : GrantRegistry) : Prop where
  fence : before.nextFence.toNat + before.fencesTaken call < 2 ^ 64
  identity : ∀ snapshot grant, call = .installRecovered snapshot grant → grant.id ≤ grant.fence
  sums : WithinRange after.grants

/-- A call that numbers every grant it brings as no grant was numbered before. -/
structure Numbers (before : GrantRegistry) (call : RegistryCall) (_after : GrantRegistry) : Prop where
  fence : before.nextFence.toNat + before.fencesTaken call < 2 ^ 64
  identity : ∀ snapshot grant, call = .installRecovered snapshot grant → grant.id ≤ grant.fence

theorem Counts.numbers {before after : GrantRegistry} {call : RegistryCall} (counts : Counts before call after) :
    Numbers before call after :=
  ⟨counts.fence, counts.identity⟩

/-- No grant is numbered above the fence counter. -/
def Numbered (registry : GrantRegistry) : Prop :=
  ∀ id ∈ registry.grants, id.toNat ≤ registry.nextFence.toNat

theorem Trim.mem_iff {before after : GrantRegistry} (trim : Trim before after) (id : UInt64) :
    id ∈ after.grants ↔ id ∈ before.grants := by
  have rewritten : ∀ {next : GrantRegistry} {grant moved : Grant}, Rewrites before next grant.id moved →
      before.grants[grant.id]? = some grant → (id ∈ next.grants ↔ id ∈ before.grants) := by
    intro next grant moved rewrites held
    rw [Std.ExtTreeMap.mem_iff_isSome_getElem?, Std.ExtTreeMap.mem_iff_isSome_getElem?, rewrites id]
    split
    · rename_i same
      rw [same, held]
      rfl
    · rfl
  cases trim with
  | aside same => rw [same.grants]
  | close grant state reason held live ends => exact rewritten (endGrant_rewrites before grant state reason) held
  | amend grant next held amends => exact rewritten (rewrites_of_insert rfl) held

theorem Trims.mem_iff {before after : GrantRegistry} (trims : Trims before after) (id : UInt64) :
    id ∈ after.grants ↔ id ∈ before.grants := by
  induction trims with
  | refl => rfl
  | tail _ trim ih => exact (trim.mem_iff id).trans ih

theorem sweep_nextFence {visit : GrantRegistry → Grant → GrantRegistry}
    (visits : ∀ registry grant, (visit registry grant).nextFence = registry.nextFence) (registry : GrantRegistry) :
    (registry.sweep visit).nextFence = registry.nextFence := by
  have steps : ∀ (ids : List UInt64) (registry : GrantRegistry),
      (ids.foldl (visitAt visit) registry).nextFence = registry.nextFence := by
    intro ids
    induction ids with
    | nil => exact fun _ => rfl
    | cons id rest ih =>
      intro registry
      rw [List.foldl_cons, ih]
      unfold visitAt
      split
      · rfl
      · exact visits registry _
  exact steps registry.grants.keys registry

theorem visitEnds_nextFence (selected : Grant → Bool) (state : GrantState) (reason : Text)
    (registry : GrantRegistry) (grant : Grant) :
    (if selected grant then registry.endGrant grant state reason else registry).nextFence = registry.nextFence := by
  split
  · exact (endGrant_around registry grant state reason).nextFence
  · rfl

/-- The calls that bring no new grant, with the fence they leave. -/
theorem perform_trims {registry : GrantRegistry} (indexed : registry.Indexed) {call : RegistryCall}
    (acquires : ∀ snapshot request incarnation nowMs allowNew,
      call ≠ .acquire snapshot request incarnation nowMs allowNew)
    (installs : ∀ snapshot grant, call ≠ .installRecovered snapshot grant) :
    Trims registry (registry.perform call) := by
  have keyed := indexed.keyed
  cases call with
  | acquire snapshot request incarnation nowMs allowNew => exact absurd rfl (acquires _ _ _ _ _)
  | installRecovered snapshot grant => exact absurd rfl (installs _ _)
  | renew snapshot token ttlMs nowMs => exact renew_trims keyed snapshot token ttlMs nowMs
  | release token => exact release_trims keyed token
  | fenceAll reason => exact fenceAll_trims keyed reason
  | fenceDevice snapshot device reason => exact fenceDevice_trims keyed snapshot device reason
  | expireDue nowMs => exact expireDue_trims keyed nowMs
  | suspendAll reason => exact suspendAll_trims keyed reason
  | resumeAll snapshot nowMs => exact resumeAll_trims keyed snapshot nowMs
  | applyState id state reason => exact applyState_trims keyed id state reason
  | revalidate snapshot incarnation nowMs => exact revalidate_trims keyed snapshot incarnation nowMs
  | setIncarnation incarnation => exact .single (.aside ⟨rfl, rfl, rfl, rfl, rfl, rfl, rfl, rfl⟩)
  | prune =>
    rw [perform, indexed.prune_eq]
    exact .refl
  | installOutcome request outcome =>
    refine .single (.aside ?_)
    simp only [perform, installOutcome]
    split
    · exact ⟨rfl, rfl, rfl, rfl, rfl, rfl, rfl, rfl⟩
    · split <;> exact ⟨rfl, rfl, rfl, rfl, rfl, rfl, rfl, rfl⟩

/-- What an acquire does to the books: nothing, or it enrolls a grant under the next fence. -/
inductive Enrolls (registry : GrantRegistry) (snapshot : Snapshot) (request : GrantRequest) (allowNew : Bool)
    (next : GrantRegistry) : Prop where
  | kept (same : Aside registry next)
      (fence : next.nextFence = registry.nextFence ∨ next.nextFence = registry.nextFence + 1)
  | enrolled (grant : Grant) (expanded pool : List ResourceRef)
      (admitted : Admitted registry snapshot request allowNew expanded pool)
      (id : grant.id = registry.nextFence + 1) (scope : grant.scope = request.scope)
      (mode : grant.mode = request.mode) (live : grant.isLive = true)
      (basis : grant.authorityBasis = authorityBasisDigest snapshot expanded)
      (same : Aside (registry.enroll snapshot grant) next) (fence : next.nextFence = registry.nextFence + 1)

theorem enlist_aside (registry : GrantRegistry) (snapshot : Snapshot) (request : GrantRequest) {grant : Grant}
    (active : grant.state = .active) :
    Aside (registry.enroll snapshot grant) (registry.takeFence.enlist snapshot request grant) := by
  have idle : grant.awaited = 0 := by simp [Grant.awaited, active]
  unfold enroll enlist remember
  rw [attach_eq, attach_eq, idle]
  exact ⟨rfl, rfl, rfl, rfl, rfl, rfl, rfl, rfl⟩

theorem acquire_enrolls (registry : GrantRegistry) (snapshot : Snapshot) (request : GrantRequest)
    (incarnation nowMs : UInt64) (allowNew : Bool) :
    Enrolls registry snapshot request allowNew
      (registry.acquire snapshot request incarnation nowMs allowNew).1 := by
  have unchanged : Aside registry registry := ⟨rfl, rfl, rfl, rfl, rfl, rfl, rfl, rfl⟩
  cases acquired : registry.acquire snapshot request incarnation nowMs allowNew with
  | mk next result =>
    cases acquire_decides acquired with
    | refused => exact .kept unchanged (.inl rfl)
    | replayed => exact .kept unchanged (.inl rfl)
    | turnedDown refusal =>
      unfold turnedDown
      split
      · exact .kept ⟨rfl, rfl, rfl, rfl, rfl, rfl, rfl, rfl⟩ (.inl rfl)
      · exact .kept unchanged (.inl rfl)
    | burned => exact .kept ⟨rfl, rfl, rfl, rfl, rfl, rfl, rfl, rfl⟩ (.inr rfl)
    | issued deadline expanded pool identified fresh checked =>
      have fence := (attach_sameBooks registry.takeFence snapshot (issuedGrant snapshot request incarnation nowMs
        deadline registry.takeFence.nextFence expanded pool)).nextFence
      exact .enrolled _ expanded pool (admission_ok checked) rfl rfl rfl rfl rfl
        (enlist_aside registry snapshot request rfl) fence

/-- What installing a recovered grant does to the books. -/
inductive Installs (registry : GrantRegistry) (snapshot : Snapshot) (grant : Grant) (next : GrantRegistry) : Prop where
  | refused (same : next = registry)
  | lost (dead : Grant) (fresh : dead.id ∉ registry.grants) (id : dead.id = grant.id) (ended : dead.isLive = false)
      (same : Aside { registry with grants := registry.grants.insert dead.id dead } next)
      (fence : next.nextFence = max registry.nextFence grant.fence)
  | enrolled (kept : Grant) (fresh : kept.id ∉ registry.grants) (id : kept.id = grant.id) (live : kept.isLive = true)
      (same : Aside (registry.enroll snapshot kept) next)
      (fence : next.nextFence = max registry.nextFence grant.fence) (recovering : kept.state = .recovering)

theorem reinstate_aside (registry : GrantRegistry) (fence : UInt64) (snapshot : Snapshot) {grant : Grant}
    (recovering : grant.state = .recovering) :
    Aside (registry.enroll snapshot grant) ((registry.raiseFence fence).reinstate snapshot grant) := by
  have awaited : grant.awaited = 1 := by simp [Grant.awaited, recovering]
  unfold enroll reinstate
  rw [attach_eq, attach_eq, awaited]
  exact ⟨rfl, rfl, rfl, rfl, rfl, rfl, rfl, rfl⟩

theorem installRecovered_installs (registry : GrantRegistry) (snapshot : Snapshot) (grant : Grant) :
    Installs registry snapshot grant (registry.installRecovered snapshot grant).1 := by
  unfold installRecovered
  split
  · exact .refused rfl
  · split
    · exact .refused rfl
    · split
      · exact .refused rfl
      · rename_i known
        have fresh : grant.id ∉ registry.grants := by simpa using known
        split
        · exact .refused rfl
        · split
          · exact .lost (lostGrant grant) fresh rfl rfl ⟨rfl, rfl, rfl, rfl, rfl, rfl, rfl, rfl⟩ rfl
          · rename_i pool _
            have fence := (attach_sameBooks (registry.raiseFence grant.fence) snapshot
              (recoveredGrant grant pool)).nextFence
            exact .enrolled (recoveredGrant grant pool) fresh rfl rfl
              (reinstate_aside registry grant.fence snapshot rfl) fence rfl

theorem succ_ne_self (fence : UInt64) : fence + 1 ≠ fence := by
  intro same
  have values := congrArg UInt64.toNat same
  rw [UInt64.toNat_add] at values
  have one : (1 : UInt64).toNat = 1 := rfl
  have bound := fence.toNat_lt
  omega

theorem toNat_succ {fence : UInt64} (room : fence.toNat + 1 < 2 ^ 64) : (fence + 1).toNat = fence.toNat + 1 := by
  rw [UInt64.toNat_add]
  have one : (1 : UInt64).toNat = 1 := rfl
  omega

theorem revalidateVisit_nextFence (registry : GrantRegistry) (grant : Grant) (snapshot : Snapshot)
    (incarnation nowMs : UInt64) :
    (revalidateVisit snapshot incarnation nowMs registry grant).nextFence =
      if rearms snapshot nowMs grant then registry.nextFence + 1 else registry.nextFence := by
  unfold revalidateVisit rearms
  by_cases recovering : grant.state = .recovering
  · rw [if_pos recovering]
    cases checked : revalidationFailure snapshot nowMs grant with
    | none =>
      rw [if_pos (by simp [recovering])]
      rfl
    | some failure =>
      rw [if_neg (by simp)]
      exact (endGrant_around registry grant .fenced failure).nextFence
  · rw [if_neg recovering, if_neg (by simp [recovering])]

/-- The fence after a revalidation that has room for every grant it re-arms. -/
theorem revalidate_nextFence {registry : GrantRegistry} (snapshot : Snapshot) (incarnation nowMs : UInt64)
    (keyed : registry.Keyed)
    (room : registry.nextFence.toNat + registry.fencesTaken (.revalidate snapshot incarnation nowMs) < 2 ^ 64) :
    registry.nextFence.toNat ≤ (registry.revalidate snapshot incarnation nowMs).nextFence.toNat := by
  have steps : ∀ (ids : List UInt64) (state : GrantRegistry), ids.Nodup → state.Keyed →
      (∀ id ∈ ids, state.grants[id]? = registry.grants[id]?) →
      state.nextFence.toNat + ids.countP (fun id => (registry.grants[id]?).any (rearms snapshot nowMs)) < 2 ^ 64 →
      state.nextFence.toNat ≤
        (ids.foldl (visitAt (revalidateVisit snapshot incarnation nowMs)) state).nextFence.toNat := by
    intro ids
    induction ids with
    | nil => exact fun _ _ _ _ _ => Nat.le_refl _
    | cons id rest ih =>
      intro state distinct keyed same room
      obtain ⟨fresh, later⟩ := List.nodup_cons.mp distinct
      have entry := same id (by simp)
      rw [List.countP_cons] at room
      rw [List.foldl_cons]
      cases found : state.grants[id]? with
      | none =>
        have idle : visitAt (revalidateVisit snapshot incarnation nowMs) state id = state := by
          simp only [visitAt, found]
        rw [idle]
        exact ih state later keyed (fun other member => same other (by simp [member])) (by omega)
      | some grant =>
        obtain rfl : grant.id = id := keyed _ _ found
        have visited : visitAt (revalidateVisit snapshot incarnation nowMs) state grant.id =
            revalidateVisit snapshot incarnation nowMs state grant := by
          simp only [visitAt, found]
        obtain ⟨next, rewrites, -, own⟩ := revalidateVisit_rewrites snapshot incarnation nowMs found
        have others : ∀ other ∈ rest, (revalidateVisit snapshot incarnation nowMs state grant).grants[other]? =
            registry.grants[other]? := by
          intro other member
          have different : other ≠ grant.id := fun equal => fresh (equal ▸ member)
          rw [rewrites other, if_neg different]
          exact same other (by simp [member])
        have fence := revalidateVisit_nextFence state grant snapshot incarnation nowMs
        rw [found] at entry
        rw [← entry, Option.any_some] at room
        rw [visited]
        have counted : (revalidateVisit snapshot incarnation nowMs state grant).nextFence.toNat =
            state.nextFence.toNat + if rearms snapshot nowMs grant then 1 else 0 := by
          rw [fence]
          split
          · rename_i rearmed
            rw [if_pos rearmed] at room
            exact toNat_succ (by omega)
          · rfl
        have final := ih _ later (rewrites.keyed own keyed) others (by omega)
        omega
  exact steps registry.grants.keys { registry with incarnation := incarnation } Std.ExtTreeMap.nodup_keys keyed
    (fun _ _ => rfl) room

theorem perform_nextFence {registry : GrantRegistry} (indexed : registry.Indexed) {call : RegistryCall}
    (room : registry.nextFence.toNat + registry.fencesTaken call < 2 ^ 64) :
    registry.nextFence.toNat ≤ (registry.perform call).nextFence.toNat := by
  have unchanged : ∀ {next : GrantRegistry}, next.nextFence = registry.nextFence →
      registry.nextFence.toNat ≤ next.nextFence.toNat := fun same => Nat.le_of_eq (congrArg UInt64.toNat same).symm
  have keyed := indexed.keyed
  cases call with
  | acquire snapshot request incarnation nowMs allowNew =>
    rw [fencesTaken] at room
    have next : (registry.acquire snapshot request incarnation nowMs allowNew).1.nextFence = registry.nextFence ∨
        (registry.acquire snapshot request incarnation nowMs allowNew).1.nextFence = registry.nextFence + 1 := by
      cases acquire_enrolls registry snapshot request incarnation nowMs allowNew with
      | kept same fence => exact fence
      | enrolled grant expanded pool admitted id scope mode live basis same fence => exact .inr fence
    rcases next with same | counted
    · exact unchanged same
    · rw [counted, if_neg (succ_ne_self registry.nextFence)] at room
      rw [perform, counted, toNat_succ room]
      omega
  | installRecovered snapshot grant =>
    cases installRecovered_installs registry snapshot grant with
    | refused same => exact unchanged (congrArg GrantRegistry.nextFence same)
    | lost dead fresh id ended same fence =>
      rw [perform, fence, toNat_max]
      exact Nat.le_max_left _ _
    | enrolled kept fresh id live same fence =>
      rw [perform, fence, toNat_max]
      exact Nat.le_max_left _ _
  | renew snapshot token ttlMs nowMs =>
    cases renewing : registry.renew snapshot token ttlMs nowMs with
    | mk next result =>
      apply unchanged
      rw [perform, renewing]
      cases result with
      | error status => rw [(renew_error renewing).1]
      | ok renewed =>
        obtain ⟨grant, deadline, -, -, -, rfl⟩ := renew_ok renewing
        rfl
  | release token =>
    apply unchanged
    rw [perform]
    rcases release_cases registry token with same | ⟨grant, -, -, released⟩
    · rw [same]
    · rw [released]
      exact (endGrant_around registry grant _ _).nextFence
  | fenceAll reason => exact unchanged (sweep_nextFence (visitEnds_nextFence Grant.isLive .fenced reason) registry)
  | fenceDevice snapshot device reason =>
    exact unchanged (sweep_nextFence (visitEnds_nextFence
      (fun grant => grant.isLive && touchesDevice snapshot device grant) .fenced reason) registry)
  | expireDue nowMs =>
    exact unchanged (sweep_nextFence (visitEnds_nextFence (isDue nowMs) .expired _) registry)
  | suspendAll reason => exact unchanged (suspendAll_swept keyed reason).around.nextFence
  | resumeAll snapshot nowMs => exact unchanged (resumeAll_swept keyed snapshot nowMs).around.nextFence
  | applyState id state reason =>
    apply unchanged
    simp only [perform, applyState]
    split
    · rfl
    · rename_i grant _
      split
      · split
        · exact (endGrant_around registry grant _ _).nextFence
        · rfl
      · rfl
  | revalidate snapshot incarnation nowMs => exact revalidate_nextFence snapshot incarnation nowMs keyed room
  | setIncarnation incarnation => exact unchanged rfl
  | prune =>
    apply unchanged
    rw [perform, indexed.prune_eq]
    rfl
  | installOutcome request outcome =>
    apply unchanged
    simp only [perform, installOutcome]
    split
    · rfl
    · split <;> rfl

theorem Aside.mem_iff {before after : GrantRegistry} (same : Aside before after) (id : UInt64) :
    id ∈ after.grants ↔ id ∈ before.grants := by
  rw [same.grants]

/-- An index in order, over grants numbered below the fence. -/
structure Tidy (registry : GrantRegistry) : Prop where
  indexed : registry.Indexed
  numbered : registry.Numbered

theorem mem_insert_grants {grants : Std.ExtTreeMap UInt64 Grant} {grant : Grant} {id : UInt64} :
    id ∈ grants.insert grant.id grant ↔ grant.id = id ∨ id ∈ grants := by
  rw [Std.ExtTreeMap.mem_insert, Std.LawfulEqCmp.compare_eq_iff_eq]

theorem Tidy.unused {registry : GrantRegistry} (tidy : registry.Tidy)
    (room : registry.nextFence.toNat + 1 < 2 ^ 64) : registry.nextFence + 1 ∉ registry.grants := by
  intro member
  have bound := tidy.numbered _ member
  rw [toNat_succ room] at bound
  omega

/-- A registry whose one new grant is numbered at or below its fence. -/
theorem Numbered.insert {registry next : GrantRegistry} (numbered : registry.Numbered) {grant : Grant}
    (grants : next.grants = registry.grants.insert grant.id grant)
    (raised : registry.nextFence.toNat ≤ next.nextFence.toNat) (own : grant.id.toNat ≤ next.nextFence.toNat) :
    next.Numbered := by
  intro id member
  rw [grants, mem_insert_grants] at member
  rcases member with rfl | member
  · exact own
  · exact Nat.le_trans (numbered id member) raised

/-- The next fence is taken by an acquire that issues, and then no grant has it. -/
theorem Tidy.fresh {registry : GrantRegistry} (tidy : registry.Tidy) {snapshot : Snapshot} {request : GrantRequest}
    {incarnation nowMs : UInt64} {allowNew : Bool}
    (numbers : Numbers registry (.acquire snapshot request incarnation nowMs allowNew)
      (registry.perform (.acquire snapshot request incarnation nowMs allowNew)))
    (taken : (registry.acquire snapshot request incarnation nowMs allowNew).1.nextFence = registry.nextFence + 1) :
    registry.nextFence + 1 ∉ registry.grants := by
  have room := numbers.fence
  rw [fencesTaken, taken, if_neg (succ_ne_self registry.nextFence)] at room
  exact tidy.unused room

theorem Tidy.perform {registry : GrantRegistry} (tidy : registry.Tidy) {call : RegistryCall}
    (numbers : Numbers registry call (registry.perform call)) : (registry.perform call).Tidy := by
  obtain ⟨indexed, numbered⟩ := tidy
  have fence := perform_nextFence indexed numbers.fence
  have keptBelow : ∀ {next : GrantRegistry}, registry.nextFence.toNat ≤ next.nextFence.toNat →
      (∀ id, id ∈ next.grants ↔ id ∈ registry.grants) → next.Numbered := by
    intro next raised members id member
    exact Nat.le_trans (numbered id ((members id).mp member)) raised
  have trimmed : Trims registry (registry.perform call) → (registry.perform call).Tidy :=
    fun trims => ⟨trims.indexed indexed, keptBelow fence trims.mem_iff⟩
  cases call with
  | acquire snapshot request incarnation nowMs allowNew =>
    have unused := Tidy.fresh ⟨indexed, numbered⟩ numbers
    rw [GrantRegistry.perform] at fence ⊢
    cases acquire_enrolls registry snapshot request incarnation nowMs allowNew with
    | kept same _ => exact ⟨indexed.aside same, keptBelow fence same.mem_iff⟩
    | enrolled grant expanded pool admitted id scope mode live basis same taken =>
      have fresh : grant.id ∉ registry.grants := by
        rw [id]
        exact unused taken
      refine ⟨(indexed.enroll snapshot (vacant_of_absent fresh) live).aside same, ?_⟩
      exact numbered.insert same.grants fence (Nat.le_of_eq (by rw [id, taken]))
  | installRecovered snapshot grant =>
    have reached := UInt64.le_iff_toNat_le.mp (numbers.identity snapshot grant rfl)
    rw [GrantRegistry.perform] at fence ⊢
    cases installRecovered_installs registry snapshot grant with
    | refused same =>
      rw [same]
      exact ⟨indexed, numbered⟩
    | lost dead fresh id ended same raised =>
      refine ⟨(indexed.record fresh).aside same, ?_⟩
      apply numbered.insert same.grants fence
      rw [id, raised, toNat_max]
      exact Nat.le_trans reached (Nat.le_max_right _ _)
    | enrolled kept fresh id live same raised =>
      refine ⟨(indexed.enroll snapshot (vacant_of_absent fresh) live).aside same, ?_⟩
      apply numbered.insert same.grants fence
      rw [id, raised, toNat_max]
      exact Nat.le_trans reached (Nat.le_max_right _ _)
  | renew | release | fenceAll | fenceDevice | expireDue | suspendAll | resumeAll | installOutcome | applyState
  | revalidate | setIncarnation | prune => exact trimmed (perform_trims indexed (by simp) (by simp))

/-- Balanced books of grants numbered below the fence. -/
structure InOrder (registry : GrantRegistry) : Prop where
  balanced : registry.Balanced
  numbered : registry.Numbered

theorem InOrder.tidy {registry : GrantRegistry} (ordered : registry.InOrder) : registry.Tidy :=
  ⟨ordered.balanced.toIndexed, ordered.numbered⟩

theorem InOrder.perform {registry : GrantRegistry} (ordered : registry.InOrder) {call : RegistryCall}
    (counts : Counts registry call (registry.perform call)) : (registry.perform call).InOrder := by
  refine ⟨?_, (ordered.tidy.perform counts.numbers).numbered⟩
  have balanced := ordered.balanced
  have sums := counts.sums
  cases call with
  | acquire snapshot request incarnation nowMs allowNew =>
    have unused := ordered.tidy.fresh counts.numbers
    rw [GrantRegistry.perform] at sums ⊢
    cases acquire_enrolls registry snapshot request incarnation nowMs allowNew with
    | kept same _ => exact balanced.aside same
    | enrolled grant expanded pool admitted id scope mode live basis same taken =>
      have fresh : grant.id ∉ registry.grants := by
        rw [id]
        exact unused taken
      rw [same.grants] at sums
      exact (balanced.enroll snapshot fresh live sums).aside same
  | installRecovered snapshot grant =>
    rw [GrantRegistry.perform] at sums ⊢
    cases installRecovered_installs registry snapshot grant with
    | refused same =>
      rw [same]
      exact balanced
    | lost dead fresh id ended same raised => exact (balanced.record fresh ended).aside same
    | enrolled kept fresh id live same raised =>
      rw [same.grants] at sums
      exact (balanced.enroll snapshot fresh live sums).aside same
  | renew | release | fenceAll | fenceDevice | expireDue | suspendAll | resumeAll | installOutcome | applyState
  | revalidate | setIncarnation | prune =>
    exact (perform_trims balanced.toIndexed (by simp) (by simp)).balanced balanced

theorem indexed_empty (limits : AuthorityLimits) (incarnation : UInt64) :
    ({ limits := limits, incarnation := incarnation } : GrantRegistry).Indexed := by
  refine ⟨?_, ?_, ?_, ?_, ?_⟩
  · intro id grant found
    simp at found
  · intro id scope found
    simp at found
  · intro ref id
    simp [seatsAt]
  · intro ref occupant member
    simp at member
  · simp

theorem inOrder_empty (limits : AuthorityLimits) (incarnation : UInt64) :
    ({ limits := limits, incarnation := incarnation } : GrantRegistry).InOrder := by
  refine ⟨⟨indexed_empty limits incarnation, ?_, ?_, ?_, ?_⟩, ?_⟩
  · intro ref
    simp
  · simp
  · simp
  · simp
  · intro id member
    simp at member

theorem tidy_afterCalls {limits : AuthorityLimits} {incarnation : UInt64} {calls : List RegistryCall}
    (numbers : Along GrantRegistry.perform Numbers { limits := limits, incarnation := incarnation } calls) :
    (afterCalls limits incarnation calls).Tidy := by
  refine numbers.invariant ⟨indexed_empty limits incarnation, ?_⟩ (fun _ _ tidy numbers => tidy.perform numbers)
  intro id member
  simp at member

theorem inOrder_afterCalls {limits : AuthorityLimits} {incarnation : UInt64} {calls : List RegistryCall}
    (counts : Along GrantRegistry.perform Counts { limits := limits, incarnation := incarnation } calls) :
    (afterCalls limits incarnation calls).InOrder :=
  counts.invariant (inOrder_empty limits incarnation) (fun _ _ ordered counts => ordered.perform counts)

/-- A known grant that has a scope for its footprint as long as it lives. -/
structure Rooted (id : UInt64) (scope : List ResourceRef) (registry : GrantRegistry) : Prop where
  known : id ∈ registry.grants
  indexed : ∀ grant : Grant, registry.grants[id]? = some grant → grant.isLive = true →
    registry.footprints[id]? = some scope

theorem Rooted.aside {id : UInt64} {scope : List ResourceRef} {before after : GrantRegistry}
    (rooted : Rooted id scope before) (same : Aside before after) : Rooted id scope after := by
  refine ⟨(same.mem_iff id).mpr rooted.known, ?_⟩
  rw [same.grants, same.footprints]
  exact rooted.indexed

theorem Rooted.trims {id : UInt64} {scope : List ResourceRef} {before after : GrantRegistry}
    (trims : Trims before after) (indexed : before.Indexed) (rooted : Rooted id scope before) :
    Rooted id scope after := by
  refine ⟨(trims.mem_iff id).mpr rooted.known, ?_⟩
  intro next found lives
  obtain ⟨grant, held, live, -, kept⟩ := trims.continues indexed found lives
  rw [kept]
  exact rooted.indexed grant held live

theorem enroll_footprints (registry : GrantRegistry) (snapshot : Snapshot) (grant : Grant) (id : UInt64) :
    (registry.enroll snapshot grant).footprints[id]? =
      match expandScope snapshot grant.scope with
      | .error _ => registry.footprints[id]?
      | .ok scope => if grant.id = id then some scope else registry.footprints[id]? := by
  unfold enroll
  rw [attach_eq]
  cases expandScope snapshot grant.scope with
  | error status => rfl
  | ok scope =>
    dsimp only
    rw [Std.ExtTreeMap.getElem?_insert]
    simp only [Std.LawfulEqCmp.compare_eq_iff_eq]

theorem enroll_footprints_other (registry : GrantRegistry) (snapshot : Snapshot) {grant : Grant} {id : UInt64}
    (other : grant.id ≠ id) : (registry.enroll snapshot grant).footprints[id]? = registry.footprints[id]? := by
  rw [enroll_footprints]
  cases expandScope snapshot grant.scope with
  | error status => rfl
  | ok scope => exact if_neg other

theorem Rooted.enroll {id : UInt64} {scope : List ResourceRef} {registry : GrantRegistry}
    (rooted : Rooted id scope registry) (snapshot : Snapshot) {grant : Grant} (fresh : grant.id ∉ registry.grants) :
    Rooted id scope (registry.enroll snapshot grant) := by
  have other : grant.id ≠ id := fun same => fresh (same ▸ rooted.known)
  refine ⟨mem_insert_grants.mpr (.inr rooted.known), ?_⟩
  intro next found lives
  have stored : registry.grants[id]? = some next := by
    have inserted : (registry.grants.insert grant.id grant)[id]? = some next := found
    rw [Std.ExtTreeMap.getElem?_insert] at inserted
    simpa [other] using inserted
  rw [enroll_footprints_other registry snapshot other]
  exact rooted.indexed next stored lives

theorem Rooted.perform {id : UInt64} {scope : List ResourceRef} {registry : GrantRegistry}
    (rooted : Rooted id scope registry) (ordered : registry.InOrder) {call : RegistryCall}
    (counts : Counts registry call (registry.perform call)) : Rooted id scope (registry.perform call) := by
  have trimmed : Trims registry (registry.perform call) → Rooted id scope (registry.perform call) :=
    fun trims => Rooted.trims trims ordered.balanced.toIndexed rooted
  cases call with
  | acquire snapshot request incarnation nowMs allowNew =>
    have unused := ordered.tidy.fresh counts.numbers
    rw [GrantRegistry.perform]
    cases acquire_enrolls registry snapshot request incarnation nowMs allowNew with
    | kept same _ => exact rooted.aside same
    | enrolled grant expanded pool admitted number _ _ _ _ same taken =>
      have fresh : grant.id ∉ registry.grants := by
        rw [number]
        exact unused taken
      exact (rooted.enroll snapshot fresh).aside same
  | installRecovered snapshot grant =>
    rw [GrantRegistry.perform]
    cases installRecovered_installs registry snapshot grant with
    | refused same =>
      rw [same]
      exact rooted
    | lost dead fresh number ended same _ =>
      have other : dead.id ≠ id := fun equal => fresh (equal ▸ rooted.known)
      refine Rooted.aside ⟨mem_insert_grants.mpr (.inr rooted.known), ?_⟩ same
      intro next found lives
      rw [Std.ExtTreeMap.getElem?_insert] at found
      exact rooted.indexed next (by simpa [other] using found) lives
    | enrolled kept fresh number live same _ => exact (rooted.enroll snapshot fresh).aside same
  | renew | release | fenceAll | fenceDevice | expireDue | suspendAll | resumeAll | installOutcome | applyState
  | revalidate | setIncarnation | prune =>
    exact trimmed (perform_trims ordered.balanced.toIndexed (by simp) (by simp))

end GrantRegistry

end RackFabric
