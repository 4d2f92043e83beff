import RackFabric.Authority.Reconcile
import RackFabric.Compose.Closure
import RackFabric.Foundation.Simulation

/-!
The conflict scan beside a pairwise comparison of scopes. The index has the footprint each grant was taken up with; the
comparison expands every scope again, under the snapshot of the request.
-/

namespace RackFabric

open Foundation

namespace GrantRegistry

/-- A live grant that cannot share with a request and whose scope, expanded again, meets the request's. -/
def contends (snapshot : Snapshot) (mode : GrantMode) (expanded : List ResourceRef) (grant : Grant) : Bool :=
  grant.isLive && occupantConflicts mode grant.mode &&
    match expandScope snapshot grant.scope with
    | .error _ => false
    | .ok other => scopesIntersect expanded other

/-- The grants a request conflicts with, found without the index. -/
def conflictsBruteforce (registry : GrantRegistry) (snapshot : Snapshot) (request : GrantRequest) :
    Result (List UInt64) :=
  match expandScope snapshot request.scope with
  | .error status => .error status
  | .ok expanded =>
    .ok (sortBy idLess ((registry.storedGrants.filter (contends snapshot request.mode expanded)).map Grant.id))

/-- A live grant that a request in this mode cannot share a resource with. -/
structure Rival (registry : GrantRegistry) (mode : GrantMode) (id : UInt64) (grant : Grant) : Prop where
  held : registry.grants[id]? = some grant
  live : grant.isLive = true
  conflict : occupantConflicts mode grant.mode = true

def Meets (first second : List ResourceRef) : Prop :=
  ∃ ref ∈ first, ref ∈ second

/-- The scan turns a request down exactly when it meets the footprint of a rival. -/
theorem checkConflicts_error_iff {registry : GrantRegistry} (indexed : registry.Indexed) {mode : GrantMode}
    {expanded : List ResourceRef} :
    (∃ refusal, registry.checkConflicts mode expanded = .error refusal) ↔
      ∃ id grant, registry.Rival mode id grant ∧ Meets expanded (registry.footprints.getD id []) := by
  have seated : ∀ ref, (registry.conflictOn mode ref).isSome = true ↔
      ∃ id grant, registry.Rival mode id grant ∧ ref ∈ registry.footprints.getD id [] := by
    intro ref
    rw [conflictOn, List.find?_isSome]
    constructor
    · rintro ⟨occupant, sits, refuses⟩
      obtain ⟨grant, held, same⟩ := indexed.modes ref occupant sits
      rw [held, Option.any_some, ← same, Bool.and_eq_true] at refuses
      refine ⟨occupant.id, grant, ⟨held, refuses.1, refuses.2⟩, ?_⟩
      rw [← List.count_pos_iff, ← indexed.index]
      exact List.countP_pos_iff.mpr ⟨occupant, sits, beq_self_eq_true _⟩
    · rintro ⟨id, grant, rival, inside⟩
      rw [← List.count_pos_iff, ← indexed.index] at inside
      obtain ⟨occupant, sits, own⟩ := List.countP_pos_iff.mp inside
      obtain ⟨holder, held, same⟩ := indexed.modes ref occupant sits
      have ids : occupant.id = id := beq_iff_eq.mp own
      rw [ids, rival.held] at held
      cases held
      refine ⟨occupant, sits, ?_⟩
      rw [ids, rival.held, Option.any_some, rival.live, ← same, rival.conflict]
      rfl
  have scanned : (∃ refusal, registry.checkConflicts mode expanded = .error refusal) ↔
      ∃ ref ∈ expanded, (registry.conflictOn mode ref).isSome = true := by
    induction expanded with
    | nil => simp [checkConflicts]
    | cons first rest ih =>
      rw [checkConflicts]
      cases found : registry.conflictOn mode first with
      | none =>
        rw [ih]
        simp [found]
      | some occupant => simp [found, turnDown]
  rw [scanned]
  constructor
  · rintro ⟨ref, member, conflicts⟩
    obtain ⟨id, grant, rival, inside⟩ := (seated ref).mp conflicts
    exact ⟨id, grant, rival, ref, member, inside⟩
  · rintro ⟨id, grant, rival, ref, member, inside⟩
    exact ⟨ref, member, (seated ref).mpr ⟨id, grant, rival, inside⟩⟩

/-- The comparison names a grant exactly when the request meets the present scope of a rival. -/
theorem conflictsBruteforce_iff {registry : GrantRegistry} {snapshot : Snapshot} {request : GrantRequest}
    {expanded : List ResourceRef} (expands : expandScope snapshot request.scope = .ok expanded) :
    (∃ conflicts, registry.conflictsBruteforce snapshot request = .ok conflicts ∧ conflicts ≠ []) ↔
      ∃ id grant, registry.Rival request.mode id grant ∧ Meets expanded (scopeUnder snapshot grant.scope) := by
  have meets : ∀ grant : Grant, (match expandScope snapshot grant.scope with
      | .error _ => false
      | .ok other => scopesIntersect expanded other) = true ↔ Meets expanded (scopeUnder snapshot grant.scope) := by
    intro grant
    unfold scopeUnder Meets
    cases other : expandScope snapshot grant.scope with
    | error status => simp
    | ok scope => exact scopesIntersect_iff (expandScope_inOrder expands) (expandScope_inOrder other)
  have named : ∀ grant : Grant, contends snapshot request.mode expanded grant = true ↔
      grant.isLive = true ∧ occupantConflicts request.mode grant.mode = true ∧
        Meets expanded (scopeUnder snapshot grant.scope) := by
    intro grant
    rw [contends, Bool.and_eq_true, Bool.and_eq_true, meets, and_assoc]
  unfold conflictsBruteforce
  simp only [expands, Except.ok.injEq, exists_eq_left', ne_eq]
  rw [← List.length_eq_zero_iff, (sortBy_perm idLess _).length_eq, List.length_map, List.length_eq_zero_iff,
    List.filter_eq_nil_iff]
  simp only [Classical.not_forall, not_not]
  constructor
  · rintro ⟨grant, member, contending⟩
    obtain ⟨⟨id, stored⟩, entry, rfl⟩ := List.mem_map.mp member
    obtain ⟨live, conflict, reached⟩ := (named stored).mp contending
    exact ⟨id, stored, ⟨Std.ExtTreeMap.mem_toList_iff_getElem?_eq_some.mp entry, live, conflict⟩, reached⟩
  · rintro ⟨id, grant, rival, reached⟩
    refine ⟨grant, List.mem_map.mpr ⟨(id, grant), ?_, rfl⟩, (named grant).mpr ⟨rival.live, rival.conflict, reached⟩⟩
    exact Std.ExtTreeMap.mem_toList_iff_getElem?_eq_some.mpr rival.held

/-- A request, of an identity not used before, that passes every check of an acquire before the conflict scan. -/
structure ReachesScan (registry : GrantRegistry) (snapshot : Snapshot) (request : GrantRequest) (allowNew : Bool)
    (expanded : List ResourceRef) : Prop extends registry.Presentable snapshot request where
  open_ : allowNew = true
  room : registry.live < registry.limits.maxLiveGrants
  memory : registry.outcomes.size < registry.limits.maxRememberedRequests
  expands : expandScope snapshot request.scope = .ok expanded
  fits : registry.occupancyEntries + expanded.length ≤ registry.limits.maxOccupancyEntries
  eligible : checkEligible snapshot expanded = .ok ()

theorem ReachesScan.admission_eq {registry : GrantRegistry} {snapshot : Snapshot} {request : GrantRequest}
    {allowNew : Bool} {expanded : List ResourceRef}
    (reaches : registry.ReachesScan snapshot request allowNew expanded) :
    registry.admission snapshot request allowNew =
      (do
        registry.checkConflicts request.mode expanded
        match capacityPoolRefs snapshot request.scope with
        | .error status => .error ⟨status, false⟩
        | .ok pool =>
          match registry.checkCapacity snapshot request.capacity pool with
          | .error status => turnDown status.code status.detail true
          | .ok () => .ok (expanded, pool)) := by
  obtain ⟨principal, named, lifetime⟩ := reaches.toPresentable.form
  unfold admission
  simp only [principal, named, lifetime, reaches.open_, reaches.expands, reaches.eligible, Bool.false_eq_true, if_false,
    Bool.not_true, ge_iff_le, Nat.not_le.mpr reaches.room, Nat.not_le.mpr reaches.memory, gt_iff_lt,
    Nat.not_lt.mpr reaches.fits]
  rfl

theorem capacityPoolRefs_code {snapshot : Snapshot} {root : ResourceRef} {status : Status}
    (failed : capacityPoolRefs snapshot root = .error status) : status.code ≠ .exclusiveConflict := by
  simp only [capacityPoolRefs, refuse] at failed
  split at failed
  · cases failed
    simp
  · split at failed
    · cases failed
      simp
    · split at failed
      · cases failed
        simp
      · cases failed

theorem poolBase_code {snapshot : Snapshot} {ref : ResourceRef} {status : Status}
    (failed : poolBase snapshot ref = .error status) : status.code ≠ .exclusiveConflict := by
  simp only [poolBase, refuse] at failed
  repeat' split at failed
  all_goals
    cases failed
  all_goals simp

theorem available_code {registry : GrantRegistry} {snapshot : Snapshot} {ref : ResourceRef} {status : Status}
    (failed : registry.available snapshot ref = .error status) : status.code ≠ .exclusiveConflict := by
  simp only [available, refuse] at failed
  split at failed
  · cases failed
    simp
  · split at failed
    · rename_i unbased
      cases failed
      exact poolBase_code unbased
    · split at failed
      · cases failed
        simp
      · cases failed

theorem checkCapacity_code {registry : GrantRegistry} {snapshot : Snapshot} {requested : UInt64}
    {pool : List ResourceRef} {status : Status}
    (failed : registry.checkCapacity snapshot requested pool = .error status) : status.code ≠ .exclusiveConflict := by
  induction pool with
  | nil => cases failed
  | cons ref rest ih =>
    rw [checkCapacity] at failed
    split at failed
    · rename_i failure unavailable
      have code := available_code unavailable
      cases failed
      exact code
    · split at failed
      · cases failed
        simp
      · exact ih failed

theorem checkConflicts_code {registry : GrantRegistry} {mode : GrantMode} {expanded : List ResourceRef}
    {refusal : Refusal} (failed : registry.checkConflicts mode expanded = .error refusal) :
    refusal.status.code = .exclusiveConflict := by
  induction expanded with
  | nil => cases failed
  | cons ref rest ih =>
    rw [checkConflicts] at failed
    split at failed
    · cases failed
      rfl
    · exact ih failed

/-- An acquire that gets as far as the scan answers with a conflict exactly when the scan finds one. -/
theorem acquire_conflicts_iff {registry : GrantRegistry} {snapshot : Snapshot} {request : GrantRequest}
    {allowNew : Bool} {expanded : List ResourceRef}
    (reaches : registry.ReachesScan snapshot request allowNew expanded) (incarnation nowMs : UInt64) :
    (∃ status, (registry.acquire snapshot request incarnation nowMs allowNew).2 = .error status ∧
        status.code = .exclusiveConflict) ↔
      ∃ refusal, registry.checkConflicts request.mode expanded = .error refusal := by
  simp only [acquire, reaches.valid, reaches.identified, reaches.unused, Bool.not_true, Bool.false_eq_true, if_false,
    reaches.admission_eq]
  cases scanned : registry.checkConflicts request.mode expanded with
  | error refusal =>
    constructor
    · intro _
      exact ⟨refusal, rfl⟩
    · intro _
      exact ⟨refusal.status, rfl, checkConflicts_code scanned⟩
  | ok =>
    constructor
    · rintro ⟨status, refused, code⟩
      exfalso
      simp only [bind, Except.bind] at refused
      split at refused
      · rename_i refusal failed
        cases refused
        split at failed
        · rename_i unpooled
          cases failed
          exact capacityPoolRefs_code unpooled code
        · split at failed
          · rename_i short
            cases failed
            exact checkCapacity_code short code
          · cases failed
      · rw [issue] at refused
        split at refused
        · cases refused
          cases code
        · cases refused
    · rintro ⟨refusal, failed⟩
      cases failed

/-- A call that takes up a grant only under an identity that no live grant has. -/
def TakesVacant (before : GrantRegistry) : RegistryCall → GrantRegistry → Prop
  | .acquire .., after => before.live < after.live → before.Vacant after.nextFence
  | _, _ => True

/-- The grant a call takes up, with the snapshot it is taken up under. -/
def takesUp (before : GrantRegistry) (call : RegistryCall) : Option (UInt64 × Snapshot) :=
  if before.live < (before.perform call).live then
    match call with
    | .acquire snapshot .. => some ((before.perform call).nextFence, snapshot)
    | .installRecovered snapshot grant => some (grant.id, snapshot)
    | _ => none
  else none

/-- The snapshot that the grant of an identity was taken up under, last. -/
def takenUnder (taken : List (UInt64 × Snapshot)) (id : UInt64) : Option Snapshot :=
  taken.reverse.lookup id

@[simp] theorem takenUnder_snoc (taken : List (UInt64 × Snapshot)) (id other : UInt64) (snapshot : Snapshot) :
    takenUnder (taken ++ [(other, snapshot)]) id = if id = other then some snapshot else takenUnder taken id := by
  rw [takenUnder, List.reverse_append, List.reverse_singleton, List.singleton_append, List.lookup_cons]
  split
  · rename_i same
    rw [if_pos (eq_of_beq same)]
  · rename_i different
    rw [if_neg (ne_of_beq_false different), takenUnder]

/-- The footprint of every live grant is what its scope stood for in the snapshot it was taken up under. -/
structure Footed (registry : GrantRegistry) (taken : List (UInt64 × Snapshot)) : Prop where
  indexed : registry.Indexed
  footed : ∀ (id : UInt64) (grant : Grant), registry.grants[id]? = some grant → grant.isLive = true →
    ∃ snapshot, takenUnder taken id = some snapshot ∧ registry.footprints.getD id [] = scopeUnder snapshot grant.scope

theorem Footed.trims {taken : List (UInt64 × Snapshot)} {before after : GrantRegistry} (footed : Footed before taken)
    (trims : Trims before after) : Footed after taken := by
  refine ⟨trims.indexed footed.indexed, ?_⟩
  intro id next found lives
  obtain ⟨grant, held, live, terms, kept⟩ := trims.continues footed.indexed found lives
  have scope : next.scope = grant.scope := by
    have same := congrArg Grant.scope terms
    exact same
  rw [scope, Std.ExtTreeMap.getD_eq_getD_getElem?, kept, ← Std.ExtTreeMap.getD_eq_getD_getElem?]
  exact footed.footed id grant held live

theorem Footed.enroll {taken : List (UInt64 × Snapshot)} {registry next : GrantRegistry} (footed : Footed registry taken)
    (snapshot : Snapshot) {grant : Grant} (vacant : registry.Vacant grant.id)
    (live : grant.isLive = true) (same : Aside (registry.enroll snapshot grant) next) :
    Footed next (taken ++ [(grant.id, snapshot)]) := by
  refine ⟨(footed.indexed.enroll snapshot vacant live).aside same, ?_⟩
  intro id stored found lives
  rw [same.grants] at found
  have inserted : (registry.grants.insert grant.id grant)[id]? = some stored := found
  rw [Std.ExtTreeMap.getElem?_insert] at inserted
  simp only [Std.LawfulEqCmp.compare_eq_iff_eq] at inserted
  rw [takenUnder_snoc]
  by_cases own : grant.id = id
  · rw [if_pos own] at inserted
    cases inserted
    refine ⟨snapshot, if_pos own.symm, ?_⟩
    rw [Std.ExtTreeMap.getD_eq_getD_getElem?, same.footprints, enroll_footprints, scopeUnder]
    cases expandScope snapshot grant.scope with
    | error status =>
      dsimp only
      rw [← own, footed.indexed.unindexed vacant]
      rfl
    | ok scope =>
      dsimp only
      rw [if_pos own]
      rfl
  · rw [if_neg own] at inserted
    rw [if_neg (Ne.symm own), Std.ExtTreeMap.getD_eq_getD_getElem?, same.footprints,
      enroll_footprints_other registry snapshot own, ← Std.ExtTreeMap.getD_eq_getD_getElem?]
    exact footed.footed id stored inserted lives

theorem takesUp_none {before : GrantRegistry} (call : RegistryCall) (same : (before.perform call).live = before.live) :
    before.takesUp call = none :=
  if_neg (by omega)

theorem Footed.perform {taken : List (UInt64 × Snapshot)} {registry : GrantRegistry} (footed : Footed registry taken)
    {call : RegistryCall} (takes : TakesVacant registry call (registry.perform call)) :
    Footed (registry.perform call) (taken ++ (registry.takesUp call).toList) := by
  cases call with
  | acquire snapshot request incarnation nowMs allowNew =>
    rw [TakesVacant, GrantRegistry.perform] at takes
    cases acquire_enrolls registry snapshot request incarnation nowMs allowNew with
    | kept same _ =>
      rw [takesUp_none (.acquire snapshot request incarnation nowMs allowNew) same.live, Option.toList_none,
        List.append_nil]
      exact footed.trims (.single (.aside same))
    | enrolled grant expanded pool admitted id scope mode live basis same fence =>
      have counted := same.live
      rw [show (registry.enroll snapshot grant).live = registry.live + 1 from rfl] at counted
      have vacant := takes (by omega)
      rw [fence, ← id] at vacant
      have own : registry.takesUp (.acquire snapshot request incarnation nowMs allowNew) = some (grant.id, snapshot) := by
        rw [takesUp, GrantRegistry.perform, if_pos (by omega), fence, id]
      rw [own]
      exact footed.enroll snapshot vacant live same
  | installRecovered snapshot grant =>
    cases installRecovered_installs registry snapshot grant with
    | refused same =>
      rw [takesUp_none (.installRecovered snapshot grant) (congrArg GrantRegistry.live same), Option.toList_none,
        List.append_nil, GrantRegistry.perform, same]
      exact footed
    | lost dead fresh number ended same _ =>
      rw [takesUp_none (.installRecovered snapshot grant) same.live, Option.toList_none, List.append_nil]
      refine ⟨(footed.indexed.record fresh).aside same, ?_⟩
      intro id stored found lives
      rw [GrantRegistry.perform, same.grants] at found
      have inserted : (registry.grants.insert dead.id dead)[id]? = some stored := found
      rw [Std.ExtTreeMap.getElem?_insert] at inserted
      simp only [Std.LawfulEqCmp.compare_eq_iff_eq] at inserted
      rw [GrantRegistry.perform, same.footprints]
      split at inserted
      · cases inserted
        rw [ended] at lives
        cases lives
      · exact footed.footed id stored inserted lives
    | enrolled kept fresh number live same _ =>
      have counted := same.live
      rw [show (registry.enroll snapshot kept).live = registry.live + 1 from rfl] at counted
      have own : registry.takesUp (.installRecovered snapshot grant) = some (kept.id, snapshot) := by
        rw [takesUp, GrantRegistry.perform, if_pos (by omega), number]
      rw [own]
      exact footed.enroll snapshot (vacant_of_absent fresh) live same
  | renew | release | fenceAll | fenceDevice | expireDue | suspendAll | resumeAll | installOutcome | applyState
  | revalidate | setIncarnation | prune =>
    have nothing : ∀ {value : Option (UInt64 × Snapshot)}, value = none → taken ++ value.toList = taken := by
      rintro value rfl
      exact List.append_nil taken
    rw [nothing (by simp [takesUp])]
    exact footed.trims (perform_trims footed.indexed (by simp) (by simp))

/-- The grants that a run took up, each with the snapshot it was taken up under. -/
def takenUp (limits : AuthorityLimits) (incarnation : UInt64) (calls : List RegistryCall) : List (UInt64 × Snapshot) :=
  outputs perform takesUp { limits := limits, incarnation := incarnation } calls

/-- The snapshot that a grant of a run was taken up under. -/
def originIn (limits : AuthorityLimits) (incarnation : UInt64) (calls : List RegistryCall) (id : UInt64) : Snapshot :=
  (takenUnder (takenUp limits incarnation calls) id).getD {}

theorem footed_afterCalls {limits : AuthorityLimits} {incarnation : UInt64} {calls : List RegistryCall}
    (takes : Along perform TakesVacant { limits := limits, incarnation := incarnation } calls) :
    Footed (afterCalls limits incarnation calls) (takenUp limits incarnation calls) := by
  have blank : Footed { limits := limits, incarnation := incarnation } [] := by
    refine ⟨indexed_empty limits incarnation, ?_⟩
    intro id grant found
    simp at found
  exact takes.accounts (fun _ _ _ holds allowed => holds.perform allowed) blank

/-- A rival's scope met the requested resources when it was taken up, and meets them now. -/
def Stays (registry : GrantRegistry) (origin : UInt64 → Snapshot) (snapshot : Snapshot) (mode : GrantMode)
    (expanded : List ResourceRef) : Prop :=
  ∃ id grant, registry.Rival mode id grant ∧ Meets expanded (scopeUnder (origin id) grant.scope) ∧
    Meets expanded (scopeUnder snapshot grant.scope)

/-- A rival's scope has come to meet the requested resources since it was taken up. -/
def Gains (registry : GrantRegistry) (origin : UInt64 → Snapshot) (snapshot : Snapshot) (mode : GrantMode)
    (expanded : List ResourceRef) : Prop :=
  ∃ id grant, registry.Rival mode id grant ∧ ¬ Meets expanded (scopeUnder (origin id) grant.scope) ∧
    Meets expanded (scopeUnder snapshot grant.scope)

/-- A rival's scope has left the requested resources since it was taken up. -/
def Loses (registry : GrantRegistry) (origin : UInt64 → Snapshot) (snapshot : Snapshot) (mode : GrantMode)
    (expanded : List ResourceRef) : Prop :=
  ∃ id grant, registry.Rival mode id grant ∧ Meets expanded (scopeUnder (origin id) grant.scope) ∧
    ¬ Meets expanded (scopeUnder snapshot grant.scope)

/-- The scan and the comparison agree about a request exactly when some rival has stood in its way ever since it was
taken up, or else the scopes of rivals have neither come to meet it nor left it since, or have done both. -/
theorem scan_agrees_iff {limits : AuthorityLimits} {process : UInt64} {calls : List RegistryCall}
    (takes : Along perform TakesVacant { limits := limits, incarnation := process } calls) {snapshot : Snapshot}
    {request : GrantRequest} {allowNew : Bool} {expanded : List ResourceRef}
    (reaches : (afterCalls limits process calls).ReachesScan snapshot request allowNew expanded)
    (incarnation nowMs : UInt64) :
    ((∃ status, ((afterCalls limits process calls).acquire snapshot request incarnation nowMs allowNew).2 =
        .error status ∧ status.code = .exclusiveConflict) ↔
      ∃ conflicts, (afterCalls limits process calls).conflictsBruteforce snapshot request = .ok conflicts ∧
        conflicts ≠ []) ↔
      (afterCalls limits process calls).Stays (originIn limits process calls) snapshot request.mode expanded ∨
        ((afterCalls limits process calls).Gains (originIn limits process calls) snapshot request.mode expanded ↔
          (afterCalls limits process calls).Loses (originIn limits process calls) snapshot request.mode expanded) := by
  have footed := footed_afterCalls takes
  rw [acquire_conflicts_iff reaches, checkConflicts_error_iff footed.indexed, conflictsBruteforce_iff reaches.expands]
  have then_ : ∀ id grant, (afterCalls limits process calls).Rival request.mode id grant →
      (afterCalls limits process calls).footprints.getD id [] =
        scopeUnder (originIn limits process calls id) grant.scope := by
    intro id grant rival
    obtain ⟨origin, known, footprint⟩ := footed.footed id grant rival.held rival.live
    rw [footprint, originIn, known, Option.getD_some]
  generalize originIn limits process calls = origin at then_ ⊢
  generalize afterCalls limits process calls = registry at then_ ⊢
  have met : (∃ id grant, registry.Rival request.mode id grant ∧ Meets expanded (registry.footprints.getD id [])) ↔
      registry.Stays origin snapshot request.mode expanded ∨ registry.Loses origin snapshot request.mode expanded := by
    constructor
    · rintro ⟨id, grant, rival, meets⟩
      rw [then_ id grant rival] at meets
      by_cases now : Meets expanded (scopeUnder snapshot grant.scope)
      · exact .inl ⟨id, grant, rival, meets, now⟩
      · exact .inr ⟨id, grant, rival, meets, now⟩
    · rintro (⟨id, grant, rival, meets, -⟩ | ⟨id, grant, rival, meets, -⟩) <;>
        exact ⟨id, grant, rival, by rwa [then_ id grant rival]⟩
  have meets : (∃ id grant, registry.Rival request.mode id grant ∧ Meets expanded (scopeUnder snapshot grant.scope)) ↔
      registry.Stays origin snapshot request.mode expanded ∨ registry.Gains origin snapshot request.mode expanded := by
    constructor
    · rintro ⟨id, grant, rival, now⟩
      by_cases before : Meets expanded (scopeUnder (origin id) grant.scope)
      · exact .inl ⟨id, grant, rival, before, now⟩
      · exact .inr ⟨id, grant, rival, before, now⟩
    · rintro (⟨id, grant, rival, -, now⟩ | ⟨id, grant, rival, -, now⟩) <;> exact ⟨id, grant, rival, now⟩
  rw [met, meets]
  tauto

/-- Under one snapshot no scope comes to meet a request, and none leaves it. -/
theorem scopes_stand_under_one_snapshot {limits : AuthorityLimits} {process : UInt64} {calls : List RegistryCall}
    (takes : Along perform TakesVacant { limits := limits, incarnation := process } calls) {snapshot : Snapshot}
    (steady : ∀ taken ∈ takenUp limits process calls, taken.2 = snapshot) (mode : GrantMode)
    (expanded : List ResourceRef) :
    ¬ (afterCalls limits process calls).Gains (originIn limits process calls) snapshot mode expanded ∧
      ¬ (afterCalls limits process calls).Loses (originIn limits process calls) snapshot mode expanded := by
  have same : ∀ id grant, (afterCalls limits process calls).Rival mode id grant →
      originIn limits process calls id = snapshot := by
    intro id grant rival
    obtain ⟨origin, known, -⟩ := (footed_afterCalls takes).footed id grant rival.held rival.live
    rw [originIn, known, Option.getD_some]
    obtain ⟨front, back, split, -⟩ := List.lookup_eq_some_iff.mp known
    exact steady (id, origin) (List.mem_reverse.mp (by rw [split]; simp))
  constructor
  · rintro ⟨id, grant, rival, before, now⟩
    rw [same id grant rival] at before
    exact before now
  · rintro ⟨id, grant, rival, before, now⟩
    rw [same id grant rival] at before
    exact now before

/-- The snapshot that some evidence composes to, at generation 0 of rack 7. -/
def composedFrom (records : List EvidenceRecord) : Snapshot :=
  match compose (EvidenceLedger.insertAll {} records) { rack := 7 } ⟨0, 1, .active, {}⟩ with
  | .error _ => {}
  | .ok outcome => outcome.snapshot

/-- The furnished rack before its host is attached. -/
def beforeAttachment : Snapshot :=
  composedFrom (furnishedRack.take 5)

def afterAttachment : Snapshot :=
  composedFrom furnishedRack

def soleLease (request : UInt64) (scope : ResourceRef) : GrantRequest where
  request := ⟨0, request⟩
  principal := 1
  scope := scope
  mode := .exclusive
  capacity := 1
  ttlMs := 50

/-- The switch is leased for sole use. -/
def switchLeased : List RegistryCall :=
  [.acquire beforeAttachment (soleLease 1 ⟨.device, 3⟩) 1 0 true]

private theorem switchLeased_takes : Along perform TakesVacant { incarnation := 1 } switchLeased := by
  refine ⟨?_, trivial⟩
  intro _ grant found
  simp at found

private theorem attachment_reaches : (afterCalls {} 1 switchLeased).ReachesScan afterAttachment
    (soleLease 2 ⟨.attachment, 8⟩) true [⟨.attachment, 8⟩] := by
  refine ⟨?_, ?_, ?_, ?_, ?_, ?_, ?_⟩
  · constructor <;> decide +kernel
  all_goals decide +kernel

private theorem attached_port_reaches : (afterCalls {} 1 switchLeased).ReachesScan afterAttachment
    (soleLease 2 ⟨.port, 4⟩) true [⟨.port, 4⟩, ⟨.link, 6⟩, ⟨.attachment, 8⟩] := by
  refine ⟨?_, ?_, ?_, ?_, ?_, ?_, ?_⟩
  · constructor <;> decide +kernel
  all_goals decide +kernel

private theorem port_reaches : (afterCalls {} 1 switchLeased).ReachesScan beforeAttachment
    (soleLease 2 ⟨.port, 4⟩) true [⟨.port, 4⟩, ⟨.link, 6⟩] := by
  refine ⟨?_, ?_, ?_, ?_, ?_, ?_, ?_⟩
  · constructor <;> decide +kernel
  all_goals decide +kernel

/-- On the rack the switch was leased on, its port is in conflict by both accounts, and it stays so when a host is
attached. -/
theorem port_scan_agrees :
    ((∃ status, ((afterCalls {} 1 switchLeased).acquire beforeAttachment (soleLease 2 ⟨.port, 4⟩) 1 1 true).2 =
        .error status ∧ status.code = .exclusiveConflict) ↔
      ∃ conflicts, (afterCalls {} 1 switchLeased).conflictsBruteforce beforeAttachment (soleLease 2 ⟨.port, 4⟩) =
        .ok conflicts ∧ conflicts ≠ []) ∧
    ((∃ status, ((afterCalls {} 1 switchLeased).acquire afterAttachment (soleLease 2 ⟨.port, 4⟩) 1 1 true).2 =
        .error status ∧ status.code = .exclusiveConflict) ↔
      ∃ conflicts, (afterCalls {} 1 switchLeased).conflictsBruteforce afterAttachment (soleLease 2 ⟨.port, 4⟩) =
        .ok conflicts ∧ conflicts ≠ []) := by
  have origins : takenUp {} 1 switchLeased = [(1, beforeAttachment)] := by rfl
  have steady : ∀ taken ∈ takenUp {} 1 switchLeased, taken.2 = beforeAttachment := by
    rw [origins]
    intro taken member
    rw [List.mem_singleton.mp member]
  obtain ⟨gained, lost⟩ := scopes_stand_under_one_snapshot switchLeased_takes steady .exclusive [⟨.port, 4⟩, ⟨.link, 6⟩]
  have switch : ((afterCalls {} 1 switchLeased).grants[(1 : UInt64)]?).any (fun grant =>
      grant.isLive && occupantConflicts .exclusive grant.mode && grant.scope == ⟨.device, 3⟩) = true := by decide +kernel
  obtain ⟨grant, held, own⟩ := (Option.any_eq_true _ _).mp switch
  simp only [Bool.and_eq_true, beq_iff_eq] at own
  obtain ⟨⟨live, conflict⟩, scope⟩ := own
  have origin : originIn {} 1 switchLeased 1 = beforeAttachment := by
    rw [originIn, origins]
    rfl
  refine ⟨(scan_agrees_iff switchLeased_takes port_reaches 1 1).mpr (.inr (iff_of_false gained lost)),
    (scan_agrees_iff switchLeased_takes attached_port_reaches 1 1).mpr (.inl ⟨1, grant, ⟨held, live, conflict⟩, ?_⟩)⟩
  rw [origin, scope]
  exact ⟨⟨⟨.port, 4⟩, by decide +kernel⟩, ⟨.port, 4⟩, by decide +kernel⟩

/-- A host is attached to the leased switch, and the attachment is leased for sole use as well. -/
theorem attachment_conflict_missed :
    (afterCalls {} 1 switchLeased).ReachesScan afterAttachment (soleLease 2 ⟨.attachment, 8⟩) true
        [⟨.attachment, 8⟩] ∧
      (afterCalls {} 1 switchLeased).conflictsBruteforce afterAttachment (soleLease 2 ⟨.attachment, 8⟩) = .ok [1] ∧
      ∃ grant, ((afterCalls {} 1 switchLeased).acquire afterAttachment (soleLease 2 ⟨.attachment, 8⟩) 1 1 true).2 =
        .ok grant := by
  have issued : ((afterCalls {} 1 switchLeased).acquire afterAttachment (soleLease 2 ⟨.attachment, 8⟩) 1 1 true).2.isOk =
      true := by rfl
  refine ⟨attachment_reaches, by decide +kernel, ?_⟩
  generalize ((afterCalls {} 1 switchLeased).acquire afterAttachment (soleLease 2 ⟨.attachment, 8⟩) 1 1 true).2 = answer
    at issued
  cases answer with
  | error status => cases issued
  | ok grant => exact ⟨grant, rfl⟩

end GrantRegistry

end RackFabric
