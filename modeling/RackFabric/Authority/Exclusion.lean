import RackFabric.Authority.Basis
import RackFabric.Authority.Bookkeeping

/-!
Exclusivity of the leases one process hands out. The index compares footprints taken under old snapshots; a lease
that validates under the current one still has the footprint it was issued with.
-/

namespace RackFabric

open Foundation

/-- The calls that recover nothing. -/
def RegistryCall.leases : RegistryCall → Bool
  | .installRecovered .. | .installOutcome .. | .applyState .. | .revalidate .. => false
  | _ => true

/-- The snapshots that leases are asked for under. -/
def issuingSnapshots (calls : List RegistryCall) : List Snapshot :=
  calls.filterMap fun
    | .acquire snapshot .. => some snapshot
    | _ => none

/-- The scopes that leases are asked for. -/
def requestedScopes (calls : List RegistryCall) : List ResourceRef :=
  calls.filterMap fun
    | .acquire _ request .. => some request.scope
    | _ => none

/-- The basis inputs of some scopes under some snapshots. -/
def basisInputs (snapshots : List Snapshot) (scopes : List ResourceRef) : List (List UInt8) :=
  snapshots.flatMap fun snapshot => scopes.filterMap fun root =>
    match expandScope snapshot root with
    | .error _ => none
    | .ok scope => some (basisInput snapshot scope)

theorem mem_basisInputs {snapshots : List Snapshot} {scopes : List ResourceRef} {snapshot : Snapshot}
    {root : ResourceRef} {scope : List ResourceRef} (known : snapshot ∈ snapshots) (asked : root ∈ scopes)
    (expands : expandScope snapshot root = .ok scope) : basisInput snapshot scope ∈ basisInputs snapshots scopes := by
  refine List.mem_flatMap.mpr ⟨snapshot, known, List.mem_filterMap.mpr ⟨root, asked, ?_⟩⟩
  rw [expands]

namespace GrantRegistry

theorem occupantConflicts_comm (a b : GrantMode) : occupantConflicts a b = occupantConflicts b a :=
  Bool.or_comm _ _

/-- A live grant has the footprint of its issue, and its basis is taken over it. -/
def Anchored (snapshots : List Snapshot) (scopes : List ResourceRef) (registry : GrantRegistry) (id : UInt64)
    (grant : Grant) : Prop :=
  ∃ snapshot ∈ snapshots, grant.scope ∈ scopes ∧ ∃ scope, expandScope snapshot grant.scope = .ok scope ∧
    registry.footprints[id]? = some scope ∧ grant.authorityBasis = authorityBasisDigest snapshot scope

/-- No live grants that exclude each other share a resource. -/
structure Exclusive (snapshots : List Snapshot) (scopes : List ResourceRef) (registry : GrantRegistry) : Prop where
  indexed : registry.Indexed
  numbered : registry.Numbered
  settled : registry.Settled
  anchored : ∀ (id : UInt64) (grant : Grant), registry.grants[id]? = some grant → grant.isLive = true →
    Anchored snapshots scopes registry id grant
  apart : ∀ (i j : UInt64) (a b : Grant), i ≠ j → registry.grants[i]? = some a → a.isLive = true →
    registry.grants[j]? = some b → b.isLive = true → occupantConflicts a.mode b.mode = true →
    ∀ ref ∈ registry.footprints.getD i [], ref ∉ registry.footprints.getD j []

theorem footprints_getD {before after : GrantRegistry} {id : UInt64}
    (same : after.footprints[id]? = before.footprints[id]?) :
    after.footprints.getD id [] = before.footprints.getD id [] := by
  rw [Std.ExtTreeMap.getD_eq_getD_getElem?, same, ← Std.ExtTreeMap.getD_eq_getD_getElem?]

theorem Exclusive.trims {snapshots : List Snapshot} {scopes : List ResourceRef} {before after : GrantRegistry}
    (exclusive : Exclusive snapshots scopes before) (trims : Trims before after)
    (fence : before.nextFence.toNat ≤ after.nextFence.toNat) : Exclusive snapshots scopes after := by
  refine ⟨trims.indexed exclusive.indexed, ?_, trims.settled exclusive.settled, ?_, ?_⟩
  · intro id member
    exact Nat.le_trans (exclusive.numbered id ((trims.mem_iff id).mp member)) fence
  · intro id next found lives
    obtain ⟨grant, held, live, terms, kept⟩ := trims.continues exclusive.indexed found lives
    have scope : next.scope = grant.scope := by
      have same := congrArg Grant.scope terms
      exact same
    have basis : next.authorityBasis = grant.authorityBasis := by
      have same := congrArg Grant.authorityBasis terms
      exact same
    unfold Anchored
    rw [scope, basis, kept]
    exact exclusive.anchored id grant held live
  · intro i j a b different foundA liveA foundB liveB conflict
    obtain ⟨oldA, heldA, aliveA, termsA, keptA⟩ := trims.continues exclusive.indexed foundA liveA
    obtain ⟨oldB, heldB, aliveB, termsB, keptB⟩ := trims.continues exclusive.indexed foundB liveB
    have modeA : a.mode = oldA.mode := by
      have same := congrArg Grant.mode termsA
      exact same
    have modeB : b.mode = oldB.mode := by
      have same := congrArg Grant.mode termsB
      exact same
    rw [modeA, modeB] at conflict
    rw [footprints_getD keptA, footprints_getD keptB]
    exact exclusive.apart i j oldA oldB different heldA aliveA heldB aliveB conflict

/-- A scope that passes the conflict check meets no footprint of a grant it would exclude. -/
theorem checkConflicts_apart {registry : GrantRegistry} (indexed : registry.Indexed) {mode : GrantMode}
    {expanded : List ResourceRef} (passed : registry.checkConflicts mode expanded = .ok ()) {id : UInt64}
    {holder : Grant} (held : registry.grants[id]? = some holder) (live : holder.isLive = true)
    (conflict : occupantConflicts mode holder.mode = true) :
    ∀ ref ∈ expanded, ref ∉ registry.footprints.getD id [] := by
  have clear : ∀ refs, registry.checkConflicts mode refs = .ok () → ∀ ref ∈ refs,
      registry.conflictOn mode ref = none := by
    intro refs
    induction refs with
    | nil => simp
    | cons first rest ih =>
      intro passed ref member
      rw [checkConflicts] at passed
      split at passed
      · cases passed
      · rename_i free
        rcases List.mem_cons.mp member with rfl | later
        · exact free
        · exact ih passed ref later
  intro ref member inside
  have free := clear expanded passed ref member
  have seated : 0 < seatsAt id registry.occupancy ref := by
    rw [indexed.index]
    exact List.count_pos_iff.mpr inside
  obtain ⟨occupant, sits, own⟩ := List.countP_pos_iff.mp seated
  obtain ⟨grant, found, same⟩ := indexed.modes ref occupant sits
  have ids : occupant.id = id := beq_iff_eq.mp own
  rw [ids, held] at found
  cases found
  have refused := List.find?_eq_none.mp free occupant sits
  rw [ids, held, ← same] at refused
  simp [live, conflict] at refused

theorem Exclusive.enroll {snapshots : List Snapshot} {scopes : List ResourceRef} {registry next : GrantRegistry}
    (exclusive : Exclusive snapshots scopes registry) {snapshot : Snapshot} (known : snapshot ∈ snapshots)
    {grant : Grant} (asked : grant.scope ∈ scopes) {expanded : List ResourceRef}
    (expands : expandScope snapshot grant.scope = .ok expanded) (live : grant.isLive = true)
    (passed : registry.checkConflicts grant.mode expanded = .ok ())
    (basis : grant.authorityBasis = authorityBasisDigest snapshot expanded) (fresh : grant.id ∉ registry.grants)
    (same : Aside (registry.enroll snapshot grant) next) (fence : registry.nextFence.toNat ≤ next.nextFence.toNat)
    (own : grant.id.toNat ≤ next.nextFence.toNat) : Exclusive snapshots scopes next := by
  have entry : ∀ (id : UInt64) (found : Grant), next.grants[id]? = some found →
      (id = grant.id ∧ found = grant) ∨ (id ≠ grant.id ∧ registry.grants[id]? = some found) := by
    intro id found stored
    rw [same.grants] at stored
    have inserted : (registry.grants.insert grant.id grant)[id]? = some found := stored
    rw [Std.ExtTreeMap.getElem?_insert] at inserted
    simp only [Std.LawfulEqCmp.compare_eq_iff_eq] at inserted
    split at inserted
    · rename_i equal
      cases inserted
      exact .inl ⟨equal.symm, rfl⟩
    · rename_i other
      exact .inr ⟨Ne.symm other, inserted⟩
  have ownFootprint : next.footprints[grant.id]? = some expanded := by
    rw [same.footprints, enroll_footprints, expands]
    simp
  have otherFootprint : ∀ id, id ≠ grant.id → next.footprints[id]? = registry.footprints[id]? := by
    intro id other
    rw [same.footprints, enroll_footprints, expands]
    simp [Ne.symm other]
  have ownRefs : next.footprints.getD grant.id [] = expanded := by
    rw [Std.ExtTreeMap.getD_eq_getD_getElem?, ownFootprint, Option.getD_some]
  refine ⟨(exclusive.indexed.enroll snapshot (vacant_of_absent fresh) live).aside same, ?_, ?_, ?_, ?_⟩
  · exact exclusive.numbered.insert same.grants fence own
  · intro id found stored
    rcases entry id found stored with ⟨-, rfl⟩ | ⟨-, old⟩
    · exact .inl live
    · exact exclusive.settled id found old
  · intro id found stored lives
    rcases entry id found stored with ⟨rfl, rfl⟩ | ⟨other, old⟩
    · exact ⟨snapshot, known, asked, expanded, expands, ownFootprint, basis⟩
    · unfold Anchored
      rw [otherFootprint id other]
      exact exclusive.anchored id found old lives
  · intro i j a b different foundA liveA foundB liveB conflict
    rcases entry i a foundA with ⟨rfl, rfl⟩ | ⟨otherA, oldA⟩
    · rcases entry j b foundB with ⟨rfl, -⟩ | ⟨otherB, oldB⟩
      · exact absurd rfl different
      · rw [ownRefs, footprints_getD (otherFootprint j otherB)]
        exact checkConflicts_apart exclusive.indexed passed oldB liveB conflict
    · rcases entry j b foundB with ⟨rfl, rfl⟩ | ⟨otherB, oldB⟩
      · rw [ownRefs, footprints_getD (otherFootprint i otherA)]
        rw [occupantConflicts_comm] at conflict
        intro ref inside outside
        exact checkConflicts_apart exclusive.indexed passed oldA liveA conflict ref outside inside
      · rw [footprints_getD (otherFootprint i otherA), footprints_getD (otherFootprint j otherB)]
        exact exclusive.apart i j a b different oldA liveA oldB liveB conflict

/-- A call whose fences fit the counter. -/
def FencesFit (before : GrantRegistry) (call : RegistryCall) (_after : GrantRegistry) : Prop :=
  before.nextFence.toNat + before.fencesTaken call < 2 ^ 64

theorem Exclusive.perform {calls : List RegistryCall} {registry : GrantRegistry}
    (exclusive : Exclusive (issuingSnapshots calls) (requestedScopes calls) registry) {call : RegistryCall}
    (member : call ∈ calls) (leases : call.leases = true)
    (fits : FencesFit registry call (registry.perform call)) :
    Exclusive (issuingSnapshots calls) (requestedScopes calls) (registry.perform call) := by
  have fence := perform_nextFence exclusive.indexed fits
  cases call with
  | acquire snapshot request incarnation nowMs allowNew =>
    have room := fits
    rw [FencesFit, fencesTaken] at room
    rw [GrantRegistry.perform] at fence ⊢
    have known : snapshot ∈ issuingSnapshots calls := List.mem_filterMap.mpr ⟨_, member, rfl⟩
    have asked : request.scope ∈ requestedScopes calls := List.mem_filterMap.mpr ⟨_, member, rfl⟩
    cases acquire_enrolls registry snapshot request incarnation nowMs allowNew with
    | kept same _ => exact exclusive.trims (.single (.aside same)) fence
    | enrolled grant expanded pool admitted id scope mode live basis same taken =>
      rw [taken, if_neg (succ_ne_self registry.nextFence)] at room
      have fresh : grant.id ∉ registry.grants := by
        intro stored
        have bound := exclusive.numbered grant.id stored
        rw [id, toNat_succ room] at bound
        omega
      have number : grant.id.toNat ≤
          (registry.acquire snapshot request incarnation nowMs allowNew).1.nextFence.toNat :=
        Nat.le_of_eq (by rw [id, taken])
      rw [← scope] at asked
      exact exclusive.enroll known asked (scope ▸ admitted.expands) live (mode ▸ admitted.exclusive) basis fresh same
        fence number
  | installRecovered | installOutcome | applyState | revalidate => cases leases
  | renew | release | fenceAll | fenceDevice | expireDue | suspendAll | resumeAll | setIncarnation | prune =>
    exact exclusive.trims (perform_trims exclusive.indexed (by simp) (by simp)) fence

theorem exclusive_empty (snapshots : List Snapshot) (scopes : List ResourceRef) (limits : AuthorityLimits)
    (incarnation : UInt64) :
    Exclusive snapshots scopes { limits := limits, incarnation := incarnation } := by
  refine ⟨indexed_empty limits incarnation, ?_, ?_, ?_, ?_⟩
  · intro id member
    simp at member
  · intro id grant found
    simp at found
  · intro id grant found
    simp at found
  · intro i j a b _ found
    simp at found

theorem exclusive_afterCalls {limits : AuthorityLimits} {incarnation : UInt64} {calls : List RegistryCall}
    (leases : ∀ call ∈ calls, call.leases = true)
    (fits : Along GrantRegistry.perform FencesFit { limits := limits, incarnation := incarnation } calls) :
    Exclusive (issuingSnapshots calls) (requestedScopes calls) (afterCalls limits incarnation calls) := by
  apply fits.invariant_of_mem (exclusive_empty _ _ limits incarnation)
  intro registry call member exclusive fits
  exact exclusive.perform member (leases call member) fits

/-- A lease that passes the checks against a snapshot has a basis taken over its scope there. -/
theorem checkCurrent_basis {snapshot : Snapshot} {incarnation nowMs : UInt64} {grant : Grant}
    (passed : checkCurrent snapshot incarnation nowMs grant = .ok ()) :
    ∃ scope, expandScope snapshot grant.scope = .ok scope ∧
      authorityBasisDigest snapshot scope = grant.authorityBasis := by
  unfold checkCurrent refuse at passed
  split at passed
  · cases passed
  split at passed
  · cases passed
  split at passed
  · cases passed
  split at passed
  · cases passed
  split at passed
  · cases passed
  split at passed
  · cases passed
  rename_i scope expands
  split at passed
  · cases passed
  rename_i same
  exact ⟨scope, expands, by simpa using same⟩

theorem live_of_checkState {grant : Grant} (stands : grant.isLive = true ∨ isTerminalState grant.state = true)
    (passed : checkState grant = .ok ()) : grant.isLive = true := by
  rcases stands with live | ended
  · exact live
  · unfold checkState refuse at passed
    cases state : grant.state <;> simp_all [isTerminalState]

/-- A usable lease has, under the snapshot it is used with, the footprint it was issued with. -/
theorem Exclusive.usable {calls : List RegistryCall} {registry : GrantRegistry}
    (exclusive : Exclusive (issuingSnapshots calls) (requestedScopes calls) registry) {snapshot : Snapshot}
    (sized : ∀ known ∈ snapshot :: issuingSnapshots calls, known.Sized)
    (collisionFree : ∀ a ∈ basisInputs (snapshot :: issuingSnapshots calls) (requestedScopes calls),
      ∀ b ∈ basisInputs (snapshot :: issuingSnapshots calls) (requestedScopes calls),
        Blake2s256.hash a = Blake2s256.hash b → a = b)
    {token : LeaseToken} {nowMs : UInt64} {grant : Grant}
    (usable : registry.validate snapshot token nowMs = .ok grant) :
    registry.grants[grant.id]? = some grant ∧ grant.isLive = true ∧
      ∃ scope, expandScope snapshot grant.scope = .ok scope ∧ registry.footprints.getD grant.id [] = scope := by
  obtain ⟨found, -, state, current⟩ := checkLease_ok usable
  obtain own : grant.id = token.grant := exclusive.indexed.keyed _ _ found
  rw [← own] at found
  have live := live_of_checkState (exclusive.settled _ _ found) state
  obtain ⟨scope, expands, basis⟩ := checkCurrent_basis current
  obtain ⟨issuer, known, asked, footprint, issued, indexed, signed⟩ := exclusive.anchored _ _ found live
  refine ⟨found, live, scope, expands, ?_⟩
  have inputs : basisInput snapshot scope = basisInput issuer footprint := by
    apply collisionFree _ (mem_basisInputs (by simp) asked expands) _ (mem_basisInputs (by simp [known]) asked issued)
    rw [← authorityBasisDigest_eq, ← authorityBasisDigest_eq, basis, signed]
  have same := scope_of_basisInput (sized snapshot (by simp)) (sized issuer (by simp [known])) inputs
  rw [Std.ExtTreeMap.getD_eq_getD_getElem?, indexed, Option.getD_some, same]

/-- Two usable leases of which one is exclusive share no resource, whatever became of the rack since their issue. -/
theorem usable_leases_apart {limits : AuthorityLimits} {incarnation : UInt64} {calls : List RegistryCall}
    (leases : ∀ call ∈ calls, call.leases = true)
    (fits : Along perform FencesFit { limits := limits, incarnation := incarnation } calls) {snapshot : Snapshot}
    (sized : ∀ known ∈ snapshot :: issuingSnapshots calls, known.Sized)
    (collisionFree : ∀ a ∈ basisInputs (snapshot :: issuingSnapshots calls) (requestedScopes calls),
      ∀ b ∈ basisInputs (snapshot :: issuingSnapshots calls) (requestedScopes calls),
        Blake2s256.hash a = Blake2s256.hash b → a = b)
    {first second : LeaseToken} {nowFirst nowSecond : UInt64} {a b : Grant}
    (usableA : (afterCalls limits incarnation calls).validate snapshot first nowFirst = .ok a)
    (usableB : (afterCalls limits incarnation calls).validate snapshot second nowSecond = .ok b)
    (distinct : a.id ≠ b.id) (exclusive : a.mode = .exclusive ∨ b.mode = .exclusive) :
    ∃ scopeA scopeB, expandScope snapshot a.scope = .ok scopeA ∧ expandScope snapshot b.scope = .ok scopeB ∧
      ∀ ref ∈ scopeA, ref ∉ scopeB := by
  have held := exclusive_afterCalls leases fits
  obtain ⟨foundA, liveA, scopeA, expandsA, footprintA⟩ := held.usable sized collisionFree usableA
  obtain ⟨foundB, liveB, scopeB, expandsB, footprintB⟩ := held.usable sized collisionFree usableB
  have conflict : occupantConflicts a.mode b.mode = true := by
    unfold occupantConflicts
    rcases exclusive with mode | mode <;> simp [mode]
  refine ⟨scopeA, scopeB, expandsA, expandsB, ?_⟩
  have apart := held.apart _ _ a b distinct foundA liveA foundB liveB conflict
  rwa [footprintA, footprintB] at apart

/-- A rack with two devices; the second one joins late. -/
def twoDevices (joined : Bool) : Snapshot where
  handle := some {
    rack := 7
    lifecycle := .active
    capacity := { uncommitted := 10 }
    devices := if joined then [{ id := 3, incarnation := 1 }, { id := 4, incarnation := 1 }]
      else [{ id := 3, incarnation := 1 }]
    resources := ⟨⟨.rack, 7⟩, .eligible, .up, true, 10, 0, false, []⟩ ::
      ⟨⟨.device, 3⟩, .eligible, .up, true, 10, 0, false, [⟨3, 1⟩]⟩ ::
      if joined then [⟨⟨.device, 4⟩, .eligible, .up, true, 10, 0, false, [⟨4, 1⟩]⟩] else [] }

def exclusiveLease (request device : UInt64) : GrantRequest where
  request := ⟨0, request⟩
  principal := 1
  scope := ⟨.device, device⟩
  mode := .exclusive
  capacity := 4
  ttlMs := 50

/-- One device is leased before the other joins, and the other after it. -/
def twoLeases : List RegistryCall :=
  [.acquire (twoDevices false) (exclusiveLease 1 3) 1 0 true, .acquire (twoDevices true) (exclusiveLease 2 4) 1 1 true]

def leaseAt (snapshot : Snapshot) (request device nowMs : UInt64) : Grant :=
  issuedGrant snapshot (exclusiveLease request device) 1 nowMs (nowMs + 50) request [⟨.device, device⟩]
    [⟨.rack, 7⟩, ⟨.device, device⟩]

/-- The registry with the first of the two leases. -/
private def firstLeased : GrantRegistry :=
  ({ incarnation := 1 } : GrantRegistry).takeFence.enlist (twoDevices false) (exclusiveLease 1 3)
    (leaseAt (twoDevices false) 1 3 0)

private theorem first_lease_issued :
    (({ incarnation := 1 } : GrantRegistry).acquire (twoDevices false) (exclusiveLease 1 3) 1 0 true).1 =
      firstLeased := by
  have admitted : ({ incarnation := 1 } : GrantRegistry).admission (twoDevices false) (exclusiveLease 1 3) true =
      .ok ([⟨.device, 3⟩], [⟨.rack, 7⟩, ⟨.device, 3⟩]) := rfl
  exact congrArg Prod.fst (acquire_issues rfl rfl rfl admitted rfl)

private theorem second_lease_issued :
    (firstLeased.acquire (twoDevices true) (exclusiveLease 2 4) 1 1 true).1 =
      firstLeased.takeFence.enlist (twoDevices true) (exclusiveLease 2 4) (leaseAt (twoDevices true) 2 4 1) := by
  have admitted : firstLeased.admission (twoDevices true) (exclusiveLease 2 4) true =
      .ok ([⟨.device, 4⟩], [⟨.rack, 7⟩, ⟨.device, 4⟩]) := rfl
  exact congrArg Prod.fst (acquire_issues rfl rfl rfl admitted rfl)

private theorem twoLeases_registry : afterCalls {} 1 twoLeases =
    firstLeased.takeFence.enlist (twoDevices true) (exclusiveLease 2 4) (leaseAt (twoDevices true) 2 4 1) := by
  rw [← second_lease_issued, ← first_lease_issued]
  rfl

private theorem twoLeases_usable :
    (afterCalls {} 1 twoLeases).validate (twoDevices true) (leaseAt (twoDevices false) 1 3 0).token 2 =
        .ok (leaseAt (twoDevices false) 1 3 0) ∧
      (afterCalls {} 1 twoLeases).validate (twoDevices true) (leaseAt (twoDevices true) 2 4 1).token 3 =
        .ok (leaseAt (twoDevices true) 2 4 1) := by
  have incarnation : (afterCalls {} 1 twoLeases).incarnation = 1 := rfl
  have same : basisInput (twoDevices true) [⟨.device, 3⟩] = basisInput (twoDevices false) [⟨.device, 3⟩] := rfl
  have first : Honoured (twoDevices true) 1 2 (leaseAt (twoDevices false) 1 3 0) [⟨.device, 3⟩] := by
    refine ⟨rfl, by decide, rfl, by decide, rfl, rfl, ?_, rfl⟩
    rw [authorityBasisDigest_eq, same, ← authorityBasisDigest_eq]
    rfl
  have second : Honoured (twoDevices true) 1 3 (leaseAt (twoDevices true) 2 4 1) [⟨.device, 4⟩] :=
    ⟨rfl, by decide, rfl, by decide, rfl, rfl, rfl, rfl⟩
  rw [twoLeases_registry] at incarnation ⊢
  constructor
  · have held : (firstLeased.takeFence.enlist (twoDevices true) (exclusiveLease 2 4)
        (leaseAt (twoDevices true) 2 4 1)).grants[(leaseAt (twoDevices false) 1 3 0).id]? =
          some (leaseAt (twoDevices false) 1 3 0) := by
      rw [enlist_rewrites, if_neg (by decide)]
      exact enlist_own _ _ (exclusiveLease 1 3) _
    rw [← incarnation] at first
    exact first.checkLease rfl rfl held
  · exact enlist_usable _ _ _ rfl rfl second

/-- The two leases rest on inputs of different digests. -/
private theorem twoLeases_collisionFree :
    ∀ a ∈ basisInputs (twoDevices true :: issuingSnapshots twoLeases) (requestedScopes twoLeases),
      ∀ b ∈ basisInputs (twoDevices true :: issuingSnapshots twoLeases) (requestedScopes twoLeases),
        Blake2s256.hash a = Blake2s256.hash b → a = b := by
  have inputs : ∀ input ∈ basisInputs (twoDevices true :: issuingSnapshots twoLeases) (requestedScopes twoLeases),
      input = basisInput (twoDevices true) [⟨.device, 3⟩] ∨ input = basisInput (twoDevices true) [⟨.device, 4⟩] := by
    decide +kernel
  have apart : Blake2s256.hash (basisInput (twoDevices true) [⟨.device, 3⟩]) ≠
      Blake2s256.hash (basisInput (twoDevices true) [⟨.device, 4⟩]) := by decide +kernel
  intro a first b second same
  rcases inputs a first with rfl | rfl
  · rcases inputs b second with rfl | rfl
    · rfl
    · exact absurd same apart
  · rcases inputs b second with rfl | rfl
    · exact absurd same.symm apart
    · rfl

theorem usable_leases_apart_joined :
    (afterCalls {} 1 twoLeases).validate (twoDevices true) (leaseAt (twoDevices false) 1 3 0).token 2 =
        .ok (leaseAt (twoDevices false) 1 3 0) ∧
      (afterCalls {} 1 twoLeases).validate (twoDevices true) (leaseAt (twoDevices true) 2 4 1).token 3 =
        .ok (leaseAt (twoDevices true) 2 4 1) ∧
      ∃ scopeA scopeB, expandScope (twoDevices true) ⟨.device, 3⟩ = .ok scopeA ∧
        expandScope (twoDevices true) ⟨.device, 4⟩ = .ok scopeB ∧ ∀ ref ∈ scopeA, ref ∉ scopeB := by
  have fits : Along perform FencesFit { incarnation := 1 } twoLeases :=
    ⟨by unfold FencesFit; decide +kernel, by unfold FencesFit; decide +kernel, trivial⟩
  have sized : ∀ known ∈ twoDevices true :: issuingSnapshots twoLeases, known.Sized := by
    unfold Snapshot.Sized
    decide +kernel
  obtain ⟨first, second⟩ := twoLeases_usable
  refine ⟨first, second, ?_⟩
  exact usable_leases_apart (by decide) fits sized twoLeases_collisionFree first second (by decide) (.inl rfl)

end GrantRegistry

end RackFabric
