import RackFabric.Authority.Bookkeeping
import RackFabric.Net.ListableRun
import RackFabric.Net.ProtocolCodec

/-!
The grant listing. It carries every grant the registry holds, and grants that ended are kept for good, while the
decoder takes no more than its own bound: the listing can be read exactly as long as the registry is within it.
-/

namespace RackFabric

open Foundation ByteReader ByteWriter

/-- Every grant of the registry in id order. -/
def DaemonCore.queryGrants (core : DaemonCore) : GrantsResponse :=
  { code := .ok, entries := (core.grants.grants.toList.map Prod.snd).map GrantSummary.ofGrant }

/-- A writer that is large enough takes the listing, and the decoder accepts what it wrote. -/
def GrantsResponse.Readable (message : GrantsResponse) : Prop :=
  ∃ room, ∀ limit, room ≤ limit → ∃ written, GrantsResponse.encode message { limit := limit } = .ok written ∧
    ∃ accepted, GrantsResponse.decode written.buffer = .ok accepted

namespace GrantsResponse

/-- Entries that both ends of the listing take. -/
def Sound (message : GrantsResponse) : Prop :=
  (∀ entry ∈ message.entries, entry.scope.kind.Known ∧ Detail entry.reason) ∧ Detail message.detail

theorem seals_grants (message : GrantsResponse) :
    Seals (GrantsResponse.encode message) (listingBytes grantSummaryBytes message)
      ((∀ entry ∈ message.entries, Detail entry.reason) ∧ Detail message.detail) :=
  seals_listing (fun entry => (seals_grantSummary entry).encodes) message

/-- What the decoder accepts is the layout of a listing within its bound. -/
theorem decode_accepted {input rest : List UInt8} {message : GrantsResponse}
    (accepted : GrantsResponse.decode input = .ok (message, rest)) :
    (message.entries.length ≤ kLimits.maxGrants ∧ message.Sound) ∧ input = listingBytes grantSummaryBytes message := by
  obtain ⟨⟨⟨short, entries⟩, detail⟩, same⟩ := listing_accepted exact_grantSummary (by decide) accepted
  exact ⟨⟨short, entries, detail⟩, same⟩

theorem length_grantSummaryBytes (entry : GrantSummary) :
    (grantSummaryBytes entry).length = 135 + entry.reason.length := by
  simp only [grantSummaryBytes, refBytes, List.length_append, List.length_cons, List.length_nil,
    Blake2s256.length_le64, length_blobBytes, Digest.sized]
  omega

theorem length_entries_le (entries : List GrantSummary) :
    entries.length ≤ (entries.flatMap grantSummaryBytes).length := by
  induction entries with
  | nil => simp
  | cons entry rest ih =>
    rw [List.flatMap_cons, List.length_append, length_grantSummaryBytes, List.length_cons]
    omega

/-- Two listings with one layout have equally many entries, up to the width of the count. -/
theorem count_eq {first second : GrantsResponse}
    (same : listingBytes grantSummaryBytes first = listingBytes grantSummaryBytes second) :
    UInt32.ofNat first.entries.length = UInt32.ofNat second.entries.length := by
  unfold listingBytes listBytes at same
  have flags := List.append_inj_right same (by simp)
  have lists := List.append_inj_right flags (by simp)
  rw [List.append_assoc, List.append_assoc] at lists
  have counts := List.append_inj_left lists (by simp [length_le32])
  exact exact_u32.injective trivial trivial counts

/-- A listing of sound entries is readable exactly when the decoder's bound covers it. -/
theorem readable_iff {message : GrantsResponse} (sound : message.Sound) :
    message.Readable ↔ message.entries.length ≤ kLimits.maxGrants := by
  have acceptable : (∀ entry ∈ message.entries, Detail entry.reason) ∧ Detail message.detail :=
    ⟨fun entry member => (sound.1 entry member).2, sound.2⟩
  constructor
  · rintro ⟨room, encodes⟩
    obtain ⟨written, encoded, ⟨decoded, rest⟩, accepted⟩ := encodes room (Nat.le_refl room)
    rw [(seals_grants message).written encoded] at accepted
    obtain ⟨⟨short, decodedSound⟩, same⟩ := decode_accepted accepted
    have bound : kLimits.maxGrants = 8192 := rfl
    have counts := count_eq same
    -- so many bytes were accepted that the count on the wire cannot have wrapped
    have lengths := congrArg List.length same
    have small := @length_listBytes_le _ grantSummaryBytes decoded.entries 647 (fun entry member => by
      have detail : entry.reason.length ≤ 512 := (decodedSound.1 entry member).2.2
      rw [length_grantSummaryBytes]
      omega)
    have large := length_entries_le message.entries
    have tail : decoded.detail.length ≤ 512 := decodedSound.2.2
    have spelled : (listingBytes grantSummaryBytes decoded).length ≤ 6000000 := by
      simp only [listingBytes, List.length_append, List.length_cons, List.length_nil, length_le16, length_blobBytes]
      omega
    have whole : message.entries.length ≤ (listingBytes grantSummaryBytes message).length := by
      simp only [listingBytes, listBytes, List.length_append]
      omega
    have numbers := congrArg UInt32.toNat counts
    rw [UInt32.toNat_ofNat', UInt32.toNat_ofNat', Nat.mod_eq_of_lt (by omega), Nat.mod_eq_of_lt (by omega)] at numbers
    omega
  · intro short
    refine ⟨(listingBytes grantSummaryBytes message).length, ?_⟩
    intro limit large
    obtain ⟨written, encoded, buffer⟩ := (seals_grants message).encodes.succeeds acceptable large
    have opens := opens_listing exact_grantSummary (show kLimits.maxGrants < 2 ^ 32 by decide)
      "grants response is truncated" "grant list exceeds its bound"
    refine ⟨written, encoded, (message, []), ?_⟩
    rw [buffer]
    exact opens.reads message ⟨⟨short, sound.1⟩, sound.2⟩

end GrantsResponse

theorem DaemonCore.Listable.readable_iff {core : DaemonCore} (listable : core.Listable) :
    GrantsResponse.Readable core.queryGrants ↔ core.grants.grants.size ≤ kLimits.maxGrants := by
  have count : core.queryGrants.entries.length = core.grants.grants.size := by
    simp [DaemonCore.queryGrants, Std.ExtTreeMap.length_toList]
  rw [GrantsResponse.readable_iff, count]
  refine ⟨?_, GrantRegistry.detail_nil⟩
  intro entry member
  obtain ⟨grant, listed, rfl⟩ := List.mem_map.mp member
  obtain ⟨⟨id, held⟩, found, rfl⟩ := List.mem_map.mp listed
  exact listable.grants.entries id held (Std.ExtTreeMap.mem_toList_iff_getElem?_eq_some.mp found)

/-- In every state a run reaches, the grant listing can be read exactly when the registry holds no more grants, live
and ended, than the decoder takes. -/
theorem grant_listing_readable (config : DaemonConfig) (events : List Event) {core : DaemonCore}
    (reached : System.after config events = .up core) :
    GrantsResponse.Readable core.queryGrants ↔ core.grants.grants.size ≤ kLimits.maxGrants := by
  have listable := System.after_listable config events
  rw [reached] at listable
  exact DaemonCore.Listable.readable_iff listable

/-! ### A registry that fills up -/

namespace GrantRegistry

/-- No grant is live. -/
def AllEnded (registry : GrantRegistry) : Prop :=
  ∀ (id : UInt64) (grant : Grant), registry.grants[id]? = some grant → grant.isLive = false

/-- A spent registry with balanced books has nothing in use. -/
theorem AllEnded.free {registry : GrantRegistry} (spent : registry.AllEnded) (balanced : registry.Balanced) :
    registry.live = 0 ∧ registry.occupancyEntries = 0 ∧ ∀ ref, registry.committed.getD ref 0 = 0 := by
  refine ⟨?_, ?_, ?_⟩
  · rw [balanced.live]
    exact tally_eq_zero fun id grant held => by simp [Grant.counted, spent id grant held]
  · rw [balanced.entries]
    refine tally_eq_zero ?_
    intro id scope found
    obtain ⟨-, grant, held, live⟩ := balanced.footprints id scope found
    rw [spent id grant held] at live
    cases live
  · intro ref
    apply UInt64.toNat_inj.mp
    rw [balanced.committed ref]
    exact tally_eq_zero fun id grant held => by simp [Grant.demand, spent id grant held]

theorem AllEnded.checkConflicts {registry : GrantRegistry} (spent : registry.AllEnded) (mode : GrantMode)
    (refs : List ResourceRef) : registry.checkConflicts mode refs = .ok () := by
  induction refs with
  | nil => rfl
  | cons ref rest ih =>
    have none : registry.conflictOn mode ref = none := by
      apply List.find?_eq_none.mpr
      intro occupant _
      cases held : registry.grants[occupant.id]? with
      | none => simp
      | some grant => simp [spent occupant.id grant held]
    rw [GrantRegistry.checkConflicts, none]
    exact ih

/-- A request for nothing but a lease of one tick on a rack with a free pool is admitted by a spent registry. -/
theorem AllEnded.admits {registry : GrantRegistry} (spent : registry.AllEnded) (balanced : registry.Balanced)
    (limits : registry.limits = {}) (memory : registry.outcomes.size < 65536) {snapshot : Snapshot} {scope : ResourceRef}
    {base : UInt64} (valid : snapshot.valid = true) (rooted : scope.kind = .rack)
    (expands : expandScope snapshot scope = .ok [scope]) (eligible : checkEligible snapshot [scope] = .ok ())
    (pools : capacityPoolRefs snapshot scope = .ok [scope]) (based : poolBase snapshot scope = .ok base)
    {request : GrantRequest} (named : request.principal ≠ 0) (asked : request.scope = scope)
    (brief : request.ttlMs = 1) (light : request.capacity = 0) :
    registry.admission snapshot request true = .ok ([scope], [scope]) := by
  obtain ⟨live, entries, committed⟩ := spent.free balanced
  have identified : ¬ (request.scope.id = 0 ∧ request.scope.kind ≠ .rack) := by
    rw [asked]
    exact fun both => both.2 rooted
  have within : (decide (request.ttlMs < registry.limits.minTtlMs) || decide (request.ttlMs > registry.limits.maxTtlMs))
      = false := by
    rw [brief, limits]
    decide
  have room : ¬ registry.live ≥ registry.limits.maxLiveGrants := by
    rw [live, limits]
    decide
  have remembers : ¬ registry.outcomes.size ≥ registry.limits.maxRememberedRequests := by
    rw [limits]
    exact Nat.not_le.mpr memory
  have indexed : ¬ registry.occupancyEntries + [scope].length > registry.limits.maxOccupancyEntries := by
    rw [entries, limits, List.length_singleton]
    decide
  have free : registry.available snapshot scope = .ok base := by
    have whole : checkedSubU64 base 0 = some base := by
      rw [checkedSubU64, if_neg (by simp), UInt64.sub_zero]
    simp only [available, valid, Bool.not_true, Bool.false_eq_true, if_false, based, committed, whole]
  have capacity : registry.checkCapacity snapshot request.capacity [scope] = .ok () := by
    simp only [checkCapacity, free, light]
    rw [if_neg (by simp)]
  unfold admission
  dsimp only
  rw [if_neg (by simpa using named), if_neg identified, if_neg (by simp [within]), if_neg (by simp), if_neg room,
    if_neg remembers, asked]
  simp only [expands]
  rw [if_neg indexed, eligible, spent.checkConflicts]
  simp only [pools, capacity]
  rfl

/-- A registry of `count` grants that took nothing, numbered from one and all past their deadlines at twice the
number after the last. -/
structure Leased (count : Nat) (registry : GrantRegistry) : Prop where
  ordered : registry.InOrder
  limits : registry.limits = {}
  fence : registry.nextFence.toNat = count
  entries : ∀ (id : UInt64) (grant : Grant), registry.grants[id]? = some grant →
    grant.capacity = 0 ∧ grant.expiresAtMs.toNat < 2 * (count + 1)
  numbered : ∀ id : UInt64, 1 ≤ id.toNat → id.toNat ≤ count → id ∈ registry.grants
  remembered : ∀ request, request ∈ registry.outcomes → request.lo.toNat ≤ count
  memory : registry.outcomes.size ≤ count

theorem leased_empty (incarnation : UInt64) : Leased 0 { limits := {}, incarnation := incarnation } := by
  refine ⟨inOrder_empty {} incarnation, rfl, rfl, ?_, ?_, ?_, ?_⟩
  · intro id grant found
    simp at found
  · intro id positive small
    omega
  · intro request member
    simp at member
  · simp

/-- Once their deadlines have passed, expiry ends all of them and keeps them. -/
theorem Leased.expire {count : Nat} {registry : GrantRegistry} (leased : registry.Leased count) {now : UInt64}
    (late : now.toNat = 2 * (count + 1)) :
    (registry.expireDue now).1.Leased count ∧ (registry.expireDue now).1.AllEnded := by
  have keyed := leased.ordered.balanced.keyed
  have swept := expireDue_swept keyed now
  have trims := expireDue_trims keyed now
  have fence : (registry.expireDue now).1.nextFence = registry.nextFence := swept.around.nextFence
  have source : ∀ (id : UInt64) (grant : Grant), (registry.expireDue now).1.grants[id]? = some grant →
      ∃ earlier, registry.grants[id]? = some earlier ∧ grant = expireRewrite now earlier := by
    intro id grant found
    rw [swept.entries id] at found
    obtain ⟨earlier, held, rfl⟩ := Option.map_eq_some_iff.mp found
    exact ⟨earlier, held, rfl⟩
  constructor
  · refine ⟨⟨trims.balanced leased.ordered.balanced, ?_⟩, swept.around.limits.trans leased.limits, ?_, ?_, ?_, ?_, ?_⟩
    · intro id member
      rw [fence]
      exact leased.ordered.numbered id ((trims.mem_iff id).mp member)
    · rw [fence]
      exact leased.fence
    · intro id grant found
      obtain ⟨earlier, held, rfl⟩ := source id grant found
      unfold expireRewrite
      split
      · exact leased.entries id earlier held
      · exact leased.entries id earlier held
    · intro id positive small
      exact (trims.mem_iff id).mpr (leased.numbered id positive small)
    · rw [swept.around.outcomes]
      exact leased.remembered
    · rw [swept.around.outcomes]
      exact leased.memory
  · intro id grant found
    obtain ⟨earlier, held, rfl⟩ := source id grant found
    have past : earlier.expiresAtMs ≤ now := by
      rw [UInt64.le_iff_toNat_le, late]
      exact Nat.le_of_lt (leased.entries id earlier held).2
    unfold expireRewrite
    by_cases live : earlier.isLive = true
    · rw [if_pos (by simp [isDue, live, past])]
      rfl
    · rw [if_neg (by simp [isDue, live])]
      simpa using live

/-- A spent registry takes up one more. -/
theorem Leased.issue {count : Nat} {registry : GrantRegistry} (leased : registry.Leased count)
    (few : count < 60000) (snapshot : Snapshot) {request : GrantRequest} (incarnation now : UInt64) {deadline : UInt64}
    (expanded pool : List ResourceRef) (light : request.capacity = 0) (own : request.request.lo.toNat = count + 1)
    (brief : deadline.toNat < 2 * (count + 2)) :
    (registry.takeFence.enlist snapshot request (issuedGrant snapshot request incarnation now deadline
      registry.takeFence.nextFence expanded pool)).Leased (count + 1) := by
  have room : registry.nextFence.toNat + 1 < 2 ^ 64 := by
    rw [leased.fence]
    omega
  have next : registry.takeFence.nextFence.toNat = count + 1 := by
    have step : registry.takeFence.nextFence = registry.nextFence + 1 := rfl
    rw [step, toNat_succ room, leased.fence]
  have fresh : registry.takeFence.nextFence ∉ registry.grants := leased.ordered.tidy.unused room
  generalize taken : issuedGrant snapshot request incarnation now deadline registry.takeFence.nextFence expanded pool
    = grant
  have id : grant.id = registry.takeFence.nextFence := by rw [← taken]; rfl
  have capacity : grant.capacity = 0 := by rw [← taken]; exact light
  have expires : grant.expiresAtMs = deadline := by rw [← taken]; rfl
  have active : grant.state = .active := by rw [← taken]; rfl
  have live : grant.isLive = true := by rw [Grant.isLive, active]; rfl
  have aside := enlist_aside registry snapshot request active
  have grants : (registry.takeFence.enlist snapshot request grant).grants = registry.grants.insert grant.id grant :=
    aside.grants
  have rewrites : Rewrites registry (registry.takeFence.enlist snapshot request grant) grant.id grant :=
    rewrites_of_insert grants
  have light : ∀ (id : UInt64) (entry : Grant), (registry.grants.insert grant.id grant)[id]? = some entry →
      entry.capacity = 0 := by
    intro other entry found
    rw [← grants, rewrites other] at found
    split at found
    · cases found
      exact capacity
    · exact (leased.entries other entry found).1
  have within : WithinRange (registry.grants.insert grant.id grant) := by
    constructor
    · intro ref
      rw [tally_eq_zero fun id entry found => by simp [Grant.demand, light id entry found]]
      decide
    · rw [tally_eq_zero fun id entry found => by simp [Grant.drawn, light id entry found]]
      decide
  have books := attach_sameBooks registry.takeFence snapshot grant
  have fence : (registry.takeFence.enlist snapshot request grant).nextFence = registry.takeFence.nextFence :=
    books.nextFence
  have outcomes : ∃ outcome, (registry.takeFence.enlist snapshot request grant).outcomes =
      registry.outcomes.insert request.request outcome := by
    have same : (registry.takeFence.attach snapshot grant).outcomes = registry.outcomes := books.outcomes
    rw [← same]
    exact ⟨_, rfl⟩
  obtain ⟨outcome, outcomes⟩ := outcomes
  refine ⟨⟨(leased.ordered.balanced.enroll snapshot (id ▸ fresh) live within).aside aside, ?_⟩,
    books.limits.trans leased.limits, by rw [fence, next], ?_, ?_, ?_, ?_⟩
  · refine leased.ordered.numbered.insert grants ?_ ?_
    · rw [fence, next, leased.fence]
      omega
    · rw [fence, id]
  · intro other entry found
    refine ⟨light other entry (grants ▸ found), ?_⟩
    rw [rewrites other] at found
    split at found
    · cases found
      rw [expires]
      exact brief
    · have earlier := (leased.entries other entry found).2
      omega
  · intro other positive small
    rw [grants, mem_insert_grants]
    by_cases last : other.toNat = count + 1
    · left
      rw [id]
      apply UInt64.toNat_inj.mp
      rw [next, last]
    · exact .inr (leased.numbered other positive (by omega))
  · intro known member
    rw [outcomes, Std.ExtTreeMap.mem_insert, Std.LawfulEqCmp.compare_eq_iff_eq] at member
    rcases member with rfl | member
    · exact Nat.le_of_eq own
    · exact Nat.le_succ_of_le (leased.remembered known member)
  · rw [outcomes]
    exact Nat.le_trans Std.ExtTreeMap.size_insert_le (Nat.succ_le_succ leased.memory)

end GrantRegistry

namespace DaemonCore

theorem appendLocked_unstored {core : DaemonCore} (unstored : core.store = none) (record : StoreRecord) :
    core.appendLocked record = (core, .ok ()) := by
  simp only [appendLocked, unstored]

theorem expireDueLocked_unstored {core : DaemonCore} (unstored : core.store = none) (now : UInt64) :
    core.expireDueLocked now = { core with grants := (core.grants.expireDue now).1 } := by
  have same : ∀ (ids : List UInt64) (core : DaemonCore), core.store = none →
      ids.foldl (fun core id => (core.appendLocked (core.expiryRecord id)).1) core = core := by
    intro ids
    induction ids with
    | nil => exact fun _ _ => rfl
    | cons id rest ih =>
      intro core unstored
      rw [List.foldl_cons, appendLocked_unstored unstored]
      exact ih core unstored
  exact same _ _ unstored

theorem enter_unstored {core : DaemonCore} (unstored : core.store = none) (io : List IoOutcome) :
    core.enter io = core := by
  cases core
  cases unstored
  rfl

/-- Without a store, a request reaches the registry alone. -/
theorem acquire_unstored {core : DaemonCore} (unstored : core.store = none) (valid : core.snapshot.valid = true)
    (now : UInt64) (request : AcquireRequest) :
    (core.acquire now request).1 = { core with
      grants := ((core.grants.expireDue now).1.acquire core.snapshot (core.grantRequestOf request) core.incarnation now
        (lifecycleAcceptsNewAuthority core.lifecycle)).1 } := by
  simp only [acquire, expireDueLocked_unstored unstored, ensureSnapshotLocked, valid, if_true]
  cases acquired : (core.grants.expireDue now).1.acquire core.snapshot (core.grantRequestOf request) core.incarnation
      now (lifecycleAcceptsNewAuthority core.lifecycle) with
  | mk registry granted =>
    have asked : grantRequestOf { core with grants := (core.grants.expireDue now).1 } request =
        core.grantRequestOf request := rfl
    rw [asked, acquired]
    cases granted with
    | error status => rfl
    | ok grant => simp only [commitGrant, appendLocked, maybeCheckpointLocked, unstored]

end DaemonCore

/-- A daemon without a store, whose rack has no member. -/
def bareRack : DaemonConfig :=
  { rack := { rack := 7 } }

def openedRun : List Event :=
  [.start 0, .call 0 (.setLifecycle .active)]

def leaseRequest (number : Nat) : AcquireRequest :=
  { request := ⟨0, .ofNat number⟩, principal := 1, scope := ⟨.rack, 7⟩, mode := .shared, capacity := 0, ttlMs := 1 }

/-- Leases of one tick on the whole rack, two ticks apart: each request finds the lease before it expired. -/
def leaseRun (count : Nat) : List Event :=
  openedRun ++ (List.range count).map fun past => .call (.ofNat (2 * (past + 1))) (.acquire (leaseRequest (past + 1)))

/-- The daemon once the rack is active. -/
def bareCore : DaemonCore :=
  match System.after bareRack openedRun with
  | .up core => core
  | .down _ => .create bareRack

theorem after_openedRun : System.after bareRack openedRun = .up bareCore := by
  have running : (match System.after bareRack openedRun with
    | .up _ => true
    | .down _ => false) = true := by rfl
  unfold bareCore
  cases reached : System.after bareRack openedRun with
  | up core => rfl
  | down disk =>
    rw [reached] at running
    cases running

theorem bareCore_grants : bareCore.grants.Leased 0 := by
  have blank : (bareCore.grants.grants.isEmpty ∧ bareCore.grants.outcomes.isEmpty ∧ bareCore.grants.occupancy.isEmpty ∧
      bareCore.grants.footprints.isEmpty ∧ bareCore.grants.committed.isEmpty) ∧ bareCore.grants.limits = {} ∧
      bareCore.grants.occupancyEntries = 0 ∧ bareCore.grants.committedTotal = 0 ∧ bareCore.grants.nextFence = 0 ∧
      bareCore.grants.incarnation = 1 ∧ bareCore.grants.live = 0 ∧ bareCore.grants.recovering = 0 := by decide +kernel
  have same : bareCore.grants = { limits := {}, incarnation := 1 } := by
    generalize bareCore.grants = registry at blank
    cases registry
    simpa [GrantRegistry.mk.injEq, and_assoc, and_comm, and_left_comm] using blank
  rw [same]
  exact GrantRegistry.leased_empty 1

/-- A daemon without a store that leases its whole rack to anyone. -/
structure DaemonCore.Ready (core : DaemonCore) : Prop where
  unstored : core.store = none
  valid : core.snapshot.valid = true
  open_ : lifecycleAcceptsNewAuthority core.lifecycle = true
  expands : expandScope core.snapshot ⟨.rack, 7⟩ = .ok [⟨.rack, 7⟩]
  eligible : GrantRegistry.checkEligible core.snapshot [⟨.rack, 7⟩] = .ok ()
  pools : capacityPoolRefs core.snapshot ⟨.rack, 7⟩ = .ok [⟨.rack, 7⟩]
  based : ∃ base, GrantRegistry.poolBase core.snapshot ⟨.rack, 7⟩ = .ok base

theorem bareCore_ready : bareCore.Ready := by
  have unstored : bareCore.store.isNone = true := by decide +kernel
  have known : (GrantRegistry.poolBase bareCore.snapshot ⟨.rack, 7⟩).isOk = true := by decide +kernel
  refine ⟨by simpa using unstored, ?_, ?_, ?_, ?_, ?_, ?_⟩
  · decide +kernel
  · decide +kernel
  · decide +kernel
  · decide +kernel
  · decide +kernel
  · cases base : GrantRegistry.poolBase bareCore.snapshot ⟨.rack, 7⟩ with
    | error status =>
      rw [base] at known
      cases known
    | ok value => exact ⟨value, rfl⟩

/-- One more lease is granted, and the earlier ones are kept. -/
theorem DaemonCore.Ready.lease {core : DaemonCore} (ready : core.Ready) {registry : GrantRegistry} {count : Nat}
    (leased : registry.Leased count) (few : count < 60000) :
    ∃ next : GrantRegistry, next.Leased (count + 1) ∧
      System.step bareRack (.up { core with grants := registry })
        (.call (.ofNat (2 * (count + 1))) (.acquire (leaseRequest (count + 1)))) = .up { core with grants := next } := by
  have late : (UInt64.ofNat (2 * (count + 1))).toNat = 2 * (count + 1) := by
    rw [UInt64.toNat_ofNat']
    omega
  have number : (UInt64.ofNat (count + 1)).toNat = count + 1 := by
    rw [UInt64.toNat_ofNat']
    omega
  generalize UInt64.ofNat (2 * (count + 1)) = now at late ⊢
  obtain ⟨base, based⟩ := ready.based
  obtain ⟨ended, spent⟩ := leased.expire late
  have few' := ended.memory
  generalize held : ({ core with grants := registry } : DaemonCore) = before
  generalize request : before.grantRequestOf (leaseRequest (count + 1)) = wanted
  have asked : wanted.request = ⟨0, .ofNat (count + 1)⟩ ∧ wanted.principal = 1 ∧ wanted.scope = ⟨.rack, 7⟩ ∧
      wanted.capacity = 0 ∧ wanted.ttlMs = 1 := by
    rw [← request]
    exact ⟨rfl, rfl, rfl, rfl, rfl⟩
  obtain ⟨named, principal, scope, capacity, ttl⟩ := asked
  have own : wanted.request.lo.toNat = count + 1 := by rw [named, number]
  have identified : wanted.request.isSet = true := by
    have positive : wanted.request.lo ≠ 0 := by
      intro zero
      rw [zero] at own
      cases own
    simp [RequestId.isSet, positive]
  have fresh : (registry.expireDue now).1.outcomes[wanted.request]? = none := by
    apply Std.ExtTreeMap.getElem?_eq_none
    intro member
    have known := ended.remembered _ member
    omega
  have admitted : (registry.expireDue now).1.admission core.snapshot wanted true =
      .ok ([⟨.rack, 7⟩], [⟨.rack, 7⟩]) :=
    spent.admits ended.ordered.balanced ended.limits (by omega) ready.valid rfl ready.expands ready.eligible ready.pools
      based (by rw [principal]; decide) scope ttl capacity
  have deadline : checkedAddU64 now wanted.ttlMs = some (now + 1) := by
    rw [ttl]
    apply checkedAddU64_eq
    have one : (1 : UInt64).toNat = 1 := rfl
    omega
  have brief : (now + 1).toNat < 2 * (count + 2) := by
    rw [GrantRegistry.toNat_succ (by omega), late]
    omega
  have unstored : before.store = none := by
    rw [← held]
    exact ready.unstored
  have valid : before.snapshot.valid = true := by
    rw [← held]
    exact ready.valid
  refine ⟨_, ended.issue few core.snapshot core.incarnation now [⟨.rack, 7⟩] [⟨.rack, 7⟩] capacity own brief, ?_⟩
  change System.up ((before.enter []).acquire now (leaseRequest (count + 1))).1 = _
  rw [enter_unstored unstored, acquire_unstored unstored valid, request, ← held]
  simp only [ready.open_, GrantRegistry.acquire, ready.valid, identified, fresh, admitted, GrantRegistry.issue, deadline,
    Bool.not_true, Bool.false_eq_true, if_false]

/-- Every lease of the run is granted, ends before the next one is asked for, and is kept. -/
theorem after_leaseRun {count : Nat} (few : count ≤ 60000) :
    ∃ registry, System.after bareRack (leaseRun count) = .up { bareCore with grants := registry } ∧
      registry.Leased count := by
  induction count with
  | zero =>
    have run : leaseRun 0 = openedRun := rfl
    refine ⟨bareCore.grants, ?_, bareCore_grants⟩
    rw [run, after_openedRun]
  | succ count ih =>
    obtain ⟨registry, reached, leased⟩ := ih (by omega)
    obtain ⟨next, grown, served⟩ := bareCore_ready.lease leased (by omega)
    have events : leaseRun (count + 1) = leaseRun count ++
        [.call (.ofNat (2 * (count + 1))) (.acquire (leaseRequest (count + 1)))] := by
      simp only [leaseRun, List.range_succ, List.map_append, List.map_cons, List.map_nil, List.append_assoc]
    refine ⟨next, ?_, grown⟩
    rw [events, System.after, Foundation.run_append]
    exact (congrArg (fun system => System.step bareRack system _) reached).trans served

theorem GrantRegistry.Leased.size {registry : GrantRegistry} {count : Nat} (leased : registry.Leased count)
    (few : count ≤ 60000) : count ≤ registry.grants.size := by
  have numbers : ((List.range count).map fun past => UInt64.ofNat (past + 1)).Nodup := by
    refine List.Nodup.map_on ?_ List.nodup_range
    intro first listed second also same
    rw [List.mem_range] at listed also
    have codes := congrArg UInt64.toNat same
    rw [UInt64.toNat_ofNat', UInt64.toNat_ofNat'] at codes
    omega
  have held : ((List.range count).map fun past => UInt64.ofNat (past + 1)) ⊆ registry.grants.keys := by
    intro id member
    obtain ⟨past, listed, rfl⟩ := List.mem_map.mp member
    rw [List.mem_range] at listed
    have number : (UInt64.ofNat (past + 1)).toNat = past + 1 := by
      rw [UInt64.toNat_ofNat']
      omega
    exact Std.ExtTreeMap.mem_keys.mpr (leased.numbered _ (by omega) (by omega))
  have fits := (List.subperm_of_subset numbers held).length_le
  rwa [List.length_map, List.length_range, Std.ExtTreeMap.length_keys] at fits

/-- More leases that came and went than the decoder takes leave a listing that it refuses. -/
theorem leaseRun_refused {count : Nat} (few : count ≤ 60000) (crowded : kLimits.maxGrants < count) :
    ∃ core, System.after bareRack (leaseRun count) = .up core ∧ ¬ GrantsResponse.Readable core.queryGrants := by
  obtain ⟨registry, reached, leased⟩ := after_leaseRun few
  refine ⟨_, reached, ?_⟩
  have listable := System.after_listable bareRack (leaseRun count)
  rw [reached] at listable
  rw [DaemonCore.Listable.readable_iff listable]
  have size := leased.size few
  change ¬ registry.grants.size ≤ kLimits.maxGrants
  omega

/-- With every limit at its default, the listing of 8193 ended leases is refused. -/
theorem crowded_listing_refused :
    bareRack.authorityLimits = {} ∧ ∃ core, System.after bareRack (leaseRun 8193) = .up core ∧
      ¬ GrantsResponse.Readable core.queryGrants :=
  ⟨rfl, leaseRun_refused (by decide) (by decide)⟩

/-- A registry with one lease is listed. -/
theorem short_listing_read : ∃ core, System.after bareRack (leaseRun 1) = .up core ∧
    GrantsResponse.Readable core.queryGrants := by
  have running : (match System.after bareRack (leaseRun 1) with
    | .up core => decide (core.grants.grants.size = 1)
    | .down _ => false) = true := by decide +kernel
  cases reached : System.after bareRack (leaseRun 1) with
  | down disk =>
    rw [reached] at running
    cases running
  | up core =>
    rw [reached] at running
    have one : core.grants.grants.size = 1 := by simpa using running
    refine ⟨core, rfl, (grant_listing_readable bareRack (leaseRun 1) reached).mpr ?_⟩
    rw [one]
    decide

end RackFabric
