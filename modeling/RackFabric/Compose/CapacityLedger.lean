import RackFabric.Compose.Passes
import RackFabric.Foundation.Tally

/-!
The capacity ledger of a snapshot as sums over the natural numbers: what each figure adds up, and that a composition
never trips over its own closing check.
-/

namespace RackFabric

open Foundation

variable {gathered : Gathered} {config : RackConfig} {ports : List PortRecord} {links : List LinkRecord}

/-! ### Devices -/

/-- What a device adds to the total. -/
def DeviceRecord.knownUnits (device : DeviceRecord) : Nat :=
  if device.capacityKnown then device.capacity.toNat else 0

/-- What a device adds to the capacity that no eligible usable device provides. -/
def DeviceRecord.withheldUnits (device : DeviceRecord) : Nat :=
  if device.eligibility ≠ .eligible ∨ !isUsable device.availability then device.knownUnits else 0

theorem withheldUnits_le (device : DeviceRecord) : device.withheldUnits ≤ device.knownUnits := by
  rw [DeviceRecord.withheldUnits]
  split
  · exact Nat.le_refl _
  · exact Nat.zero_le _

theorem addDeviceCapacity_adds {sums next : UInt64 × UInt64} {device : DeviceRecord}
    (added : addDeviceCapacity sums device = .ok next) :
    next.1.toNat = sums.1.toNat + device.knownUnits ∧ next.2.toNat = sums.2.toNat + device.withheldUnits := by
  obtain ⟨total, unavailable⟩ := sums
  by_cases known : device.capacityKnown = true
  · simp only [addDeviceCapacity, known, Bool.not_true, Bool.false_eq_true, if_false] at added
    split at added
    · cases added
    · rename_i nextTotal sum
      by_cases withheld : device.eligibility ≠ .eligible ∨ !isUsable device.availability
      · rw [if_pos withheld] at added
        split at added
        · cases added
        · rename_i nextUnavailable also
          cases added
          rw [DeviceRecord.withheldUnits, if_pos withheld, DeviceRecord.knownUnits, if_pos known]
          exact ⟨checkedAddU64_toNat sum, checkedAddU64_toNat also⟩
      · rw [if_neg withheld] at added
        cases added
        rw [DeviceRecord.withheldUnits, if_neg withheld, DeviceRecord.knownUnits, if_pos known]
        exact ⟨checkedAddU64_toNat sum, rfl⟩
  · simp only [addDeviceCapacity, known, Bool.not_false, if_true] at added
    cases added
    simp [DeviceRecord.withheldUnits, DeviceRecord.knownUnits, known]

theorem foldlM_addDeviceCapacity {devices : List DeviceRecord} {sums : UInt64 × UInt64}
    (ran : devices.foldlM addDeviceCapacity (0, 0) = .ok sums) :
    sums.1.toNat = (devices.map DeviceRecord.knownUnits).sum ∧
      sums.2.toNat = (devices.map DeviceRecord.withheldUnits).sum := by
  have total := foldlM_adds (fun sums : UInt64 × UInt64 => sums.1.toNat) DeviceRecord.knownUnits
    (fun state device next added => (addDeviceCapacity_adds added).1) ran
  have unavailable := foldlM_adds (fun sums : UInt64 × UInt64 => sums.2.toNat) DeviceRecord.withheldUnits
    (fun state device next added => (addDeviceCapacity_adds added).2) ran
  simp only [UInt64.toNat_zero, Nat.zero_add] at total unavailable
  exact ⟨total, unavailable⟩

theorem sum_withheld_le (devices : List DeviceRecord) :
    (devices.map DeviceRecord.withheldUnits).sum ≤ (devices.map DeviceRecord.knownUnits).sum := by
  induction devices with
  | nil => exact Nat.le_refl _
  | cons device rest ih =>
    simp only [List.map_cons, List.sum_cons]
    exact Nat.add_le_add (withheldUnits_le device) ih

/-- The units of the chosen devices whose capacity is known. -/
theorem sum_known (chosen : DeviceRecord → Bool) (devices : List DeviceRecord) :
    (devices.map fun device => if chosen device then device.knownUnits else 0).sum =
      ((devices.filter fun device => device.capacityKnown && chosen device).map
        fun device => device.capacity.toNat).sum := by
  induction devices with
  | nil => rfl
  | cons device rest ih =>
    rw [List.map_cons, List.sum_cons, ih, List.filter_cons]
    by_cases taken : chosen device = true
    · by_cases known : device.capacityKnown = true
      · simp [taken, known, DeviceRecord.knownUnits]
      · simp [taken, known, DeviceRecord.knownUnits]
    · simp [taken]

/-! ### Obligations -/

theorem composeObligation_adds {pass next : ObligationPass} {entry : UInt64 × ResourceRef × Selection ObligationClaim}
    (balanced : tally UInt64.toNat pass.obligatedByTarget =
      (pass.obligations.map fun record => record.capacity.toNat).sum)
    (stepped : composeObligation gathered config ports links pass entry = .ok next) :
    tally UInt64.toNat next.obligatedByTarget = (next.obligations.map fun record => record.capacity.toNat).sum := by
  obtain ⟨id, target, selection⟩ := entry
  simp only [composeObligation] at stepped
  split at stepped
  · cases stepped
    exact balanced
  · split at stepped
    · cases stepped
    · rename_i sum added
      cases stepped
      have written := tally_insert UInt64.toNat pass.obligatedByTarget target sum
      have units := checkedAddU64_toNat added
      rw [Std.ExtTreeMap.getD_eq_getD_getElem?] at units
      simp only [List.map_append, List.map_cons, List.map_nil, List.sum_append, List.sum_cons, List.sum_nil]
      cases bucket : pass.obligatedByTarget[target]? with
      | none =>
        rw [bucket] at written units
        simp only [Option.elim_none, Option.getD_none, UInt64.toNat_zero] at written units
        omega
      | some amount =>
        rw [bucket] at written units
        simp only [Option.elim_some, Option.getD_some] at written units
        omega

/-- The buckets of the obligations hold what the published obligations add up to. -/
theorem composeObligations_adds {diagnostics : Diagnostics} {pass : ObligationPass}
    (composed : composeObligations gathered config ports links diagnostics = .ok pass) :
    tally UInt64.toNat pass.obligatedByTarget = (pass.obligations.map fun record => record.capacity.toNat).sum := by
  have run : ∀ (entries : List (UInt64 × ResourceRef × Selection ObligationClaim)) (start after : ObligationPass),
      tally UInt64.toNat start.obligatedByTarget =
        (start.obligations.map fun record => record.capacity.toNat).sum →
      entries.foldlM (composeObligation gathered config ports links) start = .ok after →
      tally UInt64.toNat after.obligatedByTarget =
        (after.obligations.map fun record => record.capacity.toNat).sum := by
    intro entries
    induction entries with
    | nil =>
      intro start after balanced ran
      cases ran
      exact balanced
    | cons entry rest ih =>
      intro start after balanced ran
      rw [List.foldlM_cons] at ran
      obtain ⟨next, stepped, ran⟩ := bind_eq_ok.mp ran
      exact ih next after (composeObligation_adds balanced stepped) ran
  obtain ⟨after, ran, published⟩ := bind_eq_ok.mp composed
  cases published
  have balanced := run _ _ after (by simp) ran
  exact balanced.trans ((sortBy_perm _ _).map _).sum_eq.symm

theorem addObligated_adds {sum amount next : UInt64} (added : addObligated sum amount = .ok next) :
    next.toNat = sum.toNat + amount.toNat := by
  rw [addObligated] at added
  split at added
  · cases added
  · rename_i total adds
    cases added
    exact checkedAddU64_toNat adds

/-! ### The ledger -/

/-- The figures of a capacity ledger over the natural numbers. -/
structure CapacityLedger.Settled (ledger : CapacityLedger) : Prop where
  usable : ledger.unavailable.toNat + ledger.usable.toNat = ledger.total.toNat
  balance : ledger.usable.toNat + ledger.deficit.toNat =
    ledger.obligated.toNat + ledger.headroomFloor.toNat + ledger.uncommitted.toNat
  exclusive : ledger.deficit = 0 ∨ ledger.uncommitted = 0
  overcommitted : 0 < ledger.deficit ↔ ledger.usable.toNat < ledger.obligated.toNat + ledger.headroomFloor.toNat

/-- The closing check cannot fail on figures that close: none of its sums leaves 64 bits. -/
theorem CapacityLedger.Settled.closes {ledger : CapacityLedger} (settled : ledger.Settled)
    (room : ledger.obligated.toNat + ledger.headroomFloor.toNat < 2 ^ 64) : ledger.closes = true := by
  obtain ⟨usable, balance, exclusive, -⟩ := settled
  have whole := ledger.total.toNat_lt
  have kept := ledger.usable.toNat_lt
  have provided : ledger.unavailable + ledger.usable = ledger.total := by
    apply UInt64.toNat_inj.mp
    rw [UInt64.toNat_add]
    omega
  have covered : ledger.usable.toNat + ledger.deficit.toNat < 2 ^ 64 := by
    rcases exclusive with none | none
    · rw [none, UInt64.toNat_zero]
      omega
    · rw [balance, none, UInt64.toNat_zero]
      omega
  have claimed : (ledger.obligated + ledger.headroomFloor).toNat =
      ledger.obligated.toNat + ledger.headroomFloor.toNat := by
    rw [UInt64.toNat_add]
    omega
  have even : ledger.usable + ledger.deficit = ledger.obligated + ledger.headroomFloor + ledger.uncommitted := by
    apply UInt64.toNat_inj.mp
    rw [UInt64.toNat_add, UInt64.toNat_add, claimed, balance]
  rw [CapacityLedger.closes, checkedAddU64_eq (by omega)]
  simp only [provided, ne_eq, not_true_eq_false, if_false]
  rw [checkedAddU64_eq room, checkedAddU64_eq covered]
  dsimp only
  rw [checkedAddU64_eq (by omega), even]
  simp

/-- What composing the capacity ledger returns: the sums it was asked for, settled against the headroom. -/
structure CapacitySums (config : RackConfig) (devices : List DeviceRecord)
    (obligated : Std.ExtTreeMap ResourceRef UInt64) (ledger : CapacityLedger) : Prop where
  total : ledger.total.toNat = (devices.map DeviceRecord.knownUnits).sum
  unavailable : ledger.unavailable.toNat = (devices.map DeviceRecord.withheldUnits).sum
  obligated : ledger.obligated.toNat = tally UInt64.toNat obligated
  headroomFloor : ledger.headroomFloor = config.headroomFloor
  settled : ledger.Settled

/-- The headroom is taken from the capacity that is left, or what is missing is the deficit. -/
theorem settled_of_claim {total unavailable usable obligated headroom claimed : UInt64}
    (provided : unavailable.toNat + usable.toNat = total.toNat)
    (claim : claimed.toNat = obligated.toNat + headroom.toNat) :
    CapacityLedger.Settled {
      total := total
      unavailable := unavailable
      usable := usable
      obligated := obligated
      headroomFloor := headroom
      uncommitted := if claimed > usable then 0 else usable - claimed
      deficit := if claimed > usable then claimed - usable else 0 } := by
  by_cases exceeds : claimed > usable
  · have more : usable.toNat < claimed.toNat := UInt64.lt_iff_toNat_lt.mp exceeds
    have missing := toNat_sub_of_le (Nat.le_of_lt more)
    simp only [exceeds, if_true]
    constructor
    · exact provided
    · dsimp only
      rw [missing, UInt64.toNat_zero]
      omega
    · exact .inr rfl
    · dsimp only
      rw [UInt64.lt_iff_toNat_lt, missing, UInt64.toNat_zero]
      omega
  · have enough : claimed.toNat ≤ usable.toNat := UInt64.le_iff_toNat_le.mp (UInt64.not_lt.mp exceeds)
    have left := toNat_sub_of_le enough
    simp only [exceeds, if_false]
    constructor
    · exact provided
    · dsimp only
      rw [left, UInt64.toNat_zero]
      omega
    · exact .inl rfl
    · dsimp only
      rw [UInt64.lt_iff_toNat_lt, UInt64.toNat_zero]
      omega

/-- The codes a composition is refused with. -/
def ComposeRefusal (code : StatusCode) : Prop :=
  code = .invalidIdentity ∨ code = .resourceExhausted ∨ code = .outOfRange

theorem addDeviceCapacity_ensures (sums : UInt64 × UInt64) (device : DeviceRecord) :
    (addDeviceCapacity sums device).Ensures ComposeRefusal fun _ => True := by
  obtain ⟨total, unavailable⟩ := sums
  simp only [addDeviceCapacity]
  split
  · exact trivial
  · split
    · exact Result.Ensures.refuse (by simp [ComposeRefusal]) _
    · split
      · split
        · exact Result.Ensures.refuse (by simp [ComposeRefusal]) _
        · exact trivial
      · exact trivial

theorem addObligated_ensures (sum amount : UInt64) :
    (addObligated sum amount).Ensures ComposeRefusal fun _ => True := by
  rw [addObligated]
  split
  · exact Result.Ensures.refuse (by simp [ComposeRefusal]) _
  · exact trivial

theorem composeCapacity_ensures (config : RackConfig) (devices : List DeviceRecord)
    (obligated : Std.ExtTreeMap ResourceRef UInt64) (diagnostics : Diagnostics) :
    (composeCapacity config devices obligated diagnostics).Ensures ComposeRefusal
      fun composed => CapacitySums config devices obligated composed.1 := by
  apply Result.Ensures.bind (Result.Ensures.foldlM addDeviceCapacity_ensures devices (0, 0))
  intro sums counted _
  obtain ⟨total, unavailable⟩ := sums
  obtain ⟨provided, withheld⟩ := foldlM_addDeviceCapacity counted
  have covers : unavailable.toNat ≤ total.toNat := by
    rw [provided, withheld]
    exact sum_withheld_le devices
  have usable : unavailable.toNat + (total - unavailable).toNat = total.toNat := by
    rw [toNat_sub_of_le covers]
    omega
  simp only [checkedSubU64_eq covers]
  apply Result.Ensures.bind (Result.Ensures.foldlM addObligated_ensures obligated.values 0)
  intro owed summed _
  have owes := foldlM_adds UInt64.toNat UInt64.toNat (fun sum amount next => addObligated_adds) summed
  rw [UInt64.toNat_zero, Nat.zero_add, ← tally_values] at owes
  split
  · exact Result.Ensures.refuse (by simp [ComposeRefusal]) _
  · rename_i claimed claim
    have room := claimed.toNat_lt
    have settled := settled_of_claim usable (checkedAddU64_toNat claim)
    rw [checkedAddU64_toNat claim] at room
    simp only [decide_eq_true_eq, settled.closes room, Bool.not_true, Bool.false_eq_true, if_false]
    exact {
      total := provided
      unavailable := withheld
      obligated := owes
      headroomFloor := rfl
      settled := settled }

/-! ### The composition -/

theorem composeObligation_ensures (pass : ObligationPass)
    (entry : UInt64 × ResourceRef × Selection ObligationClaim) :
    (composeObligation gathered config ports links pass entry).Ensures ComposeRefusal fun _ => True := by
  obtain ⟨id, target, selection⟩ := entry
  simp only [composeObligation]
  split
  · exact trivial
  · split
    · exact Result.Ensures.refuse (by simp [ComposeRefusal]) _
    · exact trivial

theorem visitNeighbour_ensures (limits : ComposeLimits) (exits : List UInt64) (start linkId nextPort : UInt64)
    (search : PathSearch) :
    (visitNeighbour config limits exits start linkId nextPort search).Ensures ComposeRefusal fun _ => True := by
  simp only [visitNeighbour]
  split
  · exact trivial
  · split
    · exact trivial
    · split
      · split
        all_goals
          split
          · exact Result.Ensures.refuse (by simp [ComposeRefusal]) _
          · exact trivial
      · exact trivial

theorem searchLoop_ensures (limits : ComposeLimits) (adjacency : Adjacency) (exits : List UInt64) (start : UInt64)
    (fuel : Nat) (search : PathSearch) :
    (searchLoop config limits adjacency exits start fuel search).Ensures ComposeRefusal fun _ => True := by
  induction fuel generalizing search with
  | zero => exact trivial
  | succ fuel ih =>
    rw [searchLoop]
    split
    · exact trivial
    · dsimp only
      split
      · exact trivial
      · split
        · exact ih _
        · apply Result.Ensures.bind (visitNeighbour_ensures _ _ _ _ _ _)
          intro next _ _
          exact ih next

theorem searchFrom_ensures (limits : ComposeLimits) (adjacency : Adjacency) (exits starts : List UInt64)
    (search : PathSearch) :
    (searchFrom config limits adjacency exits starts search).Ensures ComposeRefusal fun _ => True := by
  induction starts generalizing search with
  | nil => exact trivial
  | cons start rest ih =>
    rw [searchFrom]
    apply Result.Ensures.bind (searchLoop_ensures _ _ _ _ _ _)
    intro next _ _
    split
    · exact trivial
    · exact ih next

theorem composePaths_ensures (limits : ComposeLimits) (attachments : List AttachmentRecord)
    (diagnostics : Diagnostics) :
    (composePaths config limits ports links attachments diagnostics).Ensures ComposeRefusal fun _ => True := by
  apply Result.Ensures.bind (searchFrom_ensures _ _ _ _ _)
  intro search _ _
  exact trivial

theorem checkBound_ensures (size limit : Nat) (detail : String) :
    (checkBound size limit detail).Ensures ComposeRefusal fun _ => True := by
  rw [checkBound]
  split
  · exact Result.Ensures.refuse (by simp [ComposeRefusal]) _
  · exact trivial

theorem checkRack_ensures (config : RackConfig) :
    (checkRack config).Ensures ComposeRefusal fun _ => True := by
  rw [checkRack]
  split
  · exact Result.Ensures.refuse (by simp [ComposeRefusal]) _
  · exact trivial

/-- An eligible device is in a usable state. -/
theorem composeDevices_usable {device : DeviceRecord} (member : device ∈ (composeDevices gathered).1)
    (eligible : device.eligibility = .eligible) : isUsable device.availability = true := by
  have gathering : ∀ device ∈ (gathered.members.toList.foldl (composeUnobserved gathered)
      (gathered.deviceClaims.toList.foldl (composeDevice gathered) ([], gathered.diagnostics))).1,
      device.eligibility = .eligible → isUsable device.availability = true := by
    refine foldl_publishes Prod.fst ?_ ?_
    · refine foldl_publishes Prod.fst ?_ ?_
      · intro device absent
        cases absent
      · intro state entry _ before
        simp only [composeDevice]
        split
        · exact before
        · intro device member eligible
          rcases List.mem_append.mp member with old | new
          · exact before device old eligible
          · rw [List.mem_singleton.mp new] at eligible ⊢
            dsimp only at eligible ⊢
            split at eligible
            · split at eligible <;> cases eligible
            · rename_i passed
              simp only [Bool.or_eq_true, not_or, Bool.not_eq_true, Bool.not_eq_false'] at passed
              exact passed.2
    · intro state entry _ before
      simp only [composeUnobserved]
      split
      · exact before
      · intro device member eligible
        rcases List.mem_append.mp member with old | new
        · exact before device old eligible
        · rw [List.mem_singleton.mp new] at eligible
          cases eligible
  exact gathering device ((sortBy_perm _ _).mem_iff.mp (mem_of_uniqueBy member)) eligible

theorem composeDevices_withheld {device : DeviceRecord} (member : device ∈ (composeDevices gathered).1) :
    device.withheldUnits = if device.eligibility != .eligible then device.knownUnits else 0 := by
  by_cases eligible : device.eligibility = .eligible
  · have usable := composeDevices_usable member eligible
    simp [DeviceRecord.withheldUnits, eligible, usable]
  · simp [DeviceRecord.withheldUnits, eligible]

theorem sum_withheld :
    ((composeDevices gathered).1.map DeviceRecord.withheldUnits).sum =
      (((composeDevices gathered).1.filter fun device =>
        device.capacityKnown && device.eligibility != .eligible).map fun device => device.capacity.toNat).sum := by
  rw [← sum_known fun device => device.eligibility != .eligible]
  congr 1
  apply List.map_congr_left
  intro device member
  exact composeDevices_withheld member

theorem sum_total (devices : List DeviceRecord) :
    (devices.map DeviceRecord.knownUnits).sum =
      ((devices.filter fun device => device.capacityKnown).map fun device => device.capacity.toNat).sum := by
  have everything := sum_known (fun _ => true) devices
  simpa using everything

/-- The capacity ledger of a snapshot against its devices and obligations, over the natural numbers. -/
structure SnapshotData.Accounted (config : RackConfig) (data : SnapshotData) : Prop where
  total : data.capacity.total.toNat =
    ((data.devices.filter fun device => device.capacityKnown).map fun device => device.capacity.toNat).sum
  unavailable : data.capacity.unavailable.toNat =
    ((data.devices.filter fun device => device.capacityKnown && device.eligibility != .eligible).map
      fun device => device.capacity.toNat).sum
  obligated : data.capacity.obligated.toNat = (data.obligations.map fun record => record.capacity.toNat).sum
  headroomFloor : data.capacity.headroomFloor = config.headroomFloor
  settled : data.capacity.Settled

theorem compose_ensures (ledger : EvidenceLedger) (config : RackConfig) (request : ComposeInput) :
    (compose ledger config request).Ensures ComposeRefusal fun outcome =>
      ∃ data, outcome.snapshot.handle = some data ∧ data.Accounted config := by
  apply Result.Ensures.bind (checkRack_ensures config)
  intro _ _ _
  apply Result.Ensures.bind (checkBound_ensures _ _ _)
  intro _ _ _
  apply Result.Ensures.bind (checkBound_ensures _ _ _)
  intro _ _ _
  apply Result.Ensures.bind (checkBound_ensures _ _ _)
  intro _ _ _
  apply Result.Ensures.bind (checkBound_ensures _ _ _)
  intro _ _ _
  apply Result.Ensures.bind (checkBound_ensures _ _ _)
  intro _ _ _
  apply Result.Ensures.bind (checkBound_ensures _ _ _)
  intro _ _ _
  have obliged : ∀ (ports : List PortRecord) (links : List LinkRecord) (diagnostics : Diagnostics),
      (composeObligations (gather ledger config request) config ports links diagnostics).Ensures ComposeRefusal
        fun _ => True := by
    intro ports links diagnostics
    apply Result.Ensures.bind (Result.Ensures.foldlM composeObligation_ensures _ _)
    intro _ _ _
    exact trivial
  apply Result.Ensures.bind (obliged _ _ _)
  intro pass gathers _
  apply Result.Ensures.bind (checkBound_ensures _ _ _)
  intro _ _ _
  apply Result.Ensures.bind (composeCapacity_ensures _ _ _ _)
  intro capacity _ sums
  apply Result.Ensures.bind (composePaths_ensures _ _ _)
  intro paths _ _
  refine ⟨_, rfl, ?_⟩
  obtain ⟨total, unavailable, owed, headroom, settled⟩ := sums
  constructor
  · exact total.trans (sum_total _)
  · exact unavailable.trans sum_withheld
  · exact owed.trans (composeObligations_adds gathers)
  · exact headroom
  · exact settled

/-- A composition is never refused by its own accounts, and what it publishes adds up. -/
theorem compose_accounts (ledger : EvidenceLedger) (config : RackConfig) (request : ComposeInput) :
    (compose ledger config request).Ensures (· ≠ .integrityFailure) fun outcome =>
      ∃ data, outcome.snapshot.handle = some data ∧ data.Accounted config := by
  apply (compose_ensures ledger config request).mono
  intro code known failed
  rw [failed] at known
  rcases known with none | none | none <;> cases none

end RackFabric
