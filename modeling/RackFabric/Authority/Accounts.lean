import RackFabric.Authority.Sweep
import RackFabric.Foundation.Tally

/-!
The registry's accounts one table at a time: what indexing a grant and taking its capacity does to the exclusivity
index and to the pools, and what detaching it undoes.
-/

namespace RackFabric

open Foundation

theorem saturatingAdd_toNat {a b : UInt64} (room : a.toNat + b.toNat < 2 ^ 64) :
    (saturatingAdd a b).toNat = a.toNat + b.toNat := by
  rw [saturatingAdd, checkedAddU64_eq room, Option.getD_some, UInt64.toNat_add]
  omega

theorem toNat_max (a b : UInt64) : (max a b).toNat = max a.toNat b.toNat := by
  have unfolded : max a b = if a ≤ b then b else a := rfl
  rw [unfolded]
  simp only [UInt64.le_iff_toNat_le]
  split <;> omega

/-- Capacity taken from one pool. -/
def charge (capacity : UInt64) (pools : Std.ExtTreeMap ResourceRef UInt64) (ref : ResourceRef) :
    Std.ExtTreeMap ResourceRef UInt64 :=
  pools.insert ref (saturatingAdd (pools.getD ref 0) capacity)

/-- Capacity returned to one pool; a pool that nothing is taken from any more leaves the table. -/
def refund (capacity : UInt64) (pools : Std.ExtTreeMap ResourceRef UInt64) (ref : ResourceRef) :
    Std.ExtTreeMap ResourceRef UInt64 :=
  match pools[ref]? with
  | none => pools
  | some amount =>
    match checkedSubU64 amount capacity with
    | none => pools.erase ref
    | some next => if next > 0 then pools.insert ref next else pools.erase ref

theorem charge_fold (capacity : UInt64) (refs : List ResourceRef) (pools : Std.ExtTreeMap ResourceRef UInt64)
    (ref : ResourceRef) (room : (pools.getD ref 0).toNat + capacity.toNat * refs.count ref < 2 ^ 64) :
    ((refs.foldl (charge capacity) pools).getD ref 0).toNat =
      (pools.getD ref 0).toNat + capacity.toNat * refs.count ref := by
  induction refs generalizing pools with
  | nil => simp
  | cons head rest ih =>
    rw [List.foldl_cons]
    by_cases same : head = ref
    · subst same
      rw [List.count_cons_self, Nat.mul_add, Nat.mul_one] at room ⊢
      have charged : ((charge capacity pools head).getD head 0).toNat =
          (pools.getD head 0).toNat + capacity.toNat := by
        rw [charge, Std.ExtTreeMap.getD_insert_self]
        exact saturatingAdd_toNat (by omega)
      rw [ih _ (by omega), charged]
      omega
    · rw [List.count_cons_of_ne same] at room ⊢
      have untouched : (charge capacity pools head).getD ref 0 = pools.getD ref 0 := by
        rw [charge, Std.ExtTreeMap.getD_insert]
        simp [same]
      rw [ih _ (by rw [untouched]; exact room), untouched]

theorem refund_getD_self {capacity : UInt64} {pools : Std.ExtTreeMap ResourceRef UInt64} {ref : ResourceRef}
    (held : capacity.toNat ≤ (pools.getD ref 0).toNat) :
    ((refund capacity pools ref).getD ref 0).toNat = (pools.getD ref 0).toNat - capacity.toNat := by
  have amount : pools.getD ref 0 = (pools[ref]?).getD 0 := Std.ExtTreeMap.getD_eq_getD_getElem?
  rw [amount] at held ⊢
  unfold refund
  cases found : pools[ref]? with
  | none =>
    rw [found] at held
    have zero : capacity.toNat = 0 := by simpa using held
    simp [amount, found, zero]
  | some amount =>
    rw [found, Option.getD_some] at held
    have within : ¬capacity > amount := by
      rw [gt_iff_lt, UInt64.lt_iff_toNat_lt]
      omega
    have difference : (amount - capacity).toNat = amount.toNat - capacity.toNat :=
      UInt64.toNat_sub_of_le amount capacity (UInt64.le_iff_toNat_le.mpr held)
    simp only [checkedSubU64, if_neg within, Option.getD_some]
    rw [← difference]
    split
    · simp
    · rename_i spent
      have zero : amount - capacity = 0 := by
        rw [gt_iff_lt, UInt64.lt_iff_toNat_lt] at spent
        exact UInt64.toNat_inj.mp (by simpa using spent)
      simp [zero]

theorem refund_getD_of_ne {capacity : UInt64} {pools : Std.ExtTreeMap ResourceRef UInt64} {head ref : ResourceRef}
    (different : head ≠ ref) : (refund capacity pools head).getD ref 0 = pools.getD ref 0 := by
  unfold refund
  split
  · rfl
  · split
    · rw [Std.ExtTreeMap.getD_erase]
      simp [different]
    · split
      · rw [Std.ExtTreeMap.getD_insert]
        simp [different]
      · rw [Std.ExtTreeMap.getD_erase]
        simp [different]

theorem refund_fold (capacity : UInt64) (refs : List ResourceRef) (pools : Std.ExtTreeMap ResourceRef UInt64)
    (ref : ResourceRef) (held : capacity.toNat * refs.count ref ≤ (pools.getD ref 0).toNat) :
    ((refs.foldl (refund capacity) pools).getD ref 0).toNat =
      (pools.getD ref 0).toNat - capacity.toNat * refs.count ref := by
  induction refs generalizing pools with
  | nil => simp
  | cons head rest ih =>
    rw [List.foldl_cons]
    by_cases same : head = ref
    · subst same
      rw [List.count_cons_self, Nat.mul_add, Nat.mul_one] at held ⊢
      have returned := refund_getD_self (show capacity.toNat ≤ (pools.getD head 0).toNat by omega)
      rw [ih _ (by omega), returned]
      omega
    · rw [List.count_cons_of_ne same] at held ⊢
      have untouched : (refund capacity pools head).getD ref 0 = pools.getD ref 0 := refund_getD_of_ne same
      rw [ih _ (by rw [untouched]; exact held), untouched]

/-- A seat in the index of one resource. -/
def seat (occupant : Occupant) (index : Std.ExtTreeMap ResourceRef (List Occupant)) (ref : ResourceRef) :
    Std.ExtTreeMap ResourceRef (List Occupant) :=
  index.insert ref (sortBy (fun a b => idLess a.id b.id) (index.getD ref [] ++ [occupant]))

/-- The seats of one resource without those of a grant. -/
def unseat (id : UInt64) (index : Std.ExtTreeMap ResourceRef (List Occupant)) (ref : ResourceRef) :
    Std.ExtTreeMap ResourceRef (List Occupant) :=
  match index[ref]? with
  | none => index
  | some occupants =>
    if (occupants.filter (·.id != id)).isEmpty then index.erase ref
    else index.insert ref (occupants.filter (·.id != id))

theorem seat_fold {refs : List ResourceRef} (distinct : refs.Nodup) (occupant : Occupant)
    (index : Std.ExtTreeMap ResourceRef (List Occupant)) (ref : ResourceRef) :
    ((refs.foldl (seat occupant) index).getD ref []).Perm
      (if ref ∈ refs then occupant :: index.getD ref [] else index.getD ref []) := by
  induction refs generalizing index with
  | nil => exact .refl _
  | cons head rest ih =>
    obtain ⟨fresh, distinct⟩ := List.nodup_cons.mp distinct
    rw [List.foldl_cons]
    refine (ih distinct (seat occupant index head)).trans ?_
    by_cases same : head = ref
    · subst same
      rw [if_neg fresh, if_pos (by simp), seat, Std.ExtTreeMap.getD_insert_self]
      exact (sortBy_perm _ _).trans (List.perm_append_singleton _ _)
    · have untouched : (seat occupant index head).getD ref [] = index.getD ref [] := by
        rw [seat, Std.ExtTreeMap.getD_insert]
        simp [same]
      simp [untouched, Ne.symm same]

theorem unseat_getD (id : UInt64) (index : Std.ExtTreeMap ResourceRef (List Occupant)) (head ref : ResourceRef) :
    (unseat id index head).getD ref [] =
      if head = ref then (index.getD ref []).filter (·.id != id) else index.getD ref [] := by
  unfold unseat
  cases found : index[head]? with
  | none =>
    by_cases same : head = ref
    · subst same
      simp [Std.ExtTreeMap.getD_eq_getD_getElem?, found]
    · simp [same]
  | some occupants =>
    simp only
    split
    · rename_i emptied
      rw [Std.ExtTreeMap.getD_erase]
      by_cases same : head = ref
      · subst same
        simp [Std.ExtTreeMap.getD_eq_getD_getElem?, found, List.isEmpty_iff.mp emptied]
      · simp [same]
    · rw [Std.ExtTreeMap.getD_insert]
      by_cases same : head = ref
      · subst same
        simp [Std.ExtTreeMap.getD_eq_getD_getElem?, found]
      · simp [same]

theorem unseat_fold (id : UInt64) (refs : List ResourceRef) (index : Std.ExtTreeMap ResourceRef (List Occupant))
    (ref : ResourceRef) :
    (refs.foldl (unseat id) index).getD ref [] =
      if ref ∈ refs then (index.getD ref []).filter (·.id != id) else index.getD ref [] := by
  induction refs generalizing index with
  | nil => rfl
  | cons head rest ih =>
    rw [List.foldl_cons, ih, unseat_getD]
    by_cases same : head = ref
    · subst same
      simp [List.filter_filter]
    · simp [same, Ne.symm same]

namespace GrantRegistry

theorem foldl_commit (grant : Grant) (refs : List ResourceRef) (registry : GrantRegistry) :
    refs.foldl (commit grant) registry =
      { registry with committed := refs.foldl (charge grant.capacity) registry.committed } := by
  induction refs generalizing registry with
  | nil => rfl
  | cons head rest ih =>
    rw [List.foldl_cons, ih]
    rfl

theorem foldl_uncommit (grant : Grant) (refs : List ResourceRef) (registry : GrantRegistry) :
    refs.foldl (uncommit grant) registry =
      { registry with committed := refs.foldl (refund grant.capacity) registry.committed } := by
  induction refs generalizing registry with
  | nil => rfl
  | cons head rest ih =>
    have first : uncommit grant registry head =
        { registry with committed := refund grant.capacity registry.committed head } := by
      unfold uncommit refund
      cases registry.committed[head]? with
      | none => rfl
      | some amount =>
        dsimp only
        cases checkedSubU64 amount grant.capacity with
        | none => rfl
        | some next =>
          dsimp only
          split <;> rfl
    rw [List.foldl_cons, ih, first]
    rfl

theorem foldl_occupy (grant : Grant) (refs : List ResourceRef) (registry : GrantRegistry) :
    refs.foldl (occupy grant) registry =
      { registry with
        occupancy := refs.foldl (seat ⟨grant.id, grant.mode⟩) registry.occupancy
        occupancyEntries := registry.occupancyEntries + refs.length } := by
  induction refs generalizing registry with
  | nil => rfl
  | cons head rest ih =>
    rw [List.foldl_cons, ih]
    simp only [occupy, seat, List.foldl_cons, List.length_cons, Nat.add_assoc, Nat.add_comm 1]

/-- The seats of a grant at one resource. -/
def seatsAt (id : UInt64) (index : Std.ExtTreeMap ResourceRef (List Occupant)) (ref : ResourceRef) : Nat :=
  (index.getD ref []).countP (·.id == id)

theorem foldl_vacate {refs : List ResourceRef} (distinct : refs.Nodup) (id : UInt64) (registry : GrantRegistry) :
    refs.foldl (vacate id) registry =
      { registry with
        occupancy := refs.foldl (unseat id) registry.occupancy
        occupancyEntries := registry.occupancyEntries - (refs.map (seatsAt id registry.occupancy)).sum } := by
  induction refs generalizing registry with
  | nil => rfl
  | cons head rest ih =>
    obtain ⟨fresh, distinct⟩ := List.nodup_cons.mp distinct
    have first : vacate id registry head =
        { registry with
          occupancy := unseat id registry.occupancy head
          occupancyEntries := registry.occupancyEntries - seatsAt id registry.occupancy head } := by
      unfold vacate unseat seatsAt
      rw [Std.ExtTreeMap.getD_eq_getD_getElem?]
      cases registry.occupancy[head]? with
      | none => rfl
      | some occupants =>
        have removed : occupants.length - (occupants.filter (·.id != id)).length =
            occupants.countP (·.id == id) := by
          have split := List.length_eq_countP_add_countP (fun occupant : Occupant => occupant.id == id)
            (l := occupants)
          have kept : occupants.countP (·.id != id) =
              occupants.countP (fun occupant => decide ¬(occupant.id == id) = true) := by
            apply List.countP_congr
            intro occupant _
            simp
          rw [← List.countP_eq_length_filter, kept]
          omega
        simp only [removed, Option.getD_some]
    have others : rest.map (seatsAt id (unseat id registry.occupancy head)) =
        rest.map (seatsAt id registry.occupancy) := by
      apply List.map_congr_left
      intro ref member
      have different : head ≠ ref := fun same => fresh (same ▸ member)
      rw [seatsAt, seatsAt, unseat_getD, if_neg different]
    rw [List.foldl_cons, first, ih distinct]
    simp only [List.foldl_cons, List.map_cons, List.sum_cons, others]
    rw [Nat.sub_sub]

end GrantRegistry

end RackFabric
