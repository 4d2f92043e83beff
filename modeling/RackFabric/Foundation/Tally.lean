import Mathlib.Data.List.Perm.Basic
import Mathlib.Algebra.BigOperators.Group.List.Basic
import Mathlib.Algebra.GroupWithZero.Nat
import Std.Data.ExtTreeMap.Lemmas
import Std.Data.DTreeMap.Internal.WF.Lemmas

/-!
Sums over the entries of a table, and what writing or removing one entry does to them.
-/

namespace Foundation

variable {κ β : Type} [Ord κ] [Std.TransOrd κ] [Std.LawfulEqOrd κ]

/-- The weights of all entries. -/
def tally (weight : β → Nat) (table : Std.ExtTreeMap κ β) : Nat :=
  (table.toList.map (fun entry => weight entry.2)).sum

omit [Std.LawfulEqOrd κ] in
@[simp] theorem tally_empty (weight : β → Nat) : tally weight (∅ : Std.ExtTreeMap κ β) = 0 := by
  have none : (∅ : Std.ExtTreeMap κ β).toList = [] := Std.ExtTreeMap.toList_eq_nil_iff.mpr rfl
  simp [tally, none]

theorem nodup_toList (table : Std.ExtTreeMap κ β) : table.toList.Nodup := by
  have distinct := Std.ExtTreeMap.distinct_keys_toList (t := table)
  refine distinct.imp ?_
  intro a b different same
  exact different (by simp [same])

/-- The entries of a table, one of them first. -/
theorem toList_perm_erase {table : Std.ExtTreeMap κ β} {key : κ} {value : β} (found : table[key]? = some value) :
    table.toList.Perm ((key, value) :: (table.erase key).toList) := by
  apply (List.perm_ext_iff_of_nodup (nodup_toList table) ?_).mpr
  · rintro ⟨other, entry⟩
    rw [Std.ExtTreeMap.mem_toList_iff_getElem?_eq_some, List.mem_cons,
      Std.ExtTreeMap.mem_toList_iff_getElem?_eq_some, Std.ExtTreeMap.getElem?_erase]
    by_cases same : key = other
    · subst same
      simp [found, eq_comm]
    · simp [same, Ne.symm same]
  · refine List.nodup_cons.mpr ⟨?_, nodup_toList _⟩
    simp [Std.ExtTreeMap.mem_toList_iff_getElem?_eq_some]

theorem toList_perm_insert (table : Std.ExtTreeMap κ β) (key : κ) (value : β) :
    (table.insert key value).toList.Perm ((key, value) :: (table.erase key).toList) := by
  have written : (table.insert key value)[key]? = some value := by simp
  have perm := toList_perm_erase written
  have same : (table.insert key value).erase key = table.erase key := by
    apply Std.ExtTreeMap.ext_getElem?
    intro other
    simp only [Std.ExtTreeMap.getElem?_erase, Std.ExtTreeMap.getElem?_insert]
    split <;> rfl
  rwa [same] at perm

theorem erase_of_absent {table : Std.ExtTreeMap κ β} {key : κ} (absent : table[key]? = none) :
    table.erase key = table := by
  apply Std.ExtTreeMap.ext_getElem?
  intro other
  rw [Std.ExtTreeMap.getElem?_erase]
  split
  · rename_i equal
    rw [← Std.LawfulEqCmp.eq_of_compare equal, absent]
  · rfl

/-- Removing an entry takes its weight. -/
theorem tally_erase (weight : β → Nat) (table : Std.ExtTreeMap κ β) (key : κ) :
    tally weight (table.erase key) + (table[key]?).elim 0 weight = tally weight table := by
  cases found : table[key]? with
  | none => simp [erase_of_absent found]
  | some value =>
    have perm := (toList_perm_erase found).map (fun entry => weight entry.2)
    simp [tally, perm.sum_eq, Nat.add_comm]

/-- Writing an entry puts its weight in the place of the weight it replaces. -/
theorem tally_insert (weight : β → Nat) (table : Std.ExtTreeMap κ β) (key : κ) (value : β) :
    tally weight (table.insert key value) + (table[key]?).elim 0 weight = tally weight table + weight value := by
  have perm := (toList_perm_insert table key value).map (fun entry => weight entry.2)
  have erased := tally_erase weight table key
  simp only [tally, List.map_cons] at perm erased ⊢
  rw [perm.sum_eq, List.sum_cons]
  omega

theorem tally_insert_new {weight : β → Nat} {table : Std.ExtTreeMap κ β} {key : κ} (absent : key ∉ table)
    (value : β) : tally weight (table.insert key value) = tally weight table + weight value := by
  have written := tally_insert weight table key value
  rw [Std.ExtTreeMap.getElem?_eq_none absent] at written
  exact written

/-- One entry weighs no more than all of them. -/
theorem weight_le_tally (weight : β → Nat) {table : Std.ExtTreeMap κ β} {key : κ} {value : β}
    (found : table[key]? = some value) : weight value ≤ tally weight table := by
  have erased := tally_erase weight table key
  rw [found] at erased
  simp only [Option.elim_some] at erased
  omega

theorem tally_eq_zero {weight : β → Nat} {table : Std.ExtTreeMap κ β}
    (nothing : ∀ (key : κ) (value : β), table[key]? = some value → weight value = 0) : tally weight table = 0 := by
  apply List.sum_eq_zero_iff_forall_eq_nat.mpr
  intro share member
  obtain ⟨⟨key, value⟩, listed, rfl⟩ := List.mem_map.mp member
  exact nothing key value (Std.ExtTreeMap.mem_toList_iff_getElem?_eq_some.mp listed)

omit [Std.LawfulEqOrd κ] in
theorem tally_mono {light heavy : β → Nat} (below : ∀ value, light value ≤ heavy value)
    (table : Std.ExtTreeMap κ β) : tally light table ≤ tally heavy table := by
  unfold tally
  induction table.toList with
  | nil => exact Nat.le_refl _
  | cons entry rest ih =>
    simp only [List.map_cons, List.sum_cons]
    exact Nat.add_le_add (below entry.2) ih

omit [Std.LawfulEqOrd κ] in
/-- A tally that skips entries is a sum over the others. -/
theorem tally_filter (chosen : β → Bool) (weight : β → Nat) (table : Std.ExtTreeMap κ β) :
    tally (fun value => if chosen value then weight value else 0) table =
      (((table.toList.map Prod.snd).filter chosen).map weight).sum := by
  unfold tally
  induction table.toList with
  | nil => rfl
  | cons entry rest ih =>
    rw [List.map_cons, List.sum_cons, ih, List.map_cons, List.filter_cons]
    by_cases taken : chosen entry.2 = true
    · simp [taken]
    · simp [taken]

omit [Std.LawfulEqOrd κ] in
theorem values_eq_map_toList (table : Std.ExtTreeMap κ β) : table.values = table.toList.map Prod.snd := by
  obtain ⟨inner⟩ := table
  induction inner using Std.ExtDTreeMap.inductionOn with
  | _ raw =>
    show raw.inner.values = (Std.DTreeMap.Internal.Impl.Const.toList raw.inner).map Prod.snd
    rw [Std.DTreeMap.Internal.Impl.values_eq_map_snd, Std.DTreeMap.Internal.Impl.Const.toList_eq_toListModel_map]
    simp

omit [Std.LawfulEqOrd κ] in
theorem tally_values (weight : β → Nat) (table : Std.ExtTreeMap κ β) :
    tally weight table = (table.values.map weight).sum := by
  rw [tally, values_eq_map_toList, List.map_map]
  rfl

/-- An accumulation whose every step adds the weight of its entry has added them all when it succeeds. -/
theorem foldlM_adds {σ α ε : Type} (measure : σ → Nat) (weight : α → Nat) {step : σ → α → Except ε σ}
    (each : ∀ state value next, step state value = .ok next → measure next = measure state + weight value)
    {values : List α} {start finish : σ} (ran : values.foldlM step start = .ok finish) :
    measure finish = measure start + (values.map weight).sum := by
  induction values generalizing start with
  | nil =>
    cases ran
    simp
  | cons value rest ih =>
    rw [List.foldlM_cons] at ran
    cases stepped : step start value with
    | error failure => simp [stepped, bind, Except.bind] at ran
    | ok next =>
      rw [stepped] at ran
      rw [ih ran, each start value next stepped, List.map_cons, List.sum_cons]
      omega

/-- Weights collected key by key are the weights of the values that have one of the keys. -/
theorem sum_by_key {α κ : Type} [DecidableEq κ] (key : α → κ) (weight : α → Nat) {keys : List κ} (distinct : keys.Nodup)
    (values : List α) :
    (keys.map fun own => ((values.filter fun value => key value = own).map weight).sum).sum =
      ((values.filter fun value => key value ∈ keys).map weight).sum := by
  induction keys with
  | nil => simp
  | cons first rest ih =>
    obtain ⟨fresh, distinct⟩ := List.nodup_cons.mp distinct
    rw [List.map_cons, List.sum_cons, ih distinct]
    clear ih
    induction values with
    | nil => rfl
    | cons value others ih =>
      simp only [List.filter_cons, List.mem_cons] at ih ⊢
      by_cases own : key value = first
      · subst own
        simp only [fresh, decide_true, decide_false, true_or, if_true, Bool.false_eq_true, if_false, List.map_cons,
          List.sum_cons]
        omega
      · by_cases listed : key value ∈ rest
        · simp only [own, listed, decide_true, decide_false, or_true, if_true, Bool.false_eq_true, if_false,
            List.map_cons, List.sum_cons]
          omega
        · simp only [own, listed, decide_false, or_self, Bool.false_eq_true, if_false]
          exact ih

theorem sum_split {α : Type} (chosen : α → Bool) (weight : α → Nat) (values : List α) :
    ((values.filter chosen).map weight).sum + ((values.filter fun value => !chosen value).map weight).sum =
      (values.map weight).sum := by
  have parts := ((List.filter_append_perm chosen values).map weight).sum_eq
  rwa [List.map_append, List.sum_append] at parts
end Foundation
