import Mathlib.Data.Prod.Lex
import Mathlib.Data.List.Lex
import Mathlib.Data.List.Dedup
import Mathlib.Data.List.Perm.Subperm

/-!
Keeping the best of what has been offered: values arrive one after another, a linear order grades them, and only
a best one is held. What is held depends on the set of values offered and not on their order or number.
-/

namespace Foundation

variable {α γ : Type} [LinearOrder γ] {grade : α → γ}

/-- What is held once a value is offered: the value when it outgrades what was held. -/
def prefer (grade : α → γ) (held : Option α) (value : α) : α :=
  match held with
  | none => value
  | some incumbent => if grade incumbent < grade value then value else incumbent

/-- What is held leads the values offered: nothing when there were none, else one of the best. -/
def Leads (grade : α → γ) (offered : List α) : Option α → Prop
  | none => offered = []
  | some held => held ∈ offered ∧ ∀ other ∈ offered, grade other ≤ grade held

/-- The grades tell the values of a list apart. -/
def Graded (grade : α → γ) (values : List α) : Prop :=
  ∀ a ∈ values, ∀ b ∈ values, grade a = grade b → a = b

theorem Leads.prefer {offered : List α} {held : Option α} (leads : Leads grade offered held) (value : α) :
    Leads grade (offered ++ [value]) (some (prefer grade held value)) := by
  cases held with
  | none =>
    have empty : offered = [] := leads
    subst empty
    simp [Leads, Foundation.prefer]
  | some incumbent =>
    obtain ⟨member, greatest⟩ := leads
    simp only [Foundation.prefer]
    split
    · rename_i outgraded
      refine ⟨by simp, ?_⟩
      intro other among
      rcases List.mem_append.mp among with among | among
      · exact (greatest other among).trans outgraded.le
      · rw [List.mem_singleton.mp among]
    · rename_i kept
      refine ⟨by simp [member], ?_⟩
      intro other among
      rcases List.mem_append.mp among with among | among
      · exact greatest other among
      · rw [List.mem_singleton.mp among]
        exact not_lt.mp kept

/-- Only which values were offered matters. -/
theorem Leads.of_mem {first second : List α} {held : Option α} (leads : Leads grade first held)
    (same : ∀ value, value ∈ second ↔ value ∈ first) : Leads grade second held := by
  cases held with
  | none =>
    have empty : first = [] := leads
    subst empty
    exact List.eq_nil_iff_forall_not_mem.mpr (by simpa using same)
  | some value => exact ⟨(same value).mpr leads.1, fun other member => leads.2 other ((same other).mp member)⟩

/-- Two lists with the same members are led by the same value. -/
theorem Leads.unique {first second : List α} {a b : Option α} (graded : Graded grade first)
    (same : ∀ value, value ∈ first ↔ value ∈ second) (leads : Leads grade first a) (other : Leads grade second b) :
    a = b := by
  cases a with
  | none =>
    have empty : first = [] := leads
    subst empty
    cases b with
    | none => rfl
    | some held => simpa using (same held).mpr other.1
  | some held =>
    cases b with
    | none =>
      have empty : second = [] := other
      subst empty
      simpa using (same held).mp leads.1
    | some rival =>
      have among : rival ∈ first := (same rival).mpr other.1
      have below : grade rival ≤ grade held := leads.2 rival among
      have above : grade held ≤ grade rival := other.2 held ((same held).mp leads.1)
      rw [graded held leads.1 rival among (le_antisymm above below)]

/-- Values already outgraded by what was held may be forgotten before more are offered. -/
theorem Leads.resume {offered more : List α} {held final : Option α} (leads : Leads grade offered held)
    (later : Leads grade (held.toList ++ more) final) : Leads grade (offered ++ more) final := by
  cases held with
  | none =>
    have empty : offered = [] := leads
    subst empty
    simpa using later
  | some incumbent =>
    cases final with
    | none => simp [Leads] at later
    | some value =>
      obtain ⟨member, greatest⟩ := later
      have above : grade incumbent ≤ grade value := greatest incumbent (by simp)
      constructor
      · rcases List.mem_append.mp member with among | among
        · rw [show value = incumbent by simpa using among]
          exact List.mem_append.mpr (.inl leads.1)
        · exact List.mem_append.mpr (.inr among)
      · intro other among
        rcases List.mem_append.mp among with among | among
        · exact (leads.2 other among).trans above
        · exact greatest other (by simp [among])

/-- Distinct values among those of a list are at most as many as the list has distinct members. -/
theorem length_le_dedup [DecidableEq α] {distinct values : List α} (nodup : distinct.Nodup)
    (among : ∀ value ∈ distinct, value ∈ values) : distinct.length ≤ values.dedup.length :=
  (List.subperm_of_subset nodup (fun value member => List.mem_dedup.mpr (among value member))).length_le

end Foundation
