import Mathlib.Data.List.Induction
import Mathlib.Order.Lattice

/-!
Keeping the newest of what is offered, with a mark against disagreement. Values arrive one after another; a rank says
which is newer and a mark tells two of one rank apart. Of one rank the smallest mark is kept, and that a disagreement
was seen is never forgotten, not even when something newer arrives.
-/

namespace Foundation

variable {α ρ μ : Type} [LinearOrder ρ] [LinearOrder μ] {rank : α → ρ} {mark : α → μ}

/-- What is held, and whether a disagreement was seen, once a value is offered. -/
def contend (rank : α → ρ) (mark : α → μ) (held : Option (α × Bool)) (value : α) : α × Bool :=
  match held with
  | none => (value, false)
  | some (incumbent, contested) =>
    if rank incumbent < rank value then (value, contested)
    else if rank value < rank incumbent ∨ mark value = mark incumbent then (incumbent, contested)
    else if mark value < mark incumbent then (value, true)
    else (incumbent, true)

def contest (rank : α → ρ) (mark : α → μ) (values : List α) : Option (α × Bool) :=
  values.foldl (fun held value => some (contend rank mark held value)) none

/-- A value turned up that was as new as anything before it, and differed in its mark from one as new. -/
def Contested (rank : α → ρ) (mark : α → μ) (values : List α) : Prop :=
  ∃ before value after, values = before ++ value :: after ∧ (∀ other ∈ before, rank other ≤ rank value) ∧
    ∃ other ∈ before, rank other = rank value ∧ mark other ≠ mark value

/-- None of the values is newer than this one, and none as new has a smaller mark. -/
structure Tops (rank : α → ρ) (mark : α → μ) (values : List α) (value : α) : Prop where
  member : value ∈ values
  newest : ∀ other ∈ values, rank other ≤ rank value
  least : ∀ other ∈ values, rank other = rank value → mark value ≤ mark other

theorem contest_snoc (values : List α) (value : α) :
    contest rank mark (values ++ [value]) = some (contend rank mark (contest rank mark values) value) := by
  simp [contest]

theorem contest_eq_none {values : List α} : contest rank mark values = none ↔ values = [] := by
  induction values using List.reverseRecOn with
  | nil => simp [contest]
  | append_singleton values value ih => simp [contest_snoc]

omit [LinearOrder μ] in
theorem contested_snoc (values : List α) (value : α) :
    Contested rank mark (values ++ [value]) ↔ Contested rank mark values ∨
      ((∀ other ∈ values, rank other ≤ rank value) ∧
        ∃ other ∈ values, rank other = rank value ∧ mark other ≠ mark value) := by
  constructor
  · rintro ⟨before, last, after, split, newest, other, member, tied, apart⟩
    rcases List.eq_nil_or_concat after with rfl | ⟨rest, final, rfl⟩
    · obtain ⟨rfl, same⟩ := List.append_inj' split rfl
      cases same
      exact .inr ⟨newest, other, member, tied, apart⟩
    · rw [List.concat_eq_append, ← List.cons_append, ← List.append_assoc] at split
      obtain ⟨rfl, -⟩ := List.append_inj' split rfl
      exact .inl ⟨before, last, rest, rfl, newest, other, member, tied, apart⟩
  · rintro (⟨before, last, after, rfl, found⟩ | found)
    · exact ⟨before, last, after ++ [value], by simp, found⟩
    · exact ⟨values, value, [], rfl, found⟩

/-- Two of the newest values with different marks have made a contest. -/
theorem Tops.contested {values : List α} {value other : α} (tops : Tops rank mark values value)
    (member : other ∈ values) (tied : rank other = rank value) (apart : mark other ≠ mark value) :
    Contested rank mark values := by
  induction values using List.reverseRecOn with
  | nil => cases member
  | append_singleton values last ih =>
    rw [contested_snoc]
    have newest : ∀ earlier ∈ values, rank earlier ≤ rank value :=
      fun earlier among => tops.newest earlier (List.mem_append_left _ among)
    have own := tops.member
    rw [List.mem_append, List.mem_singleton] at own member
    rcases own with own | rfl
    · rcases member with member | rfl
      · have inside : Tops rank mark values value :=
          ⟨own, newest, fun earlier among => tops.least earlier (List.mem_append_left _ among)⟩
        exact .inl (ih inside member)
      · exact .inr ⟨fun earlier among => tied ▸ newest earlier among, value, own, tied.symm, apart.symm⟩
    · rcases member with member | rfl
      · exact .inr ⟨newest, other, member, tied, apart⟩
      · exact absurd rfl apart

/-- What is held after one more offer tops one more value. -/
theorem Tops.contend {values : List α} {incumbent : α} (tops : Tops rank mark values incumbent) (flag : Bool)
    (last : α) : Tops rank mark (values ++ [last]) (contend rank mark (some (incumbent, flag)) last).1 := by
  simp only [Foundation.contend]
  by_cases newer : rank incumbent < rank last
  · have below : ∀ other ∈ values, rank other < rank last :=
      fun other among => (tops.newest other among).trans_lt newer
    rw [if_pos newer]
    refine ⟨by simp, ?_, ?_⟩
    · intro other among
      rcases List.mem_append.mp among with among | among
      · exact (below other among).le
      · rw [List.mem_singleton.mp among]
    · intro other among tied
      rcases List.mem_append.mp among with among | among
      · exact absurd tied (below other among).ne
      · rw [List.mem_singleton.mp among]
  rw [if_neg newer]
  rw [not_lt] at newer
  have newest : ∀ other ∈ values ++ [last], rank other ≤ rank incumbent := by
    intro other among
    rcases List.mem_append.mp among with among | among
    · exact tops.newest other among
    · rw [List.mem_singleton.mp among]
      exact newer
  have keeps : (rank last = rank incumbent → mark incumbent ≤ mark last) →
      Tops rank mark (values ++ [last]) incumbent := by
    intro smaller
    refine ⟨List.mem_append_left _ tops.member, newest, ?_⟩
    intro other among tied
    rcases List.mem_append.mp among with among | among
    · exact tops.least other among tied
    · rw [List.mem_singleton.mp among] at tied ⊢
      exact smaller tied
  by_cases kept : rank last < rank incumbent ∨ mark last = mark incumbent
  · rw [if_pos kept]
    apply keeps
    intro tied
    rcases kept with older | alike
    · exact absurd tied older.ne
    · exact alike.ge
  rw [if_neg kept]
  by_cases smaller : mark last < mark incumbent
  · have level : rank last = rank incumbent := le_antisymm newer (not_lt.mp fun older => kept (.inl older))
    rw [if_pos smaller]
    refine ⟨by simp, fun other among => level ▸ newest other among, ?_⟩
    intro other among tied
    rcases List.mem_append.mp among with among | among
    · exact smaller.le.trans (tops.least other among (tied.trans level))
    · rw [List.mem_singleton.mp among]
  · rw [if_neg smaller]
    exact keeps fun _ => not_lt.mp smaller

/-- One more offer makes a contest when it is as new as what is held and has another mark. -/
theorem Tops.contested_snoc_iff {values : List α} {incumbent : α} (tops : Tops rank mark values incumbent) (last : α) :
    Contested rank mark (values ++ [last]) ↔
      Contested rank mark values ∨ (rank last = rank incumbent ∧ mark last ≠ mark incumbent) := by
  rw [contested_snoc]
  constructor
  · rintro (found | ⟨newest, other, among, tied, apart⟩)
    · exact .inl found
    · have level : rank last = rank incumbent :=
        le_antisymm (tied ▸ tops.newest other among) (newest incumbent tops.member)
      by_cases alike : mark last = mark incumbent
      · exact .inl (tops.contested among (tied.trans level) (alike ▸ apart))
      · exact .inr ⟨level, alike⟩
  · rintro (found | ⟨level, apart⟩)
    · exact .inl found
    · exact .inr ⟨fun other among => level ▸ tops.newest other among, incumbent, tops.member, level.symm, Ne.symm apart⟩

/-- What is held tops the values offered, and the flag says whether there was a contest. -/
theorem contest_tops {values : List α} {value : α} {flag : Bool}
    (held : contest rank mark values = some (value, flag)) :
    Tops rank mark values value ∧ (flag = true ↔ Contested rank mark values) := by
  induction values using List.reverseRecOn generalizing value flag with
  | nil => cases held
  | append_singleton values last ih =>
    rw [contest_snoc, Option.some.injEq] at held
    cases before : contest rank mark values with
    | none =>
      rw [contest_eq_none] at before
      subst before
      cases held
      refine ⟨⟨by simp, by simp, by simp⟩, ?_⟩
      rw [contested_snoc]
      simp [Contested]
    | some entry =>
      obtain ⟨incumbent, contested⟩ := entry
      obtain ⟨tops, same⟩ := ih before
      have next := tops.contend contested last
      rw [before] at held
      rw [held] at next
      refine ⟨next, ?_⟩
      rw [tops.contested_snoc_iff, ← same]
      rw [contend] at held
      by_cases newer : rank incumbent < rank last
      · rw [if_pos newer] at held
        cases held
        simp [newer.ne']
      rw [if_neg newer] at held
      by_cases kept : rank last < rank incumbent ∨ mark last = mark incumbent
      · rw [if_pos kept] at held
        cases held
        rcases kept with older | alike
        · simp [older.ne]
        · simp [alike]
      · have level : rank last = rank incumbent :=
          le_antisymm (not_lt.mp newer) (not_lt.mp fun older => kept (.inl older))
        have raised : flag = true := by
          rw [if_neg kept] at held
          split at held
          · cases held
            rfl
          · cases held
            rfl
        exact iff_of_true raised (.inr ⟨level, fun alike => kept (.inr alike)⟩)

end Foundation
