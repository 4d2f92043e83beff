import Mathlib.Data.List.Perm.Basic
import Mathlib.Data.List.Pairwise
import RackFabric.Model.Types

/-!
What sorting and the removal of equal neighbours keep of a list: its elements, and each of them once.
-/

namespace RackFabric

variable {α : Type} {less : α → α → Bool}

theorem insertSorted_perm (less : α → α → Bool) (value : α) (values : List α) :
    (insertSorted less value values).Perm (value :: values) := by
  induction values with
  | nil => exact .refl _
  | cons head tail ih =>
    rw [insertSorted]
    split
    · exact .refl _
    · exact (ih.cons head).trans (.swap value head tail)

theorem sortBy_perm (less : α → α → Bool) (values : List α) : (sortBy less values).Perm values := by
  have sorted : ∀ (rest done : List α),
      (rest.foldl (fun sorted value => insertSorted less value sorted) done).Perm (rest ++ done) := by
    intro rest
    induction rest with
    | nil => exact fun done => .refl _
    | cons value rest ih =>
      intro done
      have step := ih (insertSorted less value done)
      refine step.trans (((insertSorted_perm less value done).append_left rest).trans ?_)
      exact List.perm_middle
  have whole := sorted values []
  rwa [List.append_nil] at whole

/-- A list in which nothing stands before what is smaller. -/
def InOrder (less : α → α → Bool) (values : List α) : Prop :=
  values.Pairwise (fun a b => less b a = false)

/-- A comparison under which a sorted list is in order. -/
structure Orders (less : α → α → Bool) : Prop where
  asymm : ∀ a b, less a b = true → less b a = false
  trans : ∀ a b c, less b a = false → less c b = false → less c a = false

theorem insertSorted_inOrder (orders : Orders less) (value : α) {values : List α} (sorted : InOrder less values) :
    InOrder less (insertSorted less value values) := by
  induction values with
  | nil => exact List.pairwise_singleton _ _
  | cons head tail ih =>
    obtain ⟨first, rest⟩ := List.pairwise_cons.mp sorted
    rw [insertSorted]
    split
    · rename_i before
      refine List.pairwise_cons.mpr ⟨?_, sorted⟩
      intro other member
      rcases List.mem_cons.mp member with rfl | later
      · exact orders.asymm _ _ before
      · exact orders.trans _ _ _ (orders.asymm _ _ before) (first other later)
    · rename_i after
      refine List.pairwise_cons.mpr ⟨?_, ih rest⟩
      intro other member
      rcases List.mem_cons.mp ((insertSorted_perm less value tail).mem_iff.mp member) with rfl | later
      · simpa using after
      · exact first other later

theorem sortBy_inOrder (orders : Orders less) (values : List α) : InOrder less (sortBy less values) := by
  have sorted : ∀ (rest done : List α), InOrder less done →
      InOrder less (rest.foldl (fun sorted value => insertSorted less value sorted) done) := by
    intro rest
    induction rest with
    | nil => exact fun done ordered => ordered
    | cons value rest ih => exact fun done ordered => ih _ (insertSorted_inOrder orders value ordered)
  exact sorted values [] List.Pairwise.nil

/-- A list in order is left as it is. -/
theorem sortBy_of_inOrder {values : List α} (sorted : InOrder less values) :
    sortBy less values = values := by
  have last : ∀ (done : List α) (value : α), (∀ other ∈ done, less value other = false) →
      insertSorted less value done = done ++ [value] := by
    intro done value after
    induction done with
    | nil => rfl
    | cons head tail ih =>
      rw [insertSorted, if_neg (by simp [after head List.mem_cons_self]),
        ih fun other member => after other (List.mem_cons_of_mem _ member), List.cons_append]
  have whole : ∀ rest done : List α, InOrder less (done ++ rest) →
      rest.foldl (fun sorted value => insertSorted less value sorted) done = done ++ rest := by
    intro rest
    induction rest with
    | nil =>
      intro done _
      rw [List.foldl_nil, List.append_nil]
    | cons value rest ih =>
      intro done sorted
      have after := (List.pairwise_append.mp sorted).2.2
      rw [List.foldl_cons, last done value fun other member => after other member value List.mem_cons_self, ih]
      · rw [List.append_assoc, List.singleton_append]
      · rwa [List.append_assoc, List.singleton_append]
  exact whole values [] sorted

theorem uniqueAfter_sublist (same : α → α → Bool) (last : α) (values : List α) :
    (uniqueAfter same last values).Sublist values := by
  induction values generalizing last with
  | nil => exact .slnil
  | cons head tail ih =>
    rw [uniqueAfter]
    split
    · exact (ih last).cons head
    · exact (ih head).cons_cons head

/-- Removing neighbours adds nothing and keeps the order, whatever the relation. -/
theorem uniqueBy_sublist (same : α → α → Bool) (values : List α) : (uniqueBy same values).Sublist values := by
  cases values with
  | nil => exact .slnil
  | cons head tail => exact (uniqueAfter_sublist same head tail).cons_cons head

theorem mem_of_uniqueBy {same : α → α → Bool} {value : α} {values : List α}
    (member : value ∈ uniqueBy same values) : value ∈ values :=
  (uniqueBy_sublist same values).subset member

section Unique

variable [BEq α] [LawfulBEq α]

theorem mem_uniqueAfter {last value : α} {values : List α} :
    value ∈ last :: uniqueAfter (· == ·) last values ↔ value ∈ last :: values := by
  induction values generalizing last with
  | nil => simp [uniqueAfter]
  | cons head tail ih =>
    rw [uniqueAfter]
    split
    · rename_i same
      rw [ih, ← eq_of_beq same]
      simp
    · rw [List.mem_cons, ih]
      simp

theorem mem_uniqueBy {value : α} {values : List α} : value ∈ uniqueBy (· == ·) values ↔ value ∈ values := by
  cases values with
  | nil => simp [uniqueBy]
  | cons head tail => exact mem_uniqueAfter

/-- Equal elements of a list in order are neighbours, so that removing equal neighbours leaves each once. -/
theorem nodup_uniqueBy (antisymm : ∀ a b, less a b = false → less b a = false → a = b) {values : List α}
    (sorted : InOrder less values) : (uniqueBy (· == ·) values).Nodup := by
  have after : ∀ (values : List α) (last : α), InOrder less (last :: values) →
      (last :: uniqueAfter (· == ·) last values).Nodup := by
    intro values
    induction values with
    | nil =>
      intro last _
      simp [uniqueAfter]
    | cons head tail ih =>
      intro last sorted
      obtain ⟨first, rest⟩ := List.pairwise_cons.mp sorted
      rw [uniqueAfter]
      split
      · rename_i same
        rw [eq_of_beq same]
        exact ih head rest
      · rename_i different
        refine List.nodup_cons.mpr ⟨?_, ih head rest⟩
        intro member
        have later : last ∈ head :: tail := mem_uniqueAfter.mp member
        rcases List.mem_cons.mp later with same | later
        · exact different (beq_iff_eq.mpr same)
        · have notAfter := first head (by simp)
          have notBefore := (List.pairwise_cons.mp rest).1 last later
          exact different (beq_iff_eq.mpr (antisymm _ _ notBefore notAfter))
  cases values with
  | nil => exact List.nodup_nil
  | cons head tail => exact after tail head sorted

end Unique

section Neighbours

variable {α κ : Type} [BEq κ] [LawfulBEq κ] (key : α → κ) {value : α} {values : List α}

private theorem mem_uniqueAfter_iff (last : α) : value ∈ uniqueAfter (fun a b => key a == key b) last values ↔
    ∃ before after, values = before ++ value :: after ∧ key (before.getLastD last) ≠ key value := by
  induction values generalizing last with
  | nil => simp [uniqueAfter]
  | cons head tail ih =>
    rw [uniqueAfter]
    by_cases same : key last = key head
    · rw [if_pos (beq_iff_eq.mpr same), ih]
      constructor
      · intro split
        obtain ⟨before, after, rfl, apart⟩ := split
        refine ⟨head :: before, after, rfl, ?_⟩
        cases before with
        | nil => exact fun own => apart (same.trans own)
        | cons first rest => exact apart
      · intro split
        obtain ⟨before, after, split, apart⟩ := split
        cases before with
        | nil =>
          obtain ⟨rfl, -⟩ := List.cons.inj split
          exact absurd same apart
        | cons first rest =>
          obtain ⟨rfl, rfl⟩ := List.cons.inj split
          refine ⟨rest, after, rfl, ?_⟩
          cases rest with
          | nil => exact fun own => apart (same.symm.trans own)
          | cons second others => exact apart
    · rw [if_neg (fun equal => same (beq_iff_eq.mp equal)), List.mem_cons, ih]
      constructor
      · intro listed
        rcases listed with rfl | ⟨before, after, rfl, apart⟩
        · exact ⟨[], tail, rfl, same⟩
        · refine ⟨head :: before, after, rfl, ?_⟩
          cases before with
          | nil => exact apart
          | cons first rest => exact apart
      · intro split
        obtain ⟨before, after, split, apart⟩ := split
        cases before with
        | nil => exact .inl (List.cons.inj split).1.symm
        | cons first rest =>
          obtain ⟨rfl, rfl⟩ := List.cons.inj split
          refine .inr ⟨rest, after, rfl, ?_⟩
          cases rest with
          | nil => exact apart
          | cons second others => exact apart

/-- A value survives the removal of equal neighbours when the one before it has another key. -/
theorem mem_uniqueBy_iff : value ∈ uniqueBy (fun a b => key a == key b) values ↔
    ∃ before after, values = before ++ value :: after ∧ ∀ last ∈ before.getLast?, key last ≠ key value := by
  cases values with
  | nil => simp [uniqueBy]
  | cons head tail =>
    rw [uniqueBy, List.mem_cons, mem_uniqueAfter_iff]
    constructor
    · intro listed
      rcases listed with rfl | ⟨before, after, rfl, apart⟩
      · exact ⟨[], tail, rfl, fun last absent => by cases absent⟩
      · refine ⟨head :: before, after, rfl, ?_⟩
        intro last ends
        rw [List.getLast?_cons, Option.mem_some_iff] at ends
        subst ends
        rw [List.getLastD_eq_getLast?] at apart
        exact apart
    · intro split
      obtain ⟨before, after, split, apart⟩ := split
      cases before with
      | nil => exact .inl (List.cons.inj split).1.symm
      | cons first rest =>
        obtain ⟨rfl, rfl⟩ := List.cons.inj split
        refine .inr ⟨rest, after, rfl, ?_⟩
        rw [List.getLastD_eq_getLast?]
        exact apart _ (by rw [List.getLast?_cons, Option.mem_some_iff])

/-- In a strictly sorted list the one before is the only one that no other comes between. -/
theorem mem_uniqueBy_sorted {less : α → α → Bool} (asymm : ∀ a b, less a b = true → less b a = false)
    (sorted : values.Pairwise fun a b => less a b = true) :
    value ∈ uniqueBy (fun a b => key a == key b) values ↔ value ∈ values ∧
      ¬ ∃ other ∈ values, key other = key value ∧ less other value = true ∧
        ∀ middle ∈ values, ¬ (less other middle = true ∧ less middle value = true) := by
  have irrefl : ∀ a, ¬ less a a = true := by
    intro a less
    rw [asymm a a less] at less
    cases less
  have earlier : ∀ {before after : List α}, values = before ++ value :: after → ∀ other ∈ values,
      less other value = true → other ∈ before := by
    intro before after split other member less
    rw [split] at sorted member
    rcases List.mem_append.mp member with first | rest
    · exact first
    · exfalso
      rcases List.mem_cons.mp rest with rfl | later
      · exact irrefl _ less
      · have behind := (List.pairwise_cons.mp (List.pairwise_append.mp sorted).2.1).1 other later
        rw [asymm _ _ behind] at less
        cases less
  rw [mem_uniqueBy_iff]
  constructor
  · intro split
    obtain ⟨before, after, split, apart⟩ := split
    refine ⟨by rw [split]; simp, ?_⟩
    intro covered
    obtain ⟨other, member, same, less, none⟩ := covered
    have first := earlier split other member less
    obtain ⟨most, last, rfl⟩ := (List.eq_nil_or_concat' before).resolve_left (List.ne_nil_of_mem first)
    have ends : key last ≠ key value := apart last (by simp)
    rw [split] at sorted none
    have order := (List.pairwise_append.mp sorted).2.2
    rcases List.mem_append.mp first with inside | own
    · refine none last (by simp) ⟨?_, order last (by simp) value (by simp)⟩
      exact (List.pairwise_append.mp (List.pairwise_append.mp sorted).1).2.2 other inside last (by simp)
    · rw [List.mem_singleton] at own
      exact ends (own ▸ same)
  · intro listed
    obtain ⟨member, uncovered⟩ := listed
    obtain ⟨before, after, split⟩ := List.append_of_mem member
    refine ⟨before, after, split, ?_⟩
    intro last ends same
    obtain ⟨most, rfl⟩ := List.getLast?_eq_some_iff.mp ends
    apply uncovered
    have whole := sorted
    rw [split] at whole
    have order := (List.pairwise_append.mp whole).2.2
    refine ⟨last, by rw [split]; simp, same, order last (by simp) value (by simp), ?_⟩
    intro middle inside between
    have first := earlier split middle inside between.2
    rcases List.mem_append.mp first with early | own
    · have before := (List.pairwise_append.mp (List.pairwise_append.mp whole).1).2.2 middle early last (by simp)
      rw [asymm _ _ before] at between
      cases between.1
    · rw [List.mem_singleton] at own
      subst own
      exact irrefl _ between.1

end Neighbours
end RackFabric
