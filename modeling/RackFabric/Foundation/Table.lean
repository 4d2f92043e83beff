import Std.Data.ExtTreeMap.Lemmas

/-!
Loops that visit the entries of a table, each key once, where a visit may rewrite its own entry and leaves the
other entries alone.
-/

namespace Foundation

variable {σ κ β : Type} {table : σ → κ → Option β} {visit : σ → κ → σ} {rel : β → β → Prop}

/-- One visit: the entry under the key moves along a relation, the others stay. -/
def Visits (table : σ → κ → Option β) (rel : β → β → Prop) (key : κ) (before after : σ) : Prop :=
  Option.Rel rel (table before key) (table after key) ∧ ∀ other, other ≠ key → table after other = table before other

/-- Every entry of a loop over distinct keys moves along the relation once, under any invariant of the visits. -/
theorem foldl_visits {inv : σ → Prop} {keys : List κ} (distinct : keys.Nodup)
    (visits : ∀ state key, inv state → inv (visit state key) ∧ Visits table rel key state (visit state key))
    {state : σ} (holds : inv state) :
    inv (keys.foldl visit state) ∧ ∀ key,
      (key ∈ keys → Option.Rel rel (table state key) (table (keys.foldl visit state) key)) ∧
        (key ∉ keys → table (keys.foldl visit state) key = table state key) := by
  induction keys generalizing state with
  | nil => exact ⟨holds, fun key => ⟨by simp, fun _ => rfl⟩⟩
  | cons first rest ih =>
    obtain ⟨fresh, distinct⟩ := List.nodup_cons.mp distinct
    obtain ⟨kept, own, others⟩ := visits state first holds
    obtain ⟨final, entries⟩ := ih distinct kept
    refine ⟨final, ?_⟩
    intro key
    by_cases same : key = first
    · subst same
      refine ⟨?_, by simp⟩
      intro _
      rw [List.foldl_cons, (entries key).2 fresh]
      exact own
    · rw [List.foldl_cons]
      refine ⟨?_, ?_⟩
      · intro member
        rw [← others key same]
        exact (entries key).1 (by simpa [same] using member)
      · intro absent
        rw [← others key same]
        exact (entries key).2 (by simpa [same] using absent)

end Foundation
