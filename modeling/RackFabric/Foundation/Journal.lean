import Mathlib.Data.List.Induction

/-!
Machines whose moves are written to a journal as they are made.
-/

namespace Foundation

variable {σ ρ : Type} {move : σ → List ρ → σ → Prop}

/-- Moves in sequence, with everything they add to the journal. -/
inductive Chain (move : σ → List ρ → σ → Prop) : σ → List ρ → σ → Prop where
  | nothing (state : σ) : Chain move state [] state
  | after {first middle last : σ} {earlier later : List ρ} (chain : Chain move first earlier middle)
      (next : move middle later last) : Chain move first (earlier ++ later) last

theorem Chain.single {first last : σ} {added : List ρ} (next : move first added last) :
    Chain move first added last :=
  .after (.nothing first) next

theorem Chain.trans {first middle last : σ} {earlier later : List ρ} (chain : Chain move first earlier middle)
    (rest : Chain move middle later last) : Chain move first (earlier ++ later) last := by
  induction rest with
  | nothing => simpa using chain
  | after _ next ih =>
    rw [← List.append_assoc]
    exact .after ih next

end Foundation
