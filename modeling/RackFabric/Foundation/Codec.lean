import Mathlib.Data.List.Basic

/-!
Readers that consume a list, and what it means that one reads back what was written: in front of anything it
takes exactly the written items and leaves the rest.
-/

namespace Foundation

universe u

variable {β α γ : Type} {m : Type → Type u} [Monad m]

/-- In front of any rest, the reader takes the items and returns the value. -/
def Reads (reader : StateT (List β) m α) (items : List β) (value : α) : Prop :=
  ∀ rest, reader (items ++ rest) = pure (value, rest)

namespace Reads

theorem done (value : α) : Reads (pure value : StateT (List β) m α) [] value :=
  fun _ => rfl

variable [LawfulMonad m]

theorem bind {first : StateT (List β) m α} {next : α → StateT (List β) m γ} {items more : List β} {value : α}
    {result : γ} (reads : Reads first items value) (then_ : Reads (next value) more result) :
    Reads (first >>= next) (items ++ more) result := by
  intro rest
  have step : (first >>= next) (items ++ more ++ rest) =
      (first (items ++ (more ++ rest)) >>= fun pair => next pair.1 pair.2) := by
    rw [← List.append_assoc]
    rfl
  rw [step, reads, pure_bind]
  exact then_ rest

/-- What follows the last read takes nothing more. -/
theorem closed {first : StateT (List β) m α} {next : α → StateT (List β) m γ} {items : List β} {value : α}
    {result : γ} (reads : Reads first items value) (then_ : Reads (next value) [] result) :
    Reads (first >>= next) items result := by
  have whole := reads.bind then_
  rwa [List.append_nil] at whole

theorem last {first : StateT (List β) m α} {make : α → γ} {items : List β} {value : α}
    (reads : Reads first items value) : Reads (first >>= fun read => pure (make read)) items (make value) :=
  reads.closed (done (make value))

end Reads

/-- Reads a counted run of elements. -/
def readMany (reader : StateT (List β) m α) : Nat → StateT (List β) m (List α)
  | 0 => pure []
  | n + 1 => do
    let value ← reader
    let values ← readMany reader n
    pure (value :: values)

/-- Reads a count and then that many elements. -/
def readCounted (counter : StateT (List β) m Nat) (reader : StateT (List β) m α) : StateT (List β) m (List α) := do
  let n ← counter
  readMany reader n

theorem Reads.many [LawfulMonad m] {reader : StateT (List β) m α} {items : α → List β} {values : List α}
    (reads : ∀ value ∈ values, Reads reader (items value) value) :
    Reads (readMany reader values.length) (values.flatMap items) values := by
  induction values with
  | nil => exact done []
  | cons value values ih =>
    have rest := ih fun other member => reads other (by simp [member])
    exact (reads value (by simp)).bind rest.last

end Foundation
