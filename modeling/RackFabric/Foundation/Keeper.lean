import Mathlib.Data.List.Forall2
import RackFabric.Foundation.Simulation

/-!
Components that keep their state on something durable. They are opened, serve calls, and may die at any time: between
calls, inside one, or while they are being opened. A component refines another when opening, serving and dying keep
two relations, one between what is durable and one between what is running; each of its lives is then a life of the
other, with the same answers.
-/

namespace Foundation

/-- A component with a durable part `δ`, running states `σ`, calls `κ` and answers `α`; opening it may fail with an `ε`
and reports a `β`. The cuts give what is left durable by an opening or a call that dies after getting so far. -/
structure Keeper (δ σ κ α ε β : Type) where
  opened : δ → Except ε σ
  cutOpening : δ → Nat → δ
  report : σ → β
  serve : σ → κ → σ × α
  cut : σ → κ → Nat → δ
  durable : σ → δ

inductive Life (δ σ : Type) where
  | down (durable : δ)
  | up (state : σ)
deriving DecidableEq, Repr

/-- What happens to a component. What does not apply to its present state does nothing. -/
inductive Fate (κ : Type) where
  | start
  | dieStarting (reached : Nat)
  | call (call : κ)
  | dieServing (call : κ) (reached : Nat)
  | die
deriving DecidableEq, Repr

/-- The same events, up to how far a death let the work get. -/
inductive Fate.Alike {κ : Type} : Fate κ → Fate κ → Prop where
  | same (fate : Fate κ) : Alike fate fate
  | dieStarting (here there : Nat) : Alike (.dieStarting here) (.dieStarting there)
  | dieServing (call : κ) (here there : Nat) : Alike (.dieServing call here) (.dieServing call there)

/-- What is told to the outside. -/
inductive Told (α ε β : Type) where
  | started (result : Except ε β)
  | answered (answer : α)
deriving DecidableEq, Repr

variable {δ δ' σ σ' κ α ε β : Type}

namespace Keeper

def step (keeper : Keeper δ σ κ α ε β) : Life δ σ → Fate κ → Life δ σ
  | .down durable, .start =>
    match keeper.opened durable with
    | .ok state => .up state
    | .error _ => .down durable
  | .down durable, .dieStarting reached => .down (keeper.cutOpening durable reached)
  | .up state, .call call => .up (keeper.serve state call).1
  | .up state, .dieServing call reached => .down (keeper.cut state call reached)
  | .up state, .die => .down (keeper.durable state)
  | life, _ => life

def told (keeper : Keeper δ σ κ α ε β) : Life δ σ → Fate κ → Option (Told α ε β)
  | .down durable, .start => some (.started ((keeper.opened durable).map keeper.report))
  | .up state, .call call => some (.answered (keeper.serve state call).2)
  | _, _ => none

/-- Where a life of the component leads. -/
def live (keeper : Keeper δ σ κ α ε β) : Life δ σ → List (Fate κ) → Life δ σ :=
  run keeper.step

/-- Everything a life of the component tells, in order. -/
def tells (keeper : Keeper δ σ κ α ε β) : Life δ σ → List (Fate κ) → List (Told α ε β) :=
  outputs keeper.step keeper.told

theorem live_cons (keeper : Keeper δ σ κ α ε β) (life : Life δ σ) (fate : Fate κ) (rest : List (Fate κ)) :
    keeper.live life (fate :: rest) = keeper.live (keeper.step life fate) rest :=
  rfl

theorem tells_cons (keeper : Keeper δ σ κ α ε β) (life : Life δ σ) (fate : Fate κ) (rest : List (Fate κ)) :
    keeper.tells life (fate :: rest) = (keeper.told life fate).toList ++ keeper.tells (keeper.step life fate) rest :=
  rfl

theorem live_append (keeper : Keeper δ σ κ α ε β) (life : Life δ σ) (earlier later : List (Fate κ)) :
    keeper.live life (earlier ++ later) = keeper.live (keeper.live life earlier) later :=
  run_append keeper.step life earlier later

/-- A condition on the calls that reach a running component. -/
def Meets (condition : σ → κ → Prop) : Life δ σ → Fate κ → Prop
  | .up state, .call call => condition state call
  | .up state, .dieServing call _ => condition state call
  | _, _ => True

instance {condition : σ → κ → Prop} [decide : ∀ state call, Decidable (condition state call)] :
    ∀ (life : Life δ σ) (fate : Fate κ), Decidable (Meets condition life fate)
  | .up state, .call call => decide state call
  | .up state, .dieServing call _ => decide state call
  | .up _, .start | .up _, .dieStarting _ | .up _, .die => .isTrue trivial
  | .down _, .start | .down _, .dieStarting _ | .down _, .call _ | .down _, .dieServing _ _ | .down _, .die =>
    .isTrue trivial

/-- Every call that reaches the component in a life meets a condition. -/
def Throughout (keeper : Keeper δ σ κ α ε β) (condition : σ → κ → Prop) (life : Life δ σ) (fates : List (Fate κ)) :
    Prop :=
  Along keeper.step (fun life fate _ => Meets condition life fate) life fates

theorem throughout_append {keeper : Keeper δ σ κ α ε β} {condition : σ → κ → Prop} {life : Life δ σ}
    {earlier later : List (Fate κ)} :
    keeper.Throughout condition life (earlier ++ later) ↔
      keeper.Throughout condition life earlier ∧ keeper.Throughout condition (keeper.live life earlier) later :=
  along_append

/-- Events that may meet the component in any state may make up any life of it. -/
theorem throughout_of_forall {keeper : Keeper δ σ κ α ε β} {condition : σ → κ → Prop} {fates : List (Fate κ)}
    (free : ∀ fate ∈ fates, ∀ life : Life δ σ, Meets condition life fate) (life : Life δ σ) :
    keeper.Throughout condition life fates := by
  induction fates generalizing life with
  | nil => trivial
  | cons fate rest ih =>
    exact ⟨free fate List.mem_cons_self life, ih (fun next member => free next (List.mem_cons_of_mem _ member)) _⟩

end Keeper

/-- Related durable parts, or related running states. -/
inductive Life.Related (holds : δ → δ' → Prop) (models : σ → σ' → Prop) : Life δ σ → Life δ' σ' → Prop where
  | down {here : δ} {there : δ'} (held : holds here there) : Related holds models (.down here) (.down there)
  | up {here : σ} {there : σ'} (modelled : models here there) : Related holds models (.up here) (.up there)

/-- A component refines another, on calls that meet a condition. -/
structure Refines (fine : Keeper δ σ κ α ε β) (coarse : Keeper δ' σ' κ α ε β) (holds : δ → δ' → Prop)
    (models : σ → σ' → Prop) (condition : σ → κ → Prop) : Prop where
  opened : ∀ {here there}, holds here there →
    (∃ failure, fine.opened here = .error failure ∧ coarse.opened there = .error failure) ∨
      ∃ state other, fine.opened here = .ok state ∧ coarse.opened there = .ok other ∧ models state other
  report : ∀ {state other}, models state other → fine.report state = coarse.report other
  cutOpening : ∀ {here there}, holds here there → ∀ reached, ∃ far,
    holds (fine.cutOpening here reached) (coarse.cutOpening there far)
  serve : ∀ {state other call}, models state other → condition state call →
    models (fine.serve state call).1 (coarse.serve other call).1 ∧
      (fine.serve state call).2 = (coarse.serve other call).2
  cut : ∀ {state other call}, models state other → condition state call → ∀ reached, ∃ far,
    holds (fine.cut state call reached) (coarse.cut other call far)
  durable : ∀ {state other}, models state other → holds (fine.durable state) (coarse.durable other)

namespace Refines

variable {fine : Keeper δ σ κ α ε β} {coarse : Keeper δ' σ' κ α ε β} {holds : δ → δ' → Prop}
  {models : σ → σ' → Prop} {condition : σ → κ → Prop} {life : Life δ σ} {other : Life δ' σ'}

theorem step (refines : Refines fine coarse holds models condition) (related : life.Related holds models other)
    (fate : Fate κ) (meets : Keeper.Meets condition life fate) :
    ∃ alike, Fate.Alike fate alike ∧ fine.told life fate = coarse.told other alike ∧
      (fine.step life fate).Related holds models (coarse.step other alike) := by
  cases related with
  | @down here there held =>
    cases fate with
    | start =>
      refine ⟨.start, .same _, ?_⟩
      rcases refines.opened held with ⟨failure, failed, failed'⟩ | ⟨state, other, opened, opened', modelled⟩
      · simp only [Keeper.told, Keeper.step, failed, failed', Except.map]
        exact ⟨trivial, .down held⟩
      · simp only [Keeper.told, Keeper.step, opened, opened', Except.map, refines.report modelled]
        exact ⟨trivial, .up modelled⟩
    | dieStarting reached =>
      obtain ⟨far, kept⟩ := refines.cutOpening held reached
      exact ⟨.dieStarting far, .dieStarting reached far, rfl, .down kept⟩
    | call call => exact ⟨_, .same _, rfl, .down held⟩
    | dieServing call reached => exact ⟨_, .same _, rfl, .down held⟩
    | die => exact ⟨_, .same _, rfl, .down held⟩
  | @up state there modelled =>
    cases fate with
    | start => exact ⟨_, .same _, rfl, .up modelled⟩
    | dieStarting reached => exact ⟨_, .same _, rfl, .up modelled⟩
    | call call =>
      obtain ⟨next, answer⟩ := refines.serve modelled meets
      refine ⟨_, .same _, ?_, .up next⟩
      simp only [Keeper.told, answer]
    | dieServing call reached =>
      obtain ⟨far, kept⟩ := refines.cut modelled meets reached
      exact ⟨.dieServing call far, .dieServing call reached far, rfl, .down kept⟩
    | die => exact ⟨_, .same _, rfl, .down (refines.durable modelled)⟩

/-- Each life of the finer component is a life of the coarser one: the same events up to how far a death let the work
get, the same answers, and related ends. -/
theorem lives (refines : Refines fine coarse holds models condition) (related : life.Related holds models other)
    {fates : List (Fate κ)} (meets : fine.Throughout condition life fates) :
    ∃ alike, List.Forall₂ Fate.Alike fates alike ∧ fine.tells life fates = coarse.tells other alike ∧
      (fine.live life fates).Related holds models (coarse.live other alike) := by
  induction fates generalizing life other with
  | nil => exact ⟨[], .nil, rfl, related⟩
  | cons fate rest ih =>
    obtain ⟨first, same, tells, next⟩ := refines.step related fate meets.1
    obtain ⟨others, sames, later, ends⟩ := ih next meets.2
    refine ⟨first :: others, .cons same sames, ?_, ends⟩
    rw [Keeper.tells_cons, Keeper.tells_cons, tells, later]

end Refines

end Foundation
