import Mathlib.Data.List.Chain
import RackFabric.Foundation.Machine

/-!
Machines whose steps have outputs. The outputs of a run drive a second machine, and a relation that survives one step
of the first together with what its output does to the second survives every run.
-/

namespace Foundation

variable {σ ε ω τ : Type} {step : σ → ε → σ} {output : σ → ε → Option ω}

/-- What the steps of a run put out, in order. -/
def outputs (step : σ → ε → σ) (output : σ → ε → Option ω) : σ → List ε → List ω
  | _, [] => []
  | state, event :: rest => (output state event).toList ++ outputs step output (step state event) rest

/-- Each output is the output of one step, and the outputs before it are those of the run up to that step. -/
theorem outputs_split {state : σ} {events : List ε} {before after : List ω} {value : ω}
    (split : outputs step output state events = before ++ value :: after) :
    ∃ earlier event later, events = earlier ++ event :: later ∧ before = outputs step output state earlier ∧
      output (run step state earlier) event = some value := by
  induction events generalizing state before with
  | nil => simp [outputs] at split
  | cons event rest ih =>
    cases put : output state event with
    | none =>
      rw [outputs, put, Option.toList_none, List.nil_append] at split
      obtain ⟨earlier, next, later, rfl, rfl, found⟩ := ih split
      exact ⟨event :: earlier, next, later, rfl, by rw [outputs, put]; rfl, found⟩
    | some first =>
      rw [outputs, put, Option.toList_some, List.singleton_append] at split
      cases before with
      | nil =>
        obtain ⟨rfl, -⟩ := List.cons.inj split
        exact ⟨[], event, rest, rfl, rfl, put⟩
      | cons head tail =>
        obtain ⟨rfl, remaining⟩ := List.cons.inj split
        obtain ⟨earlier, next, later, rfl, rfl, found⟩ := ih remaining
        exact ⟨event :: earlier, next, later, rfl, by rw [outputs, put]; rfl, found⟩

/-- The states of a run, the first and the last included. -/
def visited (step : σ → ε → σ) : σ → List ε → List σ
  | state, [] => [state]
  | state, event :: rest => state :: visited step (step state event) rest

theorem mem_visited_run (state : σ) (events : List ε) : run step state events ∈ visited step state events := by
  induction events generalizing state with
  | nil => exact List.mem_cons_self
  | cons event rest ih =>
    rw [run_cons, visited]
    exact List.mem_cons_of_mem _ (ih (step state event))

/-- What relates each state of a run to the next holds along it. -/
theorem along_of_visited {view : σ → τ} {related : τ → τ → Prop} {state : σ} {events : List ε}
    (chain : ((visited step state events).map view).IsChain related) :
    Along step (fun before _ after => related (view before) (view after)) state events := by
  induction events generalizing state with
  | nil => trivial
  | cons event rest ih =>
    cases rest with
    | nil =>
      simp only [visited, List.map_cons, List.isChain_cons_cons] at chain
      exact ⟨chain.1, trivial⟩
    | cons next later =>
      simp only [visited, List.map_cons, List.isChain_cons_cons] at chain ih
      exact ⟨chain.1, ih chain.2⟩

/-- An invariant may rest on what is visited and what is put out by a run as a whole. -/
theorem run_keeps {allowed : σ → ε → σ → Prop} {holds : σ → Prop} {states : List σ} {values : List ω}
    (kept : ∀ state event, holds state → state ∈ states → (∀ value, output state event = some value → value ∈ values) →
      allowed state event (step state event) → holds (step state event))
    {state : σ} {events : List ε} (start : holds state) (within : ∀ seen ∈ visited step state events, seen ∈ states)
    (known : ∀ value ∈ outputs step output state events, value ∈ values) (along : Along step allowed state events) :
    holds (run step state events) := by
  induction events generalizing state with
  | nil => exact start
  | cons event rest ih =>
    rw [visited] at within
    rw [outputs] at known
    refine ih (kept state event start (within state List.mem_cons_self) ?_ along.1) ?_ ?_ along.2
    · intro value put
      exact known value (List.mem_append_left _ (by rw [put]; exact List.mem_singleton_self value))
    · exact fun seen member => within seen (List.mem_cons_of_mem _ member)
    · exact fun value member => known value (List.mem_append_right _ member)

/-- The rule of simulation: what one step and its output keep, a run and its outputs keep. -/
theorem run_simulates {follow : τ → ω → τ} {related : σ → τ → Prop}
    (kept : ∀ state event other, related state other →
      related (step state event) (run follow other (output state event).toList))
    {state : σ} {other : τ} (start : related state other) (events : List ε) :
    related (run step state events) (run follow other (outputs step output state events)) := by
  induction events generalizing state other with
  | nil => exact start
  | cons event rest ih =>
    rw [run_cons, outputs, run_append]
    exact ih (kept state event other start)

/-- The same against everything put out so far. -/
theorem run_accounts {related : σ → List ω → Prop}
    (kept : ∀ state event past, related state past → related (step state event) (past ++ (output state event).toList))
    {state : σ} {past : List ω} (start : related state past) (events : List ε) :
    related (run step state events) (past ++ outputs step output state events) := by
  have collects : ∀ (past more : List ω), run (fun past value => past ++ [value]) past more = past ++ more := by
    intro past more
    induction more generalizing past with
    | nil => exact (List.append_nil past).symm
    | cons value rest ih => rw [run_cons, ih, List.append_assoc, List.singleton_append]
  rw [← collects]
  refine run_simulates ?_ start events
  intro state event past related
  rw [collects]
  exact kept state event past related

/-- The same where only some steps are allowed. -/
theorem Along.accounts {allowed : σ → ε → σ → Prop} {related : σ → List ω → Prop} {state : σ} {events : List ε}
    (along : Along step allowed state events)
    (kept : ∀ state event past, related state past → allowed state event (step state event) →
      related (step state event) (past ++ (output state event).toList))
    {past : List ω} (start : related state past) :
    related (run step state events) (past ++ outputs step output state events) := by
  induction events generalizing state past with
  | nil => rwa [outputs, List.append_nil]
  | cons event rest ih =>
    rw [run_cons, outputs, ← List.append_assoc]
    exact ih along.2 (kept state event past start along.1)

end Foundation
