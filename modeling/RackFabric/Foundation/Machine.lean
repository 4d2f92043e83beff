import Std.Data.ExtTreeMap.Lemmas

/-!
Deterministic event machines: runs, conditions that a run meets at each of its steps, and the rule that
turns a step lemma into a run lemma.
-/

namespace Foundation

variable {σ ε : Type}

/-- The state a list of events leads to. -/
def run (step : σ → ε → σ) (state : σ) (events : List ε) : σ :=
  events.foldl step state

/-- A condition on state before, event and state after holds at every step of a run. -/
def Along (step : σ → ε → σ) (allowed : σ → ε → σ → Prop) : σ → List ε → Prop
  | _, [] => True
  | state, event :: rest =>
    allowed state event (step state event) ∧ Along step allowed (step state event) rest

instance {step : σ → ε → σ} {allowed : σ → ε → σ → Prop}
    [decide : ∀ state event next, Decidable (allowed state event next)] :
    ∀ state events, Decidable (Along step allowed state events)
  | _, [] => .isTrue trivial
  | state, event :: rest =>
    have : Decidable (Along step allowed (step state event) rest) := instDecidableAlong _ rest
    inferInstanceAs (Decidable (_ ∧ _))

@[simp] theorem run_nil (step : σ → ε → σ) (state : σ) : run step state [] = state := rfl

@[simp] theorem run_cons (step : σ → ε → σ) (state : σ) (event : ε) (rest : List ε) :
    run step state (event :: rest) = run step (step state event) rest := rfl

theorem run_append (step : σ → ε → σ) (state : σ) (first second : List ε) :
    run step state (first ++ second) = run step (run step state first) second := by
  simp [run]

theorem along_append {step : σ → ε → σ} {allowed : σ → ε → σ → Prop} {state : σ} {first second : List ε} :
    Along step allowed state (first ++ second) ↔
      Along step allowed state first ∧ Along step allowed (run step state first) second := by
  induction first generalizing state with
  | nil => simp [Along]
  | cons event rest ih => simp [Along, ih, and_assoc]

theorem Along.mono {step : σ → ε → σ} {allowed weaker : σ → ε → σ → Prop} {state : σ} {events : List ε}
    (along : Along step allowed state events)
    (implies : ∀ state event, allowed state event (step state event) → weaker state event (step state event)) :
    Along step weaker state events := by
  induction events generalizing state with
  | nil => trivial
  | cons event rest ih => exact ⟨implies state event along.1, ih along.2⟩

/-- What holds initially and survives every allowed step of the run's own events holds after the run. -/
theorem Along.invariant_of_mem {step : σ → ε → σ} {allowed : σ → ε → σ → Prop} {inv : σ → Prop} {state : σ}
    {events : List ε} (along : Along step allowed state events) (holds : inv state)
    (preserved : ∀ state, ∀ event ∈ events, inv state → allowed state event (step state event) →
      inv (step state event)) : inv (run step state events) := by
  induction events generalizing state with
  | nil => exact holds
  | cons event rest ih =>
    apply ih along.2 (preserved state event (by simp) holds along.1)
    intro state event member
    exact preserved state event (by simp [member])

/-- What holds initially and survives every allowed step holds after every allowed run. -/
theorem Along.invariant {step : σ → ε → σ} {allowed : σ → ε → σ → Prop} {inv : σ → Prop} {state : σ}
    {events : List ε} (along : Along step allowed state events) (holds : inv state)
    (preserved : ∀ state event, inv state → allowed state event (step state event) → inv (step state event)) :
    inv (run step state events) :=
  along.invariant_of_mem holds (fun state event _ => preserved state event)

/-- Where an invariant survives exactly the allowed steps, it holds in every state of exactly the allowed runs. -/
theorem along_iff {step : σ → ε → σ} {allowed : σ → ε → σ → Prop} {inv : σ → Prop} {state : σ} {events : List ε}
    (holds : inv state)
    (exact_ : ∀ state event, inv state → (inv (step state event) ↔ allowed state event (step state event))) :
    (∀ earlier later, events = earlier ++ later → inv (run step state earlier)) ↔ Along step allowed state events := by
  induction events generalizing state with
  | nil =>
    refine ⟨fun _ => trivial, fun _ earlier later split => ?_⟩
    obtain ⟨rfl, -⟩ := List.append_eq_nil_iff.mp split.symm
    exact holds
  | cons event rest ih =>
    constructor
    · intro all
      have next : inv (step state event) := all [event] rest rfl
      refine ⟨(exact_ state event holds).mp next, (ih next).mp ?_⟩
      intro earlier later split
      exact all (event :: earlier) later (by rw [split, List.cons_append])
    · rintro ⟨allowed, along⟩ earlier later split
      cases earlier with
      | nil => exact holds
      | cons first earlier =>
        rw [List.cons_append, List.cons.injEq] at split
        obtain ⟨rfl, split⟩ := split
        exact (ih ((exact_ state event holds).mpr allowed)).mpr along earlier later split

end Foundation
