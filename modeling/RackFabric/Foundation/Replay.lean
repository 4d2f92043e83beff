import Mathlib.Data.List.Induction

/-!
Replaying a list of updates once more: updates that were absorbed change nothing, and a register that updates
assign or raise ends where it ended.
-/

namespace Foundation

variable {σ ε : Type} {step : σ → ε → σ}

/-- Making an update absorbs it, and it stays absorbed: after a list of updates all of them are. -/
theorem foldl_absorbed {inv : σ → Prop} {absorbed : σ → ε → Prop} {pool : List ε}
    (kept : ∀ state, ∀ update ∈ pool, inv state → inv (step state update))
    (made : ∀ state, ∀ update ∈ pool, inv state → absorbed (step state update) update)
    (stays : ∀ state, ∀ update ∈ pool, ∀ other ∈ pool, inv state → absorbed state update →
      absorbed (step state other) update)
    {updates : List ε} (among : ∀ update ∈ updates, update ∈ pool) {state : σ} (holds : inv state) :
    inv (updates.foldl step state) ∧ ∀ update ∈ updates, absorbed (updates.foldl step state) update := by
  induction updates using List.reverseRecOn with
  | nil => exact ⟨holds, by simp⟩
  | append_singleton updates last ih =>
    obtain ⟨before, all⟩ := ih (fun update member => among update (by simp [member]))
    have pooled := among last (by simp)
    rw [List.foldl_append, List.foldl_cons, List.foldl_nil]
    refine ⟨kept _ last pooled before, ?_⟩
    intro update member
    rcases List.mem_append.mp member with early | late
    · exact stays _ update (among update member) last pooled before (all update early)
    · rw [List.mem_singleton.mp late]
      exact made _ last pooled before

/-- Absorbed updates leave the state alone. -/
theorem foldl_of_absorbed {absorbed : σ → ε → Prop}
    (idle : ∀ state update, absorbed state update → step state update = state) {updates : List ε} {state : σ}
    (all : ∀ update ∈ updates, absorbed state update) : updates.foldl step state = state := by
  induction updates with
  | nil => rfl
  | cons update rest ih =>
    rw [List.foldl_cons, idle state update (all update (by simp))]
    exact ih (fun other member => all other (by simp [member]))

/-- What one update does to a register. -/
inductive Effect (α : Type) where
  | keep
  | assign (value : α)
  | raise (value : α)

section Register

variable {α : Type} {join : α → α → α}

def Effect.apply (join : α → α → α) : Effect α → α → α
  | .keep, held => held
  | .assign value, _ => value
  | .raise value, held => join held value

def Effect.followedBy (join : α → α → α) : Effect α → Effect α → Effect α
  | first, .keep => first
  | _, .assign value => .assign value
  | .keep, .raise value => .raise value
  | .assign held, .raise value => .assign (join held value)
  | .raise held, .raise value => .raise (join held value)

variable [Std.Associative join]

theorem Effect.apply_followedBy (first second : Effect α) (held : α) :
    (first.followedBy join second).apply join held = second.apply join (first.apply join held) := by
  cases second with
  | keep => rfl
  | assign value => cases first <;> rfl
  | raise value =>
    cases first with
    | keep => rfl
    | assign other => rfl
    | raise other => exact (Std.Associative.assoc held other value).symm

/-- The effects of a list of updates on a register add up to one effect. -/
theorem foldl_effect (effectOf : ε → Effect α) (updates : List ε) :
    ∃ effect : Effect α, ∀ held,
      updates.foldl (fun held update => (effectOf update).apply join held) held = effect.apply join held := by
  induction updates using List.reverseRecOn with
  | nil => exact ⟨.keep, fun held => rfl⟩
  | append_singleton updates last ih =>
    obtain ⟨effect, total⟩ := ih
    refine ⟨effect.followedBy join (effectOf last), ?_⟩
    intro held
    rw [List.foldl_append, List.foldl_cons, List.foldl_nil, total, Effect.apply_followedBy]

variable [Std.IdempotentOp join]

theorem Effect.apply_twice (effect : Effect α) (held : α) :
    effect.apply join (effect.apply join held) = effect.apply join held := by
  cases effect with
  | keep => rfl
  | assign value => rfl
  | raise value =>
    have regroup : join (join held value) value = join held (join value value) :=
      Std.Associative.assoc held value value
    have once : join value value = value := Std.IdempotentOp.idempotent value
    exact regroup.trans (congrArg (join held) once)

/-- A register that is replayed ends where it ended. -/
theorem foldl_effect_twice (effectOf : ε → Effect α) (updates : List ε) (held : α) :
    updates.foldl (fun held update => (effectOf update).apply join held)
        (updates.foldl (fun held update => (effectOf update).apply join held) held) =
      updates.foldl (fun held update => (effectOf update).apply join held) held := by
  obtain ⟨effect, total⟩ : ∃ effect : Effect α, ∀ held,
      updates.foldl (fun held update => (effectOf update).apply join held) held = effect.apply join held :=
    foldl_effect effectOf updates
  rw [total, total, Effect.apply_twice]

end Register

end Foundation
