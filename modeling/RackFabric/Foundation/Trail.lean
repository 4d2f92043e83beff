import Mathlib.Data.List.Nodup

/-!
Walks in a multigraph with named edges, as lists of steps: the edge that is taken and the place it leads to. A route is
a walk that visits nothing twice and meets an exit at its end and nowhere before.
-/

namespace Foundation

variable {ν ι : Type}

/-- The steps follow the edges, each from where the one before it ended. -/
def Trail (edge : ν → ι × ν → Prop) : ν → List (ι × ν) → Prop
  | _, [] => True
  | origin, step :: rest => edge origin step ∧ Trail edge step.2 rest

/-- Where the steps lead. -/
def endOf : ν → List (ι × ν) → ν
  | origin, [] => origin
  | _, step :: rest => endOf step.2 rest

/-- The same steps taken from their end. -/
def back : ν → List (ι × ν) → List (ι × ν)
  | _, [] => []
  | origin, step :: rest => back step.2 rest ++ [(step.1, origin)]

/-- Every place on a walk, the origin first. -/
def stops (origin : ν) (steps : List (ι × ν)) : List ν :=
  origin :: steps.map Prod.snd

section Walks

variable {edge : ν → ι × ν → Prop} {origin : ν} {steps : List (ι × ν)}

theorem endOf_append (first second : List (ι × ν)) :
    endOf origin (first ++ second) = endOf (endOf origin first) second := by
  induction first generalizing origin with
  | nil => rfl
  | cons step rest ih => exact ih

@[simp] theorem endOf_snoc (step : ι × ν) : endOf origin (steps ++ [step]) = step.2 := by
  rw [endOf_append]
  rfl

theorem endOf_eq_getLast (origin : ν) (steps : List (ι × ν)) :
    endOf origin steps = (stops origin steps).getLast (List.cons_ne_nil _ _) := by
  induction steps generalizing origin with
  | nil => rfl
  | cons step rest ih => exact (ih step.2).trans (List.getLast_cons _).symm

theorem trail_append (first second : List (ι × ν)) :
    Trail edge origin (first ++ second) ↔ Trail edge origin first ∧ Trail edge (endOf origin first) second := by
  induction first generalizing origin with
  | nil => exact (true_and _).symm ▸ Iff.rfl
  | cons step rest ih =>
    show edge origin step ∧ Trail edge step.2 (rest ++ second) ↔ _
    rw [ih, ← and_assoc]
    rfl

theorem trail_snoc (step : ι × ν) :
    Trail edge origin (steps ++ [step]) ↔ Trail edge origin steps ∧ edge (endOf origin steps) step := by
  rw [trail_append]
  exact and_congr_right fun _ => iff_of_eq (and_true _)

theorem stops_snoc (step : ι × ν) : stops origin (steps ++ [step]) = stops origin steps ++ [step.2] := by
  simp [stops]

theorem stops_back (origin : ν) (steps : List (ι × ν)) :
    stops (endOf origin steps) (back origin steps) = (stops origin steps).reverse := by
  induction steps generalizing origin with
  | nil => rfl
  | cons step rest ih =>
    rw [back, stops_snoc]
    show stops (endOf step.2 rest) (back step.2 rest) ++ [origin] = (origin :: stops step.2 rest).reverse
    rw [ih, List.reverse_cons]

theorem endOf_back (origin : ν) (steps : List (ι × ν)) : endOf (endOf origin steps) (back origin steps) = origin := by
  cases steps with
  | nil => rfl
  | cons step rest => exact endOf_snoc _

theorem back_edges (origin : ν) (steps : List (ι × ν)) :
    (back origin steps).map Prod.fst = (steps.map Prod.fst).reverse := by
  induction steps generalizing origin with
  | nil => rfl
  | cons step rest ih => simp [back, ih]

/-- Edges can be taken both ways, and an edge has two ends. -/
structure Undirected (edge : ν → ι × ν → Prop) : Prop where
  symm : ∀ {a b : ν} {name : ι}, edge a (name, b) → edge b (name, a)
  ends : ∀ {a b c d : ν} {name : ι}, edge a (name, b) → edge c (name, d) → (a = c ∧ b = d) ∨ (a = d ∧ b = c)

theorem Undirected.back_trail (graph : Undirected edge) (trail : Trail edge origin steps) :
    Trail edge (endOf origin steps) (back origin steps) := by
  induction steps generalizing origin with
  | nil => trivial
  | cons step rest ih =>
    obtain ⟨taken, rest_trail⟩ := trail
    refine (trail_snoc _).mpr ⟨ih rest_trail, ?_⟩
    have returned : endOf (endOf step.2 rest) (back step.2 rest) = step.2 := endOf_back _ _
    show edge (endOf (endOf step.2 rest) (back step.2 rest)) _
    rw [returned]
    exact graph.symm taken

theorem Undirected.next_unique (graph : Undirected edge) {a b c : ν} {name : ι} (first : edge a (name, b))
    (second : edge a (name, c)) : b = c := by
  rcases graph.ends first second with ⟨-, same⟩ | ⟨ahead, behind⟩
  · exact same
  · exact behind.trans ahead

/-- The edges of a walk determine its steps. -/
theorem Undirected.steps_unique (graph : Undirected edge) {other : List (ι × ν)} (first : Trail edge origin steps)
    (second : Trail edge origin other) (same : steps.map Prod.fst = other.map Prod.fst) : steps = other := by
  induction steps generalizing origin other with
  | nil => exact (List.map_eq_nil_iff.mp same.symm).symm
  | cons step rest ih =>
    cases other with
    | nil => cases same
    | cons taken others =>
      obtain ⟨name, next⟩ := step
      obtain ⟨again, last⟩ := taken
      obtain ⟨rfl, tails⟩ := List.cons.inj same
      obtain rfl : next = last := graph.next_unique first.1 second.1
      rw [ih first.2 second.2 tails]

end Walks

/-- A walk that visits nothing twice and meets no exit on its way. -/
structure Probe (edge : ν → ι × ν → Prop) (exit : ν → Prop) (origin : ν) (steps : List (ι × ν)) : Prop where
  nonempty : steps ≠ []
  trail : Trail edge origin steps
  distinct : (stops origin steps).Nodup
  inner : ∀ stop ∈ (steps.map Prod.snd).dropLast, ¬ exit stop

/-- From a place all of whose edges lead to exits, a probe is a single step. -/
theorem Probe.single {edge : ν → ι × ν → Prop} {exit : ν → Prop} {origin : ν} {steps : List (ι × ν)}
    (probe : Probe edge exit origin steps) (direct : ∀ step, edge origin step → exit step.2) :
    ∃ step, steps = [step] ∧ edge origin step := by
  cases steps with
  | nil => exact absurd rfl probe.nonempty
  | cons step rest =>
    cases rest with
    | nil => exact ⟨step, rfl, probe.trail.1⟩
    | cons next rest => exact absurd (direct step probe.trail.1) (probe.inner step.2 (by simp))

/-- A walk of bounded length that visits nothing twice, between its ends no exit, and ends at one. -/
structure Route (edge : ν → ι × ν → Prop) (exit : ν → Prop) (hops : Nat) (origin finish : ν)
    (steps : List (ι × ν)) : Prop extends Probe edge exit origin steps where
  ends : endOf origin steps = finish
  exits : exit finish
  short : steps.length ≤ hops

section Routes

variable {edge : ν → ι × ν → Prop} {exit : ν → Prop} {hops : Nat} {origin finish : ν} {steps : List (ι × ν)}

theorem Route.ne (route : Route edge exit hops origin finish steps) : origin ≠ finish := by
  obtain ⟨before, step, rfl⟩ := List.eq_nil_or_concat' steps |>.resolve_left route.nonempty
  have ends := route.ends
  have distinct := route.distinct
  rw [endOf_snoc] at ends
  rw [stops, List.nodup_cons] at distinct
  rw [← ends]
  intro same
  exact distinct.1 (List.mem_map.mpr ⟨step, by simp, same.symm⟩)

/-- A route between two exits can be taken backwards. -/
theorem Route.reverse (graph : Undirected edge) (route : Route edge exit hops origin finish steps)
    (leaves : exit origin) : Route edge exit hops finish origin (back origin steps) := by
  have ends := route.ends
  subst ends
  have edges := back_edges origin steps
  have length : (back origin steps).length = steps.length := by
    rw [← List.length_map Prod.fst, edges, List.length_reverse, List.length_map]
  have turned := stops_back origin steps
  constructor
  · constructor
    · intro empty
      rw [empty] at length
      exact route.nonempty (List.length_eq_zero_iff.mp length.symm)
    · exact graph.back_trail route.trail
    · rw [turned]
      exact List.nodup_reverse.mpr route.distinct
    · have tail : (back origin steps).map Prod.snd = ((stops origin steps).reverse).tail := by
        rw [← turned]
        rfl
      rw [tail]
      intro stop member
      apply route.inner stop
      rw [List.tail_reverse, List.dropLast_reverse, List.mem_reverse] at member
      cases steps with
      | nil => exact absurd rfl route.nonempty
      | cons step rest => simpa [stops] using member
  · exact endOf_back _ _
  · exact leaves
  · rw [length]
    exact route.short

/-- Two routes over the same edges are the same, or one edge taken both ways. -/
theorem Route.over_same_edges (graph : Undirected edge) {origin' finish' : ν} {steps' : List (ι × ν)}
    (first : Route edge exit hops origin finish steps) (second : Route edge exit hops origin' finish' steps')
    (same : steps.map Prod.fst = steps'.map Prod.fst) :
    (origin = origin' ∧ steps = steps') ∨
      (origin = finish' ∧ finish = origin' ∧ ∃ name, steps = [(name, finish)] ∧ steps' = [(name, origin)]) := by
  by_cases alike : origin = origin'
  · subst alike
    exact .inl ⟨rfl, graph.steps_unique first.trail second.trail same⟩
  right
  match steps, steps', same with
  | [], _, _ => exact absurd rfl first.nonempty
  | (name, next) :: rest, (again, next') :: rest', same =>
    obtain ⟨rfl, tails⟩ := List.cons.inj same
    rcases graph.ends first.trail.1 second.trail.1 with ⟨same, -⟩ | ⟨ahead, behind⟩
    · exact absurd same alike
    subst ahead behind
    match rest, rest', tails with
    | [], [], _ =>
      have ends := first.ends
      have ends' := second.ends
      simp only [endOf] at ends ends'
      exact ⟨ends', ends.symm, name, by rw [ends], rfl⟩
    | (name', far) :: _, (again', far') :: _, tails =>
      obtain ⟨rfl, -⟩ := List.cons.inj tails
      have clear := first.distinct
      have clear' := second.distinct
      rcases graph.ends first.trail.2.1 second.trail.2.1 with ⟨meets, -⟩ | ⟨meets, -⟩
      · exact absurd meets.symm alike
      · simp [stops, ← meets] at clear'

end Routes

end Foundation
