import RackFabric.Compose.Exploring
import RackFabric.Compose.PathLookup

/-!
Which pairs of ports have a path. A port is searched unless the search of one before it was truncated, and a pair that
was found loses its paths only to the same link taken the other way.
-/

namespace RackFabric

open Foundation

/-! ### The ports the search gets to -/

section Searched

variable {config : RackConfig} {adjacency : Adjacency} {exits starts : List UInt64} {added : List PathCandidate}

theorem Rounds.mono {first second : UInt64 → List PathCandidate → Bool → Prop}
    (weaker : ∀ start own truncated, first start own truncated → second start own truncated)
    (rounds : Rounds first starts added) : Rounds second starts added := by
  induction rounds with
  | done => exact .done
  | halt swept => exact .halt (weaker _ _ _ swept)
  | next swept _ ih => exact .next (weaker _ _ _ swept) ih

theorem Rounds.starts_listed (rounds : Rounds (Swept config adjacency exits) starts added) :
    ∀ candidate ∈ added, candidate.start ∈ starts ∧ candidate.Routed adjacency exits config.maxPathHops := by
  induction rounds with
  | done =>
    intro candidate absent
    cases absent
  | halt swept =>
    intro candidate listed
    exact ⟨swept.starts candidate listed ▸ List.mem_cons_self, swept.routed candidate listed⟩
  | next swept _ ih =>
    intro candidate listed
    rcases List.mem_append.mp listed with own | more
    · exact ⟨swept.starts candidate own ▸ List.mem_cons_self, swept.routed candidate own⟩
    · exact ⟨List.mem_cons_of_mem _ (ih candidate more).1, (ih candidate more).2⟩

theorem Rounds.nodup (sorted : starts.Pairwise (· < ·)) (rounds : Rounds (Swept config adjacency exits) starts added) :
    added.Nodup := by
  induction rounds with
  | done => exact List.nodup_nil
  | halt swept => exact swept.distinct
  | next swept others ih =>
    obtain ⟨first, sorted⟩ := List.pairwise_cons.mp sorted
    refine List.nodup_append.mpr ⟨swept.distinct, ih sorted, ?_⟩
    intro candidate own other more same
    subst same
    have later := first _ (others.starts_listed candidate more).1
    rw [swept.starts candidate own] at later
    exact UInt64.lt_irrefl _ later

/-- A port is swept exactly when the search of no port before it was truncated. -/
theorem Rounds.searched (sorted : starts.Pairwise (· < ·)) (rounds : Rounds (Swept config adjacency exits) starts added)
    {start : UInt64} (listed : start ∈ starts) :
    ((∀ other ∈ starts, other < start → ¬ Cramped config adjacency exits other) →
      ∃ own truncated, Swept config adjacency exits start own truncated ∧
        ∀ candidate, candidate ∈ own ↔ candidate ∈ added ∧ candidate.start = start) ∧
    ((∃ candidate ∈ added, candidate.start = start) →
      ∀ other ∈ starts, other < start → ¬ Cramped config adjacency exits other) := by
  induction rounds with
  | done => cases listed
  | @halt first rest own swept =>
    obtain ⟨least, sorted⟩ := List.pairwise_cons.mp sorted
    rcases List.mem_cons.mp listed with rfl | later
    · constructor
      · exact fun _ => ⟨own, true, swept, fun candidate =>
          ⟨fun member => ⟨member, swept.starts candidate member⟩, fun member => member.1⟩⟩
      · intro _ other member before
        rcases List.mem_cons.mp member with rfl | after
        · exact absurd before (UInt64.lt_irrefl _)
        · exact absurd before (UInt64.lt_asymm (least other after))
    · constructor
      · intro roomy
        exact absurd (swept.truncated_iff.mp rfl) (roomy first List.mem_cons_self (least start later))
      · intro recorded
        obtain ⟨candidate, member, own⟩ := recorded
        rw [← own, swept.starts candidate member] at later
        exact absurd (least first later) (UInt64.lt_irrefl _)
  | @next first rest own more swept others ih =>
    obtain ⟨least, sorted⟩ := List.pairwise_cons.mp sorted
    have roomyFirst : ¬ Cramped config adjacency exits first := by
      intro cramped
      cases swept.truncated_iff.mpr cramped
    rcases List.mem_cons.mp listed with rfl | later
    · constructor
      · refine fun _ => ⟨own, false, swept, fun candidate => ⟨?_, ?_⟩⟩
        · exact fun member => ⟨List.mem_append_left _ member, swept.starts candidate member⟩
        · intro recorded
          rcases List.mem_append.mp recorded.1 with mine | theirs
          · exact mine
          · have after := least _ (others.starts_listed candidate theirs).1
            rw [recorded.2] at after
            exact absurd after (UInt64.lt_irrefl _)
      · intro _ other member before
        rcases List.mem_cons.mp member with rfl | after
        · exact absurd before (UInt64.lt_irrefl _)
        · exact absurd before (UInt64.lt_asymm (least other after))
    · have apart : ∀ candidate ∈ own, candidate.start ≠ start := by
        intro candidate member same
        have after := least start later
        rw [← same, swept.starts candidate member] at after
        exact UInt64.lt_irrefl _ after
      obtain ⟨sweeps, reached⟩ := ih sorted later
      constructor
      · intro roomy
        obtain ⟨found, truncated, foundSwept, same⟩ :=
          sweeps fun other member => roomy other (List.mem_cons_of_mem _ member)
        refine ⟨found, truncated, foundSwept, fun candidate => ?_⟩
        rw [same, List.mem_append]
        constructor
        · exact fun recorded => ⟨.inr recorded.1, recorded.2⟩
        · intro recorded
          rcases recorded.1 with mine | theirs
          · exact absurd recorded.2 (apart candidate mine)
          · exact ⟨theirs, recorded.2⟩
      · intro recorded other member before
        obtain ⟨candidate, inside, own⟩ := recorded
        rcases List.mem_cons.mp member with rfl | after
        · exact roomyFirst
        · rcases List.mem_append.mp inside with mine | theirs
          · exact absurd own (apart candidate mine)
          · exact reached ⟨candidate, theirs, own⟩ other after before

end Searched

/-! ### What publishing keeps -/

/-- The published order of the candidates. -/
def PathCandidate.ahead (a b : PathCandidate) : Bool :=
  endpointsLess a.start a.finish b.start b.finish a.links b.links

theorem PathCandidate.ahead_iff (a b : PathCandidate) : a.ahead b = true ↔
    a.start < b.start ∨ (a.start = b.start ∧ (a.finish < b.finish ∨ (a.finish = b.finish ∧ a.links < b.links))) :=
  endpointsLess_iff _ _ _ _ _ _

theorem PathCandidate.ahead_orders : Orders PathCandidate.ahead :=
  endpointsLess_orders PathCandidate.start PathCandidate.finish PathCandidate.links

theorem PathCandidate.ahead_total (a b : PathCandidate) (first : a.ahead b = false) (second : b.ahead a = false) :
    a = b := by
  rw [PathCandidate.ahead, endpointsLess_false_iff] at first second
  obtain ⟨linksA, startA, finishA⟩ := a
  obtain ⟨linksB, startB, finishB⟩ := b
  simp only at first second
  rcases first with less | ⟨rfl, first⟩
  · rcases second with more | ⟨rfl, -⟩
    · exact absurd more (UInt64.lt_asymm less)
    · exact absurd less (UInt64.lt_irrefl _)
  · rcases second with more | ⟨-, second⟩
    · exact absurd more (UInt64.lt_irrefl _)
    · rcases first with less | ⟨rfl, first⟩
      · rcases second with more | ⟨rfl, -⟩
        · exact absurd more (UInt64.lt_asymm less)
        · exact absurd less (UInt64.lt_irrefl _)
      · rcases second with more | ⟨-, second⟩
        · exact absurd more (UInt64.lt_irrefl _)
        · rw [List.le_antisymm first second]

/-- A candidate is published unless one over the same links comes right before it. -/
theorem mem_publishedCandidates {added : List PathCandidate} (distinct : added.Nodup) {candidate : PathCandidate} :
    candidate ∈ publishedCandidates added ↔ candidate ∈ added ∧
      ¬ ∃ other ∈ added, other.links = candidate.links ∧ other.ahead candidate = true ∧
        ∀ middle ∈ added, ¬ (other.ahead middle = true ∧ middle.ahead candidate = true) := by
  have perm := sortBy_perm PathCandidate.ahead added
  have strict : (sortBy PathCandidate.ahead added).Pairwise fun a b => a.ahead b = true :=
    InOrder.strict PathCandidate.ahead_total (sortBy_inOrder PathCandidate.ahead_orders added)
      (perm.nodup_iff.mpr distinct)
  have listed := @mem_uniqueBy_sorted _ _ _ _ PathCandidate.links candidate _ _ PathCandidate.ahead_orders.asymm strict
  simp only [perm.mem_iff] at listed
  exact listed

section Core

variable (config : RackConfig) (adjacency : Adjacency) (exits starts : List UInt64)

def Reaches (start finish : UInt64) : Prop :=
  ∃ steps, Route adjacency.edge (· ∈ exits) config.maxPathHops start finish steps

/-- The only chain from one port to another is a single link, which leads from the other port to this one too, and
nothing that is reached comes between the two in the published order. -/
structure Eclipsed (start finish : UInt64) : Prop where
  behind : finish < start
  entrance : finish ∈ starts
  leaves : start ∈ exits
  lone : ∃ link, ∀ steps, Route adjacency.edge (· ∈ exits) config.maxPathHops start finish steps →
    steps.map Prod.fst = [link]
  beyond : ∀ other, start < other → ¬ Reaches config adjacency exits finish other
  between : ∀ other ∈ starts, finish < other → other < start → ∀ far, ¬ Reaches config adjacency exits other far
  before : ∀ other, other < finish → ¬ Reaches config adjacency exits start other

variable {config adjacency exits starts} {added : List PathCandidate} {start finish : UInt64}

theorem Rounds.recorded (sorted : starts.Pairwise (· < ·)) (pairs : 1 ≤ config.maxPathsPerPair)
    (rounds : Rounds (Swept config adjacency exits) starts added) (listed : start ∈ starts)
    (roomy : ∀ other ∈ starts, other < start → ¬ Cramped config adjacency exits other)
    (reaches : Reaches config adjacency exits start finish) :
    ∃ candidate ∈ added, candidate.start = start ∧ candidate.finish = finish := by
  obtain ⟨own, truncated, swept, same⟩ := (rounds.searched sorted listed).1 roomy
  obtain ⟨steps, route⟩ := reaches
  rcases swept.complete finish steps route with member | ⟨-, full⟩
  · exact ⟨_, ((same _).mp member).1, rfl, rfl⟩
  · obtain ⟨candidate, member⟩ := List.exists_mem_of_length_pos (Nat.lt_of_lt_of_le pairs full)
    obtain ⟨inside, ends⟩ := List.mem_filter.mp member
    exact ⟨candidate, ((same candidate).mp inside).1, of_decide_eq_true ends⟩

/-- From a port that is searched without truncation every route is recorded. -/
theorem Rounds.recorded_all (sorted : starts.Pairwise (· < ·))
    (rounds : Rounds (Swept config adjacency exits) starts added) (listed : start ∈ starts)
    (roomy : ∀ other ∈ starts, other ≤ start → ¬ Cramped config adjacency exits other) {steps : List (UInt64 × UInt64)}
    (route : Route adjacency.edge (· ∈ exits) config.maxPathHops start finish steps) :
    ⟨steps.map Prod.fst, start, finish⟩ ∈ added := by
  obtain ⟨own, truncated, swept, same⟩ :=
    (rounds.searched sorted listed).1 fun other member before => roomy other member (UInt64.le_of_lt before)
  rcases swept.complete finish steps route with member | ⟨stopped, -⟩
  · exact ((same _).mp member).1
  · exact absurd (swept.truncated_iff.mp stopped) (roomy start listed (UInt64.le_refl _))

theorem candidate_reaches {candidate : PathCandidate}
    (routed : candidate.Routed adjacency exits config.maxPathHops) :
    Reaches config adjacency exits candidate.start candidate.finish := by
  obtain ⟨steps, -, route⟩ := routed
  exact ⟨steps, route⟩

theorem list_lt_irrefl (links : List UInt64) : ¬ links < links := by
  intro less
  exact List.lt_irrefl links less

/-- The candidate of an eclipsed pair is dropped. -/
theorem Eclipsed.dropped (graph : Undirected adjacency.edge) (sorted : starts.Pairwise (· < ·))
    (rounds : Rounds (Swept config adjacency exits) starts added)
    (roomy : ∀ other ∈ starts, other < start → ¬ Cramped config adjacency exits other)
    (eclipsed : Eclipsed config adjacency exits starts start finish) :
    ∀ candidate ∈ publishedCandidates added, candidate.start = start → candidate.finish ≠ finish := by
  intro candidate published starts_here ends_here
  obtain ⟨member, uncovered⟩ := (mem_publishedCandidates (rounds.nodup sorted)).mp published
  obtain ⟨link, lone⟩ := eclipsed.lone
  obtain ⟨links, from_, to_⟩ := candidate
  simp only at starts_here ends_here
  subst starts_here ends_here
  obtain ⟨-, steps, same, route⟩ := rounds.starts_listed _ member
  simp only at same route
  have turned := route.reverse graph eclipsed.leaves
  have reversed : (back from_ steps).map Prod.fst = [link] := by rw [back_edges, lone steps route, List.reverse_singleton]
  obtain rfl : links = [link] := same.trans (lone steps route)
  have recorded := rounds.recorded_all sorted eclipsed.entrance
    (fun other listed before => roomy other listed (UInt64.lt_of_le_of_lt before eclipsed.behind)) turned
  rw [reversed] at recorded
  refine uncovered ⟨_, recorded, rfl, (PathCandidate.ahead_iff _ _).mpr (.inl eclipsed.behind), ?_⟩
  intro middle inside between
  obtain ⟨listed, routed⟩ := rounds.starts_listed middle inside
  have reaches := candidate_reaches routed
  obtain ⟨after, ahead⟩ := between
  rw [PathCandidate.ahead_iff] at after ahead
  simp only at after ahead
  rcases after with later | ⟨own, after⟩
  · rcases ahead with earlier | ⟨own, ahead⟩
    · exact eclipsed.between middle.start listed later earlier _ reaches
    · rw [own] at reaches
      rcases ahead with nearer | ⟨ends, less⟩
      · exact eclipsed.before middle.finish nearer reaches
      · obtain ⟨others, same, other⟩ := routed
        rw [own, ends] at other
        rw [same, lone others other] at less
        exact list_lt_irrefl _ less
  · rw [← own] at reaches
    rcases after with farther | ⟨ends, less⟩
    · exact eclipsed.beyond middle.finish farther reaches
    · obtain ⟨others, same, other⟩ := routed
      rw [← own, ← ends] at other
      have forth := other.reverse graph route.exits
      have edges := lone _ forth
      rw [back_edges] at edges
      rw [same, List.reverse_eq_iff.mp edges] at less
      exact list_lt_irrefl _ less

/-- Two candidates over the same links are one, or one link taken both ways. -/
theorem Rounds.same_links (graph : Undirected adjacency.edge) (rounds : Rounds (Swept config adjacency exits) starts added)
    {first second : PathCandidate} (member : first ∈ added) (other : second ∈ added)
    (same : first.links = second.links) : first = second ∨
      (first.start = second.finish ∧ first.finish = second.start ∧ ∃ link, first.links = [link]) := by
  obtain ⟨-, steps, links, route⟩ := rounds.starts_listed first member
  obtain ⟨-, steps', links', route'⟩ := rounds.starts_listed second other
  rcases route.over_same_edges graph route' (links.symm.trans (same.trans links')) with ⟨starts, alike⟩ |
    ⟨starts, ends, name, shape, -⟩
  · left
    subst alike
    have ends : first.finish = second.finish := by rw [← route.ends, ← route'.ends, starts]
    cases first
    cases second
    simp_all
  · exact .inr ⟨starts, ends, name, by rw [links, shape]; rfl⟩

/-- What drops a candidate: the same link taken the other way, right before it. -/
structure Shadows (added : List PathCandidate) (candidate other : PathCandidate) : Prop where
  recorded : other ∈ added
  starts : other.start = candidate.finish
  ends : other.finish = candidate.start
  behind : candidate.finish < candidate.start
  single : ∃ link, candidate.links = [link] ∧ other.links = [link]
  adjacent : ∀ middle ∈ added, ¬ (other.ahead middle = true ∧ middle.ahead candidate = true)

theorem Rounds.shadowed (graph : Undirected adjacency.edge) (sorted : starts.Pairwise (· < ·))
    (rounds : Rounds (Swept config adjacency exits) starts added) {candidate : PathCandidate} (member : candidate ∈ added)
    (dropped : candidate ∉ publishedCandidates added) : ∃ other, Shadows added candidate other := by
  rw [mem_publishedCandidates (rounds.nodup sorted), not_and_not_right] at dropped
  obtain ⟨other, recorded, same, ahead, adjacent⟩ := dropped member
  rcases rounds.same_links graph member recorded same.symm with rfl | ⟨starts, ends, link, single⟩
  · rw [PathCandidate.ahead_orders.asymm _ _ ahead] at ahead
    cases ahead
  · refine ⟨other, recorded, ends.symm, starts.symm, ?_, ⟨link, single, same.trans single⟩, adjacent⟩
    obtain ⟨-, steps, -, route⟩ := rounds.starts_listed candidate member
    rcases (PathCandidate.ahead_iff _ _).mp ahead with less | ⟨level, -⟩
    · rwa [← ends] at less
    · exact absurd (level.symm.trans ends.symm) route.ne

/-- Of two candidates with one start, one is not shadowed. -/
theorem Shadows.alone {candidate other twin behind : PathCandidate} (shadows : Shadows added candidate other)
    (shadows' : Shadows added twin behind) (first : candidate ∈ added) (second : twin ∈ added)
    (starts : twin.start = candidate.start) : twin = candidate := by
  by_contra apart
  have later : other.start < candidate.start := by rw [shadows.starts]; exact shadows.behind
  have later' : behind.start < twin.start := by rw [shadows'.starts]; exact shadows'.behind
  by_cases order : candidate.ahead twin = true
  · refine shadows'.adjacent candidate first ⟨?_, order⟩
    rw [starts] at later'
    exact (PathCandidate.ahead_iff _ _).mpr (.inl later')
  · have back : twin.ahead candidate = true := by
      by_contra none
      rw [Bool.not_eq_true] at order none
      exact apart (PathCandidate.ahead_total _ _ none order)
    refine shadows.adjacent twin second ⟨?_, back⟩
    rw [← starts] at later
    exact (PathCandidate.ahead_iff _ _).mpr (.inl later)

/-- A pair whose candidates are all dropped is eclipsed. -/
theorem Rounds.eclipsed (graph : Undirected adjacency.edge) (sorted : starts.Pairwise (· < ·))
    (pairs : 1 ≤ config.maxPathsPerPair) (rounds : Rounds (Swept config adjacency exits) starts added)
    (listed : start ∈ starts) (roomy : ∀ other ∈ starts, other < start → ¬ Cramped config adjacency exits other)
    (reaches : Reaches config adjacency exits start finish)
    (dropped : ∀ candidate ∈ publishedCandidates added, candidate.start = start → candidate.finish ≠ finish) :
    Eclipsed config adjacency exits starts start finish := by
  have shadowed : ∀ candidate ∈ added, candidate.start = start → candidate.finish = finish →
      ∃ other, Shadows added candidate other := by
    intro candidate member starts_here ends_here
    exact rounds.shadowed graph sorted member fun published => dropped candidate published starts_here ends_here
  obtain ⟨candidate, member, starts_here, ends_here⟩ := rounds.recorded sorted pairs listed roomy reaches
  obtain ⟨other, shadows⟩ := shadowed candidate member starts_here ends_here
  obtain ⟨link, single, same⟩ := shadows.single
  obtain ⟨entrance, steps, links, route⟩ := rounds.starts_listed other shadows.recorded
  have behind := shadows.behind
  have from_ := shadows.starts
  have to_ := shadows.ends
  rw [starts_here, ends_here] at behind
  rw [ends_here] at from_
  rw [starts_here] at to_
  rw [from_] at entrance route
  rw [to_] at route
  have earlier : ∀ other ∈ starts, other < finish → ¬ Cramped config adjacency exits other :=
    fun other inside before => roomy other inside (UInt64.lt_trans before behind)
  refine ⟨behind, entrance, route.exits, ⟨link, ?_⟩, ?_, ?_, ?_⟩
  · intro others another
    by_contra different
    obtain ⟨own, truncated, swept, kept⟩ := (rounds.searched sorted listed).1 roomy
    have twin : ∃ twin ∈ added, twin.start = start ∧ twin.finish = finish ∧ twin ≠ candidate := by
      rcases swept.complete finish others another with recorded | ⟨-, full⟩
      · refine ⟨_, ((kept _).mp recorded).1, rfl, rfl, ?_⟩
        intro equal
        exact different ((congrArg PathCandidate.links equal).trans single)
      · have two : 2 ≤ config.maxPathsPerPair := by
          by_contra few
          apply roomy finish entrance behind
          refine .inr ⟨start, [[link], (others.map Prod.fst).reverse], ?_, by simpa using few, ?_⟩
          · have apart : [link] ≠ (others.map Prod.fst).reverse := by
              intro equal
              apply different
              rw [List.reverse_eq_iff.mp equal.symm, List.reverse_singleton]
            simpa using apart
          · intro edges own
            rcases List.mem_cons.mp own with rfl | own
            · exact ⟨steps, same.symm.trans links, route⟩
            · rw [List.mem_singleton.mp own, ← back_edges start]
              exact ⟨_, rfl, another.reverse graph route.exits⟩
        have distinct : (joining own start finish).Nodup := swept.distinct.filter _
        have found : ∀ twin ∈ joining own start finish, twin ∈ added ∧ twin.start = start ∧ twin.finish = finish := by
          intro twin inside
          obtain ⟨mine, ends⟩ := List.mem_filter.mp inside
          exact ⟨((kept twin).mp mine).1, of_decide_eq_true ends⟩
        have long := Nat.le_trans two full
        generalize joining own start finish = group at distinct found long
        match group with
        | [] => simp at long
        | [_] => simp at long
        | first :: second :: _ =>
          by_cases own : first = candidate
          · refine ⟨second, (found second (by simp)).1, (found second (by simp)).2.1, (found second (by simp)).2.2, ?_⟩
            intro equal
            simp [own, equal] at distinct
          · exact ⟨first, (found first (by simp)).1, (found first (by simp)).2.1, (found first (by simp)).2.2, own⟩
    obtain ⟨twin, recorded, starts_too, ends_too, apart⟩ := twin
    obtain ⟨behind', shadows'⟩ := shadowed twin recorded starts_too ends_too
    exact apart (shadows.alone shadows' member recorded (starts_too.trans starts_here.symm))
  · intro far farther reached
    obtain ⟨middle, inside, own, ends⟩ := rounds.recorded sorted pairs entrance earlier reached
    refine shadows.adjacent middle inside ⟨(PathCandidate.ahead_iff _ _).mpr (.inr ⟨from_.trans own.symm, .inl ?_⟩),
      (PathCandidate.ahead_iff _ _).mpr (.inl ?_)⟩
    · rw [to_, ends]
      exact farther
    · rw [own, starts_here]
      exact behind
  · intro far inside after before finish' reached
    obtain ⟨middle, recorded, own, -⟩ := rounds.recorded sorted pairs inside
      (fun other listed less => roomy other listed (UInt64.lt_trans less before)) reached
    refine shadows.adjacent middle recorded ⟨(PathCandidate.ahead_iff _ _).mpr (.inl ?_),
      (PathCandidate.ahead_iff _ _).mpr (.inl ?_)⟩
    · rw [from_, own]
      exact after
    · rw [own, starts_here]
      exact before
  · intro near nearer reached
    obtain ⟨middle, recorded, own, ends⟩ := rounds.recorded sorted pairs listed roomy reached
    refine shadows.adjacent middle recorded ⟨(PathCandidate.ahead_iff _ _).mpr (.inl ?_),
      (PathCandidate.ahead_iff _ _).mpr (.inr ⟨own.trans starts_here.symm, .inl ?_⟩)⟩
    · rw [from_, own]
      exact behind
    · rw [ends, ends_here]
      exact nearer

end Core

/-! ### Complete paths -/

section Bounded

variable {config : RackConfig} {limits : ComposeLimits} {adjacency : Adjacency} {exits : List UInt64}

theorem visitNeighbour_bounded {start linkId nextPort : UInt64} {search next : PathSearch}
    (bounded : search.candidates.length ≤ limits.maxPaths)
    (visited : visitNeighbour config limits exits start linkId nextPort search = .ok next) :
    next.candidates.length ≤ limits.maxPaths := by
  unfold visitNeighbour at visited
  split at visited
  · cases visited
    exact bounded
  · split at visited
    · cases visited
      exact bounded
    · split at visited
      · by_cases room : search.foundPerEndpoint.getD nextPort 0 < config.maxPathsPerPair
        · simp only [if_pos room] at visited
          split at visited
          · cases visited
          · rename_i few
            cases visited
            exact not_lt.mp few
        · simp only [if_neg room] at visited
          split at visited
          · cases visited
          · cases visited
            exact bounded
      · cases visited
        exact bounded

theorem searchLoop_bounded {start : UInt64} {fuel : Nat} {search next : PathSearch}
    (bounded : search.candidates.length ≤ limits.maxPaths)
    (searched : searchLoop config limits adjacency exits start fuel search = .ok next) :
    next.candidates.length ≤ limits.maxPaths := by
  induction fuel generalizing search with
  | zero =>
    cases searched
    exact bounded
  | succ fuel ih =>
    rw [searchLoop] at searched
    split at searched
    · cases searched
      exact bounded
    · dsimp only at searched
      split at searched
      · cases searched
        exact bounded
      · split at searched
        · exact ih (by exact bounded) searched
        · obtain ⟨after, visited, rest⟩ := bind_eq_ok.mp searched
          exact ih (visitNeighbour_bounded (by exact bounded) visited) rest

/-- A search that succeeds has not outgrown the bound on paths. -/
theorem searchFrom_bounded {starts : List UInt64} {search next : PathSearch}
    (bounded : search.candidates.length ≤ limits.maxPaths)
    (searched : searchFrom config limits adjacency exits starts search = .ok next) :
    next.candidates.length ≤ limits.maxPaths := by
  induction starts generalizing search with
  | nil =>
    cases searched
    exact bounded
  | cons start rest ih =>
    rw [searchFrom] at searched
    obtain ⟨after, looped, remaining⟩ := bind_eq_ok.mp searched
    have kept := searchLoop_bounded (by exact bounded) looped
    split at remaining
    · cases remaining
      exact kept
    · exact ih kept remaining

end Bounded

/-- Every port with an eligible attachment has a path to every exit that a chain of eligible links leads to. -/
def SnapshotData.PathsComplete (config : RackConfig) (data : SnapshotData) : Prop :=
  ∀ start finish, data.Entrance start → data.Exit finish →
    (∃ steps, Route (Joins data.links) data.Exit config.maxPathHops start finish steps) →
    ∃ path ∈ data.paths, path.startPort = start ∧ path.endPort = finish

section Complete

variable (config : RackConfig) (ports : List PortRecord) (links : List LinkRecord) (attachments : List AttachmentRecord)

/-- The search does not use up its budget. -/
def WithinBudget (limits : ComposeLimits) : Prop :=
  ∀ search, searchFrom config limits (adjacencyOf links) (exitPorts ports) (accessPorts attachments) {} = .ok search →
    search.expansions ≤ kMaxExpansions

/-- No port that something is reached from comes after one whose search is truncated, and no pair is eclipsed. -/
def Unobstructed : Prop :=
  ∀ start ∈ accessPorts attachments, ∀ finish,
    Reaches config (adjacencyOf links) (exitPorts ports) start finish →
    (∀ other ∈ accessPorts attachments, other < start → ¬ Cramped config (adjacencyOf links) (exitPorts ports) other) ∧
      ¬ Eclipsed config (adjacencyOf links) (exitPorts ports) (accessPorts attachments) start finish

variable {config} {ledger : EvidenceLedger} {request : ComposeInput}

theorem accessPorts_sorted (attachments : List AttachmentRecord) :
    (accessPorts attachments).Pairwise (· < ·) := by
  have sorted := (sortBy_inOrder (idLess_orders id)
    ((attachments.filter (·.eligibility == .eligible)).map AttachmentRecord.port)).sublist (uniqueBy_sublist (· == ·) _)
  have strict := InOrder.strict idLess_antisymm sorted (accessPorts_nodup attachments)
  exact strict.imp of_decide_eq_true

/-- The paths are complete where the search is unobstructed, and nowhere else. -/
theorem compose_paths_complete_iff {outcome : ComposeOutcome} (composed : compose ledger config request = .ok outcome)
    (pairs : 1 ≤ config.maxPathsPerPair)
    (budget : WithinBudget config (composedPorts ledger config request) (composedLinks ledger config request)
      (composedAttachments ledger config request) request.limits) :
    outcome.snapshot.data.PathsComplete config ↔ Unobstructed config (composedPorts ledger config request)
      (composedLinks ledger config request) (composedAttachments ledger config request) := by
  obtain ⟨data, held, passes⟩ := compose_composed composed
  have stored : outcome.snapshot.data = data := by rw [Snapshot.data, held, Option.getD_some]
  rw [stored]
  rw [← passes.ports_eq, ← passes.links_eq, ← passes.attachments_eq] at budget ⊢
  obtain ⟨diagnostics, composition, searched, paths⟩ := passes.paths
  obtain ⟨search, found, published⟩ := composePaths_searched searched
  have within := budget search found
  have few := searchFrom_bounded (Nat.zero_le _) found
  obtain ⟨-, added, same, swept⟩ := searchFrom_rounds rfl found
  rw [List.nil_append] at same
  rw [same] at published few
  have graph : Undirected (adjacencyOf data.links).edge := by
    have edges : (adjacencyOf data.links).edge = Joins data.links := by
      funext port step
      exact propext mem_adjacencyOf
    rw [edges]
    exact joins_undirected passes.links_distinct
  have single := adjacencyOf_nodup passes.links_distinct
  have rounds := swept.mono fun start own truncated sweeps => sweeps.swept graph single within
  have sorted := accessPorts_sorted data.attachments
  have whole : (publishedCandidates added).take request.limits.maxPaths = publishedCandidates added := by
    apply List.take_of_length_le
    refine Nat.le_trans (uniqueBy_sublist _ _).length_le ?_
    rw [(sortBy_perm _ _).length_eq]
    exact few
  rw [whole] at published
  have joined : ∀ start finish, (∃ path ∈ data.paths, path.startPort = start ∧ path.endPort = finish) ↔
      ∃ candidate ∈ publishedCandidates added, candidate.start = start ∧ candidate.finish = finish := by
    intro start finish
    rw [paths]
    simp only [published.mem_iff, List.mem_map, exists_exists_and_eq_and, publishedPath]
  have reaches : ∀ start finish, Reaches config (adjacencyOf data.links) (exitPorts data.ports) start finish ↔
      ∃ steps, Route (Joins data.links) data.Exit config.maxPathHops start finish steps :=
    fun start finish => exists_congr fun steps => searched_route data
  constructor
  · intro complete start entrance finish reached
    obtain ⟨steps, route⟩ := (reaches start finish).mp reached
    obtain ⟨candidate, member, starts, ends⟩ := (joined start finish).mp
      (complete start finish ((mem_accessPorts data start).mp entrance) route.exits ⟨steps, route⟩)
    have recorded := ((mem_publishedCandidates (rounds.nodup sorted)).mp member).1
    have roomy := (rounds.searched sorted entrance).2 ⟨candidate, recorded, starts⟩
    exact ⟨roomy, fun eclipsed => eclipsed.dropped graph sorted rounds roomy candidate member starts ends⟩
  · intro clear start finish entrance _ reached
    have listed := (mem_accessPorts data start).mpr entrance
    have reached := (reaches start finish).mpr reached
    obtain ⟨roomy, seen⟩ := clear start listed finish reached
    rw [joined]
    by_contra none
    apply seen
    refine rounds.eclipsed graph sorted pairs listed roomy reached ?_
    intro candidate member starts ends
    exact none ⟨candidate, member, starts, ends⟩

end Complete

/-! ### Racks with and without obstructions -/

theorem route_of_link {links : List LinkRecord} {exit : UInt64 → Prop} {hops : Nat} {start finish : UInt64}
    {link : LinkRecord} (member : link ∈ links) (eligible : link.eligibility = .eligible) (apart : start ≠ finish)
    (ends : (link.portA = start ∧ link.portB = finish) ∨ (link.portB = start ∧ link.portA = finish))
    (leaves : exit finish) (room : 1 ≤ hops) : Route (Joins links) exit hops start finish [(link.id, finish)] where
  nonempty := List.cons_ne_nil _ _
  trail := ⟨⟨link, member, eligible, rfl, ends⟩, trivial⟩
  distinct := by simpa [stops] using apart
  inner stop absent := by cases absent
  ends := rfl
  exits := leaves
  short := room

/-- Whether a snapshot has an eligible link from a host's port to an uplink, and no path over it. -/
def missesLink (data : SnapshotData) (start finish : UInt64) : Bool :=
  (data.attachments.any fun attachment => attachment.eligibility == .eligible && attachment.port == start) &&
  (data.ports.any fun port => port.id == finish && port.role == .uplink) &&
  (data.links.any fun link => link.eligibility == .eligible &&
    ((link.portA == start && link.portB == finish) || (link.portB == start && link.portA == finish))) &&
  !data.paths.any fun path => path.startPort == start && path.endPort == finish

private theorem incomplete_of_missesLink {config : RackConfig} {data : SnapshotData} {start finish : UInt64}
    (misses : missesLink data start finish = true) (apart : start ≠ finish) (room : 1 ≤ config.maxPathHops) :
    ¬ data.PathsComplete config := by
  simp only [missesLink, Bool.and_eq_true, Bool.or_eq_true, List.any_eq_true, beq_iff_eq, Bool.not_eq_true',
    List.any_eq_false] at misses
  obtain ⟨⟨⟨⟨attachment, bound, usable, own⟩, port, listed, same, role⟩, link, member, eligible, ends⟩, none⟩ := misses
  intro complete
  have leaves : data.Exit finish := ⟨port, listed, same, .inl role⟩
  obtain ⟨path, found, starts, finishes⟩ := complete start finish ⟨attachment, bound, usable, own⟩ leaves
    ⟨_, route_of_link member eligible apart ends leaves room⟩
  exact none path found ⟨starts, finishes⟩

/-- Two uplinks with a host at each and one link between them. -/
def pairedRack : EvidenceLedger :=
  EvidenceLedger.insertAll {} [
    forkedEvidence (.member { device := 3, rack := 7, incarnation := 1 }),
    forkedEvidence (.device { device := 3, role := .switch, capacity := 10, capacityKnown := true, availability := .up }),
    forkedEvidence (.port ⟨4, 3, 1, .uplink, 10, true, .enabled, .up⟩),
    forkedEvidence (.port ⟨5, 3, 2, .uplink, 10, true, .enabled, .up⟩),
    forkedEvidence (.link ⟨6, 4, 5, .physical, 9, true, .up⟩),
    forkedEvidence (.attachment { attachment := 8, device := 3, port := 4, hostKey := [] }),
    forkedEvidence (.attachment { attachment := 12, device := 3, port := 5, hostKey := [] })]

/-- The furnished rack with three links to its uplink, and a second host whose port has a link of its own there. -/
def crampedRack : EvidenceLedger :=
  EvidenceLedger.insertAll {} (furnishedRack ++ [
    forkedEvidence (.link ⟨10, 4, 5, .physical, 9, true, .up⟩),
    forkedEvidence (.link ⟨11, 4, 5, .physical, 9, true, .up⟩),
    forkedEvidence (.port ⟨9, 3, 3, .access, 10, true, .enabled, .up⟩),
    forkedEvidence (.link ⟨13, 9, 5, .physical, 9, true, .up⟩),
    forkedEvidence (.attachment { attachment := 14, device := 3, port := 9, hostKey := [] })])

def searchedWithin (ledger : EvidenceLedger) : Bool :=
  match searchFrom { rack := 7 } {} (adjacencyOf (composedLinks ledger { rack := 7 } ⟨0, 1, .active, {}⟩))
      (exitPorts (composedPorts ledger { rack := 7 } ⟨0, 1, .active, {}⟩))
      (accessPorts (composedAttachments ledger { rack := 7 } ⟨0, 1, .active, {}⟩)) {} with
  | .ok search => search.expansions ≤ kMaxExpansions
  | .error _ => true

private theorem withinBudget_of_searched {ledger : EvidenceLedger} (searched : searchedWithin ledger = true) :
    WithinBudget { rack := 7 } (composedPorts ledger { rack := 7 } ⟨0, 1, .active, {}⟩)
      (composedLinks ledger { rack := 7 } ⟨0, 1, .active, {}⟩)
      (composedAttachments ledger { rack := 7 } ⟨0, 1, .active, {}⟩) {} := by
  intro search found
  rw [searchedWithin, found] at searched
  exact of_decide_eq_true searched

/-- The way back over the one link is dropped with its other direction, and too many links to an uplink leave the port
of the second host without a path. -/
theorem joined_ports_without_path :
    (∃ outcome, compose pairedRack { rack := 7 } ⟨0, 1, .active, {}⟩ = .ok outcome ∧
      WithinBudget { rack := 7 } (composedPorts pairedRack { rack := 7 } ⟨0, 1, .active, {}⟩)
        (composedLinks pairedRack { rack := 7 } ⟨0, 1, .active, {}⟩)
        (composedAttachments pairedRack { rack := 7 } ⟨0, 1, .active, {}⟩) {} ∧
      ¬ outcome.snapshot.data.PathsComplete { rack := 7 }) ∧
    ∃ outcome, compose crampedRack { rack := 7 } ⟨0, 1, .active, {}⟩ = .ok outcome ∧
      WithinBudget { rack := 7 } (composedPorts crampedRack { rack := 7 } ⟨0, 1, .active, {}⟩)
        (composedLinks crampedRack { rack := 7 } ⟨0, 1, .active, {}⟩)
        (composedAttachments crampedRack { rack := 7 } ⟨0, 1, .active, {}⟩) {} ∧
      ¬ outcome.snapshot.data.PathsComplete { rack := 7 } := by
  constructor
  · have held : (compose pairedRack { rack := 7 } ⟨0, 1, .active, {}⟩).passes fun outcome =>
        missesLink outcome.snapshot.data 5 4 := by rfl
    obtain ⟨outcome, composed, held⟩ := Result.exists_of_passes held
    exact ⟨outcome, composed, withinBudget_of_searched rfl,
      incomplete_of_missesLink held (by decide) (by decide)⟩
  · have held : (compose crampedRack { rack := 7 } ⟨0, 1, .active, {}⟩).passes fun outcome =>
        missesLink outcome.snapshot.data 9 5 := by decide +kernel
    obtain ⟨outcome, composed, held⟩ := Result.exists_of_passes held
    exact ⟨outcome, composed, withinBudget_of_searched (by decide +kernel),
      incomplete_of_missesLink held (by decide) (by decide)⟩

/-- A port with one link each to some exits and none elsewhere is not cramped. -/
theorem not_cramped_of_direct {config : RackConfig} {adjacency : Adjacency} {exits : List UInt64} {start : UInt64}
    (hops : 1 ≤ config.maxPathHops) (pairs : 1 ≤ config.maxPathsPerPair)
    (direct : ∀ step ∈ adjacency.getD start [], step.2 ∈ exits)
    (single : ∀ step ∈ adjacency.getD start [], ∀ other ∈ adjacency.getD start [], step.2 = other.2 → step = other) :
    ¬ Cramped config adjacency exits start := by
  rintro (⟨steps, probe, long⟩ | ⟨finish, routes, distinct, many, each⟩)
  · obtain ⟨step, rfl, -⟩ := probe.single direct
    rw [List.length_singleton] at long
    omega
  · have one : ∀ links ∈ routes, ∃ step ∈ adjacency.getD start [], links = [step.1] ∧ step.2 = finish := by
      intro links member
      obtain ⟨steps, rfl, route⟩ := each links member
      obtain ⟨step, rfl, listed⟩ := route.toProbe.single direct
      exact ⟨step, listed, rfl, route.ends⟩
    match routes, distinct, many, one with
    | first :: second :: rest, distinct, _, one =>
      obtain ⟨step, listed, rfl, ends⟩ := one first (by simp)
      obtain ⟨other, listed', rfl, ends'⟩ := one second (by simp)
      have same := single step listed other listed' (ends.trans ends'.symm)
      simp [same] at distinct
    | [_], _, many, _ | [], _, many, _ =>
      simp only [List.length_singleton, List.length_nil] at many
      omega

/-- Two uplinks and two hosts, the first of which is linked to both. -/
def meshedRack : EvidenceLedger :=
  EvidenceLedger.insertAll {} [
    forkedEvidence (.member { device := 3, rack := 7, incarnation := 1 }),
    forkedEvidence (.device { device := 3, role := .switch, capacity := 10, capacityKnown := true, availability := .up }),
    forkedEvidence (.port ⟨4, 3, 1, .access, 10, true, .enabled, .up⟩),
    forkedEvidence (.port ⟨5, 3, 2, .access, 10, true, .enabled, .up⟩),
    forkedEvidence (.port ⟨6, 3, 3, .uplink, 10, true, .enabled, .up⟩),
    forkedEvidence (.port ⟨7, 3, 4, .uplink, 10, true, .enabled, .up⟩),
    forkedEvidence (.link ⟨10, 4, 6, .physical, 9, true, .up⟩),
    forkedEvidence (.link ⟨11, 4, 7, .physical, 9, true, .up⟩),
    forkedEvidence (.link ⟨12, 5, 7, .physical, 9, true, .up⟩),
    forkedEvidence (.attachment { attachment := 8, device := 3, port := 4, hostKey := [] }),
    forkedEvidence (.attachment { attachment := 9, device := 3, port := 5, hostKey := [] })]

/-- Each of the two access ports has a path to every uplink it is linked to. -/
theorem meshed_paths_complete :
    ∃ outcome, compose meshedRack { rack := 7 } ⟨0, 1, .active, {}⟩ = .ok outcome ∧
      outcome.snapshot.data.PathsComplete { rack := 7 } ∧
      outcome.snapshot.data.paths.map (fun path => (path.startPort, path.endPort)) = [(4, 6), (4, 7), (5, 7)] := by
  have held : (compose meshedRack { rack := 7 } ⟨0, 1, .active, {}⟩).passes fun outcome =>
      outcome.snapshot.data.paths.map (fun path => (path.startPort, path.endPort)) == [(4, 6), (4, 7), (5, 7)] := by
    decide +kernel
  have entrances : accessPorts (composedAttachments meshedRack { rack := 7 } ⟨0, 1, .active, {}⟩) = [4, 5] := by
    decide +kernel
  have exits : exitPorts (composedPorts meshedRack { rack := 7 } ⟨0, 1, .active, {}⟩) = [6, 7] := by decide +kernel
  have links : (adjacencyOf (composedLinks meshedRack { rack := 7 } ⟨0, 1, .active, {}⟩)).getD 4 [] =
      [(10, 6), (11, 7)] := by decide +kernel
  obtain ⟨outcome, composed, held⟩ := Result.exists_of_passes held
  refine ⟨outcome, composed, (compose_paths_complete_iff composed (by decide)
    (withinBudget_of_searched (by decide +kernel))).mpr ?_, by simpa using held⟩
  intro start entrance finish _
  rw [entrances, exits] at *
  constructor
  · intro other listed before
    have first : other = 4 := by
      rcases List.mem_pair.mp listed with rfl | rfl
      · rfl
      · rcases List.mem_pair.mp entrance with rfl | rfl <;> exact absurd before (by decide)
    subst first
    refine not_cramped_of_direct (by decide) (by decide) ?_ ?_
    · intro step listed
      rw [links, List.mem_pair] at listed
      rcases listed with rfl | rfl
      · exact List.mem_pair.mpr (.inl rfl)
      · exact List.mem_pair.mpr (.inr rfl)
    · intro step listed other beside same
      rw [links, List.mem_pair] at listed beside
      rcases listed with rfl | rfl <;> rcases beside with rfl | rfl
      · rfl
      · cases same
      · cases same
      · rfl
  · intro eclipsed
    have leaves := eclipsed.leaves
    rcases List.mem_pair.mp entrance with rfl | rfl <;> exact absurd leaves (by decide)

end RackFabric
