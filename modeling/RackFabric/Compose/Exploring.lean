import RackFabric.Compose.Walks

/-!
What the path search reaches. At every turn each walk worth finding is either found, given up by a truncation, or still
ahead of one of the frames; when no frame is left, nothing is ahead.
-/

namespace RackFabric

open Foundation

/-! ### What is still ahead -/

/-- The walks that the frames have still to try: those that leave the present one by a neighbour not read yet. -/
def Pending (adjacency : Adjacency) : List PathFrame → List (UInt64 × UInt64) → List (UInt64 × UInt64) → Prop
  | [], _, _ => False
  | frame :: rest, steps, goal =>
    (∃ step ∈ (adjacency.getD frame.port []).drop frame.nextNeighbour, ∃ tail, goal = steps ++ step :: tail) ∨
      Pending adjacency rest steps.dropLast goal

/-- No frame has still to try the step by which the walk left it. -/
def Unrepeated (adjacency : Adjacency) : List PathFrame → List (UInt64 × UInt64) → Prop
  | [], _ => True
  | _ :: rest, steps =>
    (∀ tail, ¬ Pending adjacency rest steps.dropLast (steps ++ tail)) ∧ Unrepeated adjacency rest steps.dropLast

section Pending

variable {adjacency : Adjacency} {frame : PathFrame} {rest : List PathFrame} {step : UInt64 × UInt64}
  {steps goal : List (UInt64 × UInt64)}

theorem pending_back (done : (adjacency.getD frame.port [])[frame.nextNeighbour]? = none) :
    Pending adjacency (frame :: rest) steps goal ↔ Pending adjacency rest steps.dropLast goal := by
  have empty : (adjacency.getD frame.port []).drop frame.nextNeighbour = [] := by
    rw [List.drop_eq_nil_iff]
    exact List.getElem?_eq_none_iff.mp done
  simp [Pending, empty]

theorem drop_read (read : (adjacency.getD frame.port [])[frame.nextNeighbour]? = some step) :
    (adjacency.getD frame.port []).drop frame.nextNeighbour =
      step :: (adjacency.getD frame.port []).drop (frame.nextNeighbour + 1) := by
  obtain ⟨inside, own⟩ := List.getElem?_eq_some_iff.mp read
  rw [List.drop_eq_getElem_cons inside, own]

/-- Reading a neighbour settles the walks that go on with it. -/
theorem pending_read (read : (adjacency.getD frame.port [])[frame.nextNeighbour]? = some step) :
    Pending adjacency (frame :: rest) steps goal ↔ (∃ tail, goal = steps ++ step :: tail) ∨
      Pending adjacency ({ frame with nextNeighbour := frame.nextNeighbour + 1 } :: rest) steps goal := by
  rw [Pending, Pending, drop_read read, List.exists_mem_cons_iff, or_assoc]

/-- Entering a port brings back the walks that go on from there. -/
theorem pending_enter : Pending adjacency (⟨step.2, 0⟩ :: rest) (steps ++ [step]) goal ↔
    (∃ next, adjacency.edge step.2 next ∧ ∃ tail, goal = steps ++ step :: next :: tail) ∨
      Pending adjacency rest steps goal := by
  rw [Pending, List.drop_zero, List.dropLast_concat]
  simp only [List.append_assoc, List.singleton_append]
  rfl

/-- A neighbour other than the port itself is read once. -/
theorem read_once (single : ∀ port, ((adjacency.getD port []).filter fun step => step.2 ≠ port).Nodup)
    (read : (adjacency.getD frame.port [])[frame.nextNeighbour]? = some step) (away : step.2 ≠ frame.port) :
    step ∉ (adjacency.getD frame.port []).drop (frame.nextNeighbour + 1) := by
  intro again
  have tail := ((List.drop_sublist frame.nextNeighbour (adjacency.getD frame.port [])).filter
    fun step => step.2 ≠ frame.port).nodup (single frame.port)
  rw [drop_read read, List.filter_cons_of_pos (by simpa using away), List.nodup_cons] at tail
  exact tail.1 (List.mem_filter.mpr ⟨again, by simpa using away⟩)

end Pending

/-! ### What the search finds -/

section Exploring

variable (config : RackConfig) (adjacency : Adjacency) (exits : List UInt64) (start : UInt64)

/-- A walk the search has to make something of: a route, or one that goes a step beyond the bound. -/
structure Venture (goal : List (UInt64 × UInt64)) : Prop extends
    Probe adjacency.edge (· ∈ exits) start goal where
  within : goal.length ≤ config.maxPathHops + 1
  leaves : goal.length ≤ config.maxPathHops → endOf start goal ∈ exits

/-- The walk was recorded, or a truncation has given it up, for a route because its pair of ports has its paths. -/
def Covered (own : List PathCandidate) (truncated : Bool) (goal : List (UInt64 × UInt64)) : Prop :=
  (goal.length ≤ config.maxPathHops ∧ ⟨goal.map Prod.fst, start, endOf start goal⟩ ∈ own) ∨
    (truncated = true ∧ (goal.length ≤ config.maxPathHops →
      config.maxPathsPerPair ≤ (joining own start (endOf start goal)).length))

/-- Some walk from the port goes beyond the bound, or some exit is joined to it by more routes than are kept. -/
def Cramped : Prop :=
  (∃ steps, Probe adjacency.edge (· ∈ exits) start steps ∧ steps.length = config.maxPathHops + 1) ∨
    ∃ finish, ∃ routes : List (List UInt64), routes.Nodup ∧ config.maxPathsPerPair < routes.length ∧
      ∀ links ∈ routes, ∃ steps, links = steps.map Prod.fst ∧
        Route adjacency.edge (· ∈ exits) config.maxPathHops start finish steps

/-- The search at a turn: what it has to find is found or ahead, nothing that was found is ahead, and it is truncated
for a reason. -/
structure PathSearch.Explores (steps : List (UInt64 × UInt64)) (own : List PathCandidate) (search : PathSearch) :
    Prop where
  stands : search.frames ≠ [] → search.Stands adjacency exits config.maxPathHops start steps
  covers : ∀ goal, Venture config adjacency exits start goal →
    Covered config start own search.truncated goal ∨ Pending adjacency search.frames steps goal
  spent : ∀ goal, Trail adjacency.edge start goal → ⟨goal.map Prod.fst, start, endOf start goal⟩ ∈ own →
    ¬ Pending adjacency search.frames steps goal
  unrepeated : Unrepeated adjacency search.frames steps
  distinct : own.Nodup
  honest : search.truncated = true → Cramped config adjacency exits start

end Exploring

section Turning

variable {config : RackConfig} {adjacency : Adjacency} {exits : List UInt64} {start : UInt64}
  {before own : List PathCandidate} {steps goal : List (UInt64 × UInt64)} {step : UInt64 × UInt64}
  {search next : PathSearch} {frame : PathFrame} {rest : List PathFrame}

theorem Covered.more {truncated later : Bool} {more : List PathCandidate}
    (covered : Covered config start own truncated goal) (kept : truncated = true → later = true) :
    Covered config start (own ++ more) later goal := by
  rcases covered with ⟨short, member⟩ | ⟨stopped, full⟩
  · exact .inl ⟨short, List.mem_append_left _ member⟩
  · refine .inr ⟨kept stopped, fun short => Nat.le_trans (full short) ?_⟩
    rw [joining, joining, List.filter_append, List.length_append]
    exact Nat.le_add_right _ _

/-- A venture that goes on with an exit ends there. -/
theorem Venture.ends_at_exit {tail : List (UInt64 × UInt64)}
    (venture : Venture config adjacency exits start (steps ++ step :: tail)) (leaves : step.2 ∈ exits) : tail = [] := by
  by_contra goes
  apply venture.inner step.2 ?_ leaves
  obtain ⟨most, last, rfl⟩ := (List.eq_nil_or_concat' tail).resolve_left goes
  rw [List.map_append, List.map_cons, List.map_append, List.map_singleton, ← List.cons_append, ← List.append_assoc,
    List.dropLast_concat]
  simp

theorem Venture.fresh {tail : List (UInt64 × UInt64)}
    (venture : Venture config adjacency exits start (steps ++ step :: tail)) : step.2 ∉ stops start steps := by
  intro seen
  have distinct := venture.distinct
  rw [stops, List.map_append, ← List.cons_append, List.nodup_append] at distinct
  exact distinct.2.2 step.2 seen step.2 (by simp) rfl

/-- Going back leaves nothing behind that was still to try. -/
theorem PathSearch.Explores.back (explores : search.Explores config adjacency exits start steps own)
    (top : search.frames = frame :: rest)
    (done : (adjacency.getD frame.port [])[frame.nextNeighbour]? = none) :
    PathSearch.Explores config adjacency exits start steps.dropLast own { search with
      expansions := search.expansions + 1
      visited := search.visited.erase frame.port
      frames := rest
      stack := search.stack.dropLast } := by
  have stands := explores.stands (by rw [top]; exact List.cons_ne_nil _ _)
  obtain ⟨-, covers, spent, unrepeated, distinct, honest⟩ := explores
  rw [top] at covers spent unrepeated
  simp only [pending_back done] at covers spent
  refine ⟨?_, covers, spent, unrepeated.2, distinct, honest⟩
  intro remain
  rcases stands.back top with ⟨-, atRoot⟩ | ⟨before, last, rfl, behind⟩
  · exact absurd atRoot remain
  · rw [List.dropLast_concat]
    exact behind

/-- Reading a neighbour without entering it: what is left to show is that the walks it settles are covered. -/
theorem PathSearch.Explores.read (explores : search.Explores config adjacency exits start steps own)
    (top : search.frames = frame :: rest)
    (read : (adjacency.getD frame.port [])[frame.nextNeighbour]? = some step) {next : PathSearch}
    {more : List PathCandidate} (stands : next.Stands adjacency exits config.maxPathHops start steps)
    (frames : next.frames = (search.advanced frame rest).frames) (kept : search.truncated = true → next.truncated = true)
    (settled : ∀ tail, Venture config adjacency exits start (steps ++ step :: tail) →
      Covered config start (own ++ more) next.truncated (steps ++ step :: tail))
    (new : ∀ goal, Trail adjacency.edge start goal → ⟨goal.map Prod.fst, start, endOf start goal⟩ ∈ more →
      ¬ Pending adjacency next.frames steps goal)
    (distinct : (own ++ more).Nodup)
    (honest : next.truncated = true → search.truncated = true ∨ Cramped config adjacency exits start) :
    next.Explores config adjacency exits start steps (own ++ more) := by
  have ahead : ∀ goal, Pending adjacency search.frames steps goal ↔
      (∃ tail, goal = steps ++ step :: tail) ∨ Pending adjacency next.frames steps goal := by
    intro goal
    rw [top, frames]
    exact pending_read read
  constructor
  · exact fun _ => stands
  · intro goal venture
    rcases explores.covers goal venture with covered | pending
    · exact .inl (covered.more kept)
    · rcases (ahead goal).mp pending with ⟨tail, rfl⟩ | pending
      · exact .inl (settled tail venture)
      · exact .inr pending
  · intro goal trail member pending
    rcases List.mem_append.mp member with old | fresh
    · exact explores.spent goal trail old ((ahead goal).mpr (.inr pending))
    · exact new goal trail fresh pending
  · have unrepeated := explores.unrepeated
    rw [top] at unrepeated
    rw [frames]
    exact unrepeated
  · exact distinct
  · intro stopped
    rcases honest stopped with already | cramped
    · exact explores.honest already
    · exact cramped

/-- The walk on which the search stands was not ahead before, and is not after, once its next step was read. -/
theorem PathSearch.Explores.settles (explores : search.Explores config adjacency exits start steps own)
    (single : ∀ port, ((adjacency.getD port []).filter fun step => step.2 ≠ port).Nodup)
    (top : search.frames = frame :: rest)
    (read : (adjacency.getD frame.port [])[frame.nextNeighbour]? = some step) (unseen : step.2 ∉ search.visited)
    (tail : List (UInt64 × UInt64)) :
    ¬ Pending adjacency (search.advanced frame rest).frames steps (steps ++ step :: tail) := by
  have stands := explores.stands (by rw [top]; exact List.cons_ne_nil _ _)
  have away : step.2 ≠ frame.port := by
    intro same
    apply unseen
    have ports := stands.frames
    rw [stands.visited, ← ports, top, same]
    exact List.mem_cons_self
  have unrepeated := explores.unrepeated
  rw [top] at unrepeated
  intro pending
  rcases pending with ⟨other, later, others, same⟩ | pending
  · obtain ⟨rfl, -⟩ := List.cons.inj (List.append_cancel_left same)
    exact read_once single read away later
  · exact unrepeated.1 (step :: tail) pending

theorem PathSearch.Explores.enter (explores : search.Explores config adjacency exits start steps own)
    (single : ∀ port, ((adjacency.getD port []).filter fun step => step.2 ≠ port).Nodup)
    (top : search.frames = frame :: rest)
    (read : (adjacency.getD frame.port [])[frame.nextNeighbour]? = some step) (unseen : step.2 ∉ search.visited)
    (near : search.stack.length < config.maxPathHops) (stays : step.2 ∉ exits) :
    PathSearch.Explores config adjacency exits start (steps ++ [step]) own { search.advanced frame rest with
      visited := step.2 :: search.visited
      stack := search.stack ++ [step.1]
      frames := ⟨step.2, 0⟩ :: (search.advanced frame rest).frames } := by
  have stands := explores.stands (by rw [top]; exact List.cons_ne_nil _ _)
  have short : steps.length < config.maxPathHops := by rwa [stands.stack, List.length_map] at near
  have settles := explores.settles single top read unseen
  have ahead : ∀ goal, Pending adjacency search.frames steps goal ↔
      (∃ tail, goal = steps ++ step :: tail) ∨ Pending adjacency (search.advanced frame rest).frames steps goal := by
    intro goal
    rw [top]
    exact pending_read read
  constructor
  · exact fun _ => stands.enter top read unseen near stays
  · intro goal venture
    rcases explores.covers goal venture with covered | pending
    · exact .inl covered
    · right
      rw [pending_enter]
      rcases (ahead goal).mp pending with ⟨tail, rfl⟩ | pending
      · left
        cases tail with
        | nil =>
          have leaves := venture.leaves (by rw [List.length_append]; exact short)
          rw [endOf_snoc] at leaves
          exact absurd leaves stays
        | cons after others =>
          have trail := venture.trail
          rw [trail_append] at trail
          exact ⟨after, trail.2.2.1, others, rfl⟩
      · exact .inr pending
  · intro goal trail member pending
    apply explores.spent goal trail member
    rw [ahead]
    rcases pending_enter.mp pending with ⟨after, -, others, same⟩ | pending
    · exact .inl ⟨after :: others, same⟩
    · exact .inr pending
  · have unrepeated := explores.unrepeated
    rw [top] at unrepeated
    refine ⟨?_, ?_⟩
    · intro tail
      rw [List.dropLast_concat, List.append_assoc]
      exact settles tail
    · rw [List.dropLast_concat]
      exact unrepeated
  · exact explores.distinct
  · exact explores.honest

/-- A walk that is recorded anew was not recorded before. -/
theorem PathSearch.Explores.unrecorded (explores : search.Explores config adjacency exits start steps own)
    (top : search.frames = frame :: rest)
    (read : (adjacency.getD frame.port [])[frame.nextNeighbour]? = some step) :
    ⟨search.stack ++ [step.1], start, step.2⟩ ∉ own := by
  have stands := explores.stands (by rw [top]; exact List.cons_ne_nil _ _)
  intro member
  apply explores.spent (steps ++ [step]) (stands.edge top read)
  · rw [endOf_snoc, List.map_append, ← stands.stack]
    exact member
  · rw [top, pending_read read]
    exact .inl ⟨[], rfl⟩

/-- An exit that has all its paths when one more is found is joined to the port by too many routes. -/
theorem PathSearch.Explores.crowded (explores : search.Explores config adjacency exits start steps own)
    (records : search.Records config adjacency exits start before own) (top : search.frames = frame :: rest)
    (read : (adjacency.getD frame.port [])[frame.nextNeighbour]? = some step) (unseen : step.2 ∉ search.visited)
    (near : search.stack.length < config.maxPathHops) (leaves : step.2 ∈ exits)
    (full : config.maxPathsPerPair ≤ search.foundPerEndpoint.getD step.2 0) :
    Cramped config adjacency exits start := by
  have stands := explores.stands (by rw [top]; exact List.cons_ne_nil _ _)
  have found : ∀ candidate ∈ joining own start step.2,
      candidate ∈ own ∧ candidate.start = start ∧ candidate.finish = step.2 := by
    intro candidate member
    obtain ⟨listed, ends⟩ := List.mem_filter.mp member
    exact ⟨listed, of_decide_eq_true ends⟩
  refine .inr ⟨step.2, (joining own start step.2).map PathCandidate.links ++ [search.stack ++ [step.1]], ?_, ?_, ?_⟩
  · rw [List.nodup_append]
    refine ⟨?_, List.nodup_singleton _, ?_⟩
    · refine List.Nodup.map_on ?_ (explores.distinct.filter _)
      intro first listed second other same
      obtain ⟨-, starts, ends⟩ := found first listed
      obtain ⟨-, starts', ends'⟩ := found second other
      cases first
      cases second
      simp_all
    · intro links listed other own same
      obtain ⟨candidate, member, rfl⟩ := List.mem_map.mp listed
      obtain ⟨recorded, starts, ends⟩ := found candidate member
      rw [List.mem_singleton.mp own] at same
      apply explores.unrecorded top read
      rw [← same, ← starts, ← ends]
      exact recorded
  · rw [List.length_append, List.length_map, List.length_singleton, records.counted]
    omega
  · intro links listed
    rcases List.mem_append.mp listed with old | new
    · obtain ⟨candidate, member, rfl⟩ := List.mem_map.mp old
      obtain ⟨recorded, starts, ends⟩ := found candidate member
      obtain ⟨route, same, routed⟩ := records.routed candidate recorded
      rw [starts, ends] at routed
      exact ⟨route, same, routed⟩
    · refine ⟨steps ++ [step], ?_, stands.route top read unseen near leaves⟩
      rw [List.mem_singleton.mp new, List.map_append, ← stands.stack]
      rfl

/-- Every turn keeps the search exploring. -/
theorem PathSearch.Explores.turn (graph : Undirected adjacency.edge)
    (single : ∀ port, ((adjacency.getD port []).filter fun step => step.2 ≠ port).Nodup)
    (explores : search.Explores config adjacency exits start steps own)
    (records : search.Records config adjacency exits start before own)
    (turned : search.Turn config adjacency exits start next) :
    ∃ steps more, next.Explores config adjacency exits start steps (own ++ more) ∧
      next.Records config adjacency exits start before (own ++ more) := by
  have unmoved : next.candidates = search.candidates → next.foundPerEndpoint = search.foundPerEndpoint →
      next.Records config adjacency exits start before (own ++ []) := by
    intro candidates counts
    rw [List.append_nil]
    obtain ⟨kept, starts, routed, counted, bounded⟩ := records
    exact ⟨candidates.trans kept, starts, routed, by rw [counts]; exact counted, by rw [counts]; exact bounded⟩
  have standing : ∀ {frame : PathFrame} {rest : List PathFrame}, search.frames = frame :: rest →
      search.Stands adjacency exits config.maxPathHops start steps := by
    intro frame rest top
    exact explores.stands (by rw [top]; exact List.cons_ne_nil _ _)
  cases turned with
  | back top done =>
    refine ⟨steps.dropLast, [], ?_, unmoved rfl rfl⟩
    rw [List.append_nil]
    exact explores.back top done
  | seen top read visited =>
    have stands := standing top
    refine ⟨steps, [], ?_, unmoved rfl rfl⟩
    refine explores.read top read (stands.advanced top) rfl (fun stopped => stopped) ?_ ?_ ?_ .inl
    · intro tail venture
      rw [stands.visited, List.mem_reverse] at visited
      exact absurd visited venture.fresh
    · intro goal _ absent
      cases absent
    · rw [List.append_nil]
      exact explores.distinct
  | deep top read fresh far =>
    have stands := standing top
    have long : config.maxPathHops ≤ steps.length := by rwa [stands.stack, List.length_map] at far
    refine ⟨steps, [], ?_, unmoved rfl rfl⟩
    refine explores.read top read { stands.advanced top with } rfl (fun _ => rfl) ?_ ?_ ?_ ?_
    · intro tail venture
      refine .inr ⟨rfl, fun short => ?_⟩
      rw [List.length_append, List.length_cons] at short
      omega
    · intro goal _ absent
      cases absent
    · rw [List.append_nil]
      exact explores.distinct
    · intro _
      refine .inr (.inl ⟨_, stands.probe top read fresh, ?_⟩)
      have short := stands.short
      rw [List.length_append, List.length_singleton]
      omega
  | @found frame rest step top read fresh near leaves room =>
    have stands := standing top
    have route := stands.route top read fresh near leaves
    have links : (steps ++ [step]).map Prod.fst = search.stack ++ [step.1] := by
      rw [List.map_append, ← stands.stack]
      rfl
    obtain ⟨more, recorded⟩ := records.turn stands (.found top read fresh near leaves room)
    obtain rfl : more = [⟨search.stack ++ [step.1], start, step.2⟩] := by
      have candidates := recorded.candidates
      have old := records.candidates
      rw [← List.append_assoc, ← old] at candidates
      exact (List.append_cancel_left candidates).symm
    refine ⟨steps, _, ?_, recorded⟩
    refine explores.read top read { stands.advanced top with } rfl (fun stopped => stopped) ?_ ?_ ?_ .inl
    · intro tail venture
      obtain rfl := venture.ends_at_exit leaves
      refine .inl ⟨route.short, List.mem_append_right _ ?_⟩
      rw [links, endOf_snoc]
      exact List.mem_cons_self
    · intro goal trail member
      rw [List.mem_singleton, PathCandidate.mk.injEq] at member
      obtain rfl : goal = steps ++ [step] := graph.steps_unique trail route.trail (member.1.trans links.symm)
      exact explores.settles single top read fresh []
    · rw [List.nodup_append]
      refine ⟨explores.distinct, List.nodup_singleton _, ?_⟩
      intro candidate member other new same
      rw [List.mem_singleton.mp new] at same
      exact explores.unrecorded top read (same ▸ member)
  | @full frame rest step top read fresh near leaves none =>
    have stands := standing top
    refine ⟨steps, [], ?_, unmoved rfl rfl⟩
    refine explores.read top read { stands.advanced top with } rfl (fun _ => rfl) ?_ ?_ ?_ ?_
    · intro tail venture
      obtain rfl := venture.ends_at_exit leaves
      refine .inr ⟨rfl, fun _ => ?_⟩
      rw [endOf_snoc, List.append_nil, records.counted]
      exact none
    · intro goal _ absent
      cases absent
    · rw [List.append_nil]
      exact explores.distinct
    · exact fun _ => .inr (explores.crowded records top read fresh near leaves none)
  | @enter frame rest step top read fresh near stays =>
    refine ⟨steps ++ [step], [], ?_, unmoved rfl rfl⟩
    rw [List.append_nil]
    exact explores.enter single top read fresh near stays

end Turning

/-! ### What a finished search has found -/

section Finished

variable {config : RackConfig} {adjacency : Adjacency} {exits : List UInt64} {start : UInt64}
  {own : List PathCandidate}

theorem PathSearch.setOut_explores {search : PathSearch} (open_ : search.truncated = false) (start : UInt64) :
    (search.setOut start).Explores config adjacency exits start [] [] where
  stands _ := search.setOut_stands start
  covers goal venture := by
    right
    cases goal with
    | nil => exact absurd rfl venture.nonempty
    | cons step tail => exact .inl ⟨step, venture.trail.1, tail, rfl⟩
  spent goal _ absent := by cases absent
  unrepeated := ⟨fun tail pending => pending, trivial⟩
  distinct := List.nodup_nil
  honest stopped := by
    have still : search.truncated = true := stopped
    rw [open_] at still
    cases still

/-- What the search from a port has found when no frame is left. -/
structure Swept (config : RackConfig) (adjacency : Adjacency) (exits : List UInt64) (start : UInt64)
    (own : List PathCandidate) (truncated : Bool) : Prop where
  starts : ∀ candidate ∈ own, candidate.start = start
  routed : ∀ candidate ∈ own, candidate.Routed adjacency exits config.maxPathHops
  distinct : own.Nodup
  complete : ∀ finish steps, Route adjacency.edge (· ∈ exits) config.maxPathHops start finish steps →
    ⟨steps.map Prod.fst, start, finish⟩ ∈ own ∨
      (truncated = true ∧ config.maxPathsPerPair ≤ (joining own start finish).length)
  truncated_iff : truncated = true ↔ Cramped config adjacency exits start

theorem Route.venture {finish : UInt64} {steps : List (UInt64 × UInt64)}
    (route : Route adjacency.edge (· ∈ exits) config.maxPathHops start finish steps) :
    Venture config adjacency exits start steps where
  toProbe := route.toProbe
  within := Nat.le_succ_of_le route.short
  leaves _ := by
    rw [route.ends]
    exact route.exits

/-- A search with no frame left has covered every venture. -/
theorem PathSearch.Explores.swept {before : List PathCandidate} {steps : List (UInt64 × UInt64)} {search : PathSearch}
    (explores : search.Explores config adjacency exits start steps own)
    (records : search.Records config adjacency exits start before own) (finished : search.frames = []) :
    Swept config adjacency exits start own search.truncated := by
  have covered : ∀ goal, Venture config adjacency exits start goal →
      Covered config start own search.truncated goal := by
    intro goal venture
    rcases explores.covers goal venture with covered | pending
    · exact covered
    · rw [finished] at pending
      exact pending.elim
  have complete : ∀ finish steps, Route adjacency.edge (· ∈ exits) config.maxPathHops start finish steps →
      ⟨steps.map Prod.fst, start, finish⟩ ∈ own ∨
        (search.truncated = true ∧ config.maxPathsPerPair ≤ (joining own start finish).length) := by
    intro finish steps route
    rcases covered steps (Route.venture route) with ⟨-, member⟩ | ⟨stopped, full⟩
    · rw [route.ends] at member
      exact .inl member
    · rw [← route.ends]
      exact .inr ⟨stopped, full route.short⟩
  refine ⟨records.starts, records.routed, explores.distinct, complete, explores.honest, ?_⟩
  intro cramped
  rcases cramped with ⟨steps, probe, long⟩ | ⟨finish, routes, distinct, many, routed⟩
  · have venture : Venture config adjacency exits start steps := ⟨probe, Nat.le_of_eq long, fun short => by omega⟩
    rcases covered steps venture with ⟨short, -⟩ | ⟨stopped, -⟩
    · omega
    · exact stopped
  · by_contra open_
    have all : ∀ links ∈ routes, ⟨links, start, finish⟩ ∈ joining own start finish := by
      intro links listed
      obtain ⟨steps, rfl, route⟩ := routed links listed
      rcases complete finish steps route with member | ⟨stopped, -⟩
      · exact List.mem_filter.mpr ⟨member, by simp⟩
      · exact absurd stopped open_
    have images : (routes.map fun links => PathCandidate.mk links start finish).Nodup :=
      distinct.map fun first second same => (PathCandidate.mk.inj same).1
    have few := (List.subperm_of_subset images fun candidate listed => by
      obtain ⟨links, member, rfl⟩ := List.mem_map.mp listed
      exact all links member).length_le
    rw [List.length_map, records.counted] at few
    have bounded := records.bounded finish
    omega

/-- Within its budget the search from a port sweeps it. -/
theorem Sweeps.swept {limits : ComposeLimits} {most : Nat} {truncated : Bool} (graph : Undirected adjacency.edge)
    (single : ∀ port, ((adjacency.getD port []).filter fun step => step.2 ≠ port).Nodup)
    (sweeps : Sweeps config limits adjacency exits most start own truncated) (within : most ≤ kMaxExpansions) :
    Swept config adjacency exits start own truncated := by
  obtain ⟨search, final, open_, searched, records, rfl, spent⟩ := sweeps
  obtain ⟨last, run, -, -, finished | ⟨budget, -⟩⟩ := searchLoop_turns searched (by omega)
  · obtain ⟨finished, rfl⟩ := finished
    have explored : ∃ steps own, final.Explores config adjacency exits start steps own ∧
        final.Records config adjacency exits start search.candidates own := by
      clear searched finished records spent
      induction run with
      | refl => exact ⟨[], [], PathSearch.setOut_explores open_ start, search.setOut_records start⟩
      | tail _ turned ih =>
        obtain ⟨steps, own, explores, records⟩ := ih
        obtain ⟨after, more, explores, records⟩ := explores.turn graph single records turned
        exact ⟨after, own ++ more, explores, records⟩
    obtain ⟨steps, found, explores, recorded⟩ := explored
    obtain rfl : found = own := List.append_cancel_left (recorded.candidates.symm.trans records.candidates)
    exact explores.swept recorded finished
  · omega

end Finished

end RackFabric
