import RackFabric.Compose.Depth
import RackFabric.Compose.Published
import RackFabric.Foundation.Trail

/-!
The path search, turn by turn. The search stands at the end of a walk that its frames, its visited set and its stack
all spell; what it records are routes from its access port to an exit.
-/

namespace RackFabric

open Foundation

section Adjacency

/-- What a link adds to the neighbours of a port. -/
def halves (port : UInt64) (link : LinkRecord) : List (UInt64 × UInt64) :=
  (if link.portA = port then [(link.id, link.portB)] else []) ++
    if link.portB = port then [(link.id, link.portA)] else []

theorem adjacencyOf_perm (links : List LinkRecord) (port : UInt64) :
    ((adjacencyOf links).getD port []).Perm ((links.filter (·.eligibility == .eligible)).flatMap (halves port)) := by
  have run : ∀ (links : List LinkRecord) (adjacency : Adjacency),
      (links.foldl (fun (adjacency : Adjacency) link =>
        let adjacency := adjacency.insert link.portA (adjacency.getD link.portA [] ++ [(link.id, link.portB)])
        adjacency.insert link.portB (adjacency.getD link.portB [] ++ [(link.id, link.portA)])) adjacency).getD port [] =
      adjacency.getD port [] ++ links.flatMap (halves port) := by
    intro links
    induction links with
    | nil => simp
    | cons link rest ih =>
      intro adjacency
      rw [List.foldl_cons, ih, List.flatMap_cons, ← List.append_assoc]
      congr 1
      simp only [Std.ExtTreeMap.getD_insert, Std.LawfulEqCmp.compare_eq_iff_eq]
      by_cases first : link.portA = port
      · by_cases second : link.portB = port
        · simp [halves, first, second]
        · simp [halves, first, second]
      · by_cases second : link.portB = port
        · subst second
          simp [halves, first]
        · simp [halves, first, second]
  unfold adjacencyOf
  dsimp only
  rw [Std.ExtTreeMap.getD_eq_getD_getElem?, Std.ExtTreeMap.getElem?_map]
  have unsorted := run (links.filter (·.eligibility == .eligible)) {}
  rw [Std.ExtTreeMap.getD_eq_getD_getElem?] at unsorted
  have empty : (({} : Adjacency).getD port []) = [] := by simp
  rw [empty, List.nil_append] at unsorted
  rw [← unsorted]
  generalize List.foldl _ _ _ = adjacency
  cases adjacency[port]? with
  | none => exact List.Perm.refl _
  | some neighbours => exact sortBy_perm _ _

/-- An eligible link leads from one port to another. -/
def Joins (links : List LinkRecord) (port : UInt64) (step : UInt64 × UInt64) : Prop :=
  ∃ link ∈ links, link.eligibility = .eligible ∧ link.id = step.1 ∧
    ((link.portA = port ∧ link.portB = step.2) ∨ (link.portB = port ∧ link.portA = step.2))

theorem mem_adjacencyOf {links : List LinkRecord} {port : UInt64} {step : UInt64 × UInt64} :
    step ∈ (adjacencyOf links).getD port [] ↔ Joins links port step := by
  rw [(adjacencyOf_perm links port).mem_iff, List.mem_flatMap, Joins]
  obtain ⟨name, next⟩ := step
  constructor
  · intro listed
    obtain ⟨link, chosen, half⟩ := listed
    obtain ⟨member, eligible⟩ := List.mem_filter.mp chosen
    refine ⟨link, member, eq_of_beq eligible, ?_⟩
    rcases List.mem_append.mp half with first | second
    · split at first
      · rename_i own
        cases List.mem_singleton.mp first
        exact ⟨rfl, .inl ⟨own, rfl⟩⟩
      · cases first
    · split at second
      · rename_i own
        cases List.mem_singleton.mp second
        exact ⟨rfl, .inr ⟨own, rfl⟩⟩
      · cases second
  · intro joined
    obtain ⟨link, member, eligible, rfl, ends⟩ := joined
    refine ⟨link, List.mem_filter.mpr ⟨member, by simp [eligible]⟩, ?_⟩
    rcases ends with ⟨own, far⟩ | ⟨own, far⟩
    · exact List.mem_append_left _ (by simp [own, far])
    · exact List.mem_append_right _ (by simp [own, far])

/-- No neighbour is listed twice, but for a port that a link joins to itself. -/
theorem adjacencyOf_nodup {links : List LinkRecord} (distinct : (links.map LinkRecord.id).Nodup) (port : UInt64) :
    (((adjacencyOf links).getD port []).filter fun step => step.2 ≠ port).Nodup := by
  rw [((adjacencyOf_perm links port).filter _).nodup_iff]
  have kept := List.filter_sublist (l := links) (p := fun link => link.eligibility == .eligible)
  replace distinct := (kept.map LinkRecord.id).nodup distinct
  clear kept
  generalize links.filter (·.eligibility == .eligible) = links at distinct
  induction links with
  | nil => simp
  | cons link rest ih =>
    obtain ⟨fresh, distinct⟩ := List.nodup_cons.mp distinct
    rw [List.flatMap_cons, List.filter_append, List.nodup_append]
    refine ⟨?_, ih distinct, ?_⟩
    · by_cases first : link.portA = port
      · by_cases second : link.portB = port
        · simp [halves, first, second]
        · simp [halves, first, second]
      · by_cases second : link.portB = port
        · simp [halves, first, second]
        · simp [halves, first, second]
    · intro step own other later same
      subst same
      have named : ∀ link : LinkRecord, step ∈ halves port link → step.1 = link.id := by
        intro link half
        rcases List.mem_append.mp half with first | second
        · split at first
          · rw [List.mem_singleton.mp first]
          · cases first
        · split at second
          · rw [List.mem_singleton.mp second]
          · cases second
      obtain ⟨another, member, half⟩ := List.mem_flatMap.mp (List.mem_filter.mp later).1
      have same := (named link (List.mem_filter.mp own).1).symm.trans (named another half)
      exact fresh (List.mem_map.mpr ⟨another, member, same.symm⟩)

theorem joins_undirected {links : List LinkRecord} (distinct : (links.map LinkRecord.id).Nodup) :
    Undirected (Joins links) where
  symm joined := by
    obtain ⟨link, member, eligible, own, ends⟩ := joined
    exact ⟨link, member, eligible, own, ends.symm.imp (fun e => ⟨e.2, e.1⟩) fun e => ⟨e.2, e.1⟩⟩
  ends first second := by
    obtain ⟨link, member, -, own, ends⟩ := first
    obtain ⟨other, listed, -, same, others⟩ := second
    obtain rfl : link = other := List.inj_on_of_nodup_map distinct member listed (own.trans same.symm)
    rcases ends with ⟨rfl, rfl⟩ | ⟨rfl, rfl⟩
    · exact others.imp (fun e => e) fun e => ⟨e.2, e.1⟩
    · exact others.symm.imp (fun e => e) fun e => ⟨e.2, e.1⟩

end Adjacency

/-! ### Turns of the search -/

/-- The search once it has read the next neighbour of its top frame. -/
def PathSearch.advanced (search : PathSearch) (frame : PathFrame) (rest : List PathFrame) : PathSearch :=
  { search with
    expansions := search.expansions + 1
    frames := { frame with nextNeighbour := frame.nextNeighbour + 1 } :: rest }

section Turns

variable (config : RackConfig) (adjacency : Adjacency) (exits : List UInt64) (start : UInt64)

/-- One turn of the search. It goes back from a port whose neighbours are used up; otherwise it reads a neighbour, which
it has visited, or is too far, or is an exit with or without room for one more path, or is entered. -/
inductive PathSearch.Turn (search : PathSearch) : PathSearch → Prop
  | back {frame : PathFrame} {rest : List PathFrame} (top : search.frames = frame :: rest)
      (done : (adjacency.getD frame.port [])[frame.nextNeighbour]? = none) :
      Turn search { search with
        expansions := search.expansions + 1
        visited := search.visited.erase frame.port
        frames := rest
        stack := search.stack.dropLast }
  | seen {frame : PathFrame} {rest : List PathFrame} {step : UInt64 × UInt64} (top : search.frames = frame :: rest)
      (read : (adjacency.getD frame.port [])[frame.nextNeighbour]? = some step) (visited : step.2 ∈ search.visited) :
      Turn search (search.advanced frame rest)
  | deep {frame : PathFrame} {rest : List PathFrame} {step : UInt64 × UInt64} (top : search.frames = frame :: rest)
      (read : (adjacency.getD frame.port [])[frame.nextNeighbour]? = some step) (fresh : step.2 ∉ search.visited)
      (far : config.maxPathHops ≤ search.stack.length) :
      Turn search { search.advanced frame rest with truncated := true }
  | found {frame : PathFrame} {rest : List PathFrame} {step : UInt64 × UInt64} (top : search.frames = frame :: rest)
      (read : (adjacency.getD frame.port [])[frame.nextNeighbour]? = some step) (fresh : step.2 ∉ search.visited)
      (near : search.stack.length < config.maxPathHops) (leaves : step.2 ∈ exits)
      (room : search.foundPerEndpoint.getD step.2 0 < config.maxPathsPerPair) :
      Turn search { search.advanced frame rest with
        foundPerEndpoint := search.foundPerEndpoint.insert step.2 (search.foundPerEndpoint.getD step.2 0 + 1)
        candidates := search.candidates ++ [⟨search.stack ++ [step.1], start, step.2⟩] }
  | full {frame : PathFrame} {rest : List PathFrame} {step : UInt64 × UInt64} (top : search.frames = frame :: rest)
      (read : (adjacency.getD frame.port [])[frame.nextNeighbour]? = some step) (fresh : step.2 ∉ search.visited)
      (near : search.stack.length < config.maxPathHops) (leaves : step.2 ∈ exits)
      (none : config.maxPathsPerPair ≤ search.foundPerEndpoint.getD step.2 0) :
      Turn search { search.advanced frame rest with truncated := true }
  | enter {frame : PathFrame} {rest : List PathFrame} {step : UInt64 × UInt64} (top : search.frames = frame :: rest)
      (read : (adjacency.getD frame.port [])[frame.nextNeighbour]? = some step) (fresh : step.2 ∉ search.visited)
      (near : search.stack.length < config.maxPathHops) (stays : step.2 ∉ exits) :
      Turn search { search.advanced frame rest with
        visited := step.2 :: search.visited
        stack := search.stack ++ [step.1]
        frames := ⟨step.2, 0⟩ :: (search.advanced frame rest).frames }

variable {config adjacency exits start}

/-- What visiting the neighbour that was read makes of the search is a turn. -/
theorem visitNeighbour_turn {limits : ComposeLimits} {search next : PathSearch} {frame : PathFrame}
    {rest : List PathFrame} {step : UInt64 × UInt64} (top : search.frames = frame :: rest)
    (read : (adjacency.getD frame.port [])[frame.nextNeighbour]? = some step)
    (visited : visitNeighbour config limits exits start step.1 step.2 (search.advanced frame rest) = .ok next) :
    search.Turn config adjacency exits start next := by
  unfold visitNeighbour at visited
  split at visited
  · rename_i seen
    cases visited
    exact .seen top read (List.contains_iff_mem.mp seen)
  · rename_i unseen
    have fresh : step.2 ∉ search.visited := fun found => unseen (List.contains_iff_mem.mpr found)
    split at visited
    · rename_i far
      cases visited
      exact .deep top read fresh far
    · rename_i near
      have near : search.stack.length < config.maxPathHops := not_le.mp near
      split at visited
      · rename_i leaves
        have leaves : step.2 ∈ exits := List.contains_iff_mem.mp leaves
        by_cases room : (search.advanced frame rest).foundPerEndpoint.getD step.2 0 < config.maxPathsPerPair
        · simp only [if_pos room] at visited
          split at visited
          · cases visited
          · cases visited
            exact .found top read fresh near leaves room
        · simp only [if_neg room] at visited
          split at visited
          · cases visited
          · cases visited
            exact .full top read fresh near leaves (not_lt.mp room)
      · rename_i stays
        cases visited
        exact .enter top read fresh near fun found => stays (List.contains_iff_mem.mpr found)

theorem PathSearch.Turn.expansions {search next : PathSearch} (turn : search.Turn config adjacency exits start next) :
    next.expansions = search.expansions + 1 := by
  cases turn with
  | _ => rfl

/-- The search from a port is a run of turns, until no frame is left or the budget is used up. -/
theorem searchLoop_turns {limits : ComposeLimits} {fuel : Nat} {search final : PathSearch}
    (searched : searchLoop config limits adjacency exits start fuel search = .ok final)
    (fueled : kMaxExpansions < fuel + search.expansions) :
    ∃ last, Relation.ReflTransGen (PathSearch.Turn config adjacency exits start) search last ∧
      last.expansions ≤ final.expansions ∧
      final = { last with expansions := final.expansions, truncated := final.truncated } ∧
      ((last.frames = [] ∧ final = last) ∨ (kMaxExpansions < final.expansions ∧ final.truncated = true)) := by
  induction fuel generalizing search with
  | zero =>
    cases searched
    exact ⟨search, .refl, Nat.le_refl _, rfl, .inr ⟨by simpa using fueled, rfl⟩⟩
  | succ fuel ih =>
    rw [searchLoop] at searched
    split at searched
    · rename_i empty
      cases searched
      exact ⟨_, .refl, Nat.le_refl _, rfl, .inl ⟨empty, rfl⟩⟩
    · rename_i frame rest top
      dsimp only at searched
      split at searched
      · rename_i spentOut
        cases searched
        exact ⟨search, .refl, Nat.le_succ _, rfl, .inr ⟨spentOut, rfl⟩⟩
      · rename_i within
        have turned : ∀ next, search.Turn config adjacency exits start next →
            searchLoop config limits adjacency exits start fuel next = .ok final →
            ∃ last, Relation.ReflTransGen (PathSearch.Turn config adjacency exits start) search last ∧
              last.expansions ≤ final.expansions ∧
              final = { last with expansions := final.expansions, truncated := final.truncated } ∧
              ((last.frames = [] ∧ final = last) ∨ (kMaxExpansions < final.expansions ∧ final.truncated = true)) := by
          intro next turn searched
          obtain ⟨last, run, ended⟩ := ih searched (by rw [turn.expansions]; omega)
          exact ⟨last, .head turn run, ended⟩
        split at searched
        · rename_i done
          exact turned _ (.back top done) searched
        · rename_i linkId nextPort read
          obtain ⟨after, visited, remaining⟩ := bind_eq_ok.mp searched
          exact turned after (visitNeighbour_turn top read visited) remaining

end Turns

/-! ### Where the search stands -/

def Adjacency.edge (adjacency : Adjacency) (port : UInt64) (step : UInt64 × UInt64) : Prop :=
  step ∈ adjacency.getD port []

/-- The search stands at the end of a walk that visits nothing twice and has met no exit. -/
structure PathSearch.Stands (adjacency : Adjacency) (exits : List UInt64) (hops : Nat) (start : UInt64)
    (steps : List (UInt64 × UInt64)) (search : PathSearch) : Prop where
  frames : search.frames.map PathFrame.port = (stops start steps).reverse
  visited : search.visited = (stops start steps).reverse
  stack : search.stack = steps.map Prod.fst
  trail : Trail adjacency.edge start steps
  distinct : (stops start steps).Nodup
  inner : ∀ stop ∈ steps.map Prod.snd, stop ∉ exits
  short : steps.length ≤ hops

namespace PathSearch.Stands

variable {config : RackConfig} {adjacency : Adjacency} {exits : List UInt64} {start : UInt64}
  {steps : List (UInt64 × UInt64)} {step : UInt64 × UInt64} {search next : PathSearch} {frame : PathFrame}
  {rest : List PathFrame}

theorem top_port {hops : Nat} (stands : search.Stands adjacency exits hops start steps)
    (top : search.frames = frame :: rest) : frame.port = endOf start steps := by
  have ports := stands.frames
  rw [top, List.map_cons] at ports
  have first := congrArg List.head? ports
  rw [List.head?_cons, List.head?_reverse, stops, List.getLast?_eq_some_getLast (List.cons_ne_nil _ _)] at first
  rw [endOf_eq_getLast]
  exact Option.some.inj first

theorem advanced {hops : Nat} (stands : search.Stands adjacency exits hops start steps)
    (top : search.frames = frame :: rest) : (search.advanced frame rest).Stands adjacency exits hops start steps :=
  { stands with
    frames := by
      have ports := stands.frames
      rw [top] at ports
      exact ports }

/-- A neighbour that was read is a step from where the search stands. -/
theorem edge {hops : Nat} (stands : search.Stands adjacency exits hops start steps)
    (top : search.frames = frame :: rest)
    (read : (adjacency.getD frame.port [])[frame.nextNeighbour]? = some step) :
    Trail adjacency.edge start (steps ++ [step]) := by
  refine (trail_snoc step).mpr ⟨stands.trail, ?_⟩
  rw [← stands.top_port top]
  exact List.mem_of_getElem? read

theorem fresh {hops : Nat} (stands : search.Stands adjacency exits hops start steps)
    (unseen : step.2 ∉ search.visited) : (stops start (steps ++ [step])).Nodup := by
  rw [stands.visited, List.mem_reverse] at unseen
  rw [stops_snoc, List.nodup_append]
  refine ⟨stands.distinct, List.nodup_singleton _, ?_⟩
  intro stop member other own same
  rw [List.mem_singleton] at own
  exact unseen (own ▸ same ▸ member)

/-- A step to a place not visited before is probed. -/
theorem probe {hops : Nat} (stands : search.Stands adjacency exits hops start steps)
    (top : search.frames = frame :: rest)
    (read : (adjacency.getD frame.port [])[frame.nextNeighbour]? = some step) (unseen : step.2 ∉ search.visited) :
    Probe adjacency.edge (· ∈ exits) start (steps ++ [step]) where
  nonempty := List.concat_ne_nil _ _
  trail := stands.edge top read
  distinct := stands.fresh unseen
  inner := by
    rw [List.map_append, List.map_singleton, List.dropLast_concat]
    exact stands.inner

theorem route (stands : search.Stands adjacency exits config.maxPathHops start steps)
    (top : search.frames = frame :: rest)
    (read : (adjacency.getD frame.port [])[frame.nextNeighbour]? = some step) (unseen : step.2 ∉ search.visited)
    (near : search.stack.length < config.maxPathHops) (leaves : step.2 ∈ exits) :
    Route adjacency.edge (· ∈ exits) config.maxPathHops start step.2 (steps ++ [step]) where
  toProbe := stands.probe top read unseen
  ends := endOf_snoc step
  exits := leaves
  short := by
    rw [stands.stack, List.length_map] at near
    rw [List.length_append, List.length_singleton]
    exact near

theorem enter (stands : search.Stands adjacency exits config.maxPathHops start steps)
    (top : search.frames = frame :: rest)
    (read : (adjacency.getD frame.port [])[frame.nextNeighbour]? = some step) (unseen : step.2 ∉ search.visited)
    (near : search.stack.length < config.maxPathHops) (stays : step.2 ∉ exits) :
    PathSearch.Stands adjacency exits config.maxPathHops start (steps ++ [step]) { search.advanced frame rest with
      visited := step.2 :: search.visited
      stack := search.stack ++ [step.1]
      frames := ⟨step.2, 0⟩ :: (search.advanced frame rest).frames } where
  frames := by
    rw [stops_snoc, List.reverse_append]
    exact congrArg (step.2 :: ·) (stands.advanced top).frames
  visited := by
    rw [stops_snoc, List.reverse_append]
    exact congrArg (step.2 :: ·) stands.visited
  stack := by
    rw [List.map_append, ← stands.stack]
    rfl
  trail := stands.edge top read
  distinct := stands.fresh unseen
  inner := by
    intro stop member
    rw [List.map_append, List.map_singleton, List.mem_append, List.mem_singleton] at member
    rcases member with old | rfl
    · exact stands.inner stop old
    · exact stays
  short := by
    rw [stands.stack, List.length_map] at near
    rw [List.length_append, List.length_singleton]
    exact near

/-- Going back takes the last step off the walk, or ends the search. -/
theorem back {hops : Nat} (stands : search.Stands adjacency exits hops start steps)
    (top : search.frames = frame :: rest) :
    (steps = [] ∧ rest = []) ∨ ∃ before last, steps = before ++ [last] ∧
      PathSearch.Stands adjacency exits hops start before { search with
        expansions := search.expansions + 1
        visited := search.visited.erase frame.port
        frames := rest
        stack := search.stack.dropLast } := by
  have ports := stands.frames
  rw [top, List.map_cons] at ports
  rcases List.eq_nil_or_concat' steps with rfl | ⟨before, last, rfl⟩
  · left
    refine ⟨rfl, ?_⟩
    have none := (List.cons.inj ports).2
    exact List.map_eq_nil_iff.mp none
  · right
    rw [stops_snoc, List.reverse_append] at ports
    obtain ⟨own, others⟩ := List.cons.inj ports
    have distinct := stands.distinct
    rw [stops_snoc] at distinct
    refine ⟨before, last, rfl, ?_⟩
    constructor
    · exact others
    · have visited := stands.visited
      rw [stops_snoc, List.reverse_append] at visited
      show search.visited.erase frame.port = _
      rw [visited, own]
      exact List.erase_cons_head _ _
    · show search.stack.dropLast = _
      rw [stands.stack, List.map_append, List.map_singleton, List.dropLast_concat]
    · exact ((trail_snoc last).mp stands.trail).1
    · exact (List.nodup_append.mp distinct).1
    · intro stop member
      exact stands.inner stop (by rw [List.map_append]; exact List.mem_append_left _ member)
    · have short := stands.short
      rw [List.length_append] at short
      omega

/-- After a turn the search stands somewhere, or it is over. -/
theorem turn (stands : search.Stands adjacency exits config.maxPathHops start steps)
    (turned : search.Turn config adjacency exits start next) :
    next.frames = [] ∨ ∃ steps, next.Stands adjacency exits config.maxPathHops start steps := by
  cases turned with
  | back top done =>
    rcases stands.back top with ⟨-, atRoot⟩ | ⟨before, last, -, behind⟩
    · exact .inl atRoot
    · exact .inr ⟨before, behind⟩
  | seen top read visited => exact .inr ⟨steps, stands.advanced top⟩
  | deep top read fresh far => exact .inr ⟨steps, { stands.advanced top with }⟩
  | found top read fresh near leaves room => exact .inr ⟨steps, { stands.advanced top with }⟩
  | full top read fresh near leaves none => exact .inr ⟨steps, { stands.advanced top with }⟩
  | enter top read fresh near stays => exact .inr ⟨_, stands.enter top read fresh near stays⟩

end PathSearch.Stands

/-! ### What the search records -/

/-- The candidate is a route from its start to its finish. -/
def PathCandidate.Routed (adjacency : Adjacency) (exits : List UInt64) (hops : Nat) (candidate : PathCandidate) : Prop :=
  ∃ steps, candidate.links = steps.map Prod.fst ∧
    Route adjacency.edge (· ∈ exits) hops candidate.start candidate.finish steps

/-- The candidates that join two ports. -/
def joining (candidates : List PathCandidate) (start finish : UInt64) : List PathCandidate :=
  candidates.filter fun candidate => candidate.start = start ∧ candidate.finish = finish

/-- What the search from one port has recorded so far: routes from it, counted by the port they lead to. -/
structure PathSearch.Records (config : RackConfig) (adjacency : Adjacency) (exits : List UInt64) (start : UInt64)
    (before own : List PathCandidate) (search : PathSearch) : Prop where
  candidates : search.candidates = before ++ own
  starts : ∀ candidate ∈ own, candidate.start = start
  routed : ∀ candidate ∈ own, candidate.Routed adjacency exits config.maxPathHops
  counted : ∀ finish, (joining own start finish).length = search.foundPerEndpoint.getD finish 0
  bounded : ∀ finish, search.foundPerEndpoint.getD finish 0 ≤ config.maxPathsPerPair

section Records

variable {config : RackConfig} {adjacency : Adjacency} {exits : List UInt64} {start : UInt64}
  {before own : List PathCandidate} {steps : List (UInt64 × UInt64)} {search next : PathSearch}

theorem PathSearch.Records.turn (records : search.Records config adjacency exits start before own)
    (stands : search.Stands adjacency exits config.maxPathHops start steps)
    (turned : search.Turn config adjacency exits start next) :
    ∃ more, next.Records config adjacency exits start before (own ++ more) := by
  cases turned with
  | found top read fresh near leaves room =>
    rename_i frame rest step
    have route := stands.route top read fresh near leaves
    refine ⟨[⟨search.stack ++ [step.1], start, step.2⟩], ?_⟩
    constructor
    · show search.candidates ++ _ = _
      rw [records.candidates, List.append_assoc]
    · intro candidate listed
      rcases List.mem_append.mp listed with old | new
      · exact records.starts candidate old
      · rw [List.mem_singleton.mp new]
    · intro candidate listed
      rcases List.mem_append.mp listed with old | new
      · exact records.routed candidate old
      · rw [List.mem_singleton.mp new]
        refine ⟨steps ++ [step], ?_, route⟩
        rw [List.map_append, ← stands.stack]
        rfl
    · intro finish
      have counted := records.counted finish
      show _ = (search.foundPerEndpoint.insert step.2 _).getD finish 0
      rw [joining, List.filter_append, List.length_append, Std.ExtTreeMap.getD_insert]
      by_cases same : step.2 = finish
      · subst same
        rw [if_pos (by simp), ← counted]
        simp [joining]
      · rw [if_neg (by simpa using same), ← counted]
        simp [joining, same]
    · intro finish
      show (search.foundPerEndpoint.insert step.2 _).getD finish 0 ≤ _
      rw [Std.ExtTreeMap.getD_insert]
      by_cases same : step.2 = finish
      · rw [if_pos (by simpa using same)]
        exact room
      · rw [if_neg (by simpa using same)]
        exact records.bounded finish
  | back | seen | deep | full | enter =>
    refine ⟨[], ?_⟩
    rw [List.append_nil]
    exact { records with }

/-- A run from a standing search records routes only. -/
theorem searchRun_records (stands : search.Stands adjacency exits config.maxPathHops start steps)
    (records : search.Records config adjacency exits start before own)
    (run : Relation.ReflTransGen (PathSearch.Turn config adjacency exits start) search next) :
    ∃ own, next.Records config adjacency exits start before own := by
  have kept : (next.frames = [] ∨ ∃ steps, next.Stands adjacency exits config.maxPathHops start steps) ∧
      ∃ own, next.Records config adjacency exits start before own := by
    induction run with
    | refl => exact ⟨.inr ⟨steps, stands⟩, own, records⟩
    | tail _ turned ih =>
      obtain ⟨standing, own, records⟩ := ih
      rcases standing with atRoot | ⟨steps, stands⟩
      · cases turned with
        | back top | seen top | deep top | found top | full top | enter top =>
          rw [atRoot] at top
          cases top
      · obtain ⟨more, records⟩ := records.turn stands turned
        exact ⟨stands.turn turned, _, records⟩
  exact kept.2

/-- The search as it sets out from a port. -/
def PathSearch.setOut (search : PathSearch) (start : UInt64) : PathSearch :=
  { search with
    frames := [⟨start, 0⟩]
    stack := []
    visited := [start]
    foundPerEndpoint := {} }

theorem PathSearch.setOut_stands (search : PathSearch) (start : UInt64) :
    (search.setOut start).Stands adjacency exits config.maxPathHops start [] where
  frames := rfl
  visited := rfl
  stack := rfl
  trail := trivial
  distinct := List.nodup_singleton start
  inner stop absent := by cases absent
  short := Nat.zero_le _

theorem PathSearch.setOut_records (search : PathSearch) (start : UInt64) :
    (search.setOut start).Records config adjacency exits start search.candidates [] where
  candidates := (List.append_nil _).symm
  starts candidate absent := by cases absent
  routed candidate absent := by cases absent
  counted finish := by simp [joining, PathSearch.setOut]
  bounded finish := by simp [PathSearch.setOut]

/-- What the search from one port adds to the candidates, within a number of expansions. -/
def Sweeps (config : RackConfig) (limits : ComposeLimits) (adjacency : Adjacency) (exits : List UInt64) (most : Nat)
    (start : UInt64) (own : List PathCandidate) (truncated : Bool) : Prop :=
  ∃ search final : PathSearch, search.truncated = false ∧
    searchLoop config limits adjacency exits start (kMaxExpansions + 1) (search.setOut start) = .ok final ∧
    final.Records config adjacency exits start search.candidates own ∧ final.truncated = truncated ∧
    final.expansions ≤ most

theorem searchLoop_sweeps {limits : ComposeLimits} {search final : PathSearch} (open_ : search.truncated = false)
    (searched : searchLoop config limits adjacency exits start (kMaxExpansions + 1) (search.setOut start) = .ok final)
    {most : Nat} (within : final.expansions ≤ most) :
    ∃ own, final.candidates = search.candidates ++ own ∧
      Sweeps config limits adjacency exits most start own final.truncated := by
  obtain ⟨last, run, -, same, -⟩ := searchLoop_turns searched (by omega)
  obtain ⟨own, records⟩ := searchRun_records (search.setOut_stands start) (search.setOut_records start) run
  have kept : final.Records config adjacency exits start search.candidates own := by
    rw [same]
    exact { records with }
  exact ⟨own, kept.candidates, search, final, open_, searched, kept, rfl, within⟩

/-- What the searches from the ports of a list add, one after another: nothing more once one of them was truncated. -/
inductive Rounds (sweeps : UInt64 → List PathCandidate → Bool → Prop) : List UInt64 → List PathCandidate → Prop
  | done : Rounds sweeps [] []
  | halt {start : UInt64} {rest : List UInt64} {own : List PathCandidate} (swept : sweeps start own true) :
      Rounds sweeps (start :: rest) own
  | next {start : UInt64} {rest : List UInt64} {own more : List PathCandidate} (swept : sweeps start own false)
      (others : Rounds sweeps rest more) : Rounds sweeps (start :: rest) (own ++ more)

theorem searchLoop_expansions {limits : ComposeLimits} {fuel : Nat} {final : PathSearch}
    (searched : searchLoop config limits adjacency exits start fuel search = .ok final)
    (fueled : kMaxExpansions < fuel + search.expansions) : search.expansions ≤ final.expansions := by
  obtain ⟨last, run, within, -⟩ := searchLoop_turns searched fueled
  refine Nat.le_trans ?_ within
  clear within
  induction run with
  | refl => exact Nat.le_refl _
  | tail _ turned ih => exact Nat.le_trans ih (turned.expansions ▸ Nat.le_succ _)

theorem searchFrom_rounds {limits : ComposeLimits} {starts : List UInt64} {search final : PathSearch}
    (open_ : search.truncated = false)
    (searched : searchFrom config limits adjacency exits starts search = .ok final) :
    search.expansions ≤ final.expansions ∧ ∃ added, final.candidates = search.candidates ++ added ∧
      Rounds (Sweeps config limits adjacency exits final.expansions) starts added := by
  induction starts generalizing search with
  | nil =>
    cases searched
    exact ⟨Nat.le_refl _, [], (List.append_nil _).symm, .done⟩
  | cons start rest ih =>
    rw [searchFrom] at searched
    obtain ⟨after, looped, remaining⟩ := bind_eq_ok.mp searched
    have spent : (search.setOut start).expansions ≤ after.expansions := searchLoop_expansions looped (by omega)
    by_cases stopped : after.truncated = true
    · rw [if_pos stopped] at remaining
      cases remaining
      obtain ⟨own, added, swept⟩ := searchLoop_sweeps open_ looped (Nat.le_refl _)
      exact ⟨spent, own, added, .halt (stopped ▸ swept)⟩
    · rw [if_neg stopped] at remaining
      rw [Bool.not_eq_true] at stopped
      obtain ⟨further, more, appended, others⟩ := ih stopped remaining
      obtain ⟨own, added, swept⟩ := searchLoop_sweeps open_ looped further
      refine ⟨Nat.le_trans spent further, own ++ more, ?_, .next (stopped ▸ swept) others⟩
      rw [appended, added, List.append_assoc]

end Records

/-! ### From the candidates to the path records -/

section Rounds

variable {config : RackConfig} {limits : ComposeLimits} {adjacency : Adjacency} {exits starts : List UInt64} {most : Nat}
  {added : List PathCandidate}

theorem Rounds.routed (rounds : Rounds (Sweeps config limits adjacency exits most) starts added) :
    ∀ candidate ∈ added, candidate.start ∈ starts ∧ candidate.Routed adjacency exits config.maxPathHops := by
  induction rounds with
  | done =>
    intro candidate absent
    cases absent
  | halt swept =>
    obtain ⟨_, _, -, -, records, -⟩ := swept
    intro candidate listed
    exact ⟨records.starts candidate listed ▸ List.mem_cons_self, records.routed candidate listed⟩
  | next swept _ ih =>
    obtain ⟨_, _, -, -, records, -⟩ := swept
    intro candidate listed
    rcases List.mem_append.mp listed with own | more
    · exact ⟨records.starts candidate own ▸ List.mem_cons_self, records.routed candidate own⟩
    · exact ⟨List.mem_cons_of_mem _ (ih candidate more).1, (ih candidate more).2⟩

theorem joining_nil {candidates : List PathCandidate} {start : UInt64}
    (elsewhere : ∀ candidate ∈ candidates, candidate.start ≠ start) (finish : UInt64) :
    joining candidates start finish = [] := by
  apply List.filter_eq_nil_iff.mpr
  intro candidate member
  simp [elsewhere candidate member]

theorem PathSearch.Records.joining_le {before own : List PathCandidate} {start : UInt64} {search : PathSearch}
    (records : search.Records config adjacency exits start before own) (first finish : UInt64) :
    (joining own first finish).length ≤ config.maxPathsPerPair := by
  by_cases same : start = first
  · subst same
    rw [records.counted]
    exact records.bounded finish
  · have none : joining own first finish = [] := by
      refine joining_nil ?_ finish
      intro candidate member
      rw [records.starts candidate member]
      exact same
    rw [none]
    exact Nat.zero_le _

theorem Rounds.joining_le (rounds : Rounds (Sweeps config limits adjacency exits most) starts added)
    (distinct : starts.Nodup) (start finish : UInt64) :
    (joining added start finish).length ≤ config.maxPathsPerPair := by
  induction rounds with
  | done => exact Nat.zero_le _
  | halt swept =>
    obtain ⟨_, _, -, -, records, -⟩ := swept
    exact records.joining_le start finish
  | @next first rest own more swept others ih =>
    obtain ⟨fresh, distinct⟩ := List.nodup_cons.mp distinct
    obtain ⟨_, _, -, -, records, -⟩ := swept
    rw [joining, List.filter_append, List.length_append]
    by_cases same : first = start
    · subst same
      have none : joining more first finish = [] := by
        refine joining_nil ?_ finish
        intro candidate member same
        exact fresh (same ▸ (others.routed candidate member).1)
      have own := records.joining_le first finish
      rw [joining] at none own
      rw [none]
      exact own
    · have none : joining own start finish = [] := by
        refine joining_nil ?_ finish
        intro candidate member
        rw [records.starts candidate member]
        exact same
      have later := ih distinct
      rw [joining] at none later
      rw [none, List.length_nil, Nat.zero_add]
      exact later

end Rounds

/-- The record of a candidate. -/
def publishedPath (links : List LinkRecord) (candidate : PathCandidate) : PathRecord where
  id := pathIdentity candidate.links
  startPort := candidate.start
  endPort := candidate.finish
  links := candidate.links
  bottleneck := (pathBottleneck links candidate.links none).2
  bottleneckKnown := (pathBottleneck links candidate.links none).1
  eligibility := if (pathBottleneck links candidate.links none).1 then .eligible else .incomplete

theorem foldl_composePath (links : List LinkRecord) (candidates : List PathCandidate)
    (state : List PathRecord × Diagnostics) :
    (candidates.foldl (composePath links) state).1 = state.1 ++ candidates.map (publishedPath links) := by
  induction candidates generalizing state with
  | nil => simp
  | cons candidate rest ih =>
    rw [List.foldl_cons, ih, List.map_cons]
    simp [composePath, publishedPath]

/-- A link that can carry a path under the identity it is looked up by. -/
def Carries (links : List LinkRecord) (id : UInt64) (link : LinkRecord) : Prop :=
  linkRecord links id = some link ∧ link.eligibility = .eligible ∧ link.capacityKnown = true

theorem pathBottleneck_carried {links : List LinkRecord} {id : UInt64} {rest : List UInt64} {link : LinkRecord}
    (carries : Carries links id link) (bottleneck : Option UInt64) :
    pathBottleneck links (id :: rest) bottleneck = pathBottleneck links rest (some (match bottleneck with
      | none => link.capacity
      | some least => minCapacity least link.capacity)) := by
  obtain ⟨found, eligible, known⟩ := carries
  have usable : ¬ (link.eligibility ≠ .eligible ∨ (!link.capacityKnown) = true) := by simp [eligible, known]
  cases bottleneck with
  | none => simp only [pathBottleneck, found, if_neg usable]
  | some least => simp only [pathBottleneck, found, if_neg usable]

theorem minCapacity_eq (a b : UInt64) : minCapacity a b = a ∨ minCapacity a b = b := by
  rw [minCapacity]
  by_cases less : a ≤ b
  · exact .inl (if_pos less)
  · exact .inr (if_neg less)

/-- Over usable links the bottleneck is the least of their capacities and of the one it starts from. -/
theorem pathBottleneck_from {links : List LinkRecord} {ids : List UInt64} (least : UInt64)
    (usable : ∀ id ∈ ids, ∃ link, Carries links id link) :
    (pathBottleneck links ids (some least)).1 = true ∧ (pathBottleneck links ids (some least)).2 ≤ least ∧
      (∀ id ∈ ids, ∀ link, Carries links id link → (pathBottleneck links ids (some least)).2 ≤ link.capacity) ∧
      ((pathBottleneck links ids (some least)).2 = least ∨
        ∃ id ∈ ids, ∃ link, Carries links id link ∧ (pathBottleneck links ids (some least)).2 = link.capacity) := by
  induction ids generalizing least with
  | nil => simp [pathBottleneck]
  | cons id rest ih =>
    obtain ⟨link, carries⟩ := usable id List.mem_cons_self
    rw [pathBottleneck_carried carries]
    obtain ⟨known, atMost, below, attained⟩ :=
      ih (minCapacity least link.capacity) fun other member => usable other (List.mem_cons_of_mem _ member)
    refine ⟨known, UInt64.le_trans atMost (minCapacity_le_left _ _), ?_, ?_⟩
    · intro other member record found
      rcases List.mem_cons.mp member with rfl | later
      · obtain rfl : link = record := Option.some.inj (carries.1.symm.trans found.1)
        exact UInt64.le_trans atMost (minCapacity_le_right _ _)
      · exact below other later record found
    · rcases attained with start | ⟨other, later, record, found, same⟩
      · rcases minCapacity_eq least link.capacity with first | second
        · exact .inl (start.trans first)
        · exact .inr ⟨id, List.mem_cons_self, link, carries, start.trans second⟩
      · exact .inr ⟨other, List.mem_cons_of_mem _ later, record, found, same⟩

/-- The bottleneck of a path over usable links is known, and the least of their capacities. -/
theorem pathBottleneck_least {links : List LinkRecord} {ids : List UInt64} (nonempty : ids ≠ [])
    (usable : ∀ id ∈ ids, ∃ link, Carries links id link) :
    (pathBottleneck links ids none).1 = true ∧
      (∀ id ∈ ids, ∀ link, Carries links id link → (pathBottleneck links ids none).2 ≤ link.capacity) ∧
      ∃ id ∈ ids, ∃ link, Carries links id link ∧ (pathBottleneck links ids none).2 = link.capacity := by
  cases ids with
  | nil => exact absurd rfl nonempty
  | cons id rest =>
    obtain ⟨link, carries⟩ := usable id List.mem_cons_self
    rw [pathBottleneck_carried carries]
    obtain ⟨known, atMost, below, attained⟩ :=
      pathBottleneck_from link.capacity fun other member => usable other (List.mem_cons_of_mem _ member)
    refine ⟨known, ?_, ?_⟩
    · intro other member record found
      rcases List.mem_cons.mp member with rfl | later
      · obtain rfl : link = record := Option.some.inj (carries.1.symm.trans found.1)
        exact atMost
      · exact below other later record found
    · rcases attained with start | ⟨other, later, record, found, same⟩
      · exact ⟨id, List.mem_cons_self, link, carries, start⟩
      · exact ⟨other, List.mem_cons_of_mem _ later, record, found, same⟩

/-! ### Sound paths -/

/-- The port leads out of the rack. -/
def SnapshotData.Exit (data : SnapshotData) (port : UInt64) : Prop :=
  ∃ record ∈ data.ports, record.id = port ∧ (record.role = .uplink ∨ record.role = .fabric ∨ record.role = .peer)

/-- The port carries an eligible attachment. -/
def SnapshotData.Entrance (data : SnapshotData) (port : UInt64) : Prop :=
  ∃ attachment ∈ data.attachments, attachment.eligibility = .eligible ∧ attachment.port = port

/-- A path is a simple chain of eligible links from an access port to the first exit on its way, and carries what its
weakest link carries. -/
structure SnapshotData.PathSound (config : RackConfig) (data : SnapshotData) (path : PathRecord) : Prop where
  entrance : data.Entrance path.startPort
  route : ∃ steps, path.links = steps.map Prod.fst ∧
    Route (Joins data.links) data.Exit config.maxPathHops path.startPort path.endPort steps
  hops : 1 ≤ path.links.length ∧ path.links.length ≤ config.maxPathHops
  bottleneck : path.bottleneckKnown = true ∧
    (∀ link ∈ data.links, link.id ∈ path.links → path.bottleneck ≤ link.capacity) ∧
    ∃ link ∈ data.links, link.id ∈ path.links ∧ path.bottleneck = link.capacity
  eligible : path.eligibility = .eligible

theorem mem_exitPorts (data : SnapshotData) (port : UInt64) : port ∈ exitPorts data.ports ↔ data.Exit port := by
  simp only [exitPorts, List.mem_map, List.mem_filter, Bool.or_eq_true, beq_iff_eq, SnapshotData.Exit]
  constructor
  · intro listed
    obtain ⟨record, ⟨member, (uplink | fabric) | peer⟩, own⟩ := listed
    · exact ⟨record, member, own, .inl uplink⟩
    · exact ⟨record, member, own, .inr (.inl fabric)⟩
    · exact ⟨record, member, own, .inr (.inr peer)⟩
  · intro leaves
    obtain ⟨record, member, own, uplink | fabric | peer⟩ := leaves
    · exact ⟨record, ⟨member, .inl (.inl uplink)⟩, own⟩
    · exact ⟨record, ⟨member, .inl (.inr fabric)⟩, own⟩
    · exact ⟨record, ⟨member, .inr peer⟩, own⟩

theorem mem_accessPorts (data : SnapshotData) (port : UInt64) :
    port ∈ accessPorts data.attachments ↔ data.Entrance port := by
  rw [accessPorts, mem_uniqueBy, (sortBy_perm _ _).mem_iff, List.mem_map]
  constructor
  · intro listed
    obtain ⟨attachment, chosen, own⟩ := listed
    obtain ⟨member, eligible⟩ := List.mem_filter.mp chosen
    exact ⟨attachment, member, eq_of_beq eligible, own⟩
  · intro carries
    obtain ⟨attachment, member, eligible, own⟩ := carries
    exact ⟨attachment, List.mem_filter.mpr ⟨member, by simp [eligible]⟩, own⟩

theorem accessPorts_nodup (attachments : List AttachmentRecord) : (accessPorts attachments).Nodup :=
  nodup_uniqueBy idLess_antisymm (sortBy_inOrder (idLess_orders id) _)

/-- The steps and exits that the search works with are those of the snapshot. -/
theorem searched_route (data : SnapshotData) {hops : Nat} {start finish : UInt64} {steps : List (UInt64 × UInt64)} :
    Route (adjacencyOf data.links).edge (· ∈ exitPorts data.ports) hops start finish steps ↔
      Route (Joins data.links) data.Exit hops start finish steps := by
  have edges : (adjacencyOf data.links).edge = Joins data.links := by
    funext port step
    exact propext mem_adjacencyOf
  have exits : (· ∈ exitPorts data.ports) = data.Exit := by
    funext port
    exact propext (mem_exitPorts data port)
  rw [edges, exits]

/-- The candidates that are published, in the order in which they are. -/
def publishedCandidates (candidates : List PathCandidate) : List PathCandidate :=
  uniqueBy (fun a b => a.links == b.links)
    (sortBy (fun a b => endpointsLess a.start a.finish b.start b.finish a.links b.links) candidates)

theorem composePaths_searched {config : RackConfig} {limits : ComposeLimits} {ports : List PortRecord}
    {links : List LinkRecord} {attachments : List AttachmentRecord} {diagnostics : Diagnostics}
    {composed : List PathRecord × Diagnostics}
    (searched : composePaths config limits ports links attachments diagnostics = .ok composed) :
    ∃ search, searchFrom config limits (adjacencyOf links) (exitPorts ports) (accessPorts attachments) {} = .ok search ∧
      composed.1.Perm (((publishedCandidates search.candidates).take limits.maxPaths).map (publishedPath links)) := by
  obtain ⟨search, found, rest⟩ := bind_eq_ok.mp searched
  cases rest
  refine ⟨search, found, (sortBy_perm _ _).trans ?_⟩
  rw [foldl_composePath]
  exact List.Perm.refl _

section Sound

variable {ledger : EvidenceLedger} {config : RackConfig} {request : ComposeInput} {data : SnapshotData}

theorem Composed.links_distinct (composed : Composed ledger config request data) :
    (data.links.map LinkRecord.id).Nodup :=
  composed.links_strict.imp fun {a b} less same => by
    have after := idLess_asymm a b less
    rw [same] at less after
    rw [less] at after
    cases after

/-- A route runs over links that are found, eligible and of known capacity. -/
theorem Composed.route_carries (composed : Composed ledger config request data) {start : UInt64}
    {steps : List (UInt64 × UInt64)} (trail : Trail (Joins data.links) start steps) :
    ∀ id ∈ steps.map Prod.fst, ∃ link, Carries data.links id link := by
  induction steps generalizing start with
  | nil =>
    intro id absent
    cases absent
  | cons step rest ih =>
    obtain ⟨joined, others⟩ := trail
    intro id listed
    rcases List.mem_cons.mp listed with rfl | later
    · obtain ⟨link, member, eligible, own, -⟩ := joined
      exact ⟨link, composed.linkRecord_iff.mpr ⟨member, own⟩, eligible, (composed.link_cleared member eligible).known⟩
    · exact ih others id later

theorem Composed.published_sound (composed : Composed ledger config request data) {candidate : PathCandidate}
    (entrance : data.Entrance candidate.start)
    (routed : candidate.Routed (adjacencyOf data.links) (exitPorts data.ports) config.maxPathHops) :
    data.PathSound config (publishedPath data.links candidate) := by
  obtain ⟨steps, links, searched⟩ := routed
  have route := (searched_route data).mp searched
  have carried := composed.route_carries route.trail
  rw [← links] at carried
  have length : candidate.links.length = steps.length := by rw [links, List.length_map]
  have nonempty : candidate.links ≠ [] := by
    intro empty
    rw [empty] at length
    exact route.nonempty (List.length_eq_zero_iff.mp length.symm)
  obtain ⟨known, below, id, listed, link, carries, least⟩ := pathBottleneck_least nonempty carried
  refine ⟨entrance, ⟨steps, links, route⟩, ⟨List.length_pos_iff.mpr nonempty, ?_⟩, ⟨known, ?_, ?_⟩, if_pos known⟩
  · rw [publishedPath, length]
    exact route.short
  · intro other member own
    obtain ⟨record, found⟩ := carried other.id own
    obtain rfl : record = other :=
      Option.some.inj (found.1.symm.trans (composed.linkRecord_iff.mpr ⟨member, rfl⟩))
    exact below _ own _ found
  · obtain ⟨member, own⟩ := composed.linkRecord_iff.mp carries.1
    exact ⟨link, member, own ▸ listed, least⟩

/-- The published paths are some of the candidates that the searches from the access ports recorded. -/
theorem Composed.searched_paths (composed : Composed ledger config request data) :
    ∃ (expansions : Nat) (candidates chosen : List PathCandidate),
      Rounds (Sweeps config request.limits (adjacencyOf data.links) (exitPorts data.ports) expansions)
        (accessPorts data.attachments) candidates ∧
      chosen.Subperm candidates ∧ data.paths.Perm (chosen.map (publishedPath data.links)) := by
  obtain ⟨diagnostics, composition, searched, paths⟩ := composed.paths
  obtain ⟨search, found, published⟩ := composePaths_searched searched
  obtain ⟨-, added, same, rounds⟩ := searchFrom_rounds rfl found
  rw [List.nil_append] at same
  have sublist : ((publishedCandidates search.candidates).take request.limits.maxPaths).Subperm search.candidates :=
    ((List.take_sublist _ _).trans (uniqueBy_sublist _ _)).subperm.trans (sortBy_perm _ _).subperm
  rw [paths]
  refine ⟨_, added, _, rounds, ?_, published⟩
  rw [← same]
  exact sublist

theorem Composed.paths_sound (composed : Composed ledger config request data) :
    ∀ path ∈ data.paths, data.PathSound config path := by
  obtain ⟨expansions, candidates, chosen, rounds, sublist, published⟩ := composed.searched_paths
  intro path member
  obtain ⟨candidate, listed, rfl⟩ := List.mem_map.mp (published.mem_iff.mp member)
  obtain ⟨start, routed⟩ := rounds.routed candidate (sublist.subset listed)
  exact composed.published_sound ((mem_accessPorts data _).mp start) routed

/-- Every path of a composition is sound, and no two ports are joined by more paths than are allowed. -/
theorem compose_paths_sound {outcome : ComposeOutcome} (composed : compose ledger config request = .ok outcome) :
    (∀ path ∈ outcome.snapshot.data.paths, outcome.snapshot.data.PathSound config path) ∧
      ∀ start finish, (outcome.snapshot.data.paths.filter fun path =>
        path.startPort = start ∧ path.endPort = finish).length ≤ config.maxPathsPerPair := by
  obtain ⟨-, -, passes⟩ := compose_stored composed
  refine ⟨passes.paths_sound, ?_⟩
  obtain ⟨expansions, candidates, chosen, rounds, sublist, published⟩ := passes.searched_paths
  intro start finish
  rw [(published.filter _).length_eq, List.filter_map, List.length_map]
  exact Nat.le_trans (sublist.filter _).length_le (rounds.joining_le (accessPorts_nodup _) start finish)

/-- The furnished rack has one path, over its one link. -/
theorem furnished_path_sound :
    ∃ outcome, compose furnishedLedger { rack := 7 } ⟨0, 1, .active, {}⟩ = .ok outcome ∧
      ∃ path ∈ outcome.snapshot.data.paths, path.links = [6] ∧ path.bottleneck = 9 ∧
        outcome.snapshot.data.PathSound { rack := 7 } path := by
  have held : (compose furnishedLedger { rack := 7 } ⟨0, 1, .active, {}⟩).passes fun outcome =>
      outcome.snapshot.data.paths.any fun path => path.links == [6] && path.bottleneck == 9 := by rfl
  obtain ⟨outcome, succeeds, held⟩ := Result.exists_of_passes held
  obtain ⟨path, member, shape⟩ := List.any_eq_true.mp held
  simp only [Bool.and_eq_true, beq_iff_eq] at shape
  exact ⟨outcome, succeeds, path, member, shape.1, shape.2, (compose_paths_sound succeeds).1 path member⟩

end Sound

end RackFabric
