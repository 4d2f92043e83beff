import RackFabric.Compose.Closure
import Mathlib.Data.List.Nodup
import Mathlib.Data.List.Perm.Subperm

/-!
How deep the path search goes. It never stands on a port twice, so a path has no more links than the rack has ports.
-/

namespace RackFabric

/-- The search stands on a chain of distinct known ports, with one link between each and the next. -/
structure PathSearch.Shallow (known : List UInt64) (search : PathSearch) : Prop where
  visited : search.visited = search.frames.map PathFrame.port
  distinct : search.visited.Nodup
  inside : ∀ port ∈ search.visited, port ∈ known
  depth : search.stack.length = search.frames.length - 1
  found : ∀ candidate ∈ search.candidates, candidate.links.length ≤ known.length

/-- Every neighbour that an adjacency names is a known port. -/
def Adjacency.Leads (known : List UInt64) (adjacency : Adjacency) : Prop :=
  ∀ (port : UInt64) (neighbours : List (UInt64 × UInt64)), adjacency[port]? = some neighbours →
    ∀ neighbour : UInt64 × UInt64, neighbour ∈ neighbours → neighbour.2 ∈ known

section Search

variable {known : List UInt64} {config : RackConfig} {limits : ComposeLimits} {exits : List UInt64}

theorem PathSearch.Shallow.frames_le {search : PathSearch} (shallow : search.Shallow known) :
    search.frames.length ≤ known.length := by
  have within := (List.subperm_of_subset shallow.distinct shallow.inside).length_le
  rwa [shallow.visited, List.length_map] at within

theorem visitNeighbour_shallow {start linkId nextPort : UInt64} {search next : PathSearch}
    (shallow : search.Shallow known) (standing : search.frames ≠ []) (member : nextPort ∈ known)
    (visited : visitNeighbour config limits exits start linkId nextPort search = .ok next) :
    next.Shallow known := by
  have within := shallow.frames_le
  have positive := List.length_pos_iff.mpr standing
  have depth := shallow.depth
  unfold visitNeighbour at visited
  split at visited
  · cases visited
    exact shallow
  · rename_i unseen
    split at visited
    · cases visited
      exact { shallow with }
    · split at visited
      · by_cases room : search.foundPerEndpoint.getD nextPort 0 < config.maxPathsPerPair
        · simp only [if_pos room] at visited
          split at visited
          · cases visited
          · cases visited
            refine { shallow with found := ?_ }
            intro candidate listed
            rcases List.mem_append.mp listed with old | new
            · exact shallow.found candidate old
            · rw [List.mem_singleton.mp new, List.length_append, List.length_singleton]
              omega
        · simp only [if_neg room] at visited
          split at visited
          · cases visited
          · cases visited
            exact { shallow with }
      · cases visited
        rw [List.contains_iff_mem] at unseen
        exact {
          visited := congrArg (nextPort :: ·) shallow.visited
          distinct := List.nodup_cons.mpr ⟨unseen, shallow.distinct⟩
          inside := List.forall_mem_cons.mpr ⟨member, shallow.inside⟩
          depth := by
            show (search.stack ++ [linkId]).length = search.frames.length + 1 - 1
            rw [List.length_append, List.length_singleton]
            omega
          found := shallow.found }

/-- Leaving a port gives up the link that led to it. -/
theorem PathSearch.Shallow.back {search : PathSearch} {frame : PathFrame} {frames : List PathFrame}
    (shallow : search.Shallow known) (top : search.frames = frame :: frames) (expansions : Nat) :
    PathSearch.Shallow known { search with
      expansions := expansions
      visited := search.visited.erase frame.port
      frames := frames
      stack := search.stack.dropLast } := by
  have visited := shallow.visited
  have distinct := shallow.distinct
  have inside := shallow.inside
  have depth := shallow.depth
  rw [top, List.map_cons] at visited
  rw [visited] at distinct inside
  rw [top, List.length_cons] at depth
  exact {
    visited := by
      show search.visited.erase frame.port = _
      rw [visited, List.erase_cons_head]
    distinct := by
      show (search.visited.erase frame.port).Nodup
      rw [visited, List.erase_cons_head]
      exact (List.nodup_cons.mp distinct).2
    inside := by
      show ∀ port ∈ search.visited.erase frame.port, port ∈ known
      rw [visited, List.erase_cons_head]
      exact (List.forall_mem_cons.mp inside).2
    depth := by
      show search.stack.dropLast.length = frames.length - 1
      rw [List.length_dropLast]
      omega
    found := shallow.found }

theorem searchLoop_shallow {adjacency : Adjacency} {start : UInt64} {fuel : Nat} {search next : PathSearch}
    (leads : adjacency.Leads known) (shallow : search.Shallow known)
    (searched : searchLoop config limits adjacency exits start fuel search = .ok next) : next.Shallow known := by
  induction fuel generalizing search with
  | zero =>
    cases searched
    exact { shallow with }
  | succ fuel ih =>
    rw [searchLoop] at searched
    split at searched
    · cases searched
      exact shallow
    · rename_i frame frames top
      dsimp only at searched
      split at searched
      · cases searched
        exact { shallow with }
      · split at searched
        · exact ih (shallow.back top _) searched
        · rename_i linkId nextPort read
          obtain ⟨after, visited, rest⟩ := bind_eq_ok.mp searched
          refine ih (visitNeighbour_shallow ?_ (List.cons_ne_nil _ _) ?_ visited) rest
          · exact {
              visited := by simpa [top] using shallow.visited
              distinct := shallow.distinct
              inside := shallow.inside
              depth := by simpa [top] using shallow.depth
              found := shallow.found }
          · have listed := List.mem_of_getElem? read
            rw [Std.ExtTreeMap.getD_eq_getD_getElem?] at listed
            cases stored : adjacency[frame.port]? with
            | none =>
              rw [stored] at listed
              cases listed
            | some neighbours =>
              rw [stored] at listed
              exact leads frame.port neighbours stored _ listed

theorem searchFrom_shallow {adjacency : Adjacency} {starts : List UInt64} {search next : PathSearch}
    (leads : adjacency.Leads known) (inside : ∀ start ∈ starts, start ∈ known)
    (found : ∀ candidate ∈ search.candidates, candidate.links.length ≤ known.length)
    (searched : searchFrom config limits adjacency exits starts search = .ok next) :
    ∀ candidate ∈ next.candidates, candidate.links.length ≤ known.length := by
  induction starts generalizing search with
  | nil =>
    cases searched
    exact found
  | cons start rest ih =>
    rw [searchFrom] at searched
    obtain ⟨after, looped, remaining⟩ := bind_eq_ok.mp searched
    have shallow : after.Shallow known := by
      refine searchLoop_shallow leads ?_ looped
      exact {
        visited := rfl
        distinct := List.nodup_singleton start
        inside := by
          intro port member
          rw [List.mem_singleton.mp member]
          exact inside start List.mem_cons_self
        depth := rfl
        found := found }
    split at remaining
    · cases remaining
      exact shallow.found
    · exact ih (fun port member => inside port (List.mem_cons_of_mem _ member)) shallow.found remaining

end Search

theorem portRecord_known {ports : List PortRecord} {id : UInt64} {port : PortRecord}
    (found : portRecord ports id = some port) : id ∈ ports.map PortRecord.id := by
  obtain ⟨member, same⟩ := findSorted_some found
  exact List.mem_map.mpr ⟨port, member, same⟩

/-- Adding a neighbour to a port's list. -/
private theorem Adjacency.Leads.insert {known : List UInt64} {adjacency : Adjacency} (leads : adjacency.Leads known)
    (port link : UInt64) {neighbour : UInt64} (member : neighbour ∈ known) :
    Adjacency.Leads known (adjacency.insert port (adjacency.getD port [] ++ [(link, neighbour)])) := by
  intro other neighbours stored entry listed
  rw [Std.ExtTreeMap.getElem?_insert] at stored
  split at stored
  · cases stored
    rcases List.mem_append.mp listed with old | new
    · rw [Std.ExtTreeMap.getD_eq_getD_getElem?] at old
      cases before : adjacency[port]? with
      | none =>
        rw [before] at old
        cases old
      | some already =>
        rw [before] at old
        exact leads port already before entry old
    · rw [List.mem_singleton.mp new]
      exact member
  · exact leads other neighbours stored entry listed

theorem adjacencyOf_leads {links : List LinkRecord} {known : List UInt64}
    (joined : ∀ link ∈ links, link.eligibility = .eligible → link.portA ∈ known ∧ link.portB ∈ known) :
    (adjacencyOf links).Leads known := by
  have run : ∀ (links : List LinkRecord) (adjacency : Adjacency), adjacency.Leads known →
      (∀ link ∈ links, link.portA ∈ known ∧ link.portB ∈ known) →
      Adjacency.Leads known (links.foldl (fun (adjacency : Adjacency) link =>
        let adjacency := adjacency.insert link.portA (adjacency.getD link.portA [] ++ [(link.id, link.portB)])
        adjacency.insert link.portB (adjacency.getD link.portB [] ++ [(link.id, link.portA)])) adjacency) := by
    intro links
    induction links with
    | nil => exact fun adjacency leads _ => leads
    | cons link rest ih =>
      intro adjacency leads ends
      obtain ⟨first, second⟩ := ends link List.mem_cons_self
      exact ih _ ((leads.insert link.portA link.id second).insert link.portB link.id first)
        fun other member => ends other (List.mem_cons_of_mem _ member)
  intro port neighbours stored entry listed
  unfold adjacencyOf at stored
  dsimp only at stored
  rw [Std.ExtTreeMap.getElem?_map] at stored
  obtain ⟨unsorted, before, rfl⟩ := Option.map_eq_some_iff.mp stored
  refine run _ _ ?_ ?_ port unsorted before entry ((sortBy_perm _ _).mem_iff.mp listed)
  · intro port neighbours absent
    rw [Std.ExtTreeMap.getElem?_empty] at absent
    cases absent
  · intro link member
    obtain ⟨listed, eligible⟩ := List.mem_filter.mp member
    exact joined link listed (eq_of_beq eligible)

/-- A published path has no more links than the rack has ports. -/
theorem Composed.path_length {ledger : EvidenceLedger} {config : RackConfig} {request : ComposeInput}
    {data : SnapshotData} (composed : Composed ledger config request data) {path : PathRecord}
    (member : path ∈ data.paths) : path.links.length ≤ data.ports.length := by
  obtain ⟨diagnostics, composition, searched, published⟩ := composed.paths
  obtain ⟨search, found, rest⟩ := bind_eq_ok.mp searched
  cases rest
  rw [published] at member
  have joined : ∀ link ∈ data.links, link.eligibility = .eligible →
      link.portA ∈ data.ports.map PortRecord.id ∧ link.portB ∈ data.ports.map PortRecord.id := by
    intro link listed eligible
    have cleared := composed.link_cleared listed eligible
    obtain ⟨first, foundFirst, -⟩ := cleared.first
    obtain ⟨second, foundSecond, -⟩ := cleared.second
    exact ⟨portRecord_known foundFirst, portRecord_known foundSecond⟩
  have entrances : ∀ start ∈ accessPorts data.attachments, start ∈ data.ports.map PortRecord.id := by
    intro start listed
    obtain ⟨attachment, chosen, rfl⟩ := List.mem_map.mp
      ((sortBy_perm _ _).mem_iff.mp (mem_of_uniqueBy listed))
    obtain ⟨stored, eligible⟩ := List.mem_filter.mp chosen
    obtain ⟨port, foundPort, -⟩ := (composed.attachment_cleared stored (eq_of_beq eligible)).port
    exact portRecord_known foundPort
  have short := searchFrom_shallow (adjacencyOf_leads joined) entrances (fun candidate absent => by cases absent) found
  rw [List.length_map] at short
  refine @foldl_publishes _ _ _ Prod.fst (fun path => path.links.length ≤ data.ports.length)
    (composePath data.links) _ _ ?_ ?_ path ((sortBy_perm _ _).mem_iff.mp member)
  · intro path absent
    cases absent
  · intro state candidate chosen before other listed
    rcases List.mem_append.mp listed with old | new
    · exact before other old
    · rw [List.mem_singleton.mp new]
      exact short candidate ((sortBy_perm _ _).mem_iff.mp (mem_of_uniqueBy (List.mem_of_mem_take chosen)))

end RackFabric
