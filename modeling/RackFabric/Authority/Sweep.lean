import RackFabric.Authority.Registry
import RackFabric.Foundation.Table

/-!
What the registry's operations do to its table of grants. Indexing a footprint and taking capacity leave the
table alone; every loop over the table rewrites each grant on its own.
-/

namespace RackFabric

/-- What a grant was issued for. Deadline, fence, incarnation and state move during its life; this does not. -/
def Grant.terms (grant : Grant) : Grant :=
  { grant with
    incarnation := 0
    fence := 0
    issuedAtMs := 0
    expiresAtMs := 0
    state := .pending
    reason := [] }

def Grant.mark (grant : Grant) (state : GrantState) (reason : Text) : Grant :=
  { grant with state := state, reason := reason }

namespace GrantRegistry

/-- Two registries that differ only in their exclusivity index and capacity accounts. -/
structure SameBooks (before after : GrantRegistry) : Prop where
  limits : after.limits = before.limits
  grants : after.grants = before.grants
  outcomes : after.outcomes = before.outcomes
  nextFence : after.nextFence = before.nextFence
  incarnation : after.incarnation = before.incarnation
  live : after.live = before.live

theorem SameBooks.refl (registry : GrantRegistry) : SameBooks registry registry :=
  ⟨rfl, rfl, rfl, rfl, rfl, rfl⟩

theorem SameBooks.trans {first second third : GrantRegistry} (earlier : SameBooks first second)
    (later : SameBooks second third) : SameBooks first third :=
  ⟨later.limits.trans earlier.limits, later.grants.trans earlier.grants, later.outcomes.trans earlier.outcomes,
    later.nextFence.trans earlier.nextFence, later.incarnation.trans earlier.incarnation,
    later.live.trans earlier.live⟩

theorem foldl_sameBooks {α : Type} {move : GrantRegistry → α → GrantRegistry}
    (same : ∀ registry value, SameBooks registry (move registry value)) (values : List α)
    (registry : GrantRegistry) : SameBooks registry (values.foldl move registry) := by
  induction values generalizing registry with
  | nil => exact .refl registry
  | cons value rest ih => exact (same registry value).trans (ih (move registry value))

theorem occupy_sameBooks (grant : Grant) (registry : GrantRegistry) (ref : ResourceRef) :
    SameBooks registry (occupy grant registry ref) :=
  ⟨rfl, rfl, rfl, rfl, rfl, rfl⟩

theorem commit_sameBooks (grant : Grant) (registry : GrantRegistry) (ref : ResourceRef) :
    SameBooks registry (commit grant registry ref) :=
  ⟨rfl, rfl, rfl, rfl, rfl, rfl⟩

theorem attach_sameBooks (registry : GrantRegistry) (snapshot : Snapshot) (grant : Grant) :
    SameBooks registry (registry.attach snapshot grant) := by
  unfold attach
  extract_lets indexed committed
  have index : SameBooks registry indexed := by
    unfold indexed
    split
    · exact .refl registry
    · rename_i scope _
      have noted : SameBooks registry { registry with
          footprints := registry.footprints.insert grant.id scope } := ⟨rfl, rfl, rfl, rfl, rfl, rfl⟩
      exact noted.trans (foldl_sameBooks (occupy_sameBooks grant) scope _)
  have commit : SameBooks indexed committed :=
    foldl_sameBooks (commit_sameBooks grant) grant.capacityPool indexed
  exact (index.trans commit).trans ⟨rfl, rfl, rfl, rfl, rfl, rfl⟩

theorem vacate_sameBooks (id : UInt64) (registry : GrantRegistry) (ref : ResourceRef) :
    SameBooks registry (vacate id registry ref) := by
  unfold vacate
  split
  · exact .refl registry
  · exact ⟨rfl, rfl, rfl, rfl, rfl, rfl⟩

theorem uncommit_sameBooks (grant : Grant) (registry : GrantRegistry) (ref : ResourceRef) :
    SameBooks registry (uncommit grant registry ref) := by
  unfold uncommit
  split
  · exact .refl registry
  · split
    · exact ⟨rfl, rfl, rfl, rfl, rfl, rfl⟩
    · split <;> exact ⟨rfl, rfl, rfl, rfl, rfl, rfl⟩

theorem detach_sameBooks (registry : GrantRegistry) (grant : Grant) :
    SameBooks registry (registry.detach grant) := by
  unfold detach
  extract_lets vacated uncommitted
  have index : SameBooks registry vacated := by
    unfold vacated
    split
    · exact .refl registry
    · rename_i scope _
      exact (foldl_sameBooks (vacate_sameBooks grant.id) scope registry).trans ⟨rfl, rfl, rfl, rfl, rfl, rfl⟩
  have commit : SameBooks vacated uncommitted :=
    foldl_sameBooks (uncommit_sameBooks grant) grant.capacityPool vacated
  exact (index.trans commit).trans ⟨rfl, rfl, rfl, rfl, rfl, rfl⟩

/-- What a change of the table of grants leaves alone. -/
structure Around (before after : GrantRegistry) : Prop where
  limits : after.limits = before.limits
  outcomes : after.outcomes = before.outcomes
  nextFence : after.nextFence = before.nextFence
  incarnation : after.incarnation = before.incarnation

theorem Around.refl (registry : GrantRegistry) : Around registry registry :=
  ⟨rfl, rfl, rfl, rfl⟩

theorem Around.trans {first second third : GrantRegistry} (earlier : Around first second)
    (later : Around second third) : Around first third :=
  ⟨later.limits.trans earlier.limits, later.outcomes.trans earlier.outcomes,
    later.nextFence.trans earlier.nextFence, later.incarnation.trans earlier.incarnation⟩

/-- One entry of the table is rewritten. -/
def Rewrites (before after : GrantRegistry) (id : UInt64) (grant : Grant) : Prop :=
  ∀ other, after.grants[other]? = if other = id then some grant else before.grants[other]?

theorem rewrites_of_insert {before after : GrantRegistry} {id : UInt64} {grant : Grant}
    (inserted : after.grants = before.grants.insert id grant) : Rewrites before after id grant := by
  intro other
  rw [inserted, Std.ExtTreeMap.getElem?_insert]
  simp only [Std.LawfulEqCmp.compare_eq_iff_eq]
  by_cases same : id = other
  · rw [if_pos same, if_pos same.symm]
  · rw [if_neg same, if_neg (fun reversed => same reversed.symm)]

theorem rewrites_self {registry : GrantRegistry} {id : UInt64} {grant : Grant}
    (found : registry.grants[id]? = some grant) : Rewrites registry registry id grant := by
  intro other
  split
  · rename_i same
    rw [same, found]
  · rfl

theorem endGrant_rewrites (registry : GrantRegistry) (grant : Grant) (state : GrantState) (reason : Text) :
    Rewrites registry (registry.endGrant grant state reason) grant.id (grant.mark state reason) := by
  apply rewrites_of_insert
  rw [← (detach_sameBooks registry grant).grants]
  rfl

theorem endGrant_around (registry : GrantRegistry) (grant : Grant) (state : GrantState) (reason : Text) :
    Around registry (registry.endGrant grant state reason) := by
  have books := detach_sameBooks registry grant
  exact ⟨books.limits, books.outcomes, books.nextFence, books.incarnation⟩

/-- Every grant stands under its own identity. -/
def Keyed (registry : GrantRegistry) : Prop :=
  ∀ (id : UInt64) (grant : Grant), registry.grants[id]? = some grant → grant.id = id

theorem Rewrites.keyed {before after : GrantRegistry} {id : UInt64} {grant : Grant}
    (rewrites : Rewrites before after id grant) (same : grant.id = id) (keyed : before.Keyed) : after.Keyed := by
  intro other found entry
  rw [rewrites other] at entry
  split at entry
  · rename_i own
    cases entry
    rw [same, own]
  · exact keyed other found entry

/-- Two tables with the same identities, whose grants are related one by one. -/
def Carries (rel : Grant → Grant → Prop) (before after : GrantRegistry) : Prop :=
  ∀ id : UInt64, Option.Rel rel before.grants[id]? after.grants[id]?

theorem Carries.mono {rel weaker : Grant → Grant → Prop} {before after : GrantRegistry}
    (carries : Carries rel before after) (implies : ∀ grant next, rel grant next → weaker grant next) :
    Carries weaker before after := by
  intro id
  have entry := carries id
  generalize before.grants[id]? = old at entry ⊢
  generalize after.grants[id]? = new at entry ⊢
  cases entry with
  | none => exact .none
  | some related => exact .some (implies _ _ related)

/-- A grant of the table afterwards comes from one before. -/
theorem Carries.source {rel : Grant → Grant → Prop} {before after : GrantRegistry} (carries : Carries rel before after)
    {id : UInt64} {next : Grant} (found : after.grants[id]? = some next) :
    ∃ grant, before.grants[id]? = some grant ∧ rel grant next := by
  have entry := carries id
  rw [found] at entry
  cases held : before.grants[id]? with
  | none =>
    rw [held] at entry
    cases entry
  | some grant =>
    rw [held] at entry
    cases entry with
    | some related => exact ⟨grant, rfl, related⟩

/-- A loop whose visits rewrite the visited grant along a relation carries the whole table along it. -/
theorem sweep_carries {visit : GrantRegistry → Grant → GrantRegistry} (rel : Grant → Grant → Prop)
    (inv : GrantRegistry → Prop) (keyed : ∀ registry, inv registry → registry.Keyed)
    (visits : ∀ registry grant, inv registry → registry.grants[grant.id]? = some grant →
      inv (visit registry grant) ∧
        ∃ next, Rewrites registry (visit registry grant) grant.id next ∧ rel grant next)
    {registry : GrantRegistry} (holds : inv registry) :
    inv (registry.sweep visit) ∧ Carries rel registry (registry.sweep visit) := by
  have steps : ∀ state id, inv state → inv (visitAt visit state id) ∧
      Foundation.Visits (fun state id => state.grants[id]?) rel id state (visitAt visit state id) := by
    intro state id holds
    unfold visitAt
    split
    · rename_i absent
      refine ⟨holds, ?_, fun _ _ => rfl⟩
      simp only [absent]
      exact .none
    · rename_i grant found
      obtain rfl : grant.id = id := keyed state holds id grant found
      obtain ⟨kept, next, rewrites, related⟩ := visits state grant holds found
      refine ⟨kept, ?_, ?_⟩
      · simp only [rewrites grant.id, found, if_true]
        exact .some related
      · intro other different
        simp only [rewrites other, different, if_false]
  have distinct : registry.grants.keys.Nodup := Std.ExtTreeMap.nodup_keys
  obtain ⟨final, entries⟩ := Foundation.foldl_visits distinct steps holds
  refine ⟨final, ?_⟩
  intro id
  by_cases member : id ∈ registry.grants.keys
  · exact (entries id).1 member
  · have absent : registry.grants[id]? = none := by
      rw [Std.ExtTreeMap.mem_keys, Std.ExtTreeMap.mem_iff_isSome_getElem?] at member
      simpa using member
    have kept : (registry.sweep visit).grants[id]? = registry.grants[id]? := (entries id).2 member
    rw [kept, absent]
    exact .none

/-- The registry after a loop that rewrites every grant by a function. -/
structure Swept (rewrite : Grant → Grant) (before after : GrantRegistry) : Prop where
  around : Around before after
  keyed : after.Keyed
  entries : ∀ id : UInt64, after.grants[id]? = before.grants[id]?.map rewrite

theorem Swept.refl {registry : GrantRegistry} (keyed : registry.Keyed) : Swept id registry registry :=
  ⟨.refl registry, keyed, by simp⟩

theorem Swept.trans {first second third : GrantRegistry} {earlier later : Grant → Grant}
    (one : Swept earlier first second) (two : Swept later second third) : Swept (later ∘ earlier) first third := by
  refine ⟨one.around.trans two.around, two.keyed, ?_⟩
  intro id
  rw [two.entries id, one.entries id, Option.map_map]

theorem sweep_swept {visit : GrantRegistry → Grant → GrantRegistry} {rewrite : Grant → Grant}
    (same : ∀ grant, (rewrite grant).id = grant.id)
    (visits : ∀ registry grant, registry.grants[grant.id]? = some grant →
      Around registry (visit registry grant) ∧
        Rewrites registry (visit registry grant) grant.id (rewrite grant))
    {registry : GrantRegistry} (keyed : registry.Keyed) : Swept rewrite registry (registry.sweep visit) := by
  have steps : ∀ state grant, Around registry state ∧ state.Keyed → state.grants[grant.id]? = some grant →
      (Around registry (visit state grant) ∧ (visit state grant).Keyed) ∧
        ∃ next, Rewrites state (visit state grant) grant.id next ∧ next = rewrite grant := by
    intro state grant holds found
    obtain ⟨around, rewrites⟩ := visits state grant found
    exact ⟨⟨holds.1.trans around, rewrites.keyed (same grant) holds.2⟩, rewrite grant, rewrites, rfl⟩
  obtain ⟨⟨around, keyed⟩, carried⟩ := sweep_carries (fun grant next => next = rewrite grant)
    (fun state => Around registry state ∧ state.Keyed) (fun _ holds => holds.2) steps ⟨.refl registry, keyed⟩
  refine ⟨around, keyed, ?_⟩
  intro id
  have entry := carried id
  cases found : registry.grants[id]? with
  | none =>
    rw [found] at entry
    cases next : (registry.sweep visit).grants[id]? with
    | none => rfl
    | some grant =>
      rw [next] at entry
      cases entry
  | some grant =>
    rw [found] at entry
    cases next : (registry.sweep visit).grants[id]? with
    | none =>
      rw [next] at entry
      cases entry
    | some moved =>
      rw [next] at entry
      cases entry with
      | some same => rw [same, Option.map_some]

/-- The visit of a loop that ends the grants it selects. -/
theorem visit_ends (selected : Grant → Bool) {state : GrantState} {reason : Text} {registry : GrantRegistry}
    {grant : Grant} (found : registry.grants[grant.id]? = some grant) :
    Around registry (if selected grant then registry.endGrant grant state reason else registry) ∧
      Rewrites registry (if selected grant then registry.endGrant grant state reason else registry) grant.id
        (if selected grant then grant.mark state reason else grant) := by
  cases selected grant with
  | false => exact ⟨.refl registry, rewrites_self found⟩
  | true => exact ⟨endGrant_around registry grant state reason, endGrant_rewrites registry grant state reason⟩

theorem fenceAll_swept {registry : GrantRegistry} (keyed : registry.Keyed) (reason : Text) :
    Swept (fun grant => if grant.isLive then grant.mark .fenced reason else grant) registry
      (registry.fenceAll reason) := by
  apply sweep_swept
  · intro grant
    cases grant.isLive <;> rfl
  · intro state grant found
    exact visit_ends Grant.isLive found
  · exact keyed

def expireRewrite (nowMs : UInt64) (grant : Grant) : Grant :=
  if isDue nowMs grant then grant.mark .expired (text "lease deadline passed") else grant

theorem expireDue_swept {registry : GrantRegistry} (keyed : registry.Keyed) (nowMs : UInt64) :
    Swept (expireRewrite nowMs) registry (registry.expireDue nowMs).1 := by
  apply sweep_swept
  · intro grant
    unfold expireRewrite
    cases isDue nowMs grant <;> rfl
  · intro state grant found
    exact visit_ends (isDue nowMs) found
  · exact keyed

def suspendRewrite (reason : Text) (grant : Grant) : Grant :=
  if grant.state = .active then grant.mark .suspended reason else grant

theorem suspendAll_swept {registry : GrantRegistry} (keyed : registry.Keyed) (reason : Text) :
    Swept (suspendRewrite reason) registry (registry.suspendAll reason) := by
  apply sweep_swept
  · intro grant
    unfold suspendRewrite
    split <;> rfl
  · intro state grant found
    unfold suspendRewrite
    split
    · exact ⟨⟨rfl, rfl, rfl, rfl⟩, rewrites_of_insert rfl⟩
    · exact ⟨.refl state, rewrites_self found⟩
  · exact keyed

def resumeRewrite (snapshot : Snapshot) (nowMs : UInt64) (grant : Grant) : Grant :=
  if grant.state = .suspended then
    if resumable snapshot nowMs grant then grant.mark .active []
    else grant.mark .fenced (text "suspended lease could not be revalidated")
  else grant

theorem resumeAll_swept {registry : GrantRegistry} (keyed : registry.Keyed) (snapshot : Snapshot)
    (nowMs : UInt64) : Swept (resumeRewrite snapshot nowMs) registry (registry.resumeAll snapshot nowMs) := by
  apply sweep_swept
  · intro grant
    unfold resumeRewrite
    split
    · split <;> rfl
    · rfl
  · intro state grant found
    unfold resumeRewrite
    split
    · split
      · exact ⟨⟨rfl, rfl, rfl, rfl⟩, rewrites_of_insert rfl⟩
      · exact ⟨endGrant_around state grant _ _, endGrant_rewrites state grant _ _⟩
    · exact ⟨.refl state, rewrites_self found⟩
  · exact keyed

end GrantRegistry

end RackFabric
