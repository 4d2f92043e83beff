import RackFabric.Authority.Balance
import RackFabric.Authority.Standing

/-!
The operations that bring no new grant: each is a chain of grants ended, grants rewritten in place and changes
that no account depends on.
-/

namespace RackFabric

namespace GrantRegistry

/-- Two registries with the same grants and the same accounts. -/
structure Aside (before after : GrantRegistry) : Prop where
  grants : after.grants = before.grants
  occupancy : after.occupancy = before.occupancy
  footprints : after.footprints = before.footprints
  occupancyEntries : after.occupancyEntries = before.occupancyEntries
  committed : after.committed = before.committed
  committedTotal : after.committedTotal = before.committedTotal
  live : after.live = before.live
  recovering : after.recovering = before.recovering

theorem isLiveState_of_terminal {state : GrantState} (ends : isTerminalState state = true) :
    isLiveState state = false := by
  cases state with
  | released | expired | fenced | unnamed => rfl
  | pending | recovering | active | suspended => cases ends

/-- One entry in the books that brings no new grant. -/
inductive Trim : GrantRegistry → GrantRegistry → Prop where
  | aside {before after : GrantRegistry} (same : Aside before after) : Trim before after
  | close (registry : GrantRegistry) (grant : Grant) (state : GrantState) (reason : Text)
      (held : registry.grants[grant.id]? = some grant) (live : grant.isLive = true)
      (ends : isTerminalState state = true) : Trim registry (registry.endGrant grant state reason)
  | amend (registry : GrantRegistry) (grant next : Grant) (held : registry.grants[grant.id]? = some grant)
      (amends : Amends grant next) :
      Trim registry { registry with
        grants := registry.grants.insert grant.id next
        recovering := registry.recovering + next.awaited - grant.awaited }

abbrev Trims : GrantRegistry → GrantRegistry → Prop :=
  Relation.ReflTransGen Trim

theorem Trim.keyed {before after : GrantRegistry} (trim : Trim before after) (keyed : before.Keyed) : after.Keyed := by
  cases trim with
  | aside same =>
    unfold Keyed
    rw [same.grants]
    exact keyed
  | close grant state reason held live ends => exact (endGrant_rewrites before grant state reason).keyed rfl keyed
  | amend grant next held amends => exact (rewrites_of_insert rfl).keyed amends.id keyed

theorem Trims.keyed {before after : GrantRegistry} (trims : Trims before after) (keyed : before.Keyed) :
    after.Keyed := by
  induction trims with
  | refl => exact keyed
  | tail _ trim ih => exact trim.keyed ih

/-- A loop whose every visit trims the registry trims it. -/
theorem sweep_trims {visit : GrantRegistry → Grant → GrantRegistry}
    (visits : ∀ registry grant, registry.grants[grant.id]? = some grant → Trims registry (visit registry grant))
    {registry : GrantRegistry} (keyed : registry.Keyed) : Trims registry (registry.sweep visit) := by
  have steps : ∀ (ids : List UInt64) (registry : GrantRegistry), registry.Keyed →
      Trims registry (ids.foldl (visitAt visit) registry) := by
    intro ids
    induction ids with
    | nil => exact fun _ _ => .refl
    | cons id rest ih =>
      intro registry keyed
      have first : Trims registry (visitAt visit registry id) := by
        unfold visitAt
        split
        · exact .refl
        · rename_i grant found
          obtain rfl : grant.id = id := keyed id grant found
          exact visits registry grant found
      exact first.trans (ih _ (first.keyed keyed))
  exact steps registry.grants.keys registry keyed

/-- A grant rewritten in place that was awaiting revalidation before and after, or neither. -/
theorem amend_trims {registry : GrantRegistry} {grant next : Grant} (held : registry.grants[grant.id]? = some grant)
    (amends : Amends grant next) (still : next.awaited = grant.awaited) :
    Trims registry { registry with grants := registry.grants.insert grant.id next } := by
  have trim := Trim.amend registry grant next held amends
  rw [still, Nat.add_sub_cancel] at trim
  exact .single trim

/-- A loop that ends the live grants it selects. -/
theorem sweepEnds_trims {selected : Grant → Bool} (live : ∀ grant, selected grant = true → grant.isLive = true)
    {state : GrantState} (ends : isTerminalState state = true) (reason : Text) {registry : GrantRegistry}
    (keyed : registry.Keyed) :
    Trims registry (registry.sweep fun registry grant =>
      if selected grant then registry.endGrant grant state reason else registry) := by
  apply sweep_trims _ keyed
  intro registry grant held
  split
  · rename_i chosen
    exact .single (.close registry grant state reason held (live grant chosen) ends)
  · exact .refl

theorem fenceAll_trims {registry : GrantRegistry} (keyed : registry.Keyed) (reason : Text) :
    Trims registry (registry.fenceAll reason) :=
  sweepEnds_trims (fun _ live => live) rfl reason keyed

theorem fenceDevice_trims {registry : GrantRegistry} (keyed : registry.Keyed) (snapshot : Snapshot)
    (device : UInt64) (reason : Text) : Trims registry (registry.fenceDevice snapshot device reason) := by
  have live : ∀ grant : Grant, (grant.isLive && touchesDevice snapshot device grant) = true → grant.isLive = true := by
    intro grant selected
    exact (Bool.and_eq_true_iff.mp selected).1
  exact sweepEnds_trims live rfl reason keyed

theorem expireDue_trims {registry : GrantRegistry} (keyed : registry.Keyed) (nowMs : UInt64) :
    Trims registry (registry.expireDue nowMs).1 := by
  have live : ∀ grant, isDue nowMs grant = true → grant.isLive = true := by
    intro grant selected
    exact (Bool.and_eq_true_iff.mp selected).1
  exact sweepEnds_trims live rfl _ keyed

theorem suspendAll_trims {registry : GrantRegistry} (keyed : registry.Keyed) (reason : Text) :
    Trims registry (registry.suspendAll reason) := by
  apply sweep_trims _ keyed
  intro registry grant held
  split
  · rename_i active
    exact amend_trims held ⟨rfl, by simp [Grant.isLive, active, isLiveState], by simp [active, isTerminalState]⟩
      (by simp [Grant.awaited, active])
  · exact .refl

theorem resumeAll_trims {registry : GrantRegistry} (keyed : registry.Keyed) (snapshot : Snapshot) (nowMs : UInt64) :
    Trims registry (registry.resumeAll snapshot nowMs) := by
  apply sweep_trims _ keyed
  intro registry grant held
  split
  · rename_i suspended
    have live : grant.isLive = true := by simp [Grant.isLive, suspended, isLiveState]
    split
    · exact amend_trims held ⟨rfl, by rw [live]; rfl, by simp [suspended, isTerminalState]⟩
        (by simp [Grant.awaited, suspended])
    · exact .single (.close registry grant .fenced _ held live rfl)
  · exact .refl

theorem renew_trims {registry : GrantRegistry} (keyed : registry.Keyed) (snapshot : Snapshot) (token : LeaseToken)
    (ttlMs nowMs : UInt64) : Trims registry (registry.renew snapshot token ttlMs nowMs).1 := by
  cases renewing : registry.renew snapshot token ttlMs nowMs with
  | mk next result =>
    cases result with
    | error status =>
      rw [(renew_error renewing).1]
    | ok renewed =>
      obtain ⟨grant, deadline, checked, -, rfl, rfl⟩ := renew_ok renewing
      have found := (checkLease_ok checked).1
      obtain same : grant.id = token.grant := keyed _ _ found
      rw [← same] at found ⊢
      exact amend_trims found ⟨rfl, rfl, id⟩ rfl

theorem release_trims {registry : GrantRegistry} (keyed : registry.Keyed) (token : LeaseToken) :
    Trims registry (registry.release token).1 := by
  rcases release_cases registry token with same | ⟨grant, found, live, released⟩
  · rw [same]
  · rw [released]
    obtain same : grant.id = token.grant := keyed _ _ found
    rw [← same] at found
    exact .single (.close registry grant .released _ found live rfl)

theorem Grant.awaited_of_dead {grant : Grant} (dead : grant.isLive = false) : grant.awaited = 0 := by
  have other : grant.state ≠ .recovering := by
    intro recovering
    rw [Grant.isLive, recovering] at dead
    cases dead
  rw [Grant.awaited, if_neg other]

theorem applyState_trims {registry : GrantRegistry} (keyed : registry.Keyed) (id : UInt64) (state : GrantState)
    (reason : Text) : Trims registry (registry.applyState id state reason).1 := by
  unfold applyState
  split
  · exact .refl
  · rename_i grant found
    obtain rfl : grant.id = id := keyed _ _ found
    split
    · rename_i terminal
      have after : (grant.mark state reason).isLive = false := isLive_of_terminal terminal
      split
      · rename_i live
        exact .single (.close registry grant state reason found live terminal)
      · rename_i ended
        have ceased : grant.isLive = false := by simpa using ended
        have amends : Amends grant (grant.mark state reason) := ⟨rfl, after.trans ceased.symm, fun _ => terminal⟩
        have still : (grant.mark state reason).awaited = grant.awaited :=
          (Grant.awaited_of_dead after).trans (Grant.awaited_of_dead ceased).symm
        exact amend_trims found amends still
    · exact .refl

theorem revalidate_trims {registry : GrantRegistry} (keyed : registry.Keyed) (snapshot : Snapshot)
    (incarnation nowMs : UInt64) : Trims registry (registry.revalidate snapshot incarnation nowMs) := by
  have entered : Trim registry { registry with incarnation := incarnation } :=
    .aside ⟨rfl, rfl, rfl, rfl, rfl, rfl, rfl, rfl⟩
  refine Relation.ReflTransGen.head entered (sweep_trims ?_ (entered.keyed keyed))
  intro registry grant held
  split
  · rename_i recovering
    have live : grant.isLive = true := by simp [Grant.isLive, recovering, isLiveState]
    split
    · have awaited : grant.awaited = 1 := by simp [Grant.awaited, recovering]
      have trim := Trim.amend registry grant
        { grant with
          state := .active
          incarnation := incarnation
          fence := registry.nextFence + 1
          issuedAtMs := nowMs
          reason := [] } held ⟨rfl, by rw [live]; rfl, by simp [recovering, isTerminalState]⟩
      rw [awaited] at trim
      exact .tail (.single trim) (.aside ⟨rfl, rfl, rfl, rfl, rfl, rfl, rfl, rfl⟩)
    · exact .single (.close registry grant .fenced _ held live rfl)
  · exact .refl

theorem Indexed.aside {before after : GrantRegistry} (indexed : before.Indexed) (same : Aside before after) :
    after.Indexed := by
  refine ⟨?_, ?_, ?_, ?_, ?_⟩
  · rw [Keyed, same.grants]
    exact indexed.keyed
  · rw [same.footprints, same.grants]
    exact indexed.footprints
  · rw [same.occupancy, same.footprints]
    exact indexed.index
  · rw [same.occupancy, same.grants]
    exact indexed.modes
  · rw [same.occupancyEntries, same.footprints]
    exact indexed.entries

theorem Balanced.aside {before after : GrantRegistry} (balanced : before.Balanced) (same : Aside before after) :
    after.Balanced := by
  refine ⟨balanced.toIndexed.aside same, ?_, ?_, ?_, ?_⟩
  · rw [same.committed, same.grants]
    exact balanced.committed
  · rw [same.committedTotal, same.grants]
    exact balanced.committedTotal
  · rw [same.live, same.grants]
    exact balanced.live
  · rw [same.recovering, same.grants]
    exact balanced.recovering

theorem Trim.indexed {before after : GrantRegistry} (trim : Trim before after) (indexed : before.Indexed) :
    after.Indexed := by
  cases trim with
  | aside same => exact indexed.aside same
  | close grant state reason held live ends => exact indexed.endGrant held reason
  | amend grant next held amends => exact indexed.amend held amends

theorem Trims.indexed {before after : GrantRegistry} (trims : Trims before after) (indexed : before.Indexed) :
    after.Indexed := by
  induction trims with
  | refl => exact indexed
  | tail _ trim ih => exact trim.indexed ih

theorem Trims.balanced {before after : GrantRegistry} (trims : Trims before after) (balanced : before.Balanced) :
    after.Balanced := by
  induction trims with
  | refl => exact balanced
  | tail _ trim ih =>
    cases trim with
    | aside same => exact ih.aside same
    | close grant state reason held live ends => exact ih.endGrant held live (isLiveState_of_terminal ends) reason
    | amend grant next held amends => exact ih.amend held amends

/-- A live grant that comes from a live grant of the same terms and has kept its footprint. -/
def Continues (before after : GrantRegistry) (id : UInt64) (next : Grant) : Prop :=
  ∃ grant : Grant, before.grants[id]? = some grant ∧ grant.isLive = true ∧ next.terms = grant.terms ∧
    after.footprints[id]? = before.footprints[id]?

theorem Trim.continues {before after : GrantRegistry} (trim : Trim before after) (indexed : before.Indexed)
    {id : UInt64} {next : Grant} (found : after.grants[id]? = some next) (lives : next.isLive = true) :
    Continues before after id next := by
  cases trim with
  | aside same =>
    rw [same.grants] at found
    exact ⟨next, found, lives, rfl, by rw [same.footprints]⟩
  | close grant state reason held live ends =>
    rw [endGrant_rewrites before grant state reason id] at found
    split at found
    · cases found
      rw [Grant.isLive, Grant.mark, isLiveState_of_terminal ends] at lives
      cases lives
    · rename_i other
      refine ⟨next, found, lives, rfl, ?_⟩
      unfold endGrant
      rw [detach_eq indexed]
      dsimp only
      rw [Std.ExtTreeMap.getElem?_erase]
      simp [Ne.symm other]
  | amend grant moved held amends =>
    rw [Std.ExtTreeMap.getElem?_insert] at found
    simp only [Std.LawfulEqCmp.compare_eq_iff_eq] at found
    split at found
    · rename_i own
      cases found
      rw [own] at held
      exact ⟨grant, held, amends.isLive.symm.trans lives, amends.terms, rfl⟩
    · exact ⟨next, found, lives, rfl, rfl⟩

/-- Operations that bring no new grant leave every live grant its terms and its footprint. -/
theorem Trims.continues {before after : GrantRegistry} (trims : Trims before after) (indexed : before.Indexed)
    {id : UInt64} {next : Grant} (found : after.grants[id]? = some next) (lives : next.isLive = true) :
    Continues before after id next := by
  induction trims generalizing next with
  | refl => exact ⟨next, found, lives, rfl, rfl⟩
  | tail earlier trim ih =>
    obtain ⟨middle, held, live, terms, kept⟩ := trim.continues (Trims.indexed earlier indexed) found lives
    obtain ⟨grant, stored, first, same, rooted⟩ := ih held live
    exact ⟨grant, stored, first, terms.trans same, kept.trans rooted⟩

theorem Trim.source {before after : GrantRegistry} (trim : Trim before after) {id : UInt64} {next : Grant}
    (found : after.grants[id]? = some next) :
    ∃ grant : Grant, before.grants[id]? = some grant ∧ next.terms = grant.terms := by
  cases trim with
  | aside same =>
    rw [same.grants] at found
    exact ⟨next, found, rfl⟩
  | close grant state reason held live ends =>
    rw [endGrant_rewrites before grant state reason id] at found
    split at found
    · rename_i own
      cases found
      exact ⟨grant, own ▸ held, rfl⟩
    · exact ⟨next, found, rfl⟩
  | amend grant moved held amends =>
    rw [Std.ExtTreeMap.getElem?_insert] at found
    simp only [Std.LawfulEqCmp.compare_eq_iff_eq] at found
    split at found
    · rename_i own
      cases found
      exact ⟨grant, own ▸ held, amends.terms⟩
    · exact ⟨next, found, rfl⟩

/-- Whatever brings no new grant leaves every grant its terms, live or not. -/
theorem Trims.source {before after : GrantRegistry} (trims : Trims before after) {id : UInt64} {next : Grant}
    (found : after.grants[id]? = some next) :
    ∃ grant : Grant, before.grants[id]? = some grant ∧ next.terms = grant.terms := by
  induction trims generalizing next with
  | refl => exact ⟨next, found, rfl⟩
  | tail _ trim ih =>
    obtain ⟨middle, held, same⟩ := trim.source found
    obtain ⟨grant, stored, before⟩ := ih held
    exact ⟨grant, stored, same.trans before⟩

theorem Trims.settled {before after : GrantRegistry} (trims : Trims before after) (settled : before.Settled) :
    after.Settled := by
  induction trims with
  | refl => exact settled
  | tail _ trim ih =>
    cases trim with
    | aside same =>
      rw [Settled, same.grants]
      exact ih
    | close grant state reason held live ends => exact (endGrant_rewrites _ grant state reason).settled (.inr ends) ih
    | amend grant next held amends =>
      refine Rewrites.settled (rewrites_of_insert rfl) ?_ ih
      rcases ih grant.id grant held with live | ended
      · exact .inl (amends.isLive.trans live)
      · exact .inr (amends.ended ended)

end GrantRegistry

end RackFabric
