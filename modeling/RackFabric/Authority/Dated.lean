import RackFabric.Authority.Calls
import RackFabric.Authority.Rebuild

/-!
The generation and the epoch a grant was issued at. No call on the registry moves them, and a new grant takes them from
the snapshot it is issued on.
-/

namespace RackFabric

/-- A generation and an epoch, as an answer reports them. -/
structure Stamp where
  generation : UInt64
  epoch : UInt64
deriving DecidableEq, Repr

def Grant.stamp (grant : Grant) : Stamp :=
  ⟨grant.generation, grant.epoch⟩

def Snapshot.stamp (snapshot : Snapshot) : Stamp :=
  ⟨snapshot.generation, snapshot.epoch⟩

theorem Grant.stamp_of_terms {first second : Grant} (same : first.terms = second.terms) :
    first.stamp = second.stamp := by
  have stamps : first.terms.stamp = second.terms.stamp := by rw [same]
  exact stamps

namespace GrantRegistry

/-- Every grant stands under its identity and has an allowed stamp. -/
structure Dated (allowed : Stamp → Prop) (registry : GrantRegistry) : Prop where
  keyed : registry.Keyed
  entries : ∀ (id : UInt64) (grant : Grant), registry.grants[id]? = some grant → allowed grant.stamp

variable {allowed : Stamp → Prop} {registry next : GrantRegistry}

theorem Dated.mono {wider : Stamp → Prop} (dated : registry.Dated allowed)
    (implies : ∀ stamp, allowed stamp → wider stamp) : registry.Dated wider :=
  ⟨dated.keyed, fun id grant found => implies _ (dated.entries id grant found)⟩

theorem Dated.of_grants (dated : registry.Dated allowed) (same : next.grants = registry.grants) : next.Dated allowed := by
  constructor
  · intro id grant found
    exact dated.keyed id grant (same ▸ found)
  · intro id grant found
    exact dated.entries id grant (same ▸ found)

theorem Dated.rewrites {id : UInt64} {grant : Grant} (dated : registry.Dated allowed)
    (rewrites : Rewrites registry next id grant) (own : grant.id = id) (fits : allowed grant.stamp) :
    next.Dated allowed := by
  refine ⟨rewrites.keyed own dated.keyed, ?_⟩
  intro other entry found
  rw [rewrites other] at found
  split at found
  · cases found
    exact fits
  · exact dated.entries other entry found

theorem Dated.swept {rewrite : Grant → Grant} (dated : registry.Dated allowed) (swept : Swept rewrite registry next)
    (same : ∀ grant, (rewrite grant).terms = grant.terms) : next.Dated allowed := by
  refine ⟨swept.keyed, ?_⟩
  intro id entry found
  rw [swept.entries id] at found
  obtain ⟨grant, held, rfl⟩ := Option.map_eq_some_iff.mp found
  rw [Grant.stamp_of_terms (same grant)]
  exact dated.entries id grant held

theorem Dated.expireDue (dated : registry.Dated allowed) (nowMs : UInt64) : (registry.expireDue nowMs).1.Dated allowed := by
  refine dated.swept (expireDue_swept dated.keyed nowMs) ?_
  intro grant
  unfold expireRewrite
  split <;> rfl

theorem Dated.fenceAll (dated : registry.Dated allowed) (reason : Text) : (registry.fenceAll reason).Dated allowed := by
  refine dated.swept (fenceAll_swept dated.keyed reason) ?_
  intro grant
  split <;> rfl

theorem Dated.suspendAll (dated : registry.Dated allowed) (reason : Text) :
    (registry.suspendAll reason).Dated allowed := by
  refine dated.swept (suspendAll_swept dated.keyed reason) ?_
  intro grant
  unfold suspendRewrite
  split <;> rfl

theorem Dated.resumeAll (dated : registry.Dated allowed) (snapshot : Snapshot) (nowMs : UInt64) :
    (registry.resumeAll snapshot nowMs).Dated allowed := by
  refine dated.swept (resumeAll_swept dated.keyed snapshot nowMs) ?_
  intro grant
  unfold resumeRewrite
  split
  · split <;> rfl
  · rfl

theorem Dated.revalidate (dated : registry.Dated allowed) (snapshot : Snapshot) (incarnation nowMs : UInt64) :
    (registry.revalidate snapshot incarnation nowMs).Dated allowed := by
  obtain ⟨⟨keyed, -, -⟩, carried⟩ := revalidate_carries dated.keyed snapshot incarnation nowMs
  refine ⟨keyed, ?_⟩
  intro id entry found
  obtain ⟨grant, held, moved⟩ := carried.source found
  have fits := dated.entries id grant held
  cases moved with
  | idle => exact fits
  | rearmed fence recovering passes => exact fits
  | fenced failure recovering fails => exact fits

theorem Dated.release (dated : registry.Dated allowed) (token : LeaseToken) :
    (registry.release token).1.Dated allowed := by
  rcases release_cases registry token with same | ⟨grant, held, -, released⟩
  · rw [same]
    exact dated
  · rw [released]
    exact dated.rewrites (endGrant_rewrites registry grant _ _) rfl (dated.entries _ grant held)

/-- A renewal moves a deadline alone, and hands out a grant that is held. -/
theorem Dated.renew (dated : registry.Dated allowed) {snapshot : Snapshot} {token : LeaseToken} {ttlMs nowMs : UInt64}
    {result : Result Grant} (renewing : registry.renew snapshot token ttlMs nowMs = (next, result)) :
    next.Dated allowed ∧ ∀ grant, result = .ok grant → next.grants[token.grant]? = some grant := by
  cases result with
  | error status =>
    rw [(renew_error renewing).1]
    exact ⟨dated, by simp⟩
  | ok renewed =>
    obtain ⟨grant, deadline, checked, -, rfl, rfl⟩ := renew_ok renewing
    have held := (checkLease_ok checked).1
    refine ⟨dated.rewrites (rewrites_of_insert rfl) ?_ (dated.entries token.grant grant held), ?_⟩
    · exact dated.keyed token.grant grant held
    · rintro _ ⟨⟩
      simp

/-- An acquire hands out a grant that is held, and one it issues takes the stamp of the snapshot. -/
theorem Dated.acquire (dated : registry.Dated allowed) {snapshot : Snapshot} (current : allowed snapshot.stamp)
    {request : GrantRequest} {incarnation nowMs : UInt64} {allowNew : Bool} {result : Result Grant}
    (acquired : registry.acquire snapshot request incarnation nowMs allowNew = (next, result)) :
    next.Dated allowed ∧ ∀ grant, result = .ok grant → ∃ id : UInt64, next.grants[id]? = some grant := by
  cases acquire_decides acquired with
  | refused status failed => exact ⟨dated, by simp⟩
  | replayed outcome remembered =>
    refine ⟨dated, ?_⟩
    intro grant handed
    exact ⟨_, (replay_ok handed).2⟩
  | turnedDown refusal identified fresh checked =>
    refine ⟨?_, by simp⟩
    unfold turnedDown
    split
    · exact dated.of_grants rfl
    · exact dated
  | burned status failed expanded pool checked => exact ⟨dated.of_grants rfl, by simp⟩
  | issued deadline expanded pool identified fresh checked =>
    have taken : registry.takeFence.Dated allowed := dated.of_grants rfl
    have rewrites := enlist_rewrites registry.takeFence snapshot request
      (issuedGrant snapshot request incarnation nowMs deadline registry.takeFence.nextFence expanded pool)
    refine ⟨taken.rewrites rewrites rfl current, ?_⟩
    rintro _ ⟨⟩
    exact ⟨_, by rw [rewrites, if_pos rfl]⟩

theorem Dated.installRecovered (dated : registry.Dated allowed) (snapshot : Snapshot) {grant : Grant}
    (fits : allowed grant.stamp) : (registry.installRecovered snapshot grant).1.Dated allowed := by
  have keyed := installRecovered_keyed dated.keyed snapshot grant
  unfold GrantRegistry.installRecovered at keyed ⊢
  split
  · exact dated
  · split
    · exact dated
    · split
      · exact dated
      · split
        · exact dated
        · split
          · exact dated.rewrites (rewrites_of_insert rfl) rfl fits
          · have raised : (registry.raiseFence grant.fence).Dated allowed := dated.of_grants rfl
            exact raised.rewrites (reinstate_rewrites _ snapshot _) rfl fits

theorem Dated.applyStates (dated : registry.Dated allowed) (states : List GrantStateRecord) :
    Dated allowed (states.foldl (fun registry body => (registry.applyState body.id body.state body.reason).1)
      registry) := by
  refine dated.swept (foldl_applyState_swept dated.keyed states) ?_
  intro grant
  rcases Grant.afterEnds_cases states grant with ⟨-, stands⟩ | ⟨body, -, -, marked⟩
  · rw [stands]
  · rw [marked]
    rfl

end GrantRegistry

end RackFabric
