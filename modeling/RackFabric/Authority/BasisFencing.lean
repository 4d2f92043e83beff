import RackFabric.Authority.Exclusion
import RackFabric.Authority.PairwiseScan
import RackFabric.Compose.Roots

/-!
What a lease that is still accepted tells about the rack: the epoch is that of its issue, its scope stands for the
same resources, and each has the capacity and the owners it had.
-/

namespace RackFabric

open Foundation

namespace GrantRegistry

/-- A grant that is issued rests on the scope it was asked for, as the snapshot of the issue has it. -/
theorem acquire_based {registry next : GrantRegistry} {snapshot : Snapshot} {request : GrantRequest}
    {incarnation nowMs : UInt64} {allowNew : Bool} {grant : Grant}
    (fresh : registry.outcomes[request.request]? = none)
    (acquired : registry.acquire snapshot request incarnation nowMs allowNew = (next, .ok grant)) :
    ∃ scope state, expandScope snapshot grant.scope = .ok scope ∧ snapshot.find grant.scope = some state ∧
      grant.authorityBasis = authorityBasisDigest snapshot scope := by
  generalize granted : (Except.ok grant : Result Grant) = result at acquired
  cases acquire_decides acquired with
  | refused => cases granted
  | replayed outcome remembered =>
    rw [fresh] at remembered
    cases remembered
  | turnedDown => cases granted
  | burned => cases granted
  | issued deadline expanded pool identified unknown checked =>
    cases granted
    have admitted := admission_ok checked
    have pools := admitted.pools
    simp only [capacityPoolRefs, refuse] at pools
    split at pools
    · cases pools
    split at pools
    · cases pools
    · rename_i state found
      exact ⟨expanded, state, admitted.expands, found, rfl⟩

/-- A lease that is accepted was issued on the rack as it is: in this epoch, over the same resources, with the same
capacities and owners. -/
theorem accepted_lease_stands {limits : AuthorityLimits} {process : UInt64} {earlier later : List RegistryCall}
    {issuer current : Snapshot} {request : GrantRequest} {incarnation nowMs usedAt : UInt64} {allowNew : Bool}
    {grant accepted : Grant} (composedIssuer : issuer.Composed) (composedCurrent : current.Composed)
    (sizedIssuer : issuer.Sized) (sizedCurrent : current.Sized)
    (fresh : (afterCalls limits process earlier).outcomes[request.request]? = none)
    (issued : ((afterCalls limits process earlier).acquire issuer request incarnation nowMs allowNew).2 = .ok grant)
    (usable : (afterCalls limits process
      (earlier ++ .acquire issuer request incarnation nowMs allowNew :: later)).validate current grant.token usedAt =
        .ok accepted)
    (collisionFree : ∀ a ∈ basisInputs [issuer, current] [grant.scope, accepted.scope],
      ∀ b ∈ basisInputs [issuer, current] [grant.scope, accepted.scope],
        Blake2s256.hash a = Blake2s256.hash b → a = b) :
    issuer.epoch = current.epoch ∧ ∃ scope, expandScope issuer grant.scope = .ok scope ∧
      expandScope current grant.scope = .ok scope ∧ ∀ ref ∈ scope,
        (issuer.find ref).map ResourceState.facts = (current.find ref).map ResourceState.facts := by
  obtain ⟨scope, state, expands, found, basis⟩ := acquire_based fresh (Prod.ext rfl issued :
    (afterCalls limits process earlier).acquire issuer request incarnation nowMs allowNew = (_, .ok grant))
  obtain ⟨-, token, -, checked⟩ := checkLease_ok usable
  obtain ⟨present, presentScope, signed⟩ := checkCurrent_basis checked
  have own : accepted.authorityBasis = grant.authorityBasis := (checkToken_ok token).2.2
  have inputs : basisInput issuer scope = basisInput current present := by
    apply collisionFree _ (mem_basisInputs (by simp) (by simp) expands) _
      (mem_basisInputs (by simp) (by simp) presentScope)
    rw [← authorityBasisDigest_eq, ← authorityBasisDigest_eq, signed, own, basis]
  obtain ⟨epochs, same, facts⟩ := basisInput_inj sizedIssuer sizedCurrent inputs
  subst same
  have root : grant.scope = accepted.scope :=
    root_of_scope composedIssuer.proper composedCurrent.proper expands presentScope
      (composedIssuer.proper.root_mem expands found)
  rw [← root] at presentScope
  exact ⟨epochs, scope, expands, presentScope, facts⟩

theorem composedFrom_composed {records : List EvidenceRecord} (valid : (composedFrom records).valid = true) :
    (composedFrom records).Composed := by
  unfold composedFrom at valid ⊢
  split at valid
  · cases valid
  · rename_i outcome succeeds
    exact ⟨{}, records, { rack := 7 }, ⟨0, 1, .active, {}⟩, outcome, succeeds, rfl⟩

theorem beforeAttachment_composed : beforeAttachment.Composed :=
  composedFrom_composed rfl

theorem afterAttachment_composed : afterAttachment.Composed :=
  composedFrom_composed rfl

/-- A lease of the uplink's link, issued before the host is attached. -/
def linkGrant : Grant :=
  issuedGrant beforeAttachment (soleLease 1 ⟨.link, 6⟩) 1 0 50 1 [⟨.port, 4⟩, ⟨.port, 5⟩, ⟨.link, 6⟩]
    [⟨.rack, 7⟩, ⟨.device, 3⟩, ⟨.link, 6⟩]

/-- The lease is accepted after the attachment too, which is none of its resources. -/
theorem link_lease_stands :
    (afterCalls {} 1 [.acquire beforeAttachment (soleLease 1 ⟨.link, 6⟩) 1 0 true]).validate afterAttachment
        linkGrant.token 1 = .ok linkGrant ∧
      beforeAttachment.epoch = afterAttachment.epoch ∧
      ∃ scope, expandScope beforeAttachment linkGrant.scope = .ok scope ∧
        expandScope afterAttachment linkGrant.scope = .ok scope ∧ ∀ ref ∈ scope,
          (beforeAttachment.find ref).map ResourceState.facts = (afterAttachment.find ref).map ResourceState.facts := by
  have sized : beforeAttachment.Sized ∧ afterAttachment.Sized := by
    unfold Snapshot.Sized
    decide +kernel
  have fresh : (afterCalls {} 1 []).outcomes[(soleLease 1 ⟨.link, 6⟩).request]? = none := by rfl
  have admitted : (afterCalls {} 1 []).admission beforeAttachment (soleLease 1 ⟨.link, 6⟩) true =
      .ok ([⟨.port, 4⟩, ⟨.port, 5⟩, ⟨.link, 6⟩], [⟨.rack, 7⟩, ⟨.device, 3⟩, ⟨.link, 6⟩]) := by rfl
  have acquired : (afterCalls {} 1 []).acquire beforeAttachment (soleLease 1 ⟨.link, 6⟩) 1 0 true =
      ((afterCalls {} 1 []).takeFence.enlist beforeAttachment (soleLease 1 ⟨.link, 6⟩) linkGrant, .ok linkGrant) :=
    acquire_issues rfl rfl fresh admitted rfl
  have same : basisInput beforeAttachment [⟨.port, 4⟩, ⟨.port, 5⟩, ⟨.link, 6⟩] =
      basisInput afterAttachment [⟨.port, 4⟩, ⟨.port, 5⟩, ⟨.link, 6⟩] := by decide +kernel
  have honoured : Honoured afterAttachment 1 1 linkGrant [⟨.port, 4⟩, ⟨.port, 5⟩, ⟨.link, 6⟩] := by
    refine ⟨rfl, by decide, by decide +kernel, by decide +kernel, by decide +kernel, by decide +kernel, ?_,
      by rfl⟩
    rw [authorityBasisDigest_eq, ← same, ← authorityBasisDigest_eq]
    rfl
  have usable : (afterCalls {} 1 [.acquire beforeAttachment (soleLease 1 ⟨.link, 6⟩) 1 0 true]).validate
      afterAttachment linkGrant.token 1 = .ok linkGrant := by
    have taken : afterCalls {} 1 [.acquire beforeAttachment (soleLease 1 ⟨.link, 6⟩) 1 0 true] =
        (afterCalls {} 1 []).takeFence.enlist beforeAttachment (soleLease 1 ⟨.link, 6⟩) linkGrant :=
      congrArg Prod.fst acquired
    rw [taken]
    exact enlist_usable _ _ _ rfl rfl honoured
  have inputs : ∀ input ∈ basisInputs [beforeAttachment, afterAttachment] [linkGrant.scope, linkGrant.scope],
      input = basisInput afterAttachment [⟨.port, 4⟩, ⟨.port, 5⟩, ⟨.link, 6⟩] := by decide +kernel
  have collisionFree : ∀ a ∈ basisInputs [beforeAttachment, afterAttachment] [linkGrant.scope, linkGrant.scope],
      ∀ b ∈ basisInputs [beforeAttachment, afterAttachment] [linkGrant.scope, linkGrant.scope],
        Blake2s256.hash a = Blake2s256.hash b → a = b := by
    intro a first b second _
    rw [inputs a first, inputs b second]
  exact ⟨usable, accepted_lease_stands beforeAttachment_composed afterAttachment_composed sized.1 sized.2 fresh
    (congrArg Prod.snd acquired) usable collisionFree⟩

end GrantRegistry

end RackFabric
