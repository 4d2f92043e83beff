import RackFabric.Compose.Composer
import RackFabric.Model.Sorting
import Mathlib.Data.List.Induction

/-!
Members of the rack are exactly the devices that an applicable membership claim for this rack names, and one
that is not marked indeterminate carries the incarnation that all of those claims agree on.
-/

namespace RackFabric

/-- Some applicable membership claim for this rack names the device with this incarnation. -/
def ClaimedAmong (entries : List (EvidenceSlot × EvidenceRecord)) (config : RackConfig) (target : UInt64)
    (device incarnation : UInt64) : Prop :=
  ∃ entry ∈ entries, applicabilityOf entry.2 target = .apply ∧
    ∃ claim, entry.2.payload = .member claim ∧ claim.rack = config.rack ∧ claim.device = device ∧
      claim.incarnation = incarnation

/-- An entry that is a membership claim for this rack. -/
def Claims (config : RackConfig) (target : UInt64) (entry : EvidenceSlot × EvidenceRecord)
    (device incarnation : UInt64) : Prop :=
  ClaimedAmong [entry] config target device incarnation

theorem claimedAmong_snoc {entries : List (EvidenceSlot × EvidenceRecord)} {entry : EvidenceSlot × EvidenceRecord}
    {config : RackConfig} {target device incarnation : UInt64} :
    ClaimedAmong (entries ++ [entry]) config target device incarnation ↔
      ClaimedAmong entries config target device incarnation ∨ Claims config target entry device incarnation := by
  simp only [Claims, ClaimedAmong, List.mem_append, List.mem_singleton, or_and_right, exists_or]

/-- The members gathered from some entries, against the claims those entries make. -/
structure Vouched (entries : List (EvidenceSlot × EvidenceRecord)) (config : RackConfig) (target : UInt64)
    (members : Std.ExtTreeMap UInt64 MemberInfo) : Prop where
  known : ∀ device incarnation, ClaimedAmong entries config target device incarnation →
    ∃ info, members[device]? = some info
  agreed : ∀ device (info : MemberInfo), members[device]? = some info → info.indeterminate = false →
    ClaimedAmong entries config target device info.incarnation ∧
      ∀ incarnation, ClaimedAmong entries config target device incarnation → incarnation = info.incarnation

variable {entries : List (EvidenceSlot × EvidenceRecord)} {config : RackConfig} {target : UInt64}
  {members : Std.ExtTreeMap UInt64 MemberInfo} {entry : EvidenceSlot × EvidenceRecord}

theorem Vouched.skip (vouched : Vouched entries config target members)
    (silent : ∀ device incarnation, ¬ Claims config target entry device incarnation) :
    Vouched (entries ++ [entry]) config target members where
  known device incarnation claimed := by
    rcases claimedAmong_snoc.mp claimed with before | now
    · exact vouched.known device incarnation before
    · exact absurd now (silent device incarnation)
  agreed device info found determinate := by
    obtain ⟨claimed, all⟩ := vouched.agreed device info found determinate
    refine ⟨claimedAmong_snoc.mpr (.inl claimed), ?_⟩
    intro incarnation other
    rcases claimedAmong_snoc.mp other with before | now
    · exact all incarnation before
    · exact absurd now (silent device incarnation)

/-- A claim for this rack either introduces its device, agrees with what is known, or marks it. -/
theorem Vouched.claim {claim : MemberClaim} (vouched : Vouched entries config target members)
    (applies : applicabilityOf entry.2 target = .apply) (payload : entry.2.payload = .member claim)
    (here : claim.rack = config.rack) {next : Std.ExtTreeMap UInt64 MemberInfo} {info : MemberInfo}
    (others : ∀ device, device ≠ claim.device → next[device]? = members[device]?)
    (own : next[claim.device]? = some info)
    (settles : info.indeterminate = false → info.incarnation = claim.incarnation ∧
      ∀ earlier : MemberInfo, members[claim.device]? = some earlier →
        earlier.indeterminate = false ∧ earlier.incarnation = info.incarnation) :
    Vouched (entries ++ [entry]) config target next := by
  have tells : ∀ device incarnation, Claims config target entry device incarnation ↔
      claim.device = device ∧ claim.incarnation = incarnation := by
    intro device incarnation
    constructor
    · rintro ⟨found, member, -, other, same, -, rfl, rfl⟩
      rw [List.mem_singleton.mp member, payload] at same
      cases same
      exact ⟨rfl, rfl⟩
    · rintro ⟨rfl, rfl⟩
      exact ⟨entry, List.mem_singleton.mpr rfl, applies, claim, payload, here, rfl, rfl⟩
  constructor
  · intro device incarnation claimed
    by_cases same : device = claim.device
    · rw [same]
      exact ⟨info, own⟩
    · rw [others device same]
      rcases claimedAmong_snoc.mp claimed with before | now
      · exact vouched.known device incarnation before
      · exact absurd ((tells device incarnation).mp now).1.symm same
  · intro device found lookup determinate
    by_cases same : device = claim.device
    · subst same
      rw [own] at lookup
      cases lookup
      obtain ⟨matches_, earlier⟩ := settles determinate
      refine ⟨claimedAmong_snoc.mpr (.inr ((tells _ _).mpr ⟨rfl, matches_.symm⟩)), ?_⟩
      intro incarnation other
      rcases claimedAmong_snoc.mp other with before | now
      · obtain ⟨old, known⟩ := vouched.known _ _ before
        obtain ⟨settled, equal⟩ := earlier old known
        rw [(vouched.agreed _ old known settled).2 incarnation before, equal]
      · rw [← ((tells _ _).mp now).2, matches_]
    · rw [others device same] at lookup
      obtain ⟨claimed, all⟩ := vouched.agreed device found lookup determinate
      refine ⟨claimedAmong_snoc.mpr (.inl claimed), ?_⟩
      intro incarnation other
      rcases claimedAmong_snoc.mp other with before | now
      · exact all incarnation before
      · exact absurd ((tells device incarnation).mp now).1.symm same

theorem gatherMember_vouched {claim : MemberClaim} {gathered : Gathered}
    (vouched : Vouched entries config target gathered.members)
    (applies : applicabilityOf entry.2 target = .apply) (payload : entry.2.payload = .member claim) :
    Vouched (entries ++ [entry]) config target (gatherMember config gathered entry.2 claim).members := by
  unfold gatherMember
  by_cases here : claim.rack = config.rack
  · simp only [here, ne_eq, not_true, if_false]
    split
    · rename_i absent
      refine vouched.claim applies payload here (fun device other => ?_) Std.ExtTreeMap.getElem?_insert_self ?_
      · exact Std.ExtTreeMap.getElem?_insert.trans (if_neg (by simpa using Ne.symm other))
      · intro _
        refine ⟨rfl, ?_⟩
        intro earlier known
        rw [absent] at known
        cases known
    · rename_i info known
      split
      · refine vouched.claim applies payload here (fun device other => ?_) Std.ExtTreeMap.getElem?_insert_self ?_
        · exact Std.ExtTreeMap.getElem?_insert.trans (if_neg (by simpa using Ne.symm other))
        · intro determinate
          cases determinate
      · rename_i agrees
        have equal : info.incarnation = claim.incarnation := by simpa using agrees
        by_cases settled : info.indeterminate = false
        · refine vouched.claim applies payload here (fun _ _ => rfl) known ?_
          intro _
          refine ⟨equal, ?_⟩
          intro earlier again
          rw [known] at again
          cases again
          exact ⟨settled, rfl⟩
        · refine vouched.claim applies payload here (fun _ _ => rfl) known ?_
          intro determinate
          exact absurd determinate settled
  · simp only [ne_eq, here, not_false_eq_true, if_true]
    apply vouched.skip
    rintro device incarnation ⟨found, member, -, other, same, named, -⟩
    rw [List.mem_singleton.mp member, payload] at same
    cases same
    exact here named

theorem gatherRecord_vouched {gathered : Gathered} (vouched : Vouched entries config target gathered.members) :
    Vouched (entries ++ [entry]) config target (gatherRecord config target gathered entry).members := by
  have notMember : (∀ claim, entry.2.payload ≠ .member claim) →
      ∀ device incarnation, ¬ Claims config target entry device incarnation := by
    rintro other device incarnation ⟨found, member, -, claim, same, -⟩
    rw [List.mem_singleton.mp member] at same
    exact other claim same
  have inapplicable : applicabilityOf entry.2 target ≠ .apply →
      ∀ device incarnation, ¬ Claims config target entry device incarnation := by
    rintro other device incarnation ⟨found, member, applies, -⟩
    rw [List.mem_singleton.mp member] at applies
    exact other applies
  unfold gatherRecord
  dsimp only
  cases applies : applicabilityOf entry.2 target with
  | future => exact vouched.skip (inapplicable (by rw [applies]; simp))
  | stale => exact vouched.skip (inapplicable (by rw [applies]; simp))
  | apply =>
    unfold gatherPayload
    cases payload : entry.2.payload with
    | member claim =>
      dsimp only
      exact gatherMember_vouched vouched applies payload
    | _ => exact vouched.skip (notMember (by rw [payload]; simp))

/-- The gathered members are vouched for by the whole ledger. -/
theorem gather_vouched (ledger : EvidenceLedger) (config : RackConfig) (request : ComposeInput) :
    Vouched ledger.slots.toList config request.generation (gather ledger config request).members := by
  unfold gather
  induction ledger.slots.toList using List.reverseRecOn with
  | nil =>
    constructor
    · rintro device incarnation ⟨entry, member, -⟩
      cases member
    · intro device info found
      simp at found
  | append_singleton entries entry ih =>
    rw [List.foldl_append, List.foldl_cons, List.foldl_nil]
    exact gatherRecord_vouched ih

end RackFabric
