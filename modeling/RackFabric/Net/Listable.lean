import RackFabric.Authority.Calls
import RackFabric.Authority.Rebuild
import RackFabric.Compose.Closure
import RackFabric.Net.Sealing
import Mathlib.Data.Nat.Digits.Defs

/-!
Grants that a listing can carry: their scope has a known kind and their reason is a text the decoder reads. The
registry hands out no others.
-/

namespace RackFabric

/-! ### Texts -/

/-- Single-byte characters, none of them NUL. -/
def Printable (value : Text) : Prop :=
  ∀ byte ∈ value, 0 < byte ∧ byte < 0x80

instance (value : Text) : Decidable (Printable value) :=
  List.decidableBAll _ value

theorem Printable.append {first second : Text} (one : Printable first) (two : Printable second) :
    Printable (first ++ second) := by
  intro byte member
  rcases List.mem_append.mp member with member | member
  · exact one byte member
  · exact two byte member

private theorem isValidUtf8Loop_printable (fuel : Nat) {value : Text} (printable : Printable value)
    (enough : value.length ≤ fuel) : isValidUtf8Loop fuel value = true := by
  induction fuel generalizing value with
  | zero =>
    cases value with
    | nil => rfl
    | cons byte rest => simp at enough
  | succ fuel ih =>
    cases value with
    | nil => rfl
    | cons byte rest =>
      obtain ⟨positive, single⟩ := printable byte (by simp)
      have other : byte ≠ 0 := by
        rintro rfl
        exact absurd positive (by decide)
      simp only [isValidUtf8Loop, beq_iff_eq, other, if_false, single, if_true]
      exact ih (fun later member => printable later (by simp [member])) (by simpa using enough)

theorem Printable.detail {value : Text} (printable : Printable value) (short : value.length ≤ 512) :
    Detail value :=
  ⟨isValidUtf8Loop_printable _ printable (Nat.le_refl _), short⟩

theorem printable_decimal (value : UInt64) : Printable (decimal value) ∧ (decimal value).length ≤ 20 := by
  constructor
  · intro byte member
    obtain ⟨digit, listed, rfl⟩ := List.mem_map.mp member
    have digital := Nat.isDigit_of_mem_toDigits (by decide) (by decide) listed
    have range : 48 ≤ digit.toNat ∧ digit.toNat ≤ 57 := by
      simp only [Char.isDigit, Bool.and_eq_true, decide_eq_true_eq, UInt32.le_iff_toNat_le] at digital
      exact digital
    have code : digit.toNat.toUInt8.toNat = digit.toNat := by
      rw [Nat.toUInt8, UInt8.toNat_ofNat']
      omega
    rw [UInt8.lt_iff_toNat_lt, UInt8.lt_iff_toNat_lt, code]
    constructor
    · exact Nat.lt_of_lt_of_le (by decide) range.1
    · exact Nat.lt_of_le_of_lt range.2 (by decide)
  · rw [decimal, List.length_map]
    exact Nat.toDigits_length 10 value.toNat 20 (by decide) (Nat.lt_trans value.toNat_lt (by decide))

theorem printable_ref (ref : ResourceRef) : Printable ref.toText ∧ ref.toText.length ≤ 31 := by
  obtain ⟨digits, short⟩ := printable_decimal ref.id
  have kind : Printable (ref.kind.toText ++ text ":") ∧ (ref.kind.toText ++ text ":").length ≤ 11 := by
    cases ref.kind with
    | rack | device | port | link | attachment | path => exact ⟨by decide, by decide⟩
    | unnamed byte fresh =>
      simp only [ResourceKind.toText]
      exact ⟨by decide, by decide⟩
  refine ⟨kind.1.append digits, ?_⟩
  rw [ResourceRef.toText, List.length_append]
  omega

/-- What a scope that does not resolve is refused with. -/
theorem expandScope_detail {snapshot : Snapshot} {root : ResourceRef} {status : Status}
    (refused : expandScope snapshot root = .error status) : Printable status.detail ∧ status.detail.length ≤ 60 := by
  have members : ∀ status, scopeMembers snapshot root = .error status →
      Printable status.detail ∧ status.detail.length ≤ 60 := by
    intro status refused
    unfold scopeMembers at refused
    cases kind : root.kind with
    | rack | device | port | link | attachment | path =>
      simp only [kind] at refused
      split at refused
      · cases refused
        exact ⟨by decide, by decide⟩
      · cases refused
    | unnamed byte fresh =>
      simp only [kind] at refused
      cases refused
  unfold expandScope at refused
  split at refused
  · cases refused
    exact ⟨by decide, by decide⟩
  · cases found : scopeMembers snapshot root with
    | error other =>
      rw [found] at refused
      cases refused
      exact members status found
    | ok out =>
      rw [found] at refused
      cases refused

/-- Every reason that revalidation gives can be listed. -/
theorem revalidationFailure_detail {snapshot : Snapshot} {nowMs : UInt64} {grant : Grant} {failure : Text}
    (fails : GrantRegistry.revalidationFailure snapshot nowMs grant = some failure) : Detail failure := by
  unfold GrantRegistry.revalidationFailure at fails
  split at fails
  · rename_i status refused
    obtain ⟨printable, short⟩ := expandScope_detail refused
    cases fails
    have front : Printable (text "scope no longer resolves: ") ∧ (text "scope no longer resolves: ").length = 26 := by
      decide
    refine (front.1.append printable).detail ?_
    rw [List.length_append]
    omega
  · split at fails
    · cases fails
      exact Printable.detail (by decide) (by decide)
    · split at fails
      · cases fails
        exact Printable.detail (by decide) (by decide)
      · split at fails
        · cases fails
          exact Printable.detail (by decide) (by decide)
        · split at fails
          · cases fails
            exact Printable.detail (by decide) (by decide)
          · obtain ⟨ref, -, rfl⟩ := Option.map_eq_some_iff.mp fails
            obtain ⟨printable, short⟩ := printable_ref ref
            have front : Printable (text "scope contains a resource that is not eligible: ") ∧
                (text "scope contains a resource that is not eligible: ").length = 48 := by decide
            refine (front.1.append printable).detail ?_
            rw [List.length_append]
            omega

/-! ### Grants -/

/-- A scope of a known kind, and a reason that the decoder reads. -/
def Grant.Listable (grant : Grant) : Prop :=
  grant.scope.kind.Known ∧ Detail grant.reason

theorem Grant.Listable.mark {grant : Grant} (listable : grant.Listable) {reason : Text} (detail : Detail reason)
    (state : GrantState) : (grant.mark state reason).Listable :=
  ⟨listable.1, detail⟩

/-- A snapshot all of whose resources are of known kinds, as every composed one is. -/
def Snapshot.Named (snapshot : Snapshot) : Prop :=
  ∀ state ∈ snapshot.data.resources, state.ref.kind.Known

theorem compose_named {ledger : EvidenceLedger} {config : RackConfig} {request : ComposeInput} {outcome : ComposeOutcome}
    (composed : compose ledger config request = .ok outcome) : outcome.snapshot.Named := by
  obtain ⟨data, held, passes⟩ := compose_composed composed
  obtain ⟨inputs, resources, -⟩ := passes.resources
  intro state member
  rw [Snapshot.data, held, Option.getD_some, resources] at member
  rcases ResourceInputs.mem_resources member with rfl | ⟨device, found, rfl⟩ | ⟨port, found, rfl⟩ |
    ⟨link, found, rfl⟩ | ⟨attachment, found, rfl⟩ | ⟨path, found, rfl⟩
  · exact (⟨by decide, by decide⟩ : ResourceKind.rack.Known)
  · exact (⟨by decide, by decide⟩ : ResourceKind.device.Known)
  · exact (⟨by decide, by decide⟩ : ResourceKind.port.Known)
  · exact (⟨by decide, by decide⟩ : ResourceKind.link.Known)
  · exact (⟨by decide, by decide⟩ : ResourceKind.attachment.Known)
  · exact (⟨by decide, by decide⟩ : ResourceKind.path.Known)

namespace GrantRegistry

/-- Every grant stands under its identity and can be listed. -/
structure Listable (registry : GrantRegistry) : Prop where
  keyed : registry.Keyed
  entries : ∀ (id : UInt64) (grant : Grant), registry.grants[id]? = some grant → grant.Listable

variable {registry next : GrantRegistry}

theorem Listable.of_grants (listable : registry.Listable) (same : next.grants = registry.grants) : next.Listable := by
  refine ⟨?_, ?_⟩
  · intro id grant found
    exact listable.keyed id grant (same ▸ found)
  · intro id grant found
    exact listable.entries id grant (same ▸ found)

theorem Listable.rewrites {id : UInt64} {grant : Grant} (listable : registry.Listable)
    (rewrites : Rewrites registry next id grant) (own : grant.id = id) (fits : grant.Listable) : next.Listable := by
  refine ⟨rewrites.keyed own listable.keyed, ?_⟩
  intro other entry found
  rw [rewrites other] at found
  split at found
  · cases found
    exact fits
  · exact listable.entries other entry found

theorem Listable.swept {rewrite : Grant → Grant} (listable : registry.Listable) (swept : Swept rewrite registry next)
    (fits : ∀ grant, grant.Listable → (rewrite grant).Listable) : next.Listable := by
  refine ⟨swept.keyed, ?_⟩
  intro id entry found
  rw [swept.entries id] at found
  obtain ⟨grant, held, rfl⟩ := Option.map_eq_some_iff.mp found
  exact fits grant (listable.entries id grant held)

theorem Listable.expireDue (listable : registry.Listable) (nowMs : UInt64) : (registry.expireDue nowMs).1.Listable := by
  refine listable.swept (expireDue_swept listable.keyed nowMs) ?_
  intro grant fits
  unfold expireRewrite
  split
  · exact fits.mark (Printable.detail (by decide) (by decide)) _
  · exact fits

theorem Listable.fenceAll (listable : registry.Listable) {reason : Text} (detail : Detail reason) :
    (registry.fenceAll reason).Listable := by
  refine listable.swept (fenceAll_swept listable.keyed reason) ?_
  intro grant fits
  split
  · exact fits.mark detail _
  · exact fits

theorem Listable.suspendAll (listable : registry.Listable) {reason : Text} (detail : Detail reason) :
    (registry.suspendAll reason).Listable := by
  refine listable.swept (suspendAll_swept listable.keyed reason) ?_
  intro grant fits
  unfold suspendRewrite
  split
  · exact fits.mark detail _
  · exact fits

theorem detail_nil : Detail [] := by
  refine ⟨rfl, by decide⟩

theorem Listable.resumeAll (listable : registry.Listable) (snapshot : Snapshot) (nowMs : UInt64) :
    (registry.resumeAll snapshot nowMs).Listable := by
  refine listable.swept (resumeAll_swept listable.keyed snapshot nowMs) ?_
  intro grant fits
  unfold resumeRewrite
  split
  · split
    · exact fits.mark detail_nil _
    · exact fits.mark (Printable.detail (by decide) (by decide)) _
  · exact fits

theorem Listable.revalidate (listable : registry.Listable) (snapshot : Snapshot) (incarnation nowMs : UInt64) :
    (registry.revalidate snapshot incarnation nowMs).Listable := by
  obtain ⟨⟨keyed, -, -⟩, carried⟩ := revalidate_carries listable.keyed snapshot incarnation nowMs
  refine ⟨keyed, ?_⟩
  intro id entry found
  obtain ⟨grant, held, moved⟩ := carried.source found
  have fits := listable.entries id grant held
  cases moved with
  | idle => exact fits
  | rearmed fence recovering passes => exact ⟨fits.1, detail_nil⟩
  | fenced failure recovering fails => exact fits.mark (revalidationFailure_detail fails) _

theorem Listable.release (listable : registry.Listable) (token : LeaseToken) : (registry.release token).1.Listable := by
  rcases release_cases registry token with same | ⟨grant, held, -, released⟩
  · rw [same]
    exact listable
  · rw [released]
    exact listable.rewrites (endGrant_rewrites registry grant _ _) rfl
      ((listable.entries _ grant held).mark (Printable.detail (by decide) (by decide)) _)

/-- A renewal keeps every grant listable, and so is what it hands out. -/
theorem Listable.renew (listable : registry.Listable) {snapshot : Snapshot} {token : LeaseToken} {ttlMs nowMs : UInt64}
    {result : Result Grant} (renewing : registry.renew snapshot token ttlMs nowMs = (next, result)) :
    next.Listable ∧ ∀ grant, result = .ok grant → grant.Listable := by
  cases result with
  | error status =>
    rw [(renew_error renewing).1]
    exact ⟨listable, by simp⟩
  | ok renewed =>
    obtain ⟨grant, deadline, checked, -, rfl, rfl⟩ := renew_ok renewing
    have held := (checkLease_ok checked).1
    have fits := listable.entries token.grant grant held
    refine ⟨listable.rewrites (rewrites_of_insert rfl) ?_ fits, ?_⟩
    · exact listable.keyed token.grant grant held
    · rintro _ ⟨⟩
      exact fits

theorem capacityPoolRefs_known {snapshot : Snapshot} {root : ResourceRef} {pool : List ResourceRef}
    (named : snapshot.Named) (pooled : capacityPoolRefs snapshot root = .ok pool) : root.kind.Known := by
  unfold capacityPoolRefs at pooled
  split at pooled
  · cases pooled
  · split at pooled
    · cases pooled
    · rename_i state found
      obtain ⟨member, same⟩ := findSorted_some found
      rw [← same]
      exact named state member

/-- An acquire keeps every grant listable, and so is what it hands out: a scope with capacity pools is a resource of
the snapshot. -/
theorem Listable.acquire (listable : registry.Listable) {snapshot : Snapshot} (named : snapshot.Named)
    {request : GrantRequest} {incarnation nowMs : UInt64} {allowNew : Bool} {result : Result Grant}
    (acquired : registry.acquire snapshot request incarnation nowMs allowNew = (next, result)) :
    next.Listable ∧ ∀ grant, result = .ok grant → grant.Listable := by
  cases acquire_decides acquired with
  | refused status failed => exact ⟨listable, by simp⟩
  | replayed outcome remembered =>
    refine ⟨listable, ?_⟩
    intro grant handed
    exact listable.entries _ grant (replay_ok handed).2
  | turnedDown refusal identified fresh checked =>
    refine ⟨?_, by simp⟩
    unfold turnedDown
    split
    · exact listable.of_grants rfl
    · exact listable
  | burned status failed expanded pool checked => exact ⟨listable.of_grants rfl, by simp⟩
  | issued deadline expanded pool identified fresh checked =>
    have fits : (issuedGrant snapshot request incarnation nowMs deadline registry.takeFence.nextFence expanded
        pool).Listable := ⟨capacityPoolRefs_known named (admission_ok checked).pools, detail_nil⟩
    have taken : registry.takeFence.Listable := listable.of_grants rfl
    refine ⟨taken.rewrites (enlist_rewrites _ snapshot request _) rfl fits, ?_⟩
    rintro _ ⟨⟩
    exact fits

theorem Listable.installRecovered (listable : registry.Listable) (snapshot : Snapshot) {grant : Grant}
    (fits : grant.Listable) : (registry.installRecovered snapshot grant).1.Listable := by
  have reason : ∀ {fallback : Text}, Detail fallback →
      Detail (if grant.reason.isEmpty then fallback else grant.reason) := by
    intro fallback detail
    split
    · exact detail
    · exact fits.2
  unfold GrantRegistry.installRecovered
  split
  · exact listable
  split
  · exact listable
  split
  · exact listable
  split
  · exact listable
  split
  · refine @Listable.rewrites _ _ _ (lostGrant grant) listable (rewrites_of_insert rfl) rfl ⟨fits.1, ?_⟩
    exact reason (Printable.detail (by decide) (by decide))
  · rename_i pool _
    have raised : (registry.raiseFence grant.fence).Listable := listable.of_grants rfl
    have books := (attach_sameBooks (registry.raiseFence grant.fence) snapshot (recoveredGrant grant pool)).grants
    refine @Listable.rewrites _ _ _ (recoveredGrant grant pool) raised (rewrites_of_insert ?_) rfl ⟨fits.1, ?_⟩
    · rw [← books]
      rfl
    · exact reason (Printable.detail (by decide) (by decide))

theorem Listable.applyState (listable : registry.Listable) {body : GrantStateRecord} (detail : Detail body.reason) :
    (registry.applyState body.id body.state body.reason).1.Listable := by
  refine listable.swept (applyState_swept listable.keyed body) ?_
  intro grant fits
  unfold Grant.applyEnd
  split
  · exact fits.mark detail _
  · exact fits

end GrantRegistry

end RackFabric
