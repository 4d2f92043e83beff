import RackFabric.Authority.Registry

/-!
A refusal always carries a failing code, so that an answer with the code `ok` comes with a grant.
-/

namespace RackFabric

theorem scopeMembers_error {snapshot : Snapshot} {root : ResourceRef} {status : Status}
    (failed : scopeMembers snapshot root = .error status) : status.code ≠ .ok := by
  simp only [scopeMembers] at failed
  split at failed
  · split at failed
    · cases failed
      simp
    · cases failed
  all_goals first
    | cases failed
    | split at failed
      · cases failed
        simp
      · cases failed

theorem expandScope_error {snapshot : Snapshot} {root : ResourceRef} {status : Status}
    (failed : expandScope snapshot root = .error status) : status.code ≠ .ok := by
  simp only [expandScope, bind, Except.bind] at failed
  split at failed
  · cases failed
    simp
  · split at failed
    · rename_i members
      cases failed
      exact scopeMembers_error members
    · cases failed

theorem capacityPoolRefs_error {snapshot : Snapshot} {root : ResourceRef} {status : Status}
    (failed : capacityPoolRefs snapshot root = .error status) : status.code ≠ .ok := by
  simp only [capacityPoolRefs] at failed
  split at failed
  · cases failed
    simp
  · split at failed
    · cases failed
      simp
    · split at failed
      · cases failed
        simp
      · cases failed

/-- The pools of a scope are within the bound of the record that names them. -/
theorem capacityPoolRefs_length {snapshot : Snapshot} {root : ResourceRef} {pool : List ResourceRef}
    (found : capacityPoolRefs snapshot root = .ok pool) : pool.length ≤ kMaxPoolRefs := by
  simp only [capacityPoolRefs] at found
  split at found
  · cases found
  · split at found
    · cases found
    · split at found
      · cases found
      · rename_i within
        cases found
        omega

namespace GrantRegistry

theorem poolBase_error {snapshot : Snapshot} {ref : ResourceRef} {status : Status}
    (failed : poolBase snapshot ref = .error status) : status.code ≠ .ok := by
  simp only [poolBase] at failed
  repeat' split at failed
  all_goals first
    | cases failed; done
    | cases failed; simp

theorem available_error {registry : GrantRegistry} {snapshot : Snapshot} {ref : ResourceRef} {status : Status}
    (failed : registry.available snapshot ref = .error status) : status.code ≠ .ok := by
  simp only [available] at failed
  split at failed
  · cases failed
    simp
  · split at failed
    · rename_i base
      cases failed
      exact poolBase_error base
    · split at failed
      · cases failed
        simp
      · cases failed

theorem checkCapacity_error {registry : GrantRegistry} {snapshot : Snapshot} {requested : UInt64}
    {refs : List ResourceRef} {status : Status}
    (failed : registry.checkCapacity snapshot requested refs = .error status) : status.code ≠ .ok := by
  induction refs with
  | nil => cases failed
  | cons ref rest ih =>
    simp only [checkCapacity] at failed
    split at failed
    · rename_i free
      have refused := available_error free
      cases failed
      exact refused
    · split at failed
      · cases failed
        simp
      · exact ih failed

theorem checkEligible_error {snapshot : Snapshot} {refs : List ResourceRef} {refusal : Refusal}
    (failed : checkEligible snapshot refs = .error refusal) : refusal.status.code ≠ .ok := by
  induction refs with
  | nil => cases failed
  | cons ref rest ih =>
    simp only [checkEligible, turnDown] at failed
    split at failed
    · cases failed
      simp
    · split at failed
      · cases failed
        simp
      · exact ih failed

theorem checkConflicts_error {registry : GrantRegistry} {mode : GrantMode} {refs : List ResourceRef}
    {refusal : Refusal} (failed : registry.checkConflicts mode refs = .error refusal) :
    refusal.status.code ≠ .ok := by
  induction refs with
  | nil => cases failed
  | cons ref rest ih =>
    simp only [checkConflicts, turnDown] at failed
    split at failed
    · cases failed
      simp
    · exact ih failed

theorem admission_error {registry : GrantRegistry} {snapshot : Snapshot} {request : GrantRequest} {allowNew : Bool}
    {refusal : Refusal} (failed : registry.admission snapshot request allowNew = .error refusal) :
    refusal.status.code ≠ .ok := by
  simp only [admission, turnDown] at failed
  split at failed
  · cases failed
    simp
  split at failed
  · cases failed
    simp
  split at failed
  · cases failed
    simp
  split at failed
  · cases failed
    simp
  split at failed
  · cases failed
    simp
  split at failed
  · cases failed
    simp
  split at failed
  · rename_i expands
    cases failed
    exact expandScope_error expands
  split at failed
  · cases failed
    simp
  simp only [bind, Except.bind] at failed
  split at failed
  · rename_i eligible
    cases failed
    exact checkEligible_error eligible
  split at failed
  · rename_i exclusive
    cases failed
    exact checkConflicts_error exclusive
  split at failed
  · rename_i pools
    cases failed
    exact capacityPoolRefs_error pools
  split at failed
  · rename_i capacity
    cases failed
    exact checkCapacity_error capacity
  · cases failed

end GrantRegistry

end RackFabric
