import RackFabric.Authority.Grant
import RackFabric.Core.Absorb
import RackFabric.Core.LittleEndian

/-!
What the authority basis digest is taken over, and that this names the resources of the scope.
-/

namespace RackFabric

open Blake2s256

def ownerBytes (owner : OwnerRef) : List UInt8 :=
  le64 owner.device ++ le64 owner.incarnation

def stateBytes : Option ResourceState → List UInt8
  | none => text "absent"
  | some state =>
    text "present" ++ (le64 (if state.capacityKnown then 1 else 0) ++ (le64 state.capacity ++
      (le64 (UInt64.ofNat state.owners.length) ++ state.owners.flatMap ownerBytes)))

def resourceBytes (snapshot : Snapshot) (ref : ResourceRef) : List UInt8 :=
  le64 ref.kind.code.toUInt64 ++ (le64 ref.id ++ stateBytes (snapshot.find ref))

/-- Everything that is hashed for a scope, in order. -/
def basisInput (snapshot : Snapshot) (scope : List ResourceRef) : List UInt8 :=
  text "rnf.basis.v1" ++ (le64 snapshot.data.epoch ++ scope.flatMap (resourceBytes snapshot))

theorem update_reset_append (first second : List UInt8) :
    update (update reset first) second = update reset (first ++ second) :=
  update_append (by decide) first second

theorem absorbOwners_eq (owners : List OwnerRef) (hashed : List UInt8) :
    owners.foldl (fun hasher owner => updateLe64 (updateLe64 hasher owner.device) owner.incarnation)
        (update reset hashed) = update reset (hashed ++ owners.flatMap ownerBytes) := by
  induction owners generalizing hashed with
  | nil => simp
  | cons owner rest ih =>
    rw [List.foldl_cons, updateLe64, updateLe64, update_reset_append, update_reset_append, ih]
    simp [ownerBytes]

theorem absorbResource_eq (snapshot : Snapshot) (hashed : List UInt8) (ref : ResourceRef) :
    absorbResource snapshot (update reset hashed) ref = update reset (hashed ++ resourceBytes snapshot ref) := by
  unfold absorbResource resourceBytes stateBytes updateLe64
  dsimp only
  cases snapshot.find ref with
  | none => simp only [update_reset_append, List.append_assoc]
  | some state =>
    simp only [update_reset_append, List.append_assoc]
    have owners := absorbOwners_eq state.owners
    unfold updateLe64 at owners
    rw [owners]
    simp only [List.append_assoc]

/-- The basis digest is the hash of the basis input. -/
theorem authorityBasisDigest_eq (snapshot : Snapshot) (scope : List ResourceRef) :
    authorityBasisDigest snapshot scope = Blake2s256.hash (basisInput snapshot scope) := by
  have absorbed : ∀ (scope : List ResourceRef) (hashed : List UInt8),
      scope.foldl (absorbResource snapshot) (update reset hashed) =
        update reset (hashed ++ scope.flatMap (resourceBytes snapshot)) := by
    intro scope
    induction scope with
    | nil => simp
    | cons ref rest ih =>
      intro hashed
      rw [List.foldl_cons, absorbResource_eq, ih]
      simp
  unfold authorityBasisDigest Blake2s256.hash basisInput updateLe64
  dsimp only
  rw [update_reset_append, absorbed, List.append_assoc]

/-- Owner lists that a `std::vector` can hold. -/
def Snapshot.Sized (snapshot : Snapshot) : Prop :=
  ∀ state ∈ snapshot.data.resources, state.owners.length < 2 ^ 64

theorem Snapshot.Sized.find {snapshot : Snapshot} (sized : snapshot.Sized) (ref : ResourceRef) (state : ResourceState)
    (found : snapshot.find ref = some state) : state.owners.length < 2 ^ 64 :=
  sized state (findSorted_some found).1

theorem le64_append_inj {a b : UInt64} {restA restB : List UInt8} (same : le64 a ++ restA = le64 b ++ restB) :
    a = b ∧ restA = restB := by
  obtain ⟨first, rest⟩ := List.append_inj same (by simp)
  exact ⟨le64_injective first, rest⟩

theorem owners_append_inj {ownersA ownersB : List OwnerRef} {restA restB : List UInt8}
    (length : ownersA.length = ownersB.length)
    (same : ownersA.flatMap ownerBytes ++ restA = ownersB.flatMap ownerBytes ++ restB) :
    ownersA = ownersB ∧ restA = restB := by
  induction ownersA generalizing ownersB with
  | nil =>
    obtain rfl : ownersB = [] := List.length_eq_zero_iff.mp length.symm
    exact ⟨rfl, same⟩
  | cons first rest ih =>
    cases ownersB with
    | nil => cases length
    | cons second others =>
      simp only [List.flatMap_cons, ownerBytes, List.append_assoc] at same
      obtain ⟨device, same⟩ := le64_append_inj same
      obtain ⟨incarnation, same⟩ := le64_append_inj same
      obtain ⟨later, same⟩ := ih (Nat.succ.inj length) same
      refine ⟨?_, same⟩
      rw [later]
      cases first
      cases second
      simp_all

/-- What authority over a resource depends on. -/
structure ResourceFacts where
  capacityKnown : Bool
  capacity : UInt64
  owners : List OwnerRef
deriving DecidableEq

def ResourceState.facts (state : ResourceState) : ResourceFacts :=
  ⟨state.capacityKnown, state.capacity, state.owners⟩

/-- The bytes of one resource end where they end, whatever follows, and tell its facts. -/
theorem stateBytes_append_inj {a b : Option ResourceState} {restA restB : List UInt8}
    (sizedA : ∀ state, a = some state → state.owners.length < 2 ^ 64)
    (sizedB : ∀ state, b = some state → state.owners.length < 2 ^ 64)
    (same : stateBytes a ++ restA = stateBytes b ++ restB) :
    a.map ResourceState.facts = b.map ResourceState.facts ∧ restA = restB := by
  have apart : ∀ (first second : List UInt8), text "absent" ++ first ≠ text "present" ++ second := by
    intro first second equal
    have heads := congrArg List.head? equal
    have absent : (text "absent" ++ first).head? = some 97 := rfl
    have present : (text "present" ++ second).head? = some 112 := rfl
    rw [absent, present] at heads
    exact absurd heads (by decide)
  cases a with
  | none =>
    cases b with
    | none => exact ⟨rfl, List.append_cancel_left same⟩
    | some state =>
      rw [stateBytes, stateBytes, List.append_assoc] at same
      exact absurd same (apart _ _)
  | some stateA =>
    cases b with
    | none =>
      rw [stateBytes, stateBytes, List.append_assoc] at same
      exact absurd same.symm (apart _ _)
    | some stateB =>
      simp only [stateBytes, List.append_assoc] at same
      obtain ⟨measured, same⟩ := le64_append_inj (List.append_cancel_left same)
      obtain ⟨capacity, same⟩ := le64_append_inj same
      obtain ⟨counts, same⟩ := le64_append_inj same
      have values := congrArg UInt64.toNat counts
      rw [UInt64.toNat_ofNat', UInt64.toNat_ofNat', Nat.mod_eq_of_lt (sizedA stateA rfl),
        Nat.mod_eq_of_lt (sizedB stateB rfl)] at values
      obtain ⟨owners, same⟩ := owners_append_inj values same
      have known : stateA.capacityKnown = stateB.capacityKnown := by
        cases first : stateA.capacityKnown <;> cases second : stateB.capacityKnown <;> simp_all
      refine ⟨?_, same⟩
      simp only [Option.map_some, ResourceState.facts, known, capacity, owners]

/-- Equal basis inputs are about the same epoch, the same scope and the same facts of its resources. -/
theorem basisInput_inj {first second : Snapshot} (sizedFirst : first.Sized) (sizedSecond : second.Sized)
    {a b : List ResourceRef} (same : basisInput first a = basisInput second b) :
    first.data.epoch = second.data.epoch ∧ a = b ∧
      ∀ ref ∈ a, (first.find ref).map ResourceState.facts = (second.find ref).map ResourceState.facts := by
  obtain ⟨epochs, resources⟩ := le64_append_inj (List.append_cancel_left same)
  refine ⟨epochs, ?_⟩
  clear same
  induction a generalizing b with
  | nil =>
    cases b with
    | nil => exact ⟨rfl, fun ref member => by cases member⟩
    | cons ref rest =>
      have lengths := congrArg List.length resources
      simp [resourceBytes] at lengths
      omega
  | cons refA restA ih =>
    cases b with
    | nil =>
      have lengths := congrArg List.length resources
      simp [resourceBytes] at lengths
    | cons refB restB =>
      simp only [List.flatMap_cons, resourceBytes, List.append_assoc] at resources
      obtain ⟨kinds, same⟩ := le64_append_inj resources
      obtain ⟨ids, same⟩ := le64_append_inj same
      obtain ⟨facts, rest⟩ := stateBytes_append_inj (sizedFirst.find refA) (sizedSecond.find refB) same
      have kind : refA.kind = refB.kind := by
        apply ResourceKind.code_injective
        have values := congrArg UInt64.toNat kinds
        exact UInt8.toNat_inj.mp (by simpa using values)
      obtain rfl : refA = refB := by
        cases refA
        cases refB
        simp_all
      obtain ⟨equal, others⟩ := ih rest
      refine ⟨by rw [equal], ?_⟩
      intro ref member
      rcases List.mem_cons.mp member with rfl | later
      · exact facts
      · exact others ref later

/-- Scopes with the same basis input are the same. -/
theorem scope_of_basisInput {first second : Snapshot} (sizedFirst : first.Sized) (sizedSecond : second.Sized)
    {a b : List ResourceRef} (same : basisInput first a = basisInput second b) : a = b :=
  (basisInput_inj sizedFirst sizedSecond same).2.1

end RackFabric
