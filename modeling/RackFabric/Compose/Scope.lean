import RackFabric.Compose.Snapshot
import RackFabric.Model.Sorting

/-!
Scope expansion: the set of resources a root reference stands for in a snapshot.
-/

namespace RackFabric

def onDevice (snapshot : Snapshot) (device port : UInt64) : Bool :=
  match snapshot.findPort port with
  | none => false
  | some record => record.device == device

/-- The resources a scope names, before sorting. A kind no enumerator names expands to nothing. -/
def scopeMembers (snapshot : Snapshot) (root : ResourceRef) : Result (List ResourceRef) :=
  let data := snapshot.data
  match root.kind with
  | .rack =>
    if root.id ≠ data.rack then refuse .outOfRack "scope names a different rack"
    else .ok (data.resources.map ResourceState.ref)
  | .device =>
    match snapshot.findDevice root.id with
    | none => refuse .notAMember "scope names a device that is not a member"
    | some _ =>
      let ports := (data.ports.filter (·.device == root.id)).map fun port => ⟨.port, port.id⟩
      let links := (data.links.filter fun link =>
        onDevice snapshot root.id link.portA || onDevice snapshot root.id link.portB).map
          fun link => ⟨.link, link.id⟩
      let attachments := (data.attachments.filter (·.device == root.id)).map
        fun attachment => ⟨.attachment, attachment.id⟩
      .ok (root :: ports ++ links ++ attachments)
  | .port =>
    match snapshot.findPort root.id with
    | none => refuse .notAMember "scope names a port that is not in the rack"
    | some _ =>
      let links := (data.links.filter fun link => link.portA == root.id || link.portB == root.id).map
        fun link => ⟨.link, link.id⟩
      let attachments := (data.attachments.filter (·.port == root.id)).map
        fun attachment => ⟨.attachment, attachment.id⟩
      .ok (root :: links ++ attachments)
  | .link =>
    match snapshot.findLink root.id with
    | none => refuse .notAMember "scope names a link that is not in the rack"
    | some record => .ok [root, ⟨.port, record.portA⟩, ⟨.port, record.portB⟩]
  | .attachment =>
    match snapshot.findAttachment root.id with
    | none => refuse .notAMember "scope names an attachment that is not in the rack"
    | some _ => .ok [root]
  | .path =>
    match snapshot.findPath root.id with
    | none => refuse .notAMember "scope names a path that is not in the rack"
    | some path => .ok (root :: path.links.map fun link => ⟨.link, link⟩)
  | .unnamed .. => .ok []

/-- Resolve the resources a scope names, sorted and without duplicates. -/
def expandScope (snapshot : Snapshot) (root : ResourceRef) : Result (List ResourceRef) :=
  if !snapshot.valid then refuse .invalidArgument "snapshot handle is empty"
  else do
    let out ← scopeMembers snapshot root
    .ok (uniqueBy (· == ·) (sortBy ResourceRef.less out))

/-- What a scope stands for in a snapshot; one that no longer resolves stands for nothing. -/
def scopeUnder (snapshot : Snapshot) (root : ResourceRef) : List ResourceRef :=
  match expandScope snapshot root with
  | .error _ => []
  | .ok scope => scope

/-- Walks two sorted scopes side by side. -/
def scopesIntersect : List ResourceRef → List ResourceRef → Bool
  | [], _ => false
  | _, [] => false
  | a :: restA, b :: restB =>
    if a == b then true
    else if a.less b then scopesIntersect restA (b :: restB)
    else scopesIntersect (a :: restA) restB
termination_by first second => first.length + second.length

theorem ResourceRef.less_iff (a b : ResourceRef) :
    a.less b = true ↔
      a.kind.code.toNat < b.kind.code.toNat ∨ (a.kind = b.kind ∧ a.id.toNat < b.id.toNat) := by
  by_cases kinds : a.kind = b.kind
  · simp [ResourceRef.less, kinds, UInt64.lt_iff_toNat_lt]
  · simp [ResourceRef.less, kinds, UInt8.lt_iff_toNat_lt]

theorem ResourceRef.not_less_iff (a b : ResourceRef) :
    a.less b = false ↔
      b.kind.code.toNat < a.kind.code.toNat ∨ (b.kind = a.kind ∧ b.id.toNat ≤ a.id.toNat) := by
  rw [← Bool.not_eq_true, ResourceRef.less_iff]
  by_cases kinds : a.kind = b.kind
  · simp [kinds]
  · have codes : a.kind.code.toNat ≠ b.kind.code.toNat :=
      fun same => kinds (ResourceKind.code_injective (UInt8.toNat_inj.mp same))
    simp only [kinds, Ne.symm kinds, false_and, or_false]
    omega

theorem ResourceRef.orders : Orders ResourceRef.less := by
  constructor
  · intro a b before
    rw [ResourceRef.less_iff] at before
    rw [ResourceRef.not_less_iff]
    rcases before with kinds | ⟨same, ids⟩
    · exact .inl kinds
    · exact .inr ⟨same, by omega⟩
  · intro a b c first second
    rw [ResourceRef.not_less_iff] at first second ⊢
    rcases first with first | ⟨sameFirst, first⟩
    · rcases second with second | ⟨sameSecond, second⟩
      · exact .inl (by omega)
      · exact .inl (by rw [← sameSecond]; exact first)
    · rcases second with second | ⟨sameSecond, second⟩
      · exact .inl (by rw [sameFirst]; exact second)
      · exact .inr ⟨sameFirst.trans sameSecond, by omega⟩

theorem ResourceRef.eq_of_not_less (a b : ResourceRef) (first : a.less b = false) (second : b.less a = false) :
    a = b := by
  rw [ResourceRef.not_less_iff] at first second
  rcases first with first | ⟨same, first⟩
  · rcases second with second | ⟨same, second⟩
    · omega
    · rw [same] at first
      omega
  · rcases second with second | ⟨-, second⟩
    · rw [same] at second
      omega
    · have ids : a.id = b.id := UInt64.toNat_inj.mp (by omega)
      cases a
      cases b
      simp_all

/-- An expanded scope names each resource once. -/
theorem expandScope_nodup {snapshot : Snapshot} {root : ResourceRef} {scope : List ResourceRef}
    (expanded : expandScope snapshot root = .ok scope) : scope.Nodup := by
  unfold expandScope at expanded
  split at expanded
  · cases expanded
  · obtain ⟨members, -, same⟩ := bind_eq_ok.mp expanded
    cases same
    exact nodup_uniqueBy ResourceRef.eq_of_not_less (sortBy_inOrder ResourceRef.orders members)

/-- An expanded scope names its resources in order. -/
theorem expandScope_inOrder {snapshot : Snapshot} {root : ResourceRef} {scope : List ResourceRef}
    (expanded : expandScope snapshot root = .ok scope) : InOrder ResourceRef.less scope := by
  unfold expandScope at expanded
  split at expanded
  · cases expanded
  · obtain ⟨members, -, same⟩ := bind_eq_ok.mp expanded
    cases same
    exact (sortBy_inOrder ResourceRef.orders members).sublist (uniqueBy_sublist _ _)

/-- The walk over two scopes in order finds a common resource when there is one. -/
theorem scopesIntersect_iff {first second : List ResourceRef} (inFirst : InOrder ResourceRef.less first)
    (inSecond : InOrder ResourceRef.less second) :
    scopesIntersect first second = true ↔ ∃ ref ∈ first, ref ∈ second := by
  induction first, second using scopesIntersect.induct with
  | case1 second => simp [scopesIntersect]
  | case2 first => cases first <;> simp [scopesIntersect]
  | case3 a restA b restB same =>
    rw [scopesIntersect, if_pos same]
    refine ⟨fun _ => ⟨a, by simp, ?_⟩, fun _ => rfl⟩
    rw [eq_of_beq same]
    exact List.mem_cons_self
  | case4 a restA b restB different before ih =>
    rw [scopesIntersect, if_neg different, if_pos before, ih inFirst.tail inSecond]
    constructor
    · rintro ⟨ref, member, shared⟩
      exact ⟨ref, List.mem_cons_of_mem a member, shared⟩
    · rintro ⟨ref, member, shared⟩
      rcases List.mem_cons.mp member with rfl | later
      · -- The head of the first scope precedes all of the second.
        rcases List.mem_cons.mp shared with rfl | behind
        · exact absurd (beq_self_eq_true ref) different
        · have after := (List.pairwise_cons.mp inSecond).1 ref behind
          rw [before] at after
          cases after
      · exact ⟨ref, later, shared⟩
  | case5 a restA b restB different after ih =>
    rw [scopesIntersect, if_neg different, if_neg after, ih inFirst inSecond.tail]
    have notBefore : a.less b = false := by simpa using after
    constructor
    · rintro ⟨ref, member, shared⟩
      exact ⟨ref, member, List.mem_cons_of_mem b shared⟩
    · rintro ⟨ref, member, shared⟩
      rcases List.mem_cons.mp shared with rfl | behind
      · rcases List.mem_cons.mp member with rfl | later
        · exact absurd (beq_self_eq_true ref) different
        · have notAfter := (List.pairwise_cons.mp inFirst).1 ref later
          exact absurd (beq_iff_eq.mpr (ResourceRef.eq_of_not_less a ref notBefore notAfter)) different
      · exact ⟨ref, member, behind⟩

end RackFabric
