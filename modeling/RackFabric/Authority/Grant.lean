import RackFabric.Compose.Composer

/-!
Grants: the right to use rack resources, bound to a generation, an epoch, the incarnation that issued it and
a digest of what its scope depends on.
-/

namespace RackFabric

/-- The bearer token handed to the holder. -/
structure LeaseToken where
  grant : UInt64
  fence : UInt64
  incarnation : UInt64
  scopeBasis : Digest
deriving DecidableEq, Repr

structure Grant where
  id : UInt64
  request : RequestId
  principal : UInt64
  scope : ResourceRef
  mode : GrantMode
  capacity : UInt64
  generation : UInt64
  epoch : UInt64
  incarnation : UInt64
  fence : UInt64
  issuedAtMs : UInt64
  expiresAtMs : UInt64
  state : GrantState
  authorityBasis : Digest
  capacityPool : List ResourceRef
  reason : Text := []
deriving DecidableEq, Repr

def Grant.token (grant : Grant) : LeaseToken :=
  { grant := grant.id
    fence := grant.fence
    incarnation := grant.incarnation
    scopeBasis := grant.authorityBasis }

/-- A request for authority, idempotent in its request identity. -/
structure GrantRequest where
  request : RequestId
  principal : UInt64
  scope : ResourceRef
  mode : GrantMode
  capacity : UInt64
  ttlMs : UInt64
deriving DecidableEq, Repr

def kMaxPoolRefs : Nat := 64
def kMaxReasonText : Nat := 128

def encodeRef (writer : ByteWriter) (ref : ResourceRef) : ByteWriter :=
  (writer.u8 ref.kind.code).u64 ref.id

/-- The fields of a grant record, in order. -/
def writeGrant (grant : Grant) (writer : ByteWriter) : ByteWriter :=
  let writer := writer.u64 grant.id
  let writer := writer.u64 grant.request.hi
  let writer := writer.u64 grant.request.lo
  let writer := writer.u64 grant.principal
  let writer := encodeRef writer grant.scope
  let writer := writer.u8 grant.mode.code
  let writer := writer.u64 grant.capacity
  let writer := writer.u64 grant.generation
  let writer := writer.u64 grant.epoch
  let writer := writer.u64 grant.incarnation
  let writer := writer.u64 grant.fence
  let writer := writer.u64 grant.issuedAtMs
  let writer := writer.u64 grant.expiresAtMs
  let writer := writer.u8 grant.state.code
  let writer := writer.digest grant.authorityBasis
  let writer := writer.list grant.capacityPool encodeRef
  writer.text grant.reason kMaxReasonText

def encodeGrant (grant : Grant) (writer : ByteWriter) : Result ByteWriter :=
  if !(writeGrant grant writer).ok then refuse .oversizeField "grant record exceeds its encoding bound"
  else .ok (writeGrant grant writer)

def grantDigest (grant : Grant) : Digest :=
  match encodeGrant grant { limit := 4096 } with
  | .ok writer => Blake2s256.hash writer.buffer
  | .error _ =>
    Blake2s256.final (Blake2s256.update Blake2s256.reset (text "rnf.grant.unencodable"))

def absorbResource (snapshot : Snapshot) (hasher : Blake2s256.State) (ref : ResourceRef) :
    Blake2s256.State :=
  let hasher := Blake2s256.updateLe64 hasher ref.kind.code.toUInt64
  let hasher := Blake2s256.updateLe64 hasher ref.id
  match snapshot.find ref with
  | none => Blake2s256.update hasher (text "absent")
  | some state =>
    let hasher := Blake2s256.update hasher (text "present")
    let hasher := Blake2s256.updateLe64 hasher (if state.capacityKnown then 1 else 0)
    let hasher := Blake2s256.updateLe64 hasher state.capacity
    let hasher := Blake2s256.updateLe64 hasher (UInt64.ofNat state.owners.length)
    state.owners.foldl
      (fun hasher owner =>
        Blake2s256.updateLe64 (Blake2s256.updateLe64 hasher owner.device) owner.incarnation) hasher

/-- Fingerprint of the member incarnations and capacities a scope depends on. -/
def authorityBasisDigest (snapshot : Snapshot) (scope : List ResourceRef) : Digest :=
  let hasher := Blake2s256.update Blake2s256.reset (text "rnf.basis.v1")
  let hasher := Blake2s256.updateLe64 hasher snapshot.data.epoch
  Blake2s256.final (scope.foldl (absorbResource snapshot) hasher)

/-- The pools a grant on this root draws from: the rack, the root and every device that owns the root. -/
def capacityPoolRefs (snapshot : Snapshot) (root : ResourceRef) : Result (List ResourceRef) :=
  if !snapshot.valid then refuse .invalidArgument "snapshot handle is empty"
  else
    match snapshot.find root with
    | none => refuse .notAMember "scope names a resource outside this rack"
    | some state =>
      let owners := state.owners.map fun owner => (⟨.device, owner.device⟩ : ResourceRef)
      let pool := uniqueBy (· == ·)
        (sortBy ResourceRef.less (⟨.rack, snapshot.data.rack⟩ :: root :: owners))
      if pool.length > kMaxPoolRefs then refuse .resourceExhausted "capacity pool exceeds its bound"
      else .ok pool

end RackFabric
