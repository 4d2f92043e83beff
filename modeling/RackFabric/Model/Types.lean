import RackFabric.Core.Bytes

/-!
Rack-scoped vocabulary. Every enumeration of the source is one byte on the wire and on disk, and most are
cast from that byte without a range check, so each type keeps the bytes that no enumerator names.
-/

namespace RackFabric

inductive DeviceRole where
  | unknown | switch | host | appliance | management | synthetic
  | unnamed (byte : UInt8) (fresh : 5 < byte)
deriving DecidableEq, Repr

def DeviceRole.code : DeviceRole → UInt8
  | .unknown => 0 | .switch => 1 | .host => 2 | .appliance => 3 | .management => 4 | .synthetic => 5
  | .unnamed byte _ => byte

inductive PortRole where
  | unknown | access | uplink | fabric | peer | management
  | unnamed (byte : UInt8) (fresh : 5 < byte)
deriving DecidableEq, Repr

def PortRole.code : PortRole → UInt8
  | .unknown => 0 | .access => 1 | .uplink => 2 | .fabric => 3 | .peer => 4 | .management => 5
  | .unnamed byte _ => byte

inductive LinkKind where
  | unknown | physical | logical | peer
  | unnamed (byte : UInt8) (fresh : 3 < byte)
deriving DecidableEq, Repr

def LinkKind.code : LinkKind → UInt8
  | .unknown => 0 | .physical => 1 | .logical => 2 | .peer => 3
  | .unnamed byte _ => byte

inductive AdminState where
  | unknown | enabled | disabled | draining
  | unnamed (byte : UInt8) (fresh : 3 < byte)
deriving DecidableEq, Repr

def AdminState.code : AdminState → UInt8
  | .unknown => 0 | .enabled => 1 | .disabled => 2 | .draining => 3
  | .unnamed byte _ => byte

inductive Availability where
  | unknown | down | maintenance | degraded | up
  | unnamed (byte : UInt8) (fresh : 4 < byte)
deriving DecidableEq, Repr

def Availability.code : Availability → UInt8
  | .unknown => 0 | .down => 1 | .maintenance => 2 | .degraded => 3 | .up => 4
  | .unnamed byte _ => byte

/-- Keeps the least usable of two observations; the rank is the byte itself. -/
def combineAvailability (a b : Availability) : Availability :=
  if a.code ≤ b.code then a else b

inductive Eligibility where
  | eligible | ineligible | unknown | incomplete
  | unnamed (byte : UInt8) (fresh : byte = 0 ∨ 4 < byte)
deriving DecidableEq, Repr

def Eligibility.code : Eligibility → UInt8
  | .eligible => 1 | .ineligible => 2 | .unknown => 3 | .incomplete => 4
  | .unnamed byte _ => byte

def Eligibility.toText : Eligibility → Text
  | .eligible => text "eligible"
  | .ineligible => text "ineligible"
  | .unknown => text "unknown"
  | .incomplete => text "incomplete"
  | .unnamed .. => text "unknown"

inductive ResourceKind where
  | rack | device | port | link | attachment | path
  | unnamed (byte : UInt8) (fresh : byte = 0 ∨ 6 < byte)
deriving DecidableEq, Repr

def ResourceKind.code : ResourceKind → UInt8
  | .rack => 1 | .device => 2 | .port => 3 | .link => 4 | .attachment => 5 | .path => 6
  | .unnamed byte _ => byte

def ResourceKind.toText : ResourceKind → Text
  | .rack => text "rack"
  | .device => text "device"
  | .port => text "port"
  | .link => text "link"
  | .attachment => text "attachment"
  | .path => text "path"
  | .unnamed .. => text "unknown"

theorem ResourceKind.code_injective {a b : ResourceKind} (same : a.code = b.code) : a = b := by
  cases a <;> cases b <;> simp_all [ResourceKind.code] <;>
    (subst_vars; rename_i fresh; revert fresh; decide)

/-- A concrete resource the authority layer can name in a scope. -/
structure ResourceRef where
  kind : ResourceKind := .rack
  id : UInt64 := 0
deriving DecidableEq, Repr

instance : Ord ResourceRef :=
  ⟨compareLex (compareOn fun ref => ref.kind.code) (compareOn fun ref => ref.id)⟩

instance : Std.TransOrd ResourceRef :=
  inferInstanceAs (Std.TransCmp (compareLex (compareOn _) (compareOn _)))

instance : Std.LawfulEqOrd ResourceRef where
  eq_of_compare {a b} same := by
    obtain ⟨kinds, ids⟩ := compareLex_eq_eq.mp same
    have sameKind : a.kind = b.kind := ResourceKind.code_injective (Std.LawfulEqOrd.eq_of_compare kinds)
    have sameId : a.id = b.id := Std.LawfulEqOrd.eq_of_compare ids
    cases a; cases b; simp_all

def ResourceRef.toText (ref : ResourceRef) : Text :=
  ref.kind.toText ++ text ":" ++ decimal ref.id

/-- 128 bit client supplied request identity. -/
structure RequestId where
  hi : UInt64 := 0
  lo : UInt64 := 0
deriving DecidableEq, Repr

def RequestId.isSet (request : RequestId) : Bool :=
  request.hi != 0 || request.lo != 0

instance : Ord RequestId :=
  ⟨compareLex (compareOn fun request => request.hi) (compareOn fun request => request.lo)⟩

instance : Std.TransOrd RequestId :=
  inferInstanceAs (Std.TransCmp (compareLex (compareOn _) (compareOn _)))

instance : Std.LawfulEqOrd RequestId where
  eq_of_compare {a b} same := by
    obtain ⟨his, los⟩ := compareLex_eq_eq.mp same
    have sameHi : a.hi = b.hi := Std.LawfulEqOrd.eq_of_compare his
    have sameLo : a.lo = b.lo := Std.LawfulEqOrd.eq_of_compare los
    cases a; cases b; simp_all

/-- Rack lifecycle. Retired is terminal. -/
inductive LifecycleState where
  | assembling | active | degraded | draining | maintenance | recovering | retired
  | unnamed (byte : UInt8) (fresh : byte = 0 ∨ 7 < byte)
deriving DecidableEq, Repr

def LifecycleState.code : LifecycleState → UInt8
  | .assembling => 1 | .active => 2 | .degraded => 3 | .draining => 4 | .maintenance => 5
  | .recovering => 6 | .retired => 7
  | .unnamed byte _ => byte

def LifecycleState.toText : LifecycleState → Text
  | .assembling => text "assembling"
  | .active => text "active"
  | .degraded => text "degraded"
  | .draining => text "draining"
  | .maintenance => text "maintenance"
  | .recovering => text "recovering"
  | .retired => text "retired"
  | .unnamed .. => text "unknown"

def lifecycleAcceptsNewAuthority (state : LifecycleState) : Bool :=
  state == .active || state == .degraded

def lifecycleHonoursExistingAuthority : LifecycleState → Bool
  | .active | .degraded | .draining => true
  | .assembling | .maintenance | .recovering | .retired => false
  | .unnamed .. => false

/-- Legal lifecycle transitions. -/
def lifecycleTransitionAllowed (source target : LifecycleState) : Bool :=
  if source = target then true
  else if source = .retired then false
  else
    match source with
    | .assembling => target == .active || target == .degraded || target == .retired || target == .recovering
    | .active =>
      target == .degraded || target == .draining || target == .maintenance || target == .recovering ||
        target == .retired || target == .assembling
    | .degraded =>
      target == .active || target == .draining || target == .maintenance || target == .recovering ||
        target == .retired
    | .draining =>
      target == .maintenance || target == .active || target == .degraded || target == .recovering ||
        target == .retired
    | .maintenance => target == .draining || target == .recovering || target == .retired
    | .recovering =>
      target == .active || target == .degraded || target == .draining || target == .maintenance ||
        target == .retired
    | .retired => false
    | .unnamed .. => false

inductive EvidenceKind where
  | member | device | port | link | attachment | maintenance | obligation
  | unnamed (byte : UInt8) (fresh : byte = 0 ∨ 7 < byte)
deriving DecidableEq, Repr

def EvidenceKind.code : EvidenceKind → UInt8
  | .member => 1 | .device => 2 | .port => 3 | .link => 4 | .attachment => 5 | .maintenance => 6
  | .obligation => 7
  | .unnamed byte _ => byte

theorem EvidenceKind.code_injective {a b : EvidenceKind} (same : a.code = b.code) : a = b := by
  cases a <;> cases b <;> simp_all [EvidenceKind.code] <;>
    (subst_vars; rename_i fresh; revert fresh; decide)

inductive SourceKind where
  | operator | discovery | imported | synthetic
  | unnamed (byte : UInt8) (fresh : byte = 0 ∨ 4 < byte)
deriving DecidableEq, Repr

def SourceKind.code : SourceKind → UInt8
  | .operator => 1 | .discovery => 2 | .imported => 3 | .synthetic => 4
  | .unnamed byte _ => byte

inductive Durability where
  | ephemeral | sticky
  | unnamed (byte : UInt8) (fresh : byte = 0 ∨ 2 < byte)
deriving DecidableEq, Repr

def Durability.code : Durability → UInt8
  | .ephemeral => 1 | .sticky => 2
  | .unnamed byte _ => byte

inductive MaintenanceKind where
  | drain | maintenance | clear
  | unnamed (byte : UInt8) (fresh : byte = 0 ∨ 3 < byte)
deriving DecidableEq, Repr

def MaintenanceKind.code : MaintenanceKind → UInt8
  | .drain => 1 | .maintenance => 2 | .clear => 3
  | .unnamed byte _ => byte

inductive DiagnosticKind where
  | staleEvidence | supersededEvidence | conflictingEvidence | incompleteTopology | outOfRack
  | unknownCapacity | capacityOvercommit | maintenanceExclusion | unsupportedObservation | unknownMember
  | replayedEvidence | unresolvedReference
  | unnamed (byte : UInt8) (fresh : byte = 0 ∨ 12 < byte)
deriving DecidableEq, Repr

def DiagnosticKind.code : DiagnosticKind → UInt8
  | .staleEvidence => 1 | .supersededEvidence => 2 | .conflictingEvidence => 3 | .incompleteTopology => 4
  | .outOfRack => 5 | .unknownCapacity => 6 | .capacityOvercommit => 7 | .maintenanceExclusion => 8
  | .unsupportedObservation => 9 | .unknownMember => 10 | .replayedEvidence => 11
  | .unresolvedReference => 12
  | .unnamed byte _ => byte

inductive InsertOutcome where
  | inserted | updated | duplicate | superseded | conflicted | refused
  | unnamed (byte : UInt8) (fresh : byte = 0 ∨ 6 < byte)
deriving DecidableEq, Repr

def InsertOutcome.code : InsertOutcome → UInt8
  | .inserted => 1 | .updated => 2 | .duplicate => 3 | .superseded => 4 | .conflicted => 5 | .refused => 6
  | .unnamed byte _ => byte

inductive GrantMode where
  | shared | exclusive
  | unnamed (byte : UInt8) (fresh : byte = 0 ∨ 2 < byte)
deriving DecidableEq, Repr

def GrantMode.code : GrantMode → UInt8
  | .shared => 1 | .exclusive => 2
  | .unnamed byte _ => byte

def GrantMode.toText : GrantMode → Text
  | .shared => text "shared"
  | .exclusive => text "exclusive"
  | .unnamed .. => text "unknown"

inductive GrantState where
  | pending | recovering | active | suspended | released | expired | fenced
  | unnamed (byte : UInt8) (fresh : byte = 0 ∨ 7 < byte)
deriving DecidableEq, Repr

def GrantState.code : GrantState → UInt8
  | .pending => 1 | .recovering => 2 | .active => 3 | .suspended => 4 | .released => 5 | .expired => 6
  | .fenced => 7
  | .unnamed byte _ => byte

structure Diagnostic where
  kind : DiagnosticKind
  subjectKind : EvidenceKind
  subjectId : UInt64
  source : UInt64
  detail : Text
deriving DecidableEq, Repr

/-- Diagnostics compare by kind, subject kind, subject, source and text, in that order. -/
def Diagnostic.less (a b : Diagnostic) : Bool :=
  if a.kind ≠ b.kind then a.kind.code < b.kind.code
  else if a.subjectKind ≠ b.subjectKind then a.subjectKind.code < b.subjectKind.code
  else if a.subjectId ≠ b.subjectId then a.subjectId < b.subjectId
  else if a.source ≠ b.source then a.source < b.source
  else lexLess a.detail b.detail

def insertSorted (less : α → α → Bool) (value : α) : List α → List α
  | [] => [value]
  | head :: tail => if less value head then value :: head :: tail else head :: insertSorted less value tail

/-- Stable sort under a strict order. Every sort of the source orders by a total key or is followed by the
removal of equal elements, so stability is not observable. -/
def sortBy (less : α → α → Bool) (values : List α) : List α :=
  values.foldl (fun sorted value => insertSorted less value sorted) []

def uniqueAfter (same : α → α → Bool) (last : α) : List α → List α
  | [] => []
  | head :: tail =>
    if same last head then uniqueAfter same last tail else head :: uniqueAfter same head tail

/-- `std::unique`: keeps the first of every run of equal neighbours. -/
def uniqueBy (same : α → α → Bool) : List α → List α
  | [] => []
  | head :: tail => head :: uniqueAfter same head tail

end RackFabric
