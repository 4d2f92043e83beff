import RackFabric.Authority.Grant

/-!
Enumerators read back from their bytes, as the source's unchecked casts do: a byte that names none is kept.
-/

namespace RackFabric

/-- A code is a named enumerator, or it is kept as it is. -/
def castCode {κ α : Type} (fresh : κ → Prop) [DecidablePred fresh] (unnamed : (code : κ) → fresh code → α)
    (named : κ → α) (code : κ) : α :=
  if isFresh : fresh code then unnamed code isFresh else named code

/-- A byte is the code of what it is cast to when the bytes up to the last named one are. -/
theorem code_castCode {α : Type} {fresh : UInt8 → Prop} [DecidablePred fresh]
    {unnamed : (code : UInt8) → fresh code → α} {named : UInt8 → α} {code : α → UInt8} {byte : UInt8}
    (last : UInt8) (kept : ∀ byte isFresh, code (unnamed byte isFresh) = byte)
    (above : ∀ byte : UInt8, last < byte → fresh byte)
    (every : ∀ n : Fin (last.toNat + 1), ¬ fresh (UInt8.ofNat n) → code (named (UInt8.ofNat n)) = UInt8.ofNat n) :
    code (castCode fresh unnamed named byte) = byte := by
  rw [castCode]
  split
  · exact kept byte _
  · rename_i stale
    have small := Nat.lt_succ_of_le (UInt8.le_iff_toNat_le.mp (UInt8.not_lt.mp fun large => stale (above byte large)))
    have read := every ⟨byte.toNat, small⟩
    rw [UInt8.ofNat_toNat] at read
    exact read stale

/-- A byte read and written without loss either way. -/
theorem code_eq_iff {κ α : Type} {code : α → κ} {ofCode : κ → α} (reads : ∀ value, ofCode (code value) = value)
    (writes : ∀ byte, code (ofCode byte) = byte) {value : α} {byte : κ} : code value = byte ↔ value = ofCode byte := by
  constructor
  · rintro rfl
    exact (reads value).symm
  · rintro rfl
    exact writes byte

def DeviceRole.ofCode : UInt8 → DeviceRole :=
  castCode (fun byte => 5 < byte) DeviceRole.unnamed fun byte =>
    [.unknown, .switch, .host, .appliance, .management, .synthetic].getD byte.toNat .unknown

@[simp] theorem DeviceRole.ofCode_code (value : DeviceRole) : DeviceRole.ofCode value.code = value := by
  cases value with
  | unnamed byte fresh => exact dif_pos fresh
  | _ => rfl

def PortRole.ofCode : UInt8 → PortRole :=
  castCode (fun byte => 5 < byte) PortRole.unnamed fun byte =>
    [.unknown, .access, .uplink, .fabric, .peer, .management].getD byte.toNat .unknown

@[simp] theorem PortRole.ofCode_code (value : PortRole) : PortRole.ofCode value.code = value := by
  cases value with
  | unnamed byte fresh => exact dif_pos fresh
  | _ => rfl

def LinkKind.ofCode : UInt8 → LinkKind :=
  castCode (fun byte => 3 < byte) LinkKind.unnamed fun byte =>
    [.unknown, .physical, .logical, .peer].getD byte.toNat .unknown

@[simp] theorem LinkKind.ofCode_code (value : LinkKind) : LinkKind.ofCode value.code = value := by
  cases value with
  | unnamed byte fresh => exact dif_pos fresh
  | _ => rfl

def AdminState.ofCode : UInt8 → AdminState :=
  castCode (fun byte => 3 < byte) AdminState.unnamed fun byte =>
    [.unknown, .enabled, .disabled, .draining].getD byte.toNat .unknown

@[simp] theorem AdminState.ofCode_code (value : AdminState) : AdminState.ofCode value.code = value := by
  cases value with
  | unnamed byte fresh => exact dif_pos fresh
  | _ => rfl

def Availability.ofCode : UInt8 → Availability :=
  castCode (fun byte => 4 < byte) Availability.unnamed fun byte =>
    [.unknown, .down, .maintenance, .degraded, .up].getD byte.toNat .unknown

@[simp] theorem Availability.ofCode_code (value : Availability) : Availability.ofCode value.code = value := by
  cases value with
  | unnamed byte fresh => exact dif_pos fresh
  | _ => rfl

def ResourceKind.ofCode : UInt8 → ResourceKind :=
  castCode (fun byte => byte = 0 ∨ 6 < byte) ResourceKind.unnamed fun byte =>
    [.rack, .device, .port, .link, .attachment, .path].getD (byte.toNat - 1) .rack

@[simp] theorem ResourceKind.ofCode_code (value : ResourceKind) : ResourceKind.ofCode value.code = value := by
  cases value with
  | unnamed byte fresh => exact dif_pos fresh
  | _ => rfl

def LifecycleState.ofCode : UInt8 → LifecycleState :=
  castCode (fun byte => byte = 0 ∨ 7 < byte) LifecycleState.unnamed fun byte =>
    [.assembling, .active, .degraded, .draining, .maintenance, .recovering, .retired].getD (byte.toNat - 1)
      .assembling

@[simp] theorem LifecycleState.ofCode_code (value : LifecycleState) : LifecycleState.ofCode value.code = value := by
  cases value with
  | unnamed byte fresh => exact dif_pos fresh
  | _ => rfl

def SourceKind.ofCode : UInt8 → SourceKind :=
  castCode (fun byte => byte = 0 ∨ 4 < byte) SourceKind.unnamed fun byte =>
    [.operator, .discovery, .imported, .synthetic].getD (byte.toNat - 1) .operator

@[simp] theorem SourceKind.ofCode_code (value : SourceKind) : SourceKind.ofCode value.code = value := by
  cases value with
  | unnamed byte fresh => exact dif_pos fresh
  | _ => rfl

def Durability.ofCode : UInt8 → Durability :=
  castCode (fun byte => byte = 0 ∨ 2 < byte) Durability.unnamed fun byte =>
    [.ephemeral, .sticky].getD (byte.toNat - 1) .ephemeral

@[simp] theorem Durability.ofCode_code (value : Durability) : Durability.ofCode value.code = value := by
  cases value with
  | unnamed byte fresh => exact dif_pos fresh
  | _ => rfl

def MaintenanceKind.ofCode : UInt8 → MaintenanceKind :=
  castCode (fun byte => byte = 0 ∨ 3 < byte) MaintenanceKind.unnamed fun byte =>
    [.drain, .maintenance, .clear].getD (byte.toNat - 1) .drain

@[simp] theorem MaintenanceKind.ofCode_code (value : MaintenanceKind) :
    MaintenanceKind.ofCode value.code = value := by
  cases value with
  | unnamed byte fresh => exact dif_pos fresh
  | _ => rfl

def GrantMode.ofCode : UInt8 → GrantMode :=
  castCode (fun byte => byte = 0 ∨ 2 < byte) GrantMode.unnamed fun byte =>
    [.shared, .exclusive].getD (byte.toNat - 1) .shared

@[simp] theorem GrantMode.ofCode_code (value : GrantMode) : GrantMode.ofCode value.code = value := by
  cases value with
  | unnamed byte fresh => exact dif_pos fresh
  | _ => rfl

def GrantState.ofCode : UInt8 → GrantState :=
  castCode (fun byte => byte = 0 ∨ 7 < byte) GrantState.unnamed fun byte =>
    [.pending, .recovering, .active, .suspended, .released, .expired, .fenced].getD (byte.toNat - 1) .pending

@[simp] theorem GrantState.ofCode_code (value : GrantState) : GrantState.ofCode value.code = value := by
  cases value with
  | unnamed byte fresh => exact dif_pos fresh
  | _ => rfl

def Eligibility.ofCode : UInt8 → Eligibility :=
  castCode (fun byte => byte = 0 ∨ 4 < byte) Eligibility.unnamed fun byte =>
    [.eligible, .ineligible, .unknown, .incomplete].getD (byte.toNat - 1) .eligible

@[simp] theorem Eligibility.ofCode_code (value : Eligibility) : Eligibility.ofCode value.code = value := by
  cases value with
  | unnamed byte fresh => exact dif_pos fresh
  | _ => rfl

def EvidenceKind.ofCode : UInt8 → EvidenceKind :=
  castCode (fun byte => byte = 0 ∨ 7 < byte) EvidenceKind.unnamed fun byte =>
    [.member, .device, .port, .link, .attachment, .maintenance, .obligation].getD (byte.toNat - 1) .member

@[simp] theorem EvidenceKind.ofCode_code (value : EvidenceKind) : EvidenceKind.ofCode value.code = value := by
  cases value with
  | unnamed byte fresh => exact dif_pos fresh
  | _ => rfl

def DiagnosticKind.ofCode : UInt8 → DiagnosticKind :=
  castCode (fun byte => byte = 0 ∨ 12 < byte) DiagnosticKind.unnamed fun byte =>
    [.staleEvidence, .supersededEvidence, .conflictingEvidence, .incompleteTopology, .outOfRack, .unknownCapacity,
     .capacityOvercommit, .maintenanceExclusion, .unsupportedObservation, .unknownMember, .replayedEvidence,
     .unresolvedReference].getD (byte.toNat - 1) .staleEvidence

@[simp] theorem DiagnosticKind.ofCode_code (value : DiagnosticKind) : DiagnosticKind.ofCode value.code = value := by
  cases value with
  | unnamed byte fresh => exact dif_pos fresh
  | _ => rfl

def InsertOutcome.ofCode : UInt8 → InsertOutcome :=
  castCode (fun byte => byte = 0 ∨ 6 < byte) InsertOutcome.unnamed fun byte =>
    [.inserted, .updated, .duplicate, .superseded, .conflicted, .refused].getD (byte.toNat - 1) .inserted

@[simp] theorem InsertOutcome.ofCode_code (value : InsertOutcome) : InsertOutcome.ofCode value.code = value := by
  cases value with
  | unnamed byte fresh => exact dif_pos fresh
  | _ => rfl

def StatusCode.ofValue : UInt16 → StatusCode :=
  castCode (fun value => 40 < value) StatusCode.unnamed fun value =>
    [.ok, .invalidArgument, .outOfRange, .malformedEncoding, .invalidUnicode, .oversizeField, .invalidIdentity,
     .invalidLifecycleTransition, .invalidScope, .notFound, .duplicateIdentity, .conflict, .outOfRack,
     .unauthorized, .refused, .scopeNotEligible, .exclusiveConflict, .capacityExhausted, .lifecycleRefused,
     .notAMember, .unsupported, .staleGeneration, .staleEpoch, .staleProvenance, .fencedIncarnation, .expired,
     .superseded, .replayed, .unknown, .incomplete, .indeterminate, .cancelled, .io, .corrupt, .truncated,
     .integrityFailure, .incompatibleVersion, .resourceExhausted, .busy, .closed, .internal].getD value.toNat .ok

@[simp] theorem StatusCode.ofValue_value (code : StatusCode) : StatusCode.ofValue code.value = code := by
  cases code with
  | unnamed value above => exact dif_pos above
  | _ => rfl

/-! ### Every byte is the code of what it is cast to -/

@[simp] theorem DeviceRole.code_ofCode (byte : UInt8) : (DeviceRole.ofCode byte).code = byte :=
  code_castCode 5 (fun _ _ => rfl) (fun _ => id) (by decide)

theorem DeviceRole.code_eq_iff {value : DeviceRole} {byte : UInt8} : value.code = byte ↔ value = DeviceRole.ofCode byte :=
  RackFabric.code_eq_iff DeviceRole.ofCode_code DeviceRole.code_ofCode

@[simp] theorem PortRole.code_ofCode (byte : UInt8) : (PortRole.ofCode byte).code = byte :=
  code_castCode 5 (fun _ _ => rfl) (fun _ => id) (by decide)

theorem PortRole.code_eq_iff {value : PortRole} {byte : UInt8} : value.code = byte ↔ value = PortRole.ofCode byte :=
  RackFabric.code_eq_iff PortRole.ofCode_code PortRole.code_ofCode

@[simp] theorem LinkKind.code_ofCode (byte : UInt8) : (LinkKind.ofCode byte).code = byte :=
  code_castCode 3 (fun _ _ => rfl) (fun _ => id) (by decide)

theorem LinkKind.code_eq_iff {value : LinkKind} {byte : UInt8} : value.code = byte ↔ value = LinkKind.ofCode byte :=
  RackFabric.code_eq_iff LinkKind.ofCode_code LinkKind.code_ofCode

@[simp] theorem AdminState.code_ofCode (byte : UInt8) : (AdminState.ofCode byte).code = byte :=
  code_castCode 3 (fun _ _ => rfl) (fun _ => id) (by decide)

theorem AdminState.code_eq_iff {value : AdminState} {byte : UInt8} : value.code = byte ↔ value = AdminState.ofCode byte :=
  RackFabric.code_eq_iff AdminState.ofCode_code AdminState.code_ofCode

@[simp] theorem Availability.code_ofCode (byte : UInt8) : (Availability.ofCode byte).code = byte :=
  code_castCode 4 (fun _ _ => rfl) (fun _ => id) (by decide)

theorem Availability.code_eq_iff {value : Availability} {byte : UInt8} : value.code = byte ↔ value = Availability.ofCode byte :=
  RackFabric.code_eq_iff Availability.ofCode_code Availability.code_ofCode

@[simp] theorem ResourceKind.code_ofCode (byte : UInt8) : (ResourceKind.ofCode byte).code = byte :=
  code_castCode 6 (fun _ _ => rfl) (fun _ => .inr) (by decide)

theorem ResourceKind.code_eq_iff {value : ResourceKind} {byte : UInt8} : value.code = byte ↔ value = ResourceKind.ofCode byte :=
  RackFabric.code_eq_iff ResourceKind.ofCode_code ResourceKind.code_ofCode

@[simp] theorem LifecycleState.code_ofCode (byte : UInt8) : (LifecycleState.ofCode byte).code = byte :=
  code_castCode 7 (fun _ _ => rfl) (fun _ => .inr) (by decide)

theorem LifecycleState.code_eq_iff {value : LifecycleState} {byte : UInt8} : value.code = byte ↔ value = LifecycleState.ofCode byte :=
  RackFabric.code_eq_iff LifecycleState.ofCode_code LifecycleState.code_ofCode

@[simp] theorem SourceKind.code_ofCode (byte : UInt8) : (SourceKind.ofCode byte).code = byte :=
  code_castCode 4 (fun _ _ => rfl) (fun _ => .inr) (by decide)

@[simp] theorem Durability.code_ofCode (byte : UInt8) : (Durability.ofCode byte).code = byte :=
  code_castCode 2 (fun _ _ => rfl) (fun _ => .inr) (by decide)

@[simp] theorem MaintenanceKind.code_ofCode (byte : UInt8) : (MaintenanceKind.ofCode byte).code = byte :=
  code_castCode 3 (fun _ _ => rfl) (fun _ => .inr) (by decide)

theorem MaintenanceKind.code_eq_iff {value : MaintenanceKind} {byte : UInt8} : value.code = byte ↔ value = MaintenanceKind.ofCode byte :=
  RackFabric.code_eq_iff MaintenanceKind.ofCode_code MaintenanceKind.code_ofCode

@[simp] theorem GrantMode.code_ofCode (byte : UInt8) : (GrantMode.ofCode byte).code = byte :=
  code_castCode 2 (fun _ _ => rfl) (fun _ => .inr) (by decide)

theorem GrantMode.code_eq_iff {value : GrantMode} {byte : UInt8} : value.code = byte ↔ value = GrantMode.ofCode byte :=
  RackFabric.code_eq_iff GrantMode.ofCode_code GrantMode.code_ofCode

@[simp] theorem GrantState.code_ofCode (byte : UInt8) : (GrantState.ofCode byte).code = byte :=
  code_castCode 7 (fun _ _ => rfl) (fun _ => .inr) (by decide)

theorem GrantState.code_eq_iff {value : GrantState} {byte : UInt8} : value.code = byte ↔ value = GrantState.ofCode byte :=
  RackFabric.code_eq_iff GrantState.ofCode_code GrantState.code_ofCode

@[simp] theorem Eligibility.code_ofCode (byte : UInt8) : (Eligibility.ofCode byte).code = byte :=
  code_castCode 4 (fun _ _ => rfl) (fun _ => .inr) (by decide)

theorem Eligibility.code_eq_iff {value : Eligibility} {byte : UInt8} : value.code = byte ↔ value = Eligibility.ofCode byte :=
  RackFabric.code_eq_iff Eligibility.ofCode_code Eligibility.code_ofCode

@[simp] theorem EvidenceKind.code_ofCode (byte : UInt8) : (EvidenceKind.ofCode byte).code = byte :=
  code_castCode 7 (fun _ _ => rfl) (fun _ => .inr) (by decide)

theorem EvidenceKind.code_eq_iff {value : EvidenceKind} {byte : UInt8} : value.code = byte ↔ value = EvidenceKind.ofCode byte :=
  RackFabric.code_eq_iff EvidenceKind.ofCode_code EvidenceKind.code_ofCode

@[simp] theorem DiagnosticKind.code_ofCode (byte : UInt8) : (DiagnosticKind.ofCode byte).code = byte :=
  code_castCode 12 (fun _ _ => rfl) (fun _ => .inr) (by decide)

theorem DiagnosticKind.code_eq_iff {value : DiagnosticKind} {byte : UInt8} : value.code = byte ↔ value = DiagnosticKind.ofCode byte :=
  RackFabric.code_eq_iff DiagnosticKind.ofCode_code DiagnosticKind.code_ofCode

@[simp] theorem InsertOutcome.code_ofCode (byte : UInt8) : (InsertOutcome.ofCode byte).code = byte :=
  code_castCode 6 (fun _ _ => rfl) (fun _ => .inr) (by decide)

theorem InsertOutcome.code_eq_iff {value : InsertOutcome} {byte : UInt8} : value.code = byte ↔ value = InsertOutcome.ofCode byte :=
  RackFabric.code_eq_iff InsertOutcome.ofCode_code InsertOutcome.code_ofCode

@[simp] theorem StatusCode.value_ofValue (value : UInt16) : (StatusCode.ofValue value).value = value := by
  have named : ∀ n : Fin 41, (StatusCode.ofValue (UInt16.ofNat n)).value = UInt16.ofNat n := by decide
  by_cases above : 40 < value
  · rw [StatusCode.ofValue, castCode, dif_pos above]
    rfl
  · have small : value.toNat < 41 := by
      have most := UInt16.not_lt.mp above
      rw [UInt16.le_iff_toNat_le] at most
      exact Nat.lt_succ_of_le most
    have read := named ⟨value.toNat, small⟩
    simpa using read

theorem StatusCode.value_eq_iff {code : StatusCode} {value : UInt16} :
    code.value = value ↔ code = StatusCode.ofValue value :=
  RackFabric.code_eq_iff StatusCode.ofValue_value StatusCode.value_ofValue

end RackFabric
