import RackFabric.Model.Types

/-!
Evidence: the only way information enters the runtime, and the ledger that keeps one record for each
(kind, subject, source) slot.
-/

namespace RackFabric

structure EvidenceLimits where
  maxSlots : Nat := 1048576
  maxSources : Nat := 4096
  maxHostKey : Nat := 128
  maxReason : Nat := 256
  maxAuthority : Nat := 128
  maxEncodedRecord : Nat := 512
deriving DecidableEq, Repr

def defaultEvidenceLimits : EvidenceLimits := {}

structure Provenance where
  source : UInt64 := 0
  kind : SourceKind := .operator
  sequence : UInt64 := 0
  observedAtMs : UInt64 := 0
deriving DecidableEq, Repr

structure MemberClaim where
  rack : UInt64
  device : UInt64
  incarnation : UInt64
deriving DecidableEq, Repr

structure DeviceClaim where
  device : UInt64
  role : DeviceRole
  capacity : UInt64
  capacityKnown : Bool
  availability : Availability
deriving DecidableEq, Repr

structure PortClaim where
  port : UInt64
  device : UInt64
  index : UInt16
  role : PortRole
  capacity : UInt64
  capacityKnown : Bool
  admin : AdminState
  availability : Availability
deriving DecidableEq, Repr

structure LinkClaim where
  link : UInt64
  portA : UInt64
  portB : UInt64
  kind : LinkKind
  capacity : UInt64
  capacityKnown : Bool
  availability : Availability
deriving DecidableEq, Repr

structure AttachmentClaim where
  attachment : UInt64
  device : UInt64
  port : UInt64
  hostKey : Text
deriving DecidableEq, Repr

structure MaintenanceClaim where
  action : MaintenanceKind
  targetKind : ResourceKind
  targetId : UInt64
  reason : Text
deriving DecidableEq, Repr

structure ObligationClaim where
  obligation : UInt64
  targetKind : ResourceKind
  targetId : UInt64
  capacity : UInt64
  holder : UInt64
  authority : Text
deriving DecidableEq, Repr

/-- The claim of a record. A record's kind is read off its claim, so the two cannot disagree. -/
inductive EvidencePayload where
  | member (claim : MemberClaim)
  | device (claim : DeviceClaim)
  | port (claim : PortClaim)
  | link (claim : LinkClaim)
  | attachment (claim : AttachmentClaim)
  | maintenance (claim : MaintenanceClaim)
  | obligation (claim : ObligationClaim)
deriving DecidableEq, Repr

structure EvidenceRecord where
  durability : Durability := .sticky
  generation : UInt64 := 0
  provenance : Provenance := {}
  payload : EvidencePayload
deriving DecidableEq, Repr

def EvidenceRecord.kind (record : EvidenceRecord) : EvidenceKind :=
  match record.payload with
  | .member _ => .member
  | .device _ => .device
  | .port _ => .port
  | .link _ => .link
  | .attachment _ => .attachment
  | .maintenance _ => .maintenance
  | .obligation _ => .obligation

/-- Two records in one slot are competing claims about one subject from one source. -/
structure EvidenceSlot where
  kind : EvidenceKind
  subjectA : UInt64 := 0
  subjectB : UInt64 := 0
  source : UInt64
deriving DecidableEq, Repr

instance : Ord EvidenceSlot :=
  ⟨compareLex (compareOn fun slot => slot.kind.code)
    (compareLex (compareOn fun slot => slot.subjectA)
      (compareLex (compareOn fun slot => slot.subjectB) (compareOn fun slot => slot.source)))⟩

instance : Std.TransOrd EvidenceSlot :=
  inferInstanceAs (Std.TransCmp (compareLex (compareOn _)
    (compareLex (compareOn _) (compareLex (compareOn _) (compareOn _)))))

instance : Std.LawfulEqOrd EvidenceSlot where
  eq_of_compare {a b} same := by
    obtain ⟨kinds, rest⟩ := compareLex_eq_eq.mp same
    obtain ⟨firsts, rest⟩ := compareLex_eq_eq.mp rest
    obtain ⟨seconds, sources⟩ := compareLex_eq_eq.mp rest
    have sameKind : a.kind = b.kind := EvidenceKind.code_injective (Std.LawfulEqOrd.eq_of_compare kinds)
    have sameA : a.subjectA = b.subjectA := Std.LawfulEqOrd.eq_of_compare firsts
    have sameB : a.subjectB = b.subjectB := Std.LawfulEqOrd.eq_of_compare seconds
    have sameSource : a.source = b.source := Std.LawfulEqOrd.eq_of_compare sources
    cases a; cases b; simp_all

def slotOf (record : EvidenceRecord) : EvidenceSlot :=
  let slot : EvidenceSlot := { kind := record.kind, source := record.provenance.source }
  match record.payload with
  | .member claim => { slot with subjectA := claim.device, subjectB := claim.rack }
  | .device claim => { slot with subjectA := claim.device }
  | .port claim => { slot with subjectA := claim.port }
  | .link claim => { slot with subjectA := claim.link }
  | .attachment claim => { slot with subjectA := claim.attachment }
  | .maintenance claim =>
    { slot with subjectA := claim.targetKind.code.toUInt64, subjectB := claim.targetId }
  | .obligation claim => { slot with subjectA := claim.obligation, subjectB := claim.targetId }

/-- The order of two records of one slot: generation first, then the source's own sequence. -/
def rankLess (a b : EvidenceRecord) : Bool :=
  a.generation < b.generation ||
    (a.generation == b.generation && a.provenance.sequence < b.provenance.sequence)

def encodeText (writer : ByteWriter) (value : Text) (maxLen : Nat) : Result ByteWriter :=
  if !isValidUtf8 value then refuse .invalidUnicode "text field is not well-formed UTF-8"
  else if value.length > maxLen then refuse .oversizeField "text field exceeds its configured bound"
  else .ok (writer.text value maxLen)

def encodeEvidenceHeader (record : EvidenceRecord) (writer : ByteWriter) : ByteWriter :=
  ((((((writer.u8 record.kind.code).u8 record.durability.code).u64 record.generation).u64
    record.provenance.source).u8 record.provenance.kind.code).u64 record.provenance.sequence).u64
    record.provenance.observedAtMs

def encodeEvidencePayload (payload : EvidencePayload) (writer : ByteWriter) : Result ByteWriter :=
  match payload with
  | .member claim => .ok (((writer.u64 claim.rack).u64 claim.device).u64 claim.incarnation)
  | .device claim =>
    .ok (((((writer.u64 claim.device).u8 claim.role.code).u64 claim.capacity).boolean
      claim.capacityKnown).u8 claim.availability.code)
  | .port claim =>
    .ok ((((((((writer.u64 claim.port).u64 claim.device).u16 claim.index).u8 claim.role.code).u64
      claim.capacity).boolean claim.capacityKnown).u8 claim.admin.code).u8 claim.availability.code)
  | .link claim =>
    .ok (((((((writer.u64 claim.link).u64 claim.portA).u64 claim.portB).u8 claim.kind.code).u64
      claim.capacity).boolean claim.capacityKnown).u8 claim.availability.code)
  | .attachment claim =>
    encodeText (((writer.u64 claim.attachment).u64 claim.device).u64 claim.port) claim.hostKey
      defaultEvidenceLimits.maxHostKey
  | .maintenance claim =>
    encodeText (((writer.u8 claim.action.code).u8 claim.targetKind.code).u64 claim.targetId) claim.reason
      defaultEvidenceLimits.maxReason
  | .obligation claim =>
    encodeText (((((writer.u64 claim.obligation).u8 claim.targetKind.code).u64 claim.targetId).u64
      claim.capacity).u64 claim.holder) claim.authority defaultEvidenceLimits.maxAuthority

def encodeEvidence (record : EvidenceRecord) (writer : ByteWriter) : Result ByteWriter := do
  let writer ← encodeEvidencePayload record.payload (encodeEvidenceHeader record writer)
  if !writer.ok then refuse .oversizeField "evidence record exceeds its encoding bound"
  else .ok writer

/-- Content address of a record; a record that cannot be encoded still gets a stable one. -/
def evidenceDigest (record : EvidenceRecord) : Digest :=
  match encodeEvidence record { limit := defaultEvidenceLimits.maxEncodedRecord } with
  | .ok writer => Blake2s256.hash writer.buffer
  | .error status =>
    Blake2s256.final (Blake2s256.updateLe64
      (Blake2s256.update Blake2s256.reset (text "rnf.unencodable")) status.code.value.toUInt64)

def validateClaim : EvidencePayload → Result Unit
  | .member claim =>
    if claim.rack == 0 || claim.device == 0 then
      refuse .invalidIdentity "member claim needs rack and device"
    else .ok ()
  | .device claim =>
    if claim.device == 0 then refuse .invalidIdentity "device claim needs a device id" else .ok ()
  | .port claim =>
    if claim.port == 0 || claim.device == 0 then
      refuse .invalidIdentity "port claim needs port and device"
    else if claim.index > 65535 then refuse .outOfRange "port index is out of range"
    else .ok ()
  | .link claim =>
    if claim.link == 0 || claim.portA == 0 || claim.portB == 0 then
      refuse .invalidIdentity "link claim needs link and two ports"
    else if claim.portA == claim.portB then
      refuse .invalidArgument "link endpoints must be distinct ports"
    else .ok ()
  | .attachment claim =>
    if claim.attachment == 0 || claim.device == 0 || claim.port == 0 then
      refuse .invalidIdentity "attachment claim needs attachment, device and port"
    else if claim.hostKey.length > defaultEvidenceLimits.maxHostKey then
      refuse .oversizeField "host key exceeds its bound"
    else if !isValidUtf8 claim.hostKey then
      refuse .invalidUnicode "host key is not well-formed UTF-8"
    else .ok ()
  | .maintenance claim =>
    if claim.targetKind = .rack ∧ claim.targetId ≠ 0 then
      refuse .invalidScope "rack-wide maintenance must not carry a resource id"
    else if claim.targetKind ≠ .rack ∧ claim.targetId = 0 then
      refuse .invalidScope "maintenance target must name a rack or a resource"
    else if claim.reason.length > defaultEvidenceLimits.maxReason then
      refuse .oversizeField "maintenance reason exceeds its bound"
    else if !isValidUtf8 claim.reason then
      refuse .invalidUnicode "maintenance reason is not well-formed UTF-8"
    else .ok ()
  | .obligation claim =>
    if claim.obligation == 0 then refuse .invalidIdentity "obligation claim needs an id"
    else if claim.holder == 0 then refuse .invalidIdentity "obligation claim needs a holder"
    else if claim.targetId = 0 ∧ claim.targetKind ≠ .rack then
      refuse .invalidScope "obligation target must name a resource"
    else if claim.authority.length > defaultEvidenceLimits.maxAuthority then
      refuse .oversizeField "obligation authority exceeds its bound"
    else if !isValidUtf8 claim.authority then
      refuse .invalidUnicode "obligation authority is not well-formed UTF-8"
    else .ok ()

/-- Structural validation: identities, field bounds, UTF-8 and the encoding bound. -/
def validateEvidence (record : EvidenceRecord) : Result Unit := do
  validateClaim record.payload
  match record.durability with
  | .ephemeral | .sticky => .ok ()
  | .unnamed .. => refuse .outOfRange "unknown durability"
  match record.provenance.kind with
  | .operator | .discovery | .imported | .synthetic => .ok ()
  | .unnamed .. => refuse .outOfRange "unknown source kind"
  if record.provenance.source == 0 then
    refuse .invalidIdentity "evidence needs a source identity"
  else .ok ()
  let _ ← encodeEvidence record { limit := defaultEvidenceLimits.maxEncodedRecord }
  .ok ()

structure InsertReport where
  outcome : InsertOutcome := .inserted
  status : Status := {}
  slot : EvidenceSlot
  recordDigest : Digest
  mutated : Bool := false
deriving DecidableEq, Repr

/-- Counts and minima over the losing records of one slot. -/
structure SlotHistory where
  supersededCount : UInt64 := 0
  conflictCount : UInt64 := 0
  supersededMin : Digest := .zero
  conflictingMin : Digest := .zero
deriving DecidableEq, Repr

/-- The accepted-evidence set, keyed by slot. -/
structure EvidenceLedger where
  limits : EvidenceLimits := {}
  slots : Std.ExtTreeMap EvidenceSlot EvidenceRecord := {}
  digests : Std.ExtTreeMap EvidenceSlot Digest := {}
  history : Std.ExtTreeMap EvidenceSlot SlotHistory := {}
  sources : Std.ExtTreeMap UInt64 Unit := {}
  conflicts : UInt64 := 0
  superseded : UInt64 := 0

namespace EvidenceLedger

/-- The smaller of a recorded minimum and a new digest; an all-zero minimum means none was recorded. -/
def lowerDigest (recorded candidate : Digest) : Digest :=
  if recorded.isZero || candidate.less recorded then candidate else recorded

/-- A record for a slot that holds none. -/
def insertNew (ledger : EvidenceLedger) (record : EvidenceRecord) (report : InsertReport) :
    EvidenceLedger × InsertReport :=
  if ledger.slots.size ≥ ledger.limits.maxSlots then
    (ledger, { report with
      outcome := .refused
      status := ⟨.resourceExhausted, text "evidence ledger reached its slot bound"⟩ })
  else if !ledger.sources.contains record.provenance.source &&
      ledger.sources.size ≥ ledger.limits.maxSources then
    (ledger, { report with
      outcome := .refused
      status := ⟨.resourceExhausted, text "evidence ledger reached its source bound"⟩ })
  else
    ({ ledger with
      slots := ledger.slots.insert report.slot record
      digests := ledger.digests.insert report.slot report.recordDigest
      sources := ledger.sources.insert record.provenance.source () },
     { report with outcome := .inserted, mutated := true })

/-- A record for a slot that already holds another one with a different digest. -/
def insertCompeting (ledger : EvidenceLedger) (record existing : EvidenceRecord) (storedDigest : Digest)
    (report : InsertReport) : EvidenceLedger × InsertReport :=
  let history := ledger.history.getD report.slot {}
  if rankLess record existing then
    ({ ledger with
      history := ledger.history.insert report.slot { history with
        supersededCount := history.supersededCount + 1
        supersededMin := lowerDigest history.supersededMin report.recordDigest }
      superseded := ledger.superseded + 1 },
     { report with
      outcome := .superseded
      status := ⟨.superseded, text "an older observation for this slot is already stored"⟩ })
  else if rankLess existing record then
    ({ ledger with
      history := ledger.history.insert report.slot history
      slots := ledger.slots.insert report.slot record
      digests := ledger.digests.insert report.slot report.recordDigest },
     { report with outcome := .updated, mutated := true })
  else
    let ledger := { ledger with
      history := ledger.history.insert report.slot { history with
        conflictCount := history.conflictCount + 1
        conflictingMin := lowerDigest history.conflictingMin report.recordDigest }
      conflicts := ledger.conflicts + 1 }
    let report := { report with
      outcome := .conflicted
      status := ⟨.conflict, text "two observations share a generation and sequence but disagree"⟩ }
    if report.recordDigest.less storedDigest then
      ({ ledger with
        slots := ledger.slots.insert report.slot record
        digests := ledger.digests.insert report.slot report.recordDigest },
       { report with mutated := true })
    else (ledger, report)

def insert (ledger : EvidenceLedger) (record : EvidenceRecord) : EvidenceLedger × InsertReport :=
  let report : InsertReport := { slot := slotOf record, recordDigest := evidenceDigest record }
  match validateEvidence record with
  | .error status => (ledger, { report with outcome := .refused, status := status })
  | .ok () =>
    match ledger.slots[report.slot]? with
    | none => ledger.insertNew record report
    | some existing =>
      let storedDigest := ledger.digests.getD report.slot .zero
      if storedDigest = report.recordDigest then (ledger, { report with outcome := .duplicate })
      else ledger.insertCompeting record existing storedDigest report

/-- Records in canonical slot order. -/
def records (ledger : EvidenceLedger) : List EvidenceRecord :=
  ledger.slots.toList.map Prod.snd

/-- Canonical digest over every stored record. -/
def digest (ledger : EvidenceLedger) : Digest :=
  Blake2s256.final (ledger.records.foldl
    (fun hasher record => Blake2s256.update hasher (evidenceDigest record).bytes)
    (Blake2s256.update Blake2s256.reset (text "rnf.ledger.v1")))

end EvidenceLedger

end RackFabric
