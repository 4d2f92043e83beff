import RackFabric.Core.Canonical
import RackFabric.Core.Checksum
import RackFabric.Foundation.Framing

/-!
The frames of the daemon protocol: a header of fixed size, then a payload whose length and checksum the header
declares. A receiver takes a frame from the front of what has arrived.
-/

namespace RackFabric

open Foundation ByteReader

def kFrameMagic : UInt32 := 0x31464E52

def kFrameHeaderSize : Nat := 24

def kHardMaxFramePayload : UInt32 := (8 : UInt32) <<< 20

def kDefaultMaxFramePayload : UInt32 := (1 : UInt32) <<< 20

def kProtocolVersion : UInt16 := 1

inductive MessageType where
  | hello | helloAck | submitEvidence | evidenceAck | compose | composeAck | acquire | acquireAck | renew | renewAck
  | release | releaseAck | validate | validateAck | lookup | lookupAck | queryState | stateAck | queryResources
  | resourcesAck | queryPaths | pathsAck | queryGrants | grantsAck | lifecycle | lifecycleAck | checkpoint
  | checkpointAck | stats | statsAck | shutdown | shutdownAck | error
deriving DecidableEq, Repr

namespace MessageType

def value : MessageType → UInt16
  | hello => 1
  | helloAck => 2
  | submitEvidence => 16
  | evidenceAck => 17
  | compose => 32
  | composeAck => 33
  | acquire => 48
  | acquireAck => 49
  | renew => 50
  | renewAck => 51
  | release => 52
  | releaseAck => 53
  | validate => 54
  | validateAck => 55
  | lookup => 56
  | lookupAck => 57
  | queryState => 64
  | stateAck => 65
  | queryResources => 66
  | resourcesAck => 67
  | queryPaths => 68
  | pathsAck => 69
  | queryGrants => 70
  | grantsAck => 71
  | lifecycle => 80
  | lifecycleAck => 81
  | checkpoint => 82
  | checkpointAck => 83
  | stats => 84
  | statsAck => 85
  | shutdown => 86
  | shutdownAck => 87
  | error => 32512

def all : List MessageType :=
  [hello, helloAck, submitEvidence, evidenceAck, compose, composeAck, acquire, acquireAck, renew, renewAck, release,
    releaseAck, validate, validateAck, lookup, lookupAck, queryState, stateAck, queryResources, resourcesAck,
    queryPaths, pathsAck, queryGrants, grantsAck, lifecycle, lifecycleAck, checkpoint, checkpointAck, stats, statsAck,
    shutdown, shutdownAck, error]

/-- The known type of a value, if it has one. -/
def ofValue (value : UInt16) : Option MessageType :=
  all.find? (·.value == value)

theorem ofValue_value (type : MessageType) : ofValue type.value = some type := by
  cases type <;> rfl

theorem ofValue_eq_some {value : UInt16} {type : MessageType} : ofValue value = some type ↔ type.value = value := by
  constructor
  · intro found
    have held := List.find?_some found
    exact beq_iff_eq.mp held
  · rintro rfl
    exact ofValue_value type

end MessageType

structure FrameHeader where
  magic : UInt32 := kFrameMagic
  version : UInt16 := 0
  type : UInt16 := 0
  length : UInt32 := 0
  crc : UInt32 := 0
  correlation : UInt64 := 0
deriving DecidableEq, Repr

def FrameHeader.bytes (header : FrameHeader) : List UInt8 :=
  le32 header.magic ++ (le16 header.version ++ (le16 header.type ++ (le32 header.length ++ (le32 header.crc ++
    Blake2s256.le64 header.correlation))))

def encodeFrame (header : FrameHeader) (payload : List UInt8) (maxPayload : UInt32) : Result (List UInt8) :=
  if payload.length > maxPayload.toNat then refuse .oversizeField "frame payload exceeds the negotiated bound"
  else if payload.length > kHardMaxFramePayload.toNat then
    refuse .oversizeField "frame payload exceeds the hard bound"
  else
    .ok ({ header with length := .ofNat payload.length, crc := crc32c payload : FrameHeader }.bytes ++ payload)

/-- The fields of a header, each at its offset. -/
def loadHeader : Reading FrameHeader := do
  let magic ← u32
  let version ← u16
  let type ← u16
  let length ← u32
  let crc ← u32
  let correlation ← u64
  pure { magic, version, type, length, crc, correlation }

/-- The checks of a header, in the order they are made. The result is the type that the header names. -/
def checkHeader (header : FrameHeader) (maxPayload : UInt32) (expectedVersion : UInt16) : Result MessageType :=
  if header.magic ≠ kFrameMagic then refuse .malformedEncoding "frame magic does not match"
  else if header.version ≠ expectedVersion then
    .error ⟨.incompatibleVersion, text "frame declares protocol version " ++ decimal header.version.toUInt64⟩
  else if header.length > maxPayload ∨ header.length > kHardMaxFramePayload then
    .error ⟨.oversizeField, text "frame declares " ++ decimal header.length.toUInt64 ++
      text " payload bytes, above the negotiated bound"⟩
  else
    match MessageType.ofValue header.type with
    | none => .error ⟨.unsupported, text "frame declares unknown message type " ++ decimal header.type.toUInt64⟩
    | some type => .ok type

/-- The header as far as it could be read, and what its checks say. -/
def decodeFrameHeader (bytes : List UInt8) (maxPayload : UInt32) (expectedVersion : UInt16) :
    FrameHeader × Result MessageType :=
  match loadHeader bytes with
  | none => ({}, refuse .truncated "frame header is incomplete")
  | some (header, _) => (header, checkHeader header maxPayload expectedVersion)

structure Frame where
  type : MessageType
  correlation : UInt64
  payload : List UInt8
deriving DecidableEq, Repr

/-- Why no frame can be taken: there is more to come, the header is refused, or the payload fails its checksum. -/
inductive Halt where
  | waits
  | refused (correlation : UInt64) (failure : Status)
  | damaged (correlation : UInt64)
deriving DecidableEq, Repr

/-- The frame at the front of what has arrived and the number of bytes it takes. -/
def takeFrame (maxPayload : UInt32) (arrived : List UInt8) : Except Halt (Frame × Nat) :=
  if arrived.length < kFrameHeaderSize then .error .waits
  else
    match decodeFrameHeader (arrived.take kFrameHeaderSize) maxPayload kProtocolVersion with
    | (header, .error failure) => .error (.refused header.correlation failure)
    | (header, .ok type) =>
      let payload := (arrived.drop kFrameHeaderSize).take header.length.toNat
      if payload.length < header.length.toNat then .error .waits
      else if crc32c payload ≠ header.crc then .error (.damaged header.correlation)
      else .ok (⟨type, header.correlation, payload⟩, kFrameHeaderSize + header.length.toNat)

/-- A frame as either side sends it. -/
def sealFrame (maxPayload : UInt32) (frame : Frame) : Result (List UInt8) :=
  encodeFrame { version := kProtocolVersion, type := frame.type.value, correlation := frame.correlation }
    frame.payload maxPayload

@[simp] theorem FrameHeader.length_bytes (header : FrameHeader) : header.bytes.length = kFrameHeaderSize := by
  simp only [FrameHeader.bytes, List.length_append, length_le32, length_le16, Blake2s256.length_le64]
  rfl

theorem exact_loadHeader : Exact loadHeader FrameHeader.bytes fun _ => True := by
  apply Exact.start
  refine Exact.field FrameHeader.magic exact_u32 fun magic => ?_
  refine Exact.field FrameHeader.version exact_u16 fun version => ?_
  refine Exact.field FrameHeader.type exact_u16 fun type => ?_
  refine Exact.field FrameHeader.length exact_u32 fun length => ?_
  refine Exact.field FrameHeader.crc exact_u32 fun crc => ?_
  refine Exact.lastField FrameHeader.correlation _ exact_u64 ?_
  rintro correlation ⟨⟩
  simp only [FrameHeader.mk.injEq]
  grind

theorem loadHeader_bytes (header : FrameHeader) (rest : List UInt8) :
    loadHeader (header.bytes ++ rest) = some (header, rest) :=
  exact_loadHeader.reads header trivial rest

namespace Frame

def header (frame : Frame) : FrameHeader where
  version := kProtocolVersion
  type := frame.type.value
  length := .ofNat frame.payload.length
  crc := crc32c frame.payload
  correlation := frame.correlation

def bytes (frame : Frame) : List UInt8 :=
  frame.header.bytes ++ frame.payload

/-- The payload is within the bound that was agreed and within the hard one. -/
def Fits (maxPayload : UInt32) (frame : Frame) : Prop :=
  frame.payload.length ≤ maxPayload.toNat ∧ frame.payload.length ≤ kHardMaxFramePayload.toNat

instance {maxPayload : UInt32} {frame : Frame} : Decidable (frame.Fits maxPayload) :=
  inferInstanceAs (Decidable (_ ∧ _))

theorem length_bytes (frame : Frame) : frame.bytes.length = kFrameHeaderSize + frame.payload.length := by
  rw [bytes, List.length_append, FrameHeader.length_bytes]

theorem length_toNat {maxPayload : UInt32} {frame : Frame} (fits : frame.Fits maxPayload) :
    frame.header.length.toNat = frame.payload.length := by
  have counted : frame.payload.length < 2 ^ 32 := Nat.lt_of_le_of_lt fits.1 maxPayload.toNat_lt
  exact UInt32.toNat_ofNat_of_lt' counted

end Frame

theorem sealFrame_eq_ok {maxPayload : UInt32} {frame : Frame} {data : List UInt8} :
    sealFrame maxPayload frame = .ok data ↔ frame.Fits maxPayload ∧ data = frame.bytes := by
  unfold sealFrame encodeFrame Frame.Fits
  by_cases agreed : frame.payload.length > maxPayload.toNat
  · simp only [agreed, if_true, refuse, reduceCtorEq, false_iff]
    omega
  · by_cases hard : frame.payload.length > kHardMaxFramePayload.toNat
    · simp only [agreed, if_false, hard, if_true, refuse, reduceCtorEq, false_iff]
      omega
    · simp only [agreed, if_false, hard, Except.ok.injEq]
      constructor
      · rintro rfl
        exact ⟨⟨by omega, by omega⟩, rfl⟩
      · rintro ⟨-, rfl⟩
        rfl

theorem checkHeader_eq_ok {header : FrameHeader} {maxPayload : UInt32} {version : UInt16} {type : MessageType} :
    checkHeader header maxPayload version = .ok type ↔ header.magic = kFrameMagic ∧ header.version = version ∧
      header.length ≤ maxPayload ∧ header.length ≤ kHardMaxFramePayload ∧ header.type = type.value := by
  unfold checkHeader
  by_cases magic : header.magic = kFrameMagic
  · by_cases same : header.version = version
    · by_cases large : header.length > maxPayload ∨ header.length > kHardMaxFramePayload
      · have excess : ¬ (header.length ≤ maxPayload ∧ header.length ≤ kHardMaxFramePayload) := by
          rintro ⟨agreed, hard⟩
          rcases large with more | more
          · exact absurd agreed (UInt32.not_le.mpr more)
          · exact absurd hard (UInt32.not_le.mpr more)
        simp only [magic, same, large, ne_eq, not_true, if_true, if_false, reduceCtorEq, false_iff, true_and]
        rintro ⟨agreed, hard, -⟩
        exact excess ⟨agreed, hard⟩
      · obtain ⟨agreed, hard⟩ := not_or.mp large
        rw [gt_iff_lt, UInt32.not_lt] at agreed hard
        cases named : MessageType.ofValue header.type with
        | none =>
          simp only [magic, same, large, ne_eq, not_true, if_false, reduceCtorEq, false_iff, agreed, hard, true_and]
          intro known
          rw [known, MessageType.ofValue_value] at named
          cases named
        | some found =>
          have value := MessageType.ofValue_eq_some.mp named
          simp only [magic, same, large, ne_eq, not_true, if_false, agreed, hard, true_and, Except.ok.injEq]
          constructor
          · rintro rfl
            exact value.symm
          · intro known
            rw [known, MessageType.ofValue_value, Option.some.injEq] at named
            exact named.symm
    · simp [magic, same]
  · simp [magic, refuse]

/-- A header on its own decodes to itself and to what its checks say. -/
theorem decodeFrameHeader_bytes (header : FrameHeader) (maxPayload : UInt32) (version : UInt16) :
    decodeFrameHeader header.bytes maxPayload version = (header, checkHeader header maxPayload version) := by
  have loaded := loadHeader_bytes header []
  rw [List.append_nil] at loaded
  rw [decodeFrameHeader, loaded]

theorem decodeFrameHeader_ok {bytes : List UInt8} {maxPayload : UInt32} {version : UInt16} {header : FrameHeader}
    {type : MessageType} (sized : bytes.length = kFrameHeaderSize)
    (decoded : decodeFrameHeader bytes maxPayload version = (header, .ok type)) :
    bytes = header.bytes ∧ checkHeader header maxPayload version = .ok type := by
  unfold decodeFrameHeader at decoded
  cases loaded : loadHeader bytes with
  | none =>
    rw [loaded] at decoded
    cases decoded
  | some pair =>
    obtain ⟨found, rest⟩ := pair
    rw [loaded, Prod.mk.injEq] at decoded
    obtain ⟨rfl, checked⟩ := decoded
    obtain ⟨-, split⟩ := exact_loadHeader.returns_iff.mp loaded
    have lengths := congrArg List.length split
    rw [List.length_append, FrameHeader.length_bytes, sized] at lengths
    have none_left : rest = [] := List.eq_nil_of_length_eq_zero (by omega)
    rw [none_left, List.append_nil] at split
    exact ⟨split, checked⟩

/-- What is taken from a header and what follows it. -/
theorem takeFrame_header (maxPayload : UInt32) (header : FrameHeader) (rest : List UInt8) :
    takeFrame maxPayload (header.bytes ++ rest) =
      match checkHeader header maxPayload kProtocolVersion with
      | .error failure => .error (.refused header.correlation failure)
      | .ok type =>
        if (rest.take header.length.toNat).length < header.length.toNat then .error .waits
        else if crc32c (rest.take header.length.toNat) ≠ header.crc then .error (.damaged header.correlation)
        else .ok (⟨type, header.correlation, rest.take header.length.toNat⟩,
          kFrameHeaderSize + header.length.toNat) := by
  have enough : ¬ (header.bytes ++ rest).length < kFrameHeaderSize := by
    rw [List.length_append, header.length_bytes]
    omega
  have front : (header.bytes ++ rest).take kFrameHeaderSize = header.bytes := List.take_left' header.length_bytes
  have back : (header.bytes ++ rest).drop kFrameHeaderSize = rest := List.drop_left' header.length_bytes
  rw [takeFrame, if_neg enough, front, back, decodeFrameHeader_bytes]
  cases checkHeader header maxPayload kProtocolVersion with
  | error failure => rfl
  | ok type => rfl

/-- A frame is taken exactly where a frame that fits stands at the front. -/
theorem takeFrame_eq_ok {maxPayload : UInt32} {arrived : List UInt8} {frame : Frame} {size : Nat} :
    takeFrame maxPayload arrived = .ok (frame, size) ↔
      frame.Fits maxPayload ∧ size = frame.bytes.length ∧ ∃ rest, arrived = frame.bytes ++ rest := by
  constructor
  · intro taken
    have whole : ¬ arrived.length < kFrameHeaderSize := by
      intro short
      rw [takeFrame, if_pos short] at taken
      cases taken
    have sized : (arrived.take kFrameHeaderSize).length = kFrameHeaderSize := by
      rw [List.length_take]
      omega
    cases decoded : decodeFrameHeader (arrived.take kFrameHeaderSize) maxPayload kProtocolVersion with
    | mk header result =>
      cases result with
      | error failure =>
        rw [takeFrame, if_neg whole, decoded] at taken
        cases taken
      | ok type =>
        obtain ⟨front, checked⟩ := decodeFrameHeader_ok sized decoded
        have split : arrived = header.bytes ++ arrived.drop kFrameHeaderSize := by
          rw [← front, List.take_append_drop]
        generalize arrived.drop kFrameHeaderSize = rest at split
        subst split
        rw [takeFrame_header, checked] at taken
        simp only at taken
        split at taken
        · cases taken
        split at taken
        · cases taken
        rename_i enough intact
        rw [ne_eq, Decidable.not_not] at intact
        obtain ⟨magic, version, agreed, hard, named⟩ := checkHeader_eq_ok.mp checked
        have length : (rest.take header.length.toNat).length = header.length.toNat := by
          rw [List.length_take] at enough ⊢
          omega
        simp only [Except.ok.injEq, Prod.mk.injEq] at taken
        obtain ⟨rfl, rfl⟩ := taken
        have same : ({ type, correlation := header.correlation, payload := rest.take header.length.toNat } :
            Frame).header = header := by
          cases header
          simp only [Frame.header, length, UInt32.ofNat_toNat] at *
          simp only [magic, version, intact, named]
        refine ⟨⟨?_, ?_⟩, ?_, rest.drop header.length.toNat, ?_⟩
        · rw [length]
          exact UInt32.le_iff_toNat_le.mp agreed
        · rw [length]
          exact UInt32.le_iff_toNat_le.mp hard
        · rw [Frame.length_bytes, length]
        · rw [Frame.bytes, same, List.append_assoc, List.take_append_drop]
  · rintro ⟨fits, rfl, rest, rfl⟩
    have length := Frame.length_toNat fits
    have checked : checkHeader frame.header maxPayload kProtocolVersion = .ok frame.type := by
      refine checkHeader_eq_ok.mpr ⟨rfl, rfl, ?_, ?_, rfl⟩
      · rw [UInt32.le_iff_toNat_le, length]
        exact fits.1
      · rw [UInt32.le_iff_toNat_le, length]
        exact fits.2
    rw [Frame.bytes, List.append_assoc, takeFrame_header, checked, length]
    have front : (frame.payload ++ rest).take frame.payload.length = frame.payload := List.take_left' rfl
    simp only [front, Nat.lt_irrefl, if_false, Frame.header, ne_eq, not_true, List.length_append,
      FrameHeader.length_bytes]

theorem takeFrame_bytes {maxPayload : UInt32} {frame : Frame} (fits : frame.Fits maxPayload) (rest : List UInt8) :
    takeFrame maxPayload (frame.bytes ++ rest) = .ok (frame, frame.bytes.length) :=
  takeFrame_eq_ok.mpr ⟨fits, rfl, rest, rfl⟩

theorem takeFrame_delimited (maxPayload : UInt32) : Delimited (takeFrame maxPayload) where
  pos taken := by
    obtain ⟨-, rfl, -⟩ := takeFrame_eq_ok.mp taken
    rw [Frame.length_bytes]
    exact Nat.lt_add_right _ (by decide)
  within taken := by
    obtain ⟨-, rfl, rest, rfl⟩ := takeFrame_eq_ok.mp taken
    rw [List.length_append]
    exact Nat.le_add_right _ _
  stays taken rest := by
    obtain ⟨fits, rfl, after, rfl⟩ := takeFrame_eq_ok.mp taken
    rw [List.take_left]
    exact takeFrame_bytes fits rest

/-- A frame of which some bytes are still to come is waited for. -/
theorem takeFrame_torn {maxPayload : UInt32} {frame : Frame} (fits : frame.Fits maxPayload) {cut : Nat}
    (short : cut < frame.bytes.length) : takeFrame maxPayload (frame.bytes.take cut) = .error .waits := by
  by_cases head : cut < kFrameHeaderSize
  · have few : (frame.bytes.take cut).length < kFrameHeaderSize := by
      rw [List.length_take]
      omega
    rw [takeFrame, if_pos few]
  · rw [Frame.length_bytes] at short
    have length := Frame.length_toNat fits
    have split : frame.bytes.take cut = frame.header.bytes ++ frame.payload.take (cut - kFrameHeaderSize) := by
      rw [Frame.bytes, List.take_append, frame.header.length_bytes, List.take_of_length_le]
      rw [frame.header.length_bytes]
      omega
    have whole := takeFrame_bytes fits []
    rw [Frame.bytes, List.append_assoc, takeFrame_header] at whole
    rw [split, takeFrame_header]
    cases checked : checkHeader frame.header maxPayload kProtocolVersion with
    | error failure =>
      rw [checked] at whole
      cases whole
    | ok type =>
      have missing : ((frame.payload.take (cut - kFrameHeaderSize)).take frame.header.length.toNat).length <
          frame.header.length.toNat := by
        rw [List.length_take, List.length_take, length]
        omega
      simp only [missing, if_true]

/-- A frame that fits, as it goes over the wire. -/
def Frame.written {maxPayload : UInt32} (frame : { frame : Frame // frame.Fits maxPayload }) :
    Written (takeFrame maxPayload) where
  value := frame.val
  items := frame.val.bytes
  reads := takeFrame_bytes frame.property
  torn _ short := ⟨.waits, takeFrame_torn frame.property short⟩

/-- A receiver takes exactly what a sender sends, and of a stream of frames that is cut anywhere exactly those that
lie wholly before the cut; for the rest it waits. -/
theorem frames_delivered (maxPayload : UInt32) :
    (∀ arrived frame size, takeFrame maxPayload arrived = .ok (frame, size) ↔
      ∃ data rest, sealFrame maxPayload frame = .ok data ∧ arrived = data ++ rest ∧ size = data.length) ∧
    ∀ (frames : List { frame : Frame // frame.Fits maxPayload }) (cut : Nat),
      scan (takeFrame maxPayload) ((joined (frames.map Frame.written)).take cut) =
        { values := (wholly cut (frames.map Frame.written)).map Written.value
          taken := (joined (wholly cut (frames.map Frame.written))).length
          stop := some .waits } := by
  constructor
  · intro arrived frame size
    rw [takeFrame_eq_ok]
    constructor
    · rintro ⟨fits, rfl, rest, rfl⟩
      exact ⟨frame.bytes, rest, sealFrame_eq_ok.mpr ⟨fits, rfl⟩, rfl, rfl⟩
    · rintro ⟨data, rest, sealed, rfl, rfl⟩
      obtain ⟨fits, rfl⟩ := sealFrame_eq_ok.mp sealed
      exact ⟨fits, rfl, rest, rfl⟩
  · intro frames cut
    obtain ⟨tail, split, torn⟩ := take_joined cut (frames.map Frame.written)
    have waits : takeFrame maxPayload tail = .error .waits := by
      rcases torn with rfl | ⟨last, member, short, less, rfl⟩
      · rfl
      · obtain ⟨frame, -, rfl⟩ := List.mem_map.mp member
        exact takeFrame_torn frame.property less
    rw [split, scan_joined (takeFrame_delimited maxPayload), scan_error waits]
    simp only [Scan.append, List.append_nil, Nat.add_zero]

theorem le32_injective {first second : UInt32} (same : le32 first = le32 second) : first = second := by
  have values := congrArg leNat same
  rw [leNat_le32, leNat_le32] at values
  exact UInt32.toNat_inj.mp values

namespace Frame

/-- Where the length, the checksum and the payload of a frame stand. -/
theorem bytes_parts (frame : Frame) :
    (frame.bytes.drop 8).take 4 = le32 frame.header.length ∧ (frame.bytes.drop 12).take 4 = le32 frame.header.crc ∧
      frame.bytes.drop kFrameHeaderSize = frame.payload := by
  have front : ∀ rest, (le32 frame.header.magic ++ (le16 frame.header.version ++ (le16 frame.header.type ++ rest))).drop
      8 = rest := fun _ => rfl
  have next : ∀ rest, (le32 frame.header.length ++ rest).drop 4 = rest := fun _ => rfl
  refine ⟨?_, ?_, List.drop_left' frame.header.length_bytes⟩
  · rw [bytes, FrameHeader.bytes]
    simp only [List.append_assoc]
    rw [front]
    rfl
  · rw [bytes, FrameHeader.bytes, show (12 : Nat) = 8 + 4 from rfl, ← List.drop_drop]
    simp only [List.append_assoc]
    rw [front, next]
    rfl

end Frame

/-- The same bytes at the places of a slice. -/
private theorem slice_eq {first second : List UInt8} {start count : Nat}
    (same : ∀ i, start ≤ i → i < start + count → first[i]? = second[i]?) :
    (first.drop start).take count = (second.drop start).take count := by
  apply List.ext_getElem?
  intro i
  rw [List.getElem?_take, List.getElem?_take]
  by_cases inside : i < count
  · rw [if_pos inside, if_pos inside, List.getElem?_drop, List.getElem?_drop]
    exact same (start + i) (by omega) (by omega)
  · rw [if_neg inside, if_neg inside]

/-- Damage to up to four consecutive bytes of a frame, its length field apart: what is received is taken as a frame
exactly if it is the frame of the same payload, under whatever type and correlation. -/
theorem damaged_frame_taken_iff {maxPayload : UInt32} {frame : Frame} {received : List UInt8} {start : Nat}
    (fits : frame.Fits maxPayload) (sized : received.length = frame.bytes.length)
    (burst : ∀ i, received[i]? ≠ frame.bytes[i]? → start ≤ i ∧ i < start + 4 ∧ (i < 8 ∨ 12 ≤ i)) (rest : List UInt8) :
    (∃ got size, takeFrame maxPayload (received ++ rest) = .ok (got, size)) ↔
      ∃ type correlation, received = Frame.bytes ⟨type, correlation, frame.payload⟩ := by
  constructor
  · rintro ⟨got, size, taken⟩
    obtain ⟨gotFits, -, after, split⟩ := takeFrame_eq_ok.mp taken
    have lengthField : (received.drop 8).take 4 = (frame.bytes.drop 8).take 4 := by
      apply slice_eq
      intro i low high
      by_contra differ
      obtain ⟨-, -, outside⟩ := burst i differ
      omega
    have headerLong : kFrameHeaderSize ≤ received.length := by
      rw [sized, frame.length_bytes]
      omega
    have sameLength : got.payload.length = frame.payload.length := by
      have first := congrArg (fun bytes => (bytes.drop 8).take 4) split
      have inside : 8 + 4 ≤ received.length := Nat.le_trans (by decide) headerLong
      have insideGot : 8 + 4 ≤ got.bytes.length := by
        rw [got.length_bytes]
        exact Nat.le_trans (by decide) (Nat.le_add_right kFrameHeaderSize _)
      rw [List.drop_append_of_le_length (by omega), List.take_append_of_le_length (by rw [List.length_drop]; omega),
        List.drop_append_of_le_length (by omega), List.take_append_of_le_length (by rw [List.length_drop]; omega),
        lengthField, frame.bytes_parts.1, got.bytes_parts.1] at first
      have equal := congrArg UInt32.toNat (le32_injective first)
      rw [Frame.length_toNat fits, Frame.length_toNat gotFits] at equal
      exact equal.symm
    have same : received = got.bytes := by
      refine List.append_inj_left split ?_
      rw [sized, frame.length_bytes, got.length_bytes, sameLength]
    have payload : got.payload = frame.payload := by
      by_contra apart
      have window : ∀ i : Nat, got.payload[i]? ≠ frame.payload[i]? →
          start ≤ kFrameHeaderSize + i ∧ kFrameHeaderSize + i < start + 4 := by
        intro i differ
        rw [← got.bytes_parts.2.2, ← frame.bytes_parts.2.2, List.getElem?_drop, List.getElem?_drop, ← same] at differ
        obtain ⟨low, high, -⟩ := burst _ differ
        exact ⟨low, high⟩
      obtain ⟨place, differ⟩ : ∃ i : Nat, got.payload[i]? ≠ frame.payload[i]? := by
        by_contra none_
        push Not at none_
        exact apart (List.ext_getElem? none_)
      have late := window place differ
      have checksumField : (received.drop 12).take 4 = (frame.bytes.drop 12).take 4 := by
        apply slice_eq
        intro i low high
        by_contra changed
        obtain ⟨early, -, -⟩ := burst i changed
        simp only [kFrameHeaderSize] at late
        omega
      rw [same, got.bytes_parts.2.1, frame.bytes_parts.2.1] at checksumField
      refine crc32c_window sameLength apart (start - kFrameHeaderSize) ?_ (le32_injective checksumField)
      intro i changed
      have bounds := window i changed
      omega
    refine ⟨got.type, got.correlation, ?_⟩
    rw [same, ← payload]
  · rintro ⟨type, correlation, rfl⟩
    exact ⟨⟨type, correlation, frame.payload⟩, _, takeFrame_eq_ok.mpr ⟨fits, rfl, rest, rfl⟩⟩

/-- One byte of a payload is overwritten. -/
theorem damaged_frame_taken_iff_payload :
    (∃ got size, takeFrame kDefaultMaxFramePayload ((Frame.bytes ⟨.stats, 1, [1, 2, 3]⟩).set 25 9 ++ [7]) =
        .ok (got, size)) ↔
      ∃ type correlation, (Frame.bytes ⟨.stats, 1, [1, 2, 3]⟩).set 25 9 =
        Frame.bytes ⟨type, correlation, [1, 2, 3]⟩ := by
  have fits : Frame.Fits kDefaultMaxFramePayload ⟨.stats, 1, [1, 2, 3]⟩ := by
    constructor <;> decide
  have burst : ∀ i : Nat, ((Frame.bytes ⟨.stats, 1, [1, 2, 3]⟩).set 25 9)[i]? ≠ (Frame.bytes ⟨.stats, 1, [1, 2, 3]⟩)[i]? →
      25 ≤ i ∧ i < 25 + 4 ∧ (i < 8 ∨ 12 ≤ i) := by
    intro i differ
    by_cases here : i = 25
    · omega
    · exact absurd (List.getElem?_set_ne (Ne.symm here)) differ
  exact damaged_frame_taken_iff fits List.length_set burst [7]

end RackFabric
