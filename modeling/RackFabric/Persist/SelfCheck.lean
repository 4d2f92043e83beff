import RackFabric.Persist.Reopen
import RackFabric.Core.Checksum
import RackFabric.Core.Canonical

/-!
The manifest and the checkpoint file check themselves: every byte is covered by a checksum, and the bytes of a checksum
by the comparison with what it covers.
-/

namespace RackFabric.OnDisk

open Foundation

/-- The bytes with the four at a place set to zero, as a checksum that is stored there sees them. -/
def masked (place : Nat) (bytes : List UInt8) : List UInt8 :=
  bytes.take place ++ (List.replicate 4 0 ++ bytes.drop (place + 4))

/-- The four bytes at a place are the checksum of all the others. -/
def SealedAt (place : Nat) (bytes : List UInt8) : Prop :=
  (bytes.drop place).take 4 = le32 (crc32c (masked place bytes))

theorem le32_injective {a b : UInt32} (same : le32 a = le32 b) : a = b := by
  have values := congrArg leNat same
  rw [leNat_le32, leNat_le32] at values
  exact UInt32.toNat_inj.mp values

/-- One altered byte alters the checksum. -/
theorem crc32c_set {bytes : List UInt8} {position : Nat} {byte : UInt8} (inside : position < bytes.length)
    (other : bytes[position]? ≠ some byte) : crc32c (bytes.set position byte) ≠ crc32c bytes := by
  refine crc32c_window (List.length_set ..) ?_ position ?_
  · intro same
    have placed := List.getElem?_set_self (a := byte) inside
    rw [same] at placed
    exact other placed
  · intro i differ
    by_cases own : position = i
    · omega
    · rw [List.getElem?_set_ne own] at differ
      exact absurd rfl differ

theorem masked_set {place position : Nat} {bytes : List UInt8} {byte : UInt8} (room : place + 4 ≤ bytes.length)
    (outside : position < place ∨ place + 4 ≤ position) :
    masked place (bytes.set position byte) = (masked place bytes).set position byte := by
  unfold masked
  have front : (bytes.take place).length = place := by
    rw [List.length_take]
    omega
  rcases outside with early | late
  · rw [List.take_set, List.drop_set_of_lt (by omega), List.set_append_left _ _ (by omega)]
  · rw [List.take_set_of_le (by omega), List.drop_set, if_neg (by omega), List.set_append_right _ _ (by omega), front,
      List.set_append_right _ _ (by rw [List.length_replicate]; omega), List.length_replicate, Nat.sub_sub]

theorem getElem?_masked {place position : Nat} {bytes : List UInt8} (room : place + 4 ≤ bytes.length)
    (outside : position < place ∨ place + 4 ≤ position) : (masked place bytes)[position]? = bytes[position]? := by
  unfold masked
  have front : (bytes.take place).length = place := by
    rw [List.length_take]
    omega
  rcases outside with early | late
  · rw [List.getElem?_append_left (by omega), List.getElem?_take, if_pos early]
  · rw [List.getElem?_append_right (by omega), List.getElem?_append_right (by rw [List.length_replicate]; omega),
      List.getElem?_drop, List.length_replicate, front]
    congr 1
    omega

/-- A sealed string is no longer sealed once one of its bytes is another. -/
theorem SealedAt.set {place position : Nat} {bytes : List UInt8} {byte : UInt8} (sealed_ : SealedAt place bytes)
    (room : place + 4 ≤ bytes.length) (inside : position < bytes.length) (other : bytes[position]? ≠ some byte) :
    ¬ SealedAt place (bytes.set position byte) := by
  intro again
  unfold SealedAt at sealed_ again
  by_cases outside : position < place ∨ place + 4 ≤ position
  · have kept : ((bytes.set position byte).drop place).take 4 = (bytes.drop place).take 4 := by
      rcases outside with early | late
      · rw [List.drop_set_of_lt early]
      · rw [List.drop_set, if_neg (by omega), List.take_set_of_le (by omega)]
    rw [kept, sealed_, masked_set room outside] at again
    have long : (masked place bytes).length = bytes.length := by
      simp only [masked, List.length_append, List.length_take, List.length_replicate, List.length_drop]
      omega
    refine crc32c_set (by omega) ?_ (le32_injective again).symm
    rw [getElem?_masked room outside]
    exact other
  · have same : masked place (bytes.set position byte) = masked place bytes := by
      unfold masked
      rw [List.take_set_of_le (by omega), List.drop_set_of_lt (by omega)]
    rw [same, ← sealed_, List.drop_set, if_neg (by omega)] at again
    have placed := congrArg (fun window : List UInt8 => window[position - place]?) again
    simp only [List.getElem?_take] at placed
    rw [if_pos (by omega), List.getElem?_set_self (by rw [List.length_drop]; omega), List.getElem?_drop,
      Nat.add_sub_cancel' (by omega), if_pos (by omega)] at placed
    exact other placed.symm

/-! ### The manifest -/

/-- A field of four bytes behind others. -/
theorem field_at {place : Nat} {front field back : List UInt8} (long : front.length = place) (four : field.length = 4) :
    ((front ++ (field ++ back)).drop place).take 4 = field := by
  rw [List.drop_left' long, List.take_left' four]

theorem takes_metaFields : Takes metaFields fun taken value =>
    ∃ front back, taken = front ++ (le32 value.1 ++ back) ∧ front.length = 12 := by
  unfold metaFields
  refine (ByteReader.takes_rawBytes 8).bind fun magic _ first => ?_
  refine ByteReader.exact_u32.takes.bind fun version _ second => ?_
  refine ByteReader.exact_u32.takes.bind fun checksum storedCrc stored => ?_
  refine ByteReader.exact_u64.takes.bind fun rack _ _ => ?_
  refine ByteReader.exact_u64.takes.bind fun incarnation _ _ => ?_
  refine ByteReader.exact_u64.takes.bind fun epoch _ _ => ?_
  refine ByteReader.exact_u64.takes.bind fun generation _ _ => ?_
  refine ByteReader.exact_u64.takes.bind fun offset _ _ => ?_
  refine ByteReader.exact_u64.takes.bind fun length _ _ => ?_
  refine ByteReader.exact_digest.takes.bind fun snapshot _ _ => ?_
  refine ByteReader.exact_digest.takes.bind fun ledger _ _ => ?_
  refine ByteReader.exact_u8.takes.bind fun clean _ _ => ?_
  refine (ByteReader.takes_rawBytes 7).bind fun padding _ _ => ?_
  refine ByteReader.exact_u64.takes.bind fun cleanAt _ _ => ?_
  refine Takes.done ⟨magic ++ version, _, by rw [stored.1, List.append_assoc], ?_⟩
  rw [List.length_append, first.1, first.2, second.1, length_le32]

/-- A manifest is accepted only with its checksum. -/
theorem decodeMeta_sealed {buffer : List UInt8} {allow : Bool} {manifest : Manifest}
    (decoded : decodeMeta buffer allow = .ok manifest) : SealedAt 12 buffer := by
  unfold decodeMeta at decoded
  split at decoded
  · cases decoded
  · rename_i storedCrc found rest fields
    obtain ⟨⟨⟩, checked, -⟩ := bind_eq_ok.mp decoded
    obtain ⟨taken, rfl, front, back, rfl, long⟩ := takes_metaFields _ _ _ fields
    unfold checkMeta refuse at checked
    split at checked
    · cases checked
    split at checked
    · cases checked
    rename_i same
    rw [SealedAt, List.append_assoc, List.append_assoc, field_at long (length_le32 _)]
    rw [List.append_assoc, List.append_assoc, ne_eq, not_not] at same
    exact (congrArg le32 same).symm

/-! ### The checkpoint -/

theorem takes_checkpointFields : Takes checkpointFields fun taken value =>
    (∃ front back, taken = front ++ (le32 value.1.bodyCrc ++ back) ∧ front.length = 12) ∧
      ∃ front back, taken = front ++ (le32 value.1.headerCrc ++ back) ∧ front.length = 120 := by
  unfold checkpointFields
  refine (ByteReader.takes_rawBytes 8).bind fun magic _ first => ?_
  refine ByteReader.exact_u32.takes.bind fun version _ second => ?_
  refine ByteReader.exact_u32.takes.bind fun checksum bodyCrc third => ?_
  refine ByteReader.exact_u64.takes.bind fun length _ fourth => ?_
  refine ByteReader.exact_digest.takes.bind fun snapshot _ fifth => ?_
  refine ByteReader.exact_digest.takes.bind fun ledger _ sixth => ?_
  refine ByteReader.exact_u64.takes.bind fun offset _ seventh => ?_
  refine ByteReader.exact_u64.takes.bind fun generation _ eighth => ?_
  refine ByteReader.exact_u64.takes.bind fun epoch _ ninth => ?_
  refine ByteReader.exact_u64.takes.bind fun incarnation _ tenth => ?_
  refine ByteReader.exact_u32.takes.bind fun header headerCrc last => ?_
  refine ByteReader.exact_u8.takes.bind fun lifecycle _ _ => ?_
  refine (ByteReader.takes_rawBytes 3).bind fun padding _ _ => ?_
  refine ByteReader.exact_digest.takes.bind fun memberSet snapshotDigest _ => ?_
  refine Takes.done ⟨⟨magic ++ version, _, by rw [third.1, List.append_assoc], ?_⟩,
    ⟨magic ++ (version ++ (checksum ++ (length ++ (snapshot ++ (ledger ++ (offset ++ (generation ++ (epoch ++
      incarnation)))))))), lifecycle ++ (padding ++ (memberSet ++ [])), by simp only [last.1, List.append_assoc], ?_⟩⟩
  · rw [List.length_append, first.1, first.2, second.1, length_le32]
  · simp only [List.length_append, first.1, first.2, second.1, third.1, fourth.1, fifth.1, sixth.1, seventh.1, eighth.1,
      ninth.1, tenth.1, length_le32, Blake2s256.length_le64, Digest.sized]

/-- A checkpoint is accepted only with both its checksums. -/
theorem parseCheckpoint_sealed {bytes : List UInt8} {checkpoint : Checkpoint}
    (parsed : parseCheckpoint bytes = .ok checkpoint) : kCheckpointHeaderSize ≤ bytes.length ∧
      SealedAt 120 (bytes.take kCheckpointHeaderSize) ∧
      (bytes.drop 12).take 4 = le32 (crc32c (bytes.drop kCheckpointHeaderSize)) := by
  unfold parseCheckpoint at parsed
  split at parsed
  · cases parsed
  rename_i long
  split at parsed
  · cases parsed
  rename_i header found rest fields
  obtain ⟨⟨⟩, checked, -⟩ := bind_eq_ok.mp parsed
  obtain ⟨taken, split_, ⟨front, back, body, short⟩, front', back', head, short'⟩ := takes_checkpointFields _ _ _ fields
  unfold checkCheckpoint refuse at checked
  dsimp only at checked
  split at checked
  · cases checked
  split at checked
  · cases checked
  split at checked
  · cases checked
  rename_i sealed_
  split at checked
  · cases checked
  split at checked
  · cases checked
  rename_i covered
  rw [ne_eq, not_not] at sealed_ covered
  have size : kCheckpointHeaderSize = 192 := rfl
  refine ⟨Nat.not_lt.mp long, ?_, ?_⟩
  · have field : ((bytes.take kCheckpointHeaderSize).drop 120).take 4 = le32 header.headerCrc := by
      rw [List.drop_take, List.take_take, split_, head, List.append_assoc, List.append_assoc, size]
      exact field_at short' (length_le32 _)
    rw [SealedAt, field, ← sealed_, masked, List.take_take]
    rfl
  · rw [covered, split_, body, List.append_assoc, List.append_assoc]
    exact field_at short (length_le32 _)

theorem sealed_encodeMeta (manifest : Manifest) : SealedAt 12 (encodeMeta manifest) :=
  decodeMeta_sealed ((decodeMeta_encodeMeta_iff manifest true).mpr (.inr rfl))

/-- A checkpoint file with one altered byte is not parsed. -/
theorem parseCheckpoint_set {bytes : List UInt8} {checkpoint : Checkpoint} {position : Nat} {byte : UInt8}
    (parsed : parseCheckpoint bytes = .ok checkpoint) (inside : position < bytes.length)
    (other : bytes[position]? ≠ some byte) : ∃ status, parseCheckpoint (bytes.set position byte) = .error status := by
  obtain ⟨long, sealed_, covered⟩ := parseCheckpoint_sealed parsed
  have size : kCheckpointHeaderSize = 192 := rfl
  cases altered : parseCheckpoint (bytes.set position byte) with
  | error status => exact ⟨status, rfl⟩
  | ok found =>
    obtain ⟨-, again, recovered⟩ := parseCheckpoint_sealed altered
    by_cases header : position < kCheckpointHeaderSize
    · -- The checksum of the header covers the header, itself included.
      rw [List.take_set] at again
      refine (sealed_.set ?_ ?_ ?_ again).elim
      · rw [List.length_take]
        omega
      · rw [List.length_take]
        omega
      · rw [List.getElem?_take, if_pos header]
        exact other
    · -- The checksum of the body lies in the header, which is as it was.
      rw [List.drop_set, if_neg (by omega), List.take_set_of_le (by omega), covered, List.drop_set,
        if_neg header] at recovered
      refine (crc32c_set ?_ ?_ (le32_injective recovered).symm).elim
      · rw [List.length_drop]
        omega
      · rw [List.getElem?_drop, Nat.add_sub_cancel' (Nat.not_lt.mp header)]
        exact other

/-- Checkpoints are parsed back, manifests are decoded back where their format version is accepted, and neither file
survives the change of a byte. -/
theorem files_self_check :
    (∀ (checkpoint : Checkpoint) (limit : Nat) (bytes : List UInt8),
      buildCheckpointBytes checkpoint limit = .ok bytes → limit < 2 ^ 64 → checkpoint.walOffset < 2 ^ 64 →
      checkpoint.ledger.length ≤ defaultEvidenceLimits.maxSlots →
      (∀ record ∈ checkpoint.ledger, validateEvidence record = .ok ()) →
        parseCheckpoint bytes = .ok { checkpoint with present := true } ∧
        ∀ position byte, position < bytes.length → bytes[position]? ≠ some byte →
          ∃ status, parseCheckpoint (bytes.set position byte) = .error status) ∧
    (∀ (manifest : Manifest) (allow : Bool), decodeMeta (encodeMeta manifest) allow = .ok manifest ↔
      manifest.formatVersion = kStateFormatVersion ∨ allow = true) ∧
    ∀ (manifest : Manifest) (allow : Bool) (position : Nat) (byte : UInt8), position < (encodeMeta manifest).length →
      (encodeMeta manifest)[position]? ≠ some byte →
        ∃ status, decodeMeta ((encodeMeta manifest).set position byte) allow = .error status := by
  refine ⟨?_, decodeMeta_encodeMeta_iff, ?_⟩
  · intro checkpoint limit bytes built sized offset slots valid
    have parsed := parseCheckpoint_build built sized offset slots valid
    exact ⟨parsed, fun position byte => parseCheckpoint_set parsed⟩
  · intro manifest allow position byte inside other
    cases altered : decodeMeta ((encodeMeta manifest).set position byte) allow with
    | error status => exact ⟨status, rfl⟩
    | ok found =>
      have long := length_encodeMeta manifest
      have room : 12 + 4 ≤ (encodeMeta manifest).length := by
        rw [long]
        decide
      exact ((sealed_encodeMeta manifest).set room inside other (decodeMeta_sealed altered)).elim

def onesDigest : Digest := ⟨List.replicate 32 1, by decide⟩

/-- A checkpoint with an obligation on record and a snapshot. -/
def keptCheckpoint : Checkpoint where
  walOffset := 512
  generation := 4
  epoch := 2
  lifecycle := .active
  memberSetDigest := onesDigest
  incarnation := 3
  snapshotDigest := onesDigest
  ledgerDigest := onesDigest
  ledger := [{
    provenance := { source := 1, sequence := 12 }
    payload := .obligation ⟨2, .device, 3, 5, 1, text "operator"⟩ }]
  snapshotBytes := [1, 2, 3]

/-- The manifest of a clean shutdown that points at it. -/
def keptManifest : Manifest where
  rack := 7
  incarnationCounter := 3
  epoch := 2
  generation := 4
  checkpointOffset := 512
  checkpointLength := 280
  snapshotDigest := onesDigest
  ledgerDigest := onesDigest
  cleanShutdown := true
  cleanShutdownAtMs := 1000

/-- The checkpoint and the manifest are read back; the checkpoint is not once a byte of its record or its header is
altered, and the manifest is not once its incarnation counter is. -/
theorem kept_files_self_check :
    (∃ bytes, buildCheckpointBytes keptCheckpoint 1000 = .ok bytes ∧
      parseCheckpoint bytes = .ok { keptCheckpoint with present := true } ∧
      (∃ status, parseCheckpoint (bytes.set 230 255) = .error status) ∧
      ∃ status, parseCheckpoint (bytes.set 20 255) = .error status) ∧
    decodeMeta (encodeMeta keptManifest) false = .ok keptManifest ∧
    ∃ status, decodeMeta ((encodeMeta keptManifest).set 24 2) false = .error status := by
  obtain ⟨checkpoints, manifests, altered⟩ := files_self_check
  refine ⟨?_, (manifests keptManifest false).mpr (.inl rfl), ?_⟩
  · have holds : (buildCheckpointBytes keptCheckpoint 1000).passes (fun bytes => decide (230 < bytes.length ∧
        bytes[230]? ≠ some 255 ∧ bytes[20]? ≠ some 255)) = true := by decide +kernel
    obtain ⟨bytes, built, inside⟩ := Result.exists_of_passes holds
    obtain ⟨long, body, header⟩ := of_decide_eq_true inside
    obtain ⟨parsed, fails⟩ := checkpoints keptCheckpoint 1000 bytes built (by decide) (by decide) (by decide)
      (by decide)
    exact ⟨bytes, built, parsed, fails 230 255 long body, fails 20 255 (by omega) header⟩
  · exact altered keptManifest false 24 2 (by rw [length_encodeMeta]; decide) (by decide +kernel)

/-- A manifest of another format version is not decoded back where unknown versions are refused. -/
theorem other_version_refused :
    decodeMeta (encodeMeta { formatVersion := 2 }) false ≠ .ok { formatVersion := 2 } := by
  rw [ne_eq, decodeMeta_encodeMeta_iff]
  decide

end RackFabric.OnDisk
